import MapPainter.Config
import MapPainter.Proofs.TileMap
import Mathlib.Data.Finset.Prod
import Mathlib.Data.Nat.Count
import Mathlib.Order.Interval.Finset.Nat

/-!
# Numbers of tiles

On a map of at most `2 ^ 32` tiles the index of a position and the position of an index undo each
other, nothing leaves its 32 bits, and the listing of the map has every index once and in order
(`TileMap.numbered`). The largest maps that a configuration allows have exactly `2 ^ 32` tiles.

The inner tiles are those at least one step away from every side. By their positions they are the
product of two intervals, which gives their number (`Extent.count_isInner`).
-/

namespace MapPainter

namespace Extent

variable {e : Extent} {x y i : Nat}

theorem position_lt (hx : 0 < e.sizeX) (hi : i < e.sizeX * e.sizeY) :
    (e.position i).1 < e.sizeX ∧ (e.position i).2 < e.sizeY :=
  ⟨Nat.mod_lt i hx, Nat.div_lt_of_lt_mul hi⟩

theorem mul_add_position (e : Extent) (i : Nat) :
    (e.position i).2 * e.sizeX + (e.position i).1 = i := Nat.div_add_mod' i e.sizeX

theorem index_position (hx : 0 < e.sizeX) (hi : i < e.sizeX * e.sizeY)
    (he : e.sizeX * e.sizeY ≤ 2 ^ 32) : e.index (e.position i).1 (e.position i).2 = .ok i := by
  obtain ⟨hcol, hrow⟩ := position_lt hx hi
  rw [index_eq hcol hrow he, mul_add_position]

/-! ## Inner tiles -/

theorem isInner_iff (h : e.index x y = .ok i) :
    e.isInner i = true ↔ (1 ≤ x ∧ x ≤ e.sizeX - 2) ∧ 1 ≤ y ∧ y ≤ e.sizeY - 2 := by
  obtain ⟨hx, -, rfl⟩ := of_index_eq h
  rw [isInner_index hx, decide_eq_true_iff]
  omega

/-- The positions one step or more away from every side. -/
def innerPositions (e : Extent) : Finset (Nat × Nat) :=
  Finset.Ico 1 (e.sizeX - 1) ×ˢ Finset.Ico 1 (e.sizeY - 1)

theorem position_mem_innerPositions : e.position i ∈ e.innerPositions ↔ e.isInner i = true := by
  rw [innerPositions, Finset.mem_product, Finset.mem_Ico, Finset.mem_Ico, isInner,
    decide_eq_true_iff]
  omega

theorem card_innerPositions (e : Extent) :
    e.innerPositions.card = (e.sizeX - 2) * (e.sizeY - 2) := by
  rw [innerPositions, Finset.card_product, Nat.card_Ico, Nat.card_Ico, Nat.sub_sub, Nat.sub_sub]

theorem lt_of_mem_innerPositions (h : (x, y) ∈ e.innerPositions) : x < e.sizeX ∧ y < e.sizeY := by
  rw [innerPositions, Finset.mem_product, Finset.mem_Ico, Finset.mem_Ico] at h
  omega

/-- The numbers of the inner tiles are as many as the positions away from the sides. -/
theorem count_isInner (e : Extent) :
    Nat.count (fun i => e.isInner i = true) (e.sizeX * e.sizeY) =
      (e.sizeX - 2) * (e.sizeY - 2) := by
  rw [Nat.count_eq_card_filter_range, ← card_innerPositions]
  refine Finset.card_nbij' e.position (fun p => p.2 * e.sizeX + p.1) ?_ ?_ ?_ ?_
  · intro i hi
    rw [Finset.mem_coe, Finset.mem_filter] at hi
    exact position_mem_innerPositions.mpr hi.2
  · rintro ⟨x, y⟩ hp
    obtain ⟨hx, hy⟩ := lt_of_mem_innerPositions hp
    rw [Finset.mem_coe, Finset.mem_filter, Finset.mem_range]
    refine ⟨mul_add_lt hx hy, position_mem_innerPositions.mp ?_⟩
    rwa [position_index hx]
  · intro i _
    exact e.mul_add_position i
  · rintro ⟨x, y⟩ hp
    exact position_index (lt_of_mem_innerPositions hp).1

end Extent

namespace TileMap

/-! ## The listing of a map -/

section

variable {m : TileMap} (hm : m.sizeX * m.sizeY ≤ 2 ^ 32)

include hm

/-- No number of the listing loses anything in its 32 bits. -/
theorem toNat_ofNat_index {i : Nat} (hi : i < m.tiles.size) : (UInt32.ofNat i).toNat = i := by
  rw [m.size_tiles] at hi
  exact UInt32.toNat_ofNat_of_lt' (Nat.lt_of_lt_of_le hi hm)

theorem indexed_map_index :
    m.indexed.toList.map (fun entry => entry.1.toNat) = List.range (m.sizeX * m.sizeY) := by
  rw [← m.size_tiles]
  refine List.ext_getElem (by simp [indexed]) fun i hi _ => ?_
  have hlt : i < m.tiles.size := by simpa [indexed] using hi
  simpa [indexed] using toNat_ofNat_index hm hlt

theorem tile_of_mem_indexed {entry : UInt32 × Tile} (h : entry ∈ m.indexed) :
    m.tile entry.1.toNat = .ok entry.2 := by
  obtain ⟨i, hi, rfl⟩ := Array.mem_mapIdx.mp h
  rw [toNat_ofNat_index hm hi]
  exact tile_eq_ok.mpr (Array.getElem?_eq_getElem hi)

theorem countP_indexed :
    m.indexed.toList.countP (fun entry => m.toExtent.isInner entry.1.toNat) =
      (m.sizeX - 2) * (m.sizeY - 2) := by
  have hmap := List.countP_map (p := m.toExtent.isInner) (f := fun entry => entry.1.toNat)
    (l := m.indexed.toList)
  rw [indexed_map_index hm] at hmap
  rw [← m.toExtent.count_isInner, Nat.count]
  simpa [Function.comp_def] using hmap.symm

end

/-- The tiles of a map are numbered in rows, within 32 bits. -/
structure Numbered (m : TileMap) : Prop where
  /-- Every position has its index, from which it is found again. -/
  index : ∀ x y, x < m.sizeX → y < m.sizeY →
    ∃ i, m.toExtent.index x y = .ok i ∧ i < 2 ^ 32 ∧ i < m.sizeX * m.sizeY ∧
      m.toExtent.position i = (x, y)
  /-- Every number below the count of the tiles is the index of its position. -/
  position : ∀ i, i < m.sizeX * m.sizeY →
    ∃ x y, m.toExtent.position i = (x, y) ∧ x < m.sizeX ∧ y < m.sizeY ∧
      m.toExtent.index x y = .ok i
  /-- The listing has every index once and in order. -/
  listing : m.indexed.toList.map (fun entry => entry.1.toNat) = List.range (m.sizeX * m.sizeY)
  listing_tile : ∀ entry ∈ m.indexed, m.tile entry.1.toNat = .ok entry.2
  /-- The inner tiles are those away from the sides. -/
  inner : ∀ x y i, m.toExtent.index x y = .ok i →
    (m.toExtent.isInner i = true ↔ (1 ≤ x ∧ x ≤ m.sizeX - 2) ∧ 1 ≤ y ∧ y ≤ m.sizeY - 2)
  inner_count : m.indexed.toList.countP (fun entry => m.toExtent.isInner entry.1.toNat) =
    (m.sizeX - 2) * (m.sizeY - 2)

theorem numbered {m : TileMap} (hm : m.sizeX * m.sizeY ≤ 2 ^ 32) : m.Numbered where
  index x y hx hy := by
    have hlt := Extent.mul_add_lt hx hy
    exact ⟨_, Extent.index_eq hx hy hm, by omega, hlt, Extent.position_index hx⟩
  position i hi := by
    obtain ⟨hx, hy⟩ := Extent.position_lt m.sizeX_pos hi
    exact ⟨_, _, rfl, hx, hy, Extent.index_position m.sizeX_pos hi hm⟩
  listing := indexed_map_index hm
  listing_tile entry h := tile_of_mem_indexed hm h
  inner x y i h := Extent.isInner_iff h
  inner_count := countP_indexed hm

end TileMap

/-! ## Maps of a configuration -/

theorem Config.validate_eq_ok {config : Config} :
    config.validate = .ok () ↔ SideOk config.sizeX ∧ SideOk config.sizeY := by
  rw [validate, Outcome.ite_error_eq_ok]
  exact and_iff_left rfl

/-- The largest map that a configuration allows has `2 ^ 32` tiles. -/
theorem Config.area_le {config : Config} (h : config.validate = .ok ()) :
    config.sizeX.toNat * config.sizeY.toNat ≤ 2 ^ 32 := by
  obtain ⟨⟨-, hx⟩, -, hy⟩ := validate_eq_ok.mp h
  calc config.sizeX.toNat * config.sizeY.toNat ≤ maxSide * maxSide := Nat.mul_le_mul hx hy
    _ = 2 ^ 32 := by decide

/-- **Numbers of tiles.** A configuration that is accepted has a map, with sides of three tiles or
more and at most `2 ^ 32` tiles, and so do any sides that are not empty and make up no more tiles.
Every map of at most `2 ^ 32` tiles is numbered soundly; with three tiles or more on each side it
has an inner tile. -/
theorem TileMap.fresh_numbered :
    (∀ config : Config, config.validate = .ok () →
      ∃ m, fresh config.sizeX.toNat config.sizeY.toNat config.climate = .ok m ∧
        m.toExtent = ⟨config.sizeX.toNat, config.sizeY.toNat⟩ ∧
        (3 ≤ m.sizeX ∧ 3 ≤ m.sizeY) ∧ m.sizeX * m.sizeY ≤ 2 ^ 32) ∧
      (∀ sizeX sizeY climate, 0 < sizeX → 0 < sizeY → sizeX * sizeY ≤ 2 ^ 32 →
        ∃ m, fresh sizeX sizeY climate = .ok m ∧ m.toExtent = ⟨sizeX, sizeY⟩) ∧
      ∀ m : TileMap, m.sizeX * m.sizeY ≤ 2 ^ 32 →
        m.Numbered ∧ (3 ≤ m.sizeX → 3 ≤ m.sizeY → 1 ≤ (m.sizeX - 2) * (m.sizeY - 2)) := by
  refine ⟨?_, ?_, ?_⟩
  · intro config h
    obtain ⟨⟨hx, -⟩, hy, -⟩ := Config.validate_eq_ok.mp h
    have hx' : 0 < config.sizeX.toNat := Nat.lt_of_lt_of_le (by decide) hx
    have hy' : 0 < config.sizeY.toNat := Nat.lt_of_lt_of_le (by decide) hy
    exact ⟨_, fresh_eq config.climate hx' hy', rfl, ⟨hx, hy⟩, Config.area_le h⟩
  · intro sizeX sizeY climate hx hy _
    exact ⟨_, fresh_eq climate hx hy, rfl⟩
  · intro m hm
    exact ⟨numbered hm, fun hx hy => Nat.mul_pos (by omega) (by omega)⟩

/-- On the largest map the last index is the largest word of 32 bits. -/
theorem TileMap.largest_map_numbered :
    ∃ (config : Config) (m : TileMap), config.sizeX = 65536 ∧ config.sizeY = 65536 ∧
      config.validate = .ok () ∧
      fresh config.sizeX.toNat config.sizeY.toNat config.climate = .ok m ∧ m.Numbered ∧
      m.toExtent.index 65535 65535 = .ok 4294967295 ∧
      m.toExtent.position 4294967295 = (65535, 65535) ∧
      1 ≤ m.indexed.toList.countP (fun entry => m.toExtent.isInner entry.1.toNat) := by
  let config : Config := { sizeX := 65536, sizeY := 65536 }
  have hvalid : config.validate = .ok () := Config.validate_eq_ok.mpr (by decide)
  obtain ⟨hconfig, -, hsound⟩ := fresh_numbered
  obtain ⟨m, hfresh, hextent, ⟨hx, hy⟩, harea⟩ := hconfig config hvalid
  obtain ⟨hm, hinner⟩ := hsound m harea
  have hextent : m.toExtent = ⟨65536, 65536⟩ := hextent.trans (by decide)
  refine ⟨config, m, rfl, rfl, hvalid, hfresh, hm, ?_, ?_, ?_⟩
  · rw [hextent]
    decide
  · rw [hextent]
    decide
  · rw [hm.inner_count]
    exact hinner hx hy

end MapPainter
