import MapPainter.Proofs.Division
import MapPainter.Proofs.Outcome
import MapPainter.TileMap

/-!
# Tiles of a map

The index of a position is `y * sizeX + x`, and the position is found again from the index, so
different positions have different indices. On a map of at most `2 ^ 32` tiles every position has
its index. Putting a tile changes the tile of its index and no other.
-/

namespace MapPainter.Extent

variable {e : Extent} {x y x' y' i : Nat}

theorem mul_add_lt (hx : x < e.sizeX) (hy : y < e.sizeY) :
    y * e.sizeX + x < e.sizeX * e.sizeY := by
  rw [Nat.mul_comm e.sizeX]
  exact Division.number_lt hy hx

theorem index_eq (hx : x < e.sizeX) (hy : y < e.sizeY) (he : e.sizeX * e.sizeY ≤ 2 ^ 32) :
    e.index x y = .ok (y * e.sizeX + x) := by
  have hlt := mul_add_lt hx hy
  rw [index, if_pos ⟨hx, hy⟩, Word.fit_of_lt (by omega), Outcome.ok_bind,
    Word.fit_of_lt (by omega)]

theorem of_index_eq (h : e.index x y = .ok i) :
    x < e.sizeX ∧ y < e.sizeY ∧ i = y * e.sizeX + x := by
  obtain ⟨hxy, hindex⟩ := Outcome.ite_error_eq_ok.mp h
  obtain ⟨row, hrow, hi⟩ := Outcome.bind_eq_ok.mp hindex
  rw [(Word.eq_of_fit hrow).1] at hi
  exact ⟨hxy.1, hxy.2, (Word.eq_of_fit hi).1⟩

theorem position_index (hx : x < e.sizeX) : e.position (y * e.sizeX + x) = (x, y) := by
  rw [position, Nat.mul_add_mod_of_lt hx, Division.number_div y hx]

/-- Indices of positions are equal only for the same position. -/
theorem mul_add_eq_iff (hx : x < e.sizeX) (hx' : x' < e.sizeX) :
    y * e.sizeX + x = y' * e.sizeX + x' ↔ x = x' ∧ y = y' := by
  constructor
  · intro heq
    have hposition := position_index (e := e) (y := y) hx
    rw [heq, position_index hx'] at hposition
    exact (Prod.mk.inj hposition).imp Eq.symm Eq.symm
  · rintro ⟨rfl, rfl⟩
    rfl

theorem isInner_index (hx : x < e.sizeX) :
    e.isInner (y * e.sizeX + x) =
      decide (0 < x ∧ 0 < y ∧ x + 1 < e.sizeX ∧ y + 1 < e.sizeY) := by
  rw [isInner, position_index hx]

theorem index_injective (h : e.index x y = .ok i) (h' : e.index x' y' = .ok i) :
    (x, y) = (x', y') := by
  obtain ⟨hx, -, rfl⟩ := of_index_eq h
  obtain ⟨hx', -, heq⟩ := of_index_eq h'
  rw [← position_index hx, heq, position_index hx']

end MapPainter.Extent

namespace MapPainter.TileMap

theorem fresh_eq {sizeX sizeY : Nat} (climate : Climate) (hx : 0 < sizeX) (hy : 0 < sizeY) :
    fresh sizeX sizeY climate = .ok (plain sizeX sizeY climate hx hy) :=
  dif_pos ⟨hx, hy⟩

theorem eq_plain_of_fresh {sizeX sizeY : Nat} {climate : Climate} {m : TileMap}
    (h : fresh sizeX sizeY climate = .ok m) :
    ∃ hx hy, m = plain sizeX sizeY climate hx hy := by
  unfold fresh at h
  split at h
  case isTrue hsides => exact ⟨hsides.1, hsides.2, (Except.ok.inj h).symm⟩
  case isFalse => cases h

theorem tile_eq_ok {m : TileMap} {i : Nat} {t : Tile} :
    m.tile i = .ok t ↔ m.tiles[i]? = some t := by
  unfold tile
  cases m.tiles[i]? <;> simp

theorem exists_tile_of_lt {m : TileMap} {i : Nat} (hi : i < m.sizeX * m.sizeY) :
    ∃ t, m.tile i = .ok t := by
  have hlt : i < m.tiles.size := m.size_tiles ▸ hi
  exact ⟨m.tiles[i], tile_eq_ok.mpr (Array.getElem?_eq_getElem hlt)⟩

/-- The index of a position is the index of a tile. -/
theorem exists_tile {m : TileMap} {x y i : Nat} (h : m.toExtent.index x y = .ok i) :
    ∃ t, m.tile i = .ok t := by
  obtain ⟨hx, hy, rfl⟩ := Extent.of_index_eq h
  exact exists_tile_of_lt (Extent.mul_add_lt hx hy)

theorem tile_plain {sizeX sizeY : Nat} {climate : Climate} {hx : 0 < sizeX} {hy : 0 < sizeY}
    {i : Nat} {t : Tile} (h : (plain sizeX sizeY climate hx hy).tile i = .ok t) :
    t = .fresh := by
  have htile := tile_eq_ok.mp h
  exact (Array.mem_replicate.mp (Array.mem_of_getElem? htile)).2

/-! ## Putting a tile -/

section

variable {m m' : TileMap} {i j : Nat} {t t' : Tile}

/-- Maps of one extent and climate are equal if they have the same tiles. -/
theorem eq_of_tile (hextent : m.toExtent = m'.toExtent) (hclimate : m.climate = m'.climate)
    (htile : ∀ i, m.tile i = m'.tile i) : m = m' := by
  have htiles : m.tiles = m'.tiles := by
    refine Array.ext_getElem? fun i => ?_
    have h := htile i
    unfold tile at h
    split at h <;> split at h
    · rw [‹m.tiles[i]? = _›, ‹m'.tiles[i]? = _›, Except.ok.inj h]
    · cases h
    · cases h
    · rw [‹m.tiles[i]? = _›, ‹m'.tiles[i]? = _›]
  obtain ⟨e, climate, tiles, hx, hy, hsize⟩ := m
  obtain ⟨e', climate', tiles', hx', hy', hsize'⟩ := m'
  cases hextent
  cases hclimate
  cases htiles
  rfl

theorem tile_put_self (h : m.tile i = .ok t') : (m.put i t).tile i = .ok t := by
  obtain ⟨hi, -⟩ := Array.getElem?_eq_some_iff.mp (tile_eq_ok.mp h)
  exact tile_eq_ok.mpr (Array.getElem?_setIfInBounds_self_of_lt hi)

theorem tile_put_of_ne (h : i ≠ j) : (m.put i t).tile j = m.tile j := by
  unfold tile put
  simp [h]

theorem put_of_tile_eq (h : m.tile i = .ok t) : m.put i t = m := by
  refine eq_of_tile rfl rfl fun j => ?_
  by_cases hj : i = j
  · subst hj
    rw [tile_put_self h, h]
  · exact tile_put_of_ne hj

end

end MapPainter.TileMap
