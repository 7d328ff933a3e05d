import MapPainter.Proofs.Tile.Coherent
import MapPainter.Proofs.TileMap
import Mathlib.Data.List.Basic

/-!
# Edits of a map

An edit on a tile of a map replaces that tile and no other (`TileMap.edited_of_edit`). It may come
with any arguments, save that planting asks for a species, and may meet any tile: what is lasting
about the map lasts, and a map of coherent tiles is one at every point of a list of edits
(`TileMap.coherent_under_edits`).
-/

namespace MapPainter

theorem Edit.check_eq_ok {e : Edit} :
    e.check = .ok () ↔ ∀ species count growth, e = .plant species count growth →
      species.IsValid := by
  cases e with
  | plant species count growth => simp [Edit.check]
  | _ => simp [Edit.check]

namespace TileMap

/-- The map after a list of edits, each on the tile of an index. -/
def editAll (m : TileMap) (edits : List (Nat × Edit)) : Except Fault TileMap :=
  edits.foldlM (fun m step => m.edit step.1 step.2) m

def Coherent (m : TileMap) : Prop := ∀ i t, m.tile i = .ok t → t.Coherent

/-- What is lasting about a map: its sides, its climate, and what is lasting about each tile. -/
structure Lasting (m m' : TileMap) : Prop where
  toExtent : m'.toExtent = m.toExtent
  climate : m'.climate = m.climate
  tile : ∀ i t, m.tile i = .ok t → ∃ t', m'.tile i = .ok t' ∧ t.Lasting t'

/-- The map `m'` is `m` with an edit done on the tile of an index. -/
structure Edited (m : TileMap) (i : Nat) (e : Edit) (m' : TileMap) : Prop where
  toExtent : m'.toExtent = m.toExtent
  climate : m'.climate = m.climate
  tile : ∃ t, m.tile i = .ok t ∧ m'.tile i = .ok (e.apply t)
  frame : ∀ j, i ≠ j → m'.tile j = m.tile j

variable {m m' m'' : TileMap} {i : Nat} {e : Edit} {edits : List (Nat × Edit)}

theorem coherent_iff : m.Coherent ↔ ∀ t ∈ m.tiles, t.Coherent := by
  simp only [Coherent, tile_eq_ok, Array.mem_iff_getElem?]
  exact ⟨fun h t ⟨i, hi⟩ => h i t hi, fun h i t hi => h t ⟨i, hi⟩⟩

namespace Lasting

theorem refl (m : TileMap) : m.Lasting m := ⟨rfl, rfl, fun _ t ht => ⟨t, ht, .refl t⟩⟩

theorem trans (h : m.Lasting m') (h' : m'.Lasting m'') : m.Lasting m'' where
  toExtent := h'.toExtent.trans h.toExtent
  climate := h'.climate.trans h.climate
  tile i t ht := by
    obtain ⟨t', ht', hlasting⟩ := h.tile i t ht
    obtain ⟨t'', ht'', hlasting'⟩ := h'.tile i t' ht'
    exact ⟨t'', ht'', hlasting.trans hlasting'⟩

end Lasting

/-! ## One edit -/

theorem edit_eq_ok :
    m.edit i e = .ok m' ↔ e.check = .ok () ∧ ∃ t, m.tile i = .ok t ∧ m' = m.put i (e.apply t) := by
  simp only [edit, Outcome.bind_eq_ok, Outcome.pure_eq_ok, Except.ok.injEq]
  constructor
  · rintro ⟨⟨⟩, hcheck, t, ht, rfl⟩
    exact ⟨hcheck, t, ht, rfl⟩
  · rintro ⟨hcheck, t, ht, rfl⟩
    exact ⟨(), hcheck, t, ht, rfl⟩

theorem exists_edit (hi : i < m.sizeX * m.sizeY) (he : e.check = .ok ()) :
    ∃ m', m.edit i e = .ok m' := by
  obtain ⟨t, ht⟩ := exists_tile_of_lt hi
  exact ⟨_, edit_eq_ok.mpr ⟨he, t, ht, rfl⟩⟩

theorem edited_of_edit (h : m.edit i e = .ok m') : m.Edited i e m' := by
  obtain ⟨-, t, ht, rfl⟩ := edit_eq_ok.mp h
  exact ⟨rfl, rfl, ⟨t, ht, tile_put_self ht⟩, fun j hj => tile_put_of_ne hj⟩

namespace Edited

theorem lasting (h : m.Edited i e m') : m.Lasting m' := by
  refine ⟨h.toExtent, h.climate, fun j t ht => ?_⟩
  by_cases hj : i = j
  · subst hj
    obtain ⟨t₀, ht₀, hdone⟩ := h.tile
    obtain rfl := Except.ok.inj (ht₀.symm.trans ht)
    exact ⟨_, hdone, e.lasting t₀⟩
  · exact ⟨t, (h.frame j hj).trans ht, .refl t⟩

theorem coherent (h : m.Edited i e m') (hm : m.Coherent) : m'.Coherent := by
  intro j t' ht'
  by_cases hj : i = j
  · subst hj
    obtain ⟨t, ht, hdone⟩ := h.tile
    rw [Except.ok.inj (ht'.symm.trans hdone)]
    exact e.apply_coherent (hm _ t ht)
  · exact hm j t' ((h.frame j hj).symm.trans ht')

/-- On a tile that it is not meant for, an edit changes nothing of the map. -/
theorem eq_of_not_fits (h : m.Edited i e m') {t : Tile} (ht : m.tile i = .ok t)
    (hfits : ¬ e.Fits t) : m' = m := by
  refine eq_of_tile h.toExtent h.climate fun j => ?_
  by_cases hj : i = j
  · subst hj
    obtain ⟨t₀, ht₀, hdone⟩ := h.tile
    obtain rfl := Except.ok.inj (ht₀.symm.trans ht)
    rw [hdone, Edit.apply_of_not_fits hfits, ht]
  · exact h.frame j hj

end Edited

/-! ## Edits one after the other -/

theorem editAll_append_eq_ok {before after : List (Nat × Edit)} :
    m.editAll (before ++ (i, e) :: after) = .ok m' ↔
      ∃ m₁, m.editAll before = .ok m₁ ∧ ∃ m₂, m₁.edit i e = .ok m₂ ∧
        m₂.editAll after = .ok m' := by
  simp only [editAll, List.foldlM_append, Outcome.bind_eq_ok, Outcome.foldlM_cons_eq_ok]

theorem lasting_of_editAll (h : m.editAll edits = .ok m') : m.Lasting m' := by
  induction edits generalizing m with
  | nil =>
    cases h
    exact .refl _
  | cons step edits ih =>
    obtain ⟨m₁, hedit, hrest⟩ := Outcome.foldlM_cons_eq_ok.mp h
    exact (edited_of_edit hedit).lasting.trans (ih hrest)

theorem coherent_of_editAll (hm : m.Coherent) (h : m.editAll edits = .ok m') : m'.Coherent := by
  induction edits generalizing m with
  | nil =>
    cases h
    exact hm
  | cons step edits ih =>
    obtain ⟨m₁, hedit, hrest⟩ := Outcome.foldlM_cons_eq_ok.mp h
    exact ih ((edited_of_edit hedit).coherent hm) hrest

theorem exists_editAll
    (h : ∀ step ∈ edits, step.1 < m.sizeX * m.sizeY ∧ step.2.check = .ok ()) :
    ∃ m', m.editAll edits = .ok m' := by
  induction edits generalizing m with
  | nil => exact ⟨m, rfl⟩
  | cons step edits ih =>
    obtain ⟨⟨hi, he⟩, hrest⟩ := List.forall_mem_cons.mp h
    obtain ⟨m₁, hedit⟩ := exists_edit hi he
    -- an edit leaves the sides of the map, so the later indices are still on it
    have hextent := (edited_of_edit hedit).toExtent
    obtain ⟨m', hafter⟩ := ih (m := m₁) (by rwa [hextent])
    exact ⟨m', Outcome.foldlM_cons_eq_ok.mpr ⟨m₁, hedit, hafter⟩⟩

/-- **Edits keep a map coherent.** Any edits, one after the other, on tiles of a map can be done, if
only what is planted is a species. Raw ground is never snow, and sea and rivers belong to the water,
before and after every single edit if it was so at first; height and slope of every tile last, so do
the structures with their owners, and where there is water there stays water. Each edit replaces
the tile that it is done on and no other, and not even that one if it is not meant for it. -/
theorem coherent_under_edits (m : TileMap) (hm : m.Coherent) (edits : List (Nat × Edit))
    (hon : ∀ step ∈ edits, step.1 < m.sizeX * m.sizeY)
    (hplant : ∀ i species count growth, (i, Edit.plant species count growth) ∈ edits →
      species.IsValid) :
    ∃ m', m.editAll edits = .ok m' ∧ m'.Coherent ∧ m.Lasting m' ∧
      ∀ before i e after, edits = before ++ (i, e) :: after →
        ∃ m₁ m₂, m.editAll before = .ok m₁ ∧ m₁.edit i e = .ok m₂ ∧ m₂.editAll after = .ok m' ∧
          m₁.Coherent ∧ m₂.Coherent ∧ m₁.Edited i e m₂ ∧
          ∀ t, m₁.tile i = .ok t → ¬ e.Fits t → m₂ = m₁ := by
  have hcheck : ∀ step ∈ edits, step.1 < m.sizeX * m.sizeY ∧ step.2.check = .ok () := by
    intro step hstep
    refine ⟨hon step hstep, Edit.check_eq_ok.mpr fun species count growth heq => ?_⟩
    exact hplant step.1 species count growth (heq ▸ hstep)
  obtain ⟨m', h⟩ := exists_editAll hcheck
  refine ⟨m', h, coherent_of_editAll hm h, lasting_of_editAll h, ?_⟩
  rintro before i e after rfl
  obtain ⟨m₁, hbefore, m₂, hedit, hafter⟩ := editAll_append_eq_ok.mp h
  have hcoherent := coherent_of_editAll hm hbefore
  have hedited := edited_of_edit hedit
  exact ⟨m₁, m₂, hbefore, hedit, hafter, hcoherent, hedited.coherent hcoherent, hedited,
    fun t ht hfits => hedited.eq_of_not_fits ht hfits⟩

/-- A structure, a tile of sea and rough land, and edits that fit them and edits that do not: the
structure only moves to another zone, the sea is a canal for a while and a river in the end, and the
rough land is snowed over, planted and cleared. -/
theorem coherent_after_nine_edits :
    ∃ (m m' : TileMap) (edits : List (Nat × Edit)), m.Coherent ∧ edits.length = 9 ∧
      (∀ step ∈ edits, step.1 < m.sizeX * m.sizeY) ∧ m.editAll edits = .ok m' ∧ m'.Coherent ∧
      m.Lasting m' ∧ m.tile 0 = .ok ⟨2, ⟨3⟩, ⟨4⟩, .normal, .built⟩ ∧
      m'.tile 0 = .ok ⟨2, ⟨3⟩, ⟨4⟩, .desert, .built⟩ ∧
      m'.tile 1 = .ok ⟨0, .flat, .water, .normal, .water ⟨.river, 8⟩⟩ ∧
      m'.tile 4 = .ok ⟨0, .flat, .nobody, .normal, .clear ⟨.grass, 1, true, 0⟩⟩ := by
  let station : Tile := ⟨2, ⟨3⟩, ⟨4⟩, .normal, .built⟩
  let sea : Tile := { Tile.fresh with owner := .water, surface := .water ⟨.sea, 0⟩ }
  let rough : Tile := { Tile.fresh with surface := .clear ⟨.rough, 3, false, 0⟩ }
  let m := (((plain 3 3 .tropic (by decide) (by decide)).put 0 station).put 1 sea).put 4 rough
  let edits : List (Nat × Edit) :=
    [(4, .setClearGround .snow 2), (0, .makeSea), (4, .plant ⟨3⟩ 1 2), (1, .makeField 5),
      (1, .makeCanal ⟨4⟩ 9), (4, .makeClear .snow 1), (0, .setZone .desert),
      (4, .setTreeGround .shore 3), (1, .makeRiver 8)]
  have hrun : (m.editAll edits).map (fun m' => [m'.tile 0, m'.tile 1, m'.tile 4]) =
      .ok [.ok ⟨2, ⟨3⟩, ⟨4⟩, .desert, .built⟩,
        .ok ⟨0, .flat, .water, .normal, .water ⟨.river, 8⟩⟩,
        .ok ⟨0, .flat, .nobody, .normal, .clear ⟨.grass, 1, true, 0⟩⟩] := by decide +kernel
  have hm : m.Coherent := coherent_iff.mpr (by decide +kernel)
  have hon : ∀ step ∈ edits, step.1 < m.sizeX * m.sizeY := by decide +kernel
  have hplant : ∀ i species count growth, (i, Edit.plant species count growth) ∈ edits →
      species.IsValid := by
    intro i species count growth hmem
    simp only [edits, List.mem_cons, Prod.mk.injEq, reduceCtorEq, Edit.plant.injEq, and_false,
      false_or, or_false, List.not_mem_nil] at hmem
    obtain ⟨-, rfl, -⟩ := hmem
    decide
  obtain ⟨m', h, hcoherent, hlasting, -⟩ := coherent_under_edits m hm edits hon hplant
  rw [h] at hrun
  simp only [Except.map, Except.ok.injEq, List.cons.injEq, and_true] at hrun
  obtain ⟨htile, htile', htile''⟩ := hrun
  exact ⟨m, m', edits, hm, rfl, hon, h, hcoherent, hlasting, rfl, htile, htile', htile''⟩

end TileMap

end MapPainter
