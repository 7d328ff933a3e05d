import MapPainter.Proofs.Projection.Footprint
import MapPainter.Proofs.TileMap
import Mathlib.Data.List.Basic

/-!
# The calls of a sweep

A sweep hands tiles and pixels to its step. What it hands on does not depend on the step: it is
the list `calls`, made up of what the places of the footprint lead to (`look`), less the tiles on
the border. A sweep that succeeds has found every place in order and has folded its step over this
list (`sweep_eq_ok_iff`); a sweep that fails has met a place that leads nowhere, or a call that
its step refuses (`sweep_eq_error`).
-/

namespace MapPainter.Projection

attribute [ext] SweepCount

/-- What a sweep hands to its step, and the place it comes from. -/
structure Call where
  row : Nat
  col : Nat
  pixel : Raster.Rgb
  tile : Nat

def Call.place (c : Call) : Nat × Nat := (c.row, c.col)

section

variable (p : Projection) (extent : Extent) (raster : Raster.Pixels)

/-- What a place leads to, be it on the border or not. -/
def look (place : Nat × Nat) : Except Fault Call := do
  let tile ← extent.index (p.tilePosition place.1 place.2).1 (p.tilePosition place.1 place.2).2
  let source ← p.sourcePixel place.1 place.2
  let pixel ← raster.pixel source.1 source.2
  return ⟨place.1, place.2, pixel, tile⟩

/-- The call that a place leads to, unless its tile is on the border. -/
def callAt? (place : Nat × Nat) : Option Call :=
  (p.look extent raster place).toOption.filter fun c => extent.isInner c.tile

/-- The calls of a sweep, in order. -/
def calls : List Call := p.footprint.filterMap (p.callAt? extent raster)

end

section

variable {p : Projection} {extent : Extent} {raster : Raster.Pixels} {place : Nat × Nat} {c : Call}

theorem look_eq_ok :
    p.look extent raster place = .ok c ↔
      c.place = place ∧
        extent.index (p.tilePosition c.row c.col).1 (p.tilePosition c.row c.col).2 = .ok c.tile ∧
        ∃ source, p.sourcePixel c.row c.col = .ok source ∧
          raster.pixel source.1 source.2 = .ok c.pixel := by
  simp only [look, Outcome.bind_eq_ok, Outcome.pure_eq_ok, Except.ok.injEq]
  constructor
  · rintro ⟨tile, htile, source, hsource, pixel, hpixel, rfl⟩
    exact ⟨rfl, htile, source, hsource, hpixel⟩
  · rintro ⟨rfl, htile, source, hsource, hpixel⟩
    exact ⟨c.tile, htile, source, hsource, c.pixel, hpixel, rfl⟩

theorem callAt?_eq_some :
    p.callAt? extent raster place = some c ↔
      p.look extent raster place = .ok c ∧ extent.isInner c.tile = true := by
  rw [callAt?, Option.filter_eq_some_iff]
  cases p.look extent raster place <;> simp [Except.toOption]

theorem mem_calls :
    c ∈ p.calls extent raster ↔
      p.Covers c.row c.col ∧ p.look extent raster c.place = .ok c ∧
        extent.isInner c.tile = true := by
  simp only [calls, List.mem_filterMap, callAt?_eq_some]
  constructor
  · rintro ⟨place, hmem, hlook, hinner⟩
    obtain rfl := (look_eq_ok.mp hlook).1
    exact ⟨mem_footprint.mp hmem, hlook, hinner⟩
  · rintro ⟨hc, hlook, hinner⟩
    exact ⟨c.place, mem_footprint.mpr hc, hlook, hinner⟩

theorem calls_inOrder (p : Projection) (extent : Extent) (raster : Raster.Pixels) :
    (p.calls extent raster).Pairwise fun a b => Precedes a.place b.place := by
  refine List.Pairwise.filterMap _ ?_ p.footprint_inOrder
  intro place later hlt c hc c' hc'
  obtain ⟨hlook, -⟩ := callAt?_eq_some.mp hc
  obtain ⟨hlook', -⟩ := callAt?_eq_some.mp hc'
  rwa [(look_eq_ok.mp hlook).1, (look_eq_ok.mp hlook').1]

theorem calls_nodup (p : Projection) (extent : Extent) (raster : Raster.Pixels) :
    (p.calls extent raster).Nodup :=
  (p.calls_inOrder extent raster).imp fun hlt heq => hlt.ne (congrArg Call.place heq)

/-- Two places with the same position are the same. -/
theorem tilePosition_injective {place place' : Nat × Nat}
    (h : p.tilePosition place.1 place.2 = p.tilePosition place'.1 place'.2) : place = place' := by
  unfold tilePosition at h
  split at h
  · exact Prod.ext (Prod.mk.inj h).2 (Prod.mk.inj h).1
  · exact h

theorem index_of_mem_calls (h : c ∈ p.calls extent raster) :
    extent.index (p.tilePosition c.row c.col).1 (p.tilePosition c.row c.col).2 = .ok c.tile :=
  (look_eq_ok.mp (mem_calls.mp h).2.1).2.1

/-- No tile is handed on twice. -/
theorem calls_tile_nodup (p : Projection) (extent : Extent) (raster : Raster.Pixels) :
    ((p.calls extent raster).map Call.tile).Nodup := by
  rw [List.Nodup, List.pairwise_map]
  refine (p.calls_inOrder extent raster).imp_of_mem ?_
  intro a b ha hb hlt heq
  have hindex := index_of_mem_calls ha
  rw [heq] at hindex
  have hposition := Extent.index_injective hindex (index_of_mem_calls hb)
  exact hlt.ne (tilePosition_injective hposition)

end

/-! ## A sweep as a fold over its calls -/

section

variable {σ : Type} {p : Projection} {extent : Extent} {raster : Raster.Pixels}
  {step : σ → Raster.Rgb → Nat → Except Fault σ} {place : Nat × Nat} {c : Call}

/-- The step, applied to what a call hands on. -/
def onCall (step : σ → Raster.Rgb → Nat → Except Fault σ) (s : σ) (c : Call) : Except Fault σ :=
  step s c.pixel c.tile

theorem visit_eq (place : Nat × Nat) (s : Progress σ) :
    p.visit extent raster step place.1 place.2 s =
      (p.look extent raster place >>= fun c =>
        if extent.isInner c.tile then
          step s.state c.pixel c.tile >>= fun state =>
            .ok ⟨state, { s.count with visited := s.count.visited + 1 }⟩
        else .ok ⟨s.state, { s.count with border := s.count.border + 1 }⟩) := by
  unfold visit look
  dsimp only
  cases extent.index (p.tilePosition place.1 place.2).1 (p.tilePosition place.1 place.2).2 with
  | error fault => rfl
  | ok tile =>
    cases p.sourcePixel place.1 place.2 with
    | error fault => rfl
    | ok source =>
      simp only [Outcome.ok_bind]
      cases raster.pixel source.1 source.2 with
      | error fault => rfl
      | ok pixel => rfl

theorem visitRow_eq (row col n : Nat) (s : Progress σ) :
    p.visitRow extent raster step row col n s =
      (List.range' col n).foldlM (fun s col => p.visit extent raster step row col s) s := by
  induction n generalizing col s with
  | zero => rfl
  | succ n ih =>
    rw [visitRow, List.range'_succ, List.foldlM_cons]
    exact congrArg _ (funext fun s => ih (col + 1) s)

theorem visitRows_eq (row n : Nat) (s : Progress σ) :
    p.visitRows extent raster step row n s =
      (List.range' row n).foldlM
        (fun s row =>
          (span p.cols).foldlM (fun s col => p.visit extent raster step row col s) s) s := by
  induction n generalizing row s with
  | zero => rfl
  | succ n ih =>
    rw [visitRows, List.range'_succ, List.foldlM_cons]
    dsimp only
    rw [visitRow_eq]
    exact congrArg _ (funext fun s => ih (row + 1) s)

/-- A sweep visits the places of the footprint one after the other. -/
theorem sweep_eq_foldlM (init : σ) :
    p.sweep extent raster step init =
      p.footprint.foldlM (fun s place => p.visit extent raster step place.1 place.2 s)
        ⟨init, {}⟩ := by
  rw [footprint, Outcome.foldlM_flatMap]
  simp only [List.foldlM_map]
  exact visitRows_eq _ _ _

theorem visit_of_error {fault : Fault} (h : p.look extent raster place = .error fault)
    (s : Progress σ) : p.visit extent raster step place.1 place.2 s = .error fault := by
  rw [visit_eq, h]
  rfl

theorem visit_of_inner (h : p.look extent raster place = .ok c) (hi : extent.isInner c.tile = true)
    (s : Progress σ) :
    p.visit extent raster step place.1 place.2 s =
      (onCall step s.state c >>= fun state =>
        .ok ⟨state, { s.count with visited := s.count.visited + 1 }⟩) := by
  rw [visit_eq, h, Outcome.ok_bind, if_pos hi]
  rfl

theorem visit_of_border (h : p.look extent raster place = .ok c)
    (hi : ¬ extent.isInner c.tile = true) (s : Progress σ) :
    p.visit extent raster step place.1 place.2 s =
      .ok ⟨s.state, { s.count with border := s.count.border + 1 }⟩ := by
  rw [visit_eq, h, Outcome.ok_bind, if_neg hi]

theorem callAt?_of_border (h : p.look extent raster place = .ok c)
    (hi : ¬ extent.isInner c.tile = true) : p.callAt? extent raster place = none := by
  rw [callAt?, h]
  exact Option.filter_eq_none_iff.mpr fun _ hc => Option.some.inj hc ▸ hi

/-- Visiting places one after the other succeeds exactly if each of them leads somewhere and the
step accepts their calls; then every place has been counted, the calls as visited. -/
theorem foldlM_visit_eq_ok {places : List (Nat × Nat)} {s result : Progress σ} :
    places.foldlM (fun s place => p.visit extent raster step place.1 place.2 s) s = .ok result ↔
      (∀ place ∈ places, ∃ c, p.look extent raster place = .ok c) ∧
        (places.filterMap (p.callAt? extent raster)).foldlM (onCall step) s.state =
          .ok result.state ∧
        result.count.visited =
          s.count.visited + (places.filterMap (p.callAt? extent raster)).length ∧
        result.count.border + (places.filterMap (p.callAt? extent raster)).length =
          s.count.border + places.length := by
  induction places generalizing s with
  | nil =>
    obtain ⟨state, visited, border⟩ := s
    obtain ⟨state', visited', border'⟩ := result
    simp only [List.foldlM_nil, Outcome.pure_eq_ok, Except.ok.injEq, Progress.mk.injEq,
      SweepCount.mk.injEq, List.filterMap_nil, List.length_nil, Nat.add_zero, List.not_mem_nil,
      false_implies, implies_true, true_and]
    grind
  | cons place places ih =>
    rw [Outcome.foldlM_cons_eq_ok, List.forall_mem_cons]
    cases hlook : p.look extent raster place with
    | error fault => simp [visit_of_error hlook]
    | ok c =>
      by_cases hi : extent.isInner c.tile = true
      · rw [visit_of_inner hlook hi, List.filterMap_cons_some (callAt?_eq_some.mpr ⟨hlook, hi⟩),
          Outcome.foldlM_cons_eq_ok]
        simp only [Outcome.bind_eq_ok, List.length_cons]
        constructor
        · rintro ⟨_, ⟨state, hstate, hnext⟩, hrest⟩
          cases hnext
          obtain ⟨hall, hfold, hvisited, hborder⟩ := ih.mp hrest
          exact ⟨⟨⟨c, rfl⟩, hall⟩, ⟨state, hstate, hfold⟩, by dsimp only at hvisited; omega,
            by dsimp only at hborder; omega⟩
        · rintro ⟨⟨-, hall⟩, ⟨state, hstate, hfold⟩, hvisited, hborder⟩
          refine ⟨_, ⟨state, hstate, rfl⟩, ih.mpr ⟨hall, hfold, ?_, ?_⟩⟩
          · dsimp only
            omega
          · dsimp only
            omega
      · rw [visit_of_border hlook hi, List.filterMap_cons_none (callAt?_of_border hlook hi)]
        simp only [List.length_cons]
        constructor
        · rintro ⟨_, hnext, hrest⟩
          cases hnext
          obtain ⟨hall, hfold, hvisited, hborder⟩ := ih.mp hrest
          exact ⟨⟨⟨c, rfl⟩, hall⟩, hfold, hvisited, by dsimp only at hborder; omega⟩
        · rintro ⟨⟨-, hall⟩, hfold, hvisited, hborder⟩
          refine ⟨_, rfl, ih.mpr ⟨hall, hfold, hvisited, ?_⟩⟩
          dsimp only
          omega

/-- Visiting places one after the other fails at a place that leads nowhere, or at a call that the
step refuses after it has accepted those before. -/
theorem foldlM_visit_eq_error {places : List (Nat × Nat)} {s : Progress σ} {fault : Fault}
    (h : places.foldlM (fun s place => p.visit extent raster step place.1 place.2 s) s =
      .error fault) :
    (∃ place ∈ places, p.look extent raster place = .error fault) ∨
      ∃ done c rest state, places.filterMap (p.callAt? extent raster) = done ++ c :: rest ∧
        done.foldlM (onCall step) s.state = .ok state ∧ onCall step state c = .error fault := by
  induction places generalizing s with
  | nil => cases h
  | cons place places ih =>
    rw [List.foldlM_cons] at h
    cases hlook : p.look extent raster place with
    | error fault' =>
      rw [visit_of_error hlook] at h
      cases h
      exact Or.inl ⟨place, List.mem_cons_self, hlook⟩
    | ok c =>
      by_cases hi : extent.isInner c.tile = true
      · rw [visit_of_inner hlook hi] at h
        rw [List.filterMap_cons_some (callAt?_eq_some.mpr ⟨hlook, hi⟩)]
        cases hstep : onCall step s.state c with
        | error fault' =>
          rw [hstep] at h
          cases h
          exact Or.inr ⟨[], c, _, s.state, rfl, rfl, hstep⟩
        | ok state =>
          rw [hstep] at h
          rcases ih h with ⟨place', hmem, hfault⟩ | ⟨done, c', rest, state', hsplit, hdone, hc'⟩
          · exact Or.inl ⟨place', List.mem_cons_of_mem place hmem, hfault⟩
          · refine Or.inr ⟨c :: done, c', rest, state', by rw [hsplit]; rfl, ?_, hc'⟩
            exact Outcome.foldlM_cons_eq_ok.mpr ⟨state, hstep, hdone⟩
      · rw [visit_of_border hlook hi] at h
        rw [List.filterMap_cons_none (callAt?_of_border hlook hi)]
        rcases ih h with ⟨place', hmem, hfault⟩ | hrefused
        · exact Or.inl ⟨place', List.mem_cons_of_mem place hmem, hfault⟩
        · exact Or.inr hrefused

/-- A sweep succeeds exactly if every place of the footprint leads somewhere and the step accepts
all calls. -/
theorem sweep_eq_ok_iff {init : σ} {result : Progress σ} :
    p.sweep extent raster step init = .ok result ↔
      (∀ place ∈ p.footprint, ∃ c, p.look extent raster place = .ok c) ∧
        (p.calls extent raster).foldlM (onCall step) init = .ok result.state ∧
        result.count.visited = (p.calls extent raster).length ∧
        result.count.border + (p.calls extent raster).length = p.footprint.length := by
  rw [sweep_eq_foldlM, foldlM_visit_eq_ok]
  simp only [Nat.zero_add, calls]

theorem sweep_eq_error {init : σ} {fault : Fault}
    (h : p.sweep extent raster step init = .error fault) :
    (∃ place ∈ p.footprint, p.look extent raster place = .error fault) ∨
      ∃ done c rest state, p.calls extent raster = done ++ c :: rest ∧
        done.foldlM (onCall step) init = .ok state ∧ onCall step state c = .error fault := by
  rw [sweep_eq_foldlM] at h
  exact foldlM_visit_eq_error h

/-- If every place leads somewhere, a sweep is the fold of its step over its calls, faults
included, and all other places are counted as border. -/
theorem sweep_eq_map (hall : ∀ place ∈ p.footprint, ∃ c, p.look extent raster place = .ok c)
    (init : σ) :
    p.sweep extent raster step init =
      ((p.calls extent raster).foldlM (onCall step) init).map fun state =>
        ⟨state, ⟨(p.calls extent raster).length,
          p.footprint.length - (p.calls extent raster).length⟩⟩ := by
  have hle : (p.calls extent raster).length ≤ p.footprint.length := List.length_filterMap_le _ _
  cases hfold : (p.calls extent raster).foldlM (onCall step) init with
  | ok state => exact sweep_eq_ok_iff.mpr ⟨hall, hfold, rfl, Nat.sub_add_cancel hle⟩
  | error fault =>
    cases hsweep : p.sweep extent raster step init with
    | ok result => cases hfold.symm.trans (sweep_eq_ok_iff.mp hsweep).2.1
    | error fault' =>
      rcases sweep_eq_error hsweep with ⟨place, hmem, hlook⟩ |
        ⟨done, c, rest, state, hsplit, hdone, hc⟩
      · obtain ⟨c, hc⟩ := hall place hmem
        cases hlook.symm.trans hc
      · rw [hsplit, List.foldlM_append, hdone, Outcome.ok_bind, List.foldlM_cons, hc,
          Outcome.error_bind] at hfold
        rw [Except.error.inj hfold]
        rfl

end

/-! ## Notes of a sweep -/

/-- The step that notes down what is handed on: the tile and its pixel. -/
def note (seen : List (Nat × Raster.Rgb)) (pixel : Raster.Rgb) (tile : Nat) :
    Except Fault (List (Nat × Raster.Rgb)) := .ok (seen ++ [(tile, pixel)])

def Call.noted (c : Call) : Nat × Raster.Rgb := (c.tile, c.pixel)

theorem foldlM_note (calls : List Call) (seen : List (Nat × Raster.Rgb)) :
    calls.foldlM (onCall note) seen = .ok (seen ++ calls.map Call.noted) := by
  induction calls generalizing seen with
  | nil => simp
  | cons c calls ih =>
    have hstep : onCall note seen c = .ok (seen ++ [c.noted]) := rfl
    rw [List.foldlM_cons, hstep, Outcome.ok_bind, ih, List.map_cons, List.append_assoc,
      List.singleton_append]

/-- What a sweep notes down, and what it counts. -/
theorem notes_of_paintOver (e : Extent) {rotation : Rotation} {raster : Raster.Pixels}
    {p : Projection} {result : Progress (List (Nat × Raster.Rgb))}
    (hfit : fit raster.width raster.height e.sizeX e.sizeY rotation = .ok p)
    (h : paintOver e rotation raster note [] = .ok result) :
    result.state = (p.calls e raster).map Call.noted ∧
      result.count.visited = (p.calls e raster).length ∧
      result.count.border + (p.calls e raster).length = p.footprint.length := by
  rw [paintOver, hfit, Outcome.ok_bind] at h
  obtain ⟨-, hfold, hvisited, hborder⟩ := sweep_eq_ok_iff.mp h
  rw [foldlM_note] at hfold
  exact ⟨(Except.ok.inj hfold).symm, hvisited, hborder⟩

end MapPainter.Projection
