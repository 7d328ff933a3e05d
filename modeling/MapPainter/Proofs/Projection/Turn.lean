import MapPainter.Proofs.Projection.Abort
import Mathlib.Data.List.Nodup

/-!
# Turning the map

Laid clockwise onto a map of `H` by `W` tiles, a raster is scaled and padded as it is
counter-clockwise onto one of `W` by `H` (`fit_turn`). Only its columns run the other way: what the
first projection finds in a column, the second finds in the column at the same distance from the
other side (`sourcePixel_turn`), and it puts it on the tile that a quarter turn takes the first one
to (`look_turn`). So both sweeps fail or neither does, and they hand on the same pixels
(`paintOver_turn`).
-/

namespace MapPainter

namespace Extent

/-- The extent with its sides exchanged. -/
def turn (e : Extent) : Extent := ⟨e.sizeY, e.sizeX⟩

/-- A quarter turn takes inner tiles to inner tiles, and border to border. -/
theorem isInner_turn {e : Extent} {x y : Nat} (hx : x < e.sizeX) (hy : y < e.sizeY) :
    e.turn.isInner ((e.sizeX - 1 - x) * e.sizeY + y) = e.isInner (y * e.sizeX + x) := by
  have hturn : e.turn.isInner ((e.sizeX - 1 - x) * e.turn.sizeX + y) = _ :=
    isInner_index (e := e.turn) hy
  rw [isInner_index hx]
  refine hturn.trans (decide_eq_decide.mpr ?_)
  simp only [turn]
  omega

end Extent

namespace Projection

/-- The projection with its columns laid the other way. -/
def turn (p : Projection) : Projection := { p with rotation := .clockwise }

/-- The column at the same distance from the other side. -/
def mirror (p : Projection) (col : Nat) : Nat := p.mapWidth - 1 - col

variable {p : Projection} {e : Extent} {raster : Raster.Pixels} {row col : Nat}

/-- Turning the map with the rotation leaves scale and paddings as they are. -/
theorem fit_turn (rasterWidth rasterHeight sizeX sizeY : Nat) :
    fit rasterWidth rasterHeight sizeY sizeX .clockwise =
      (fit rasterWidth rasterHeight sizeX sizeY .counterClockwise).map turn := by
  unfold fit axes
  dsimp only
  cases ratio rasterWidth rasterHeight with
  | error fault => rfl
  | ok rasterRatio =>
    cases ratio sizeX sizeY with
    | error fault => rfl
    | ok mapRatio =>
      simp only [Outcome.ok_bind]
      split
      · cases ratio sizeX rasterWidth with
        | error fault => rfl
        | ok scale =>
          simp only [Outcome.ok_bind]
          cases padding sizeY rasterHeight scale <;> rfl
      · cases ratio sizeY rasterHeight with
        | error fault => rfl
        | ok scale =>
          simp only [Outcome.ok_bind]
          cases padding sizeX rasterWidth scale <;> rfl

theorem Covers.col_lt (hc : p.Covers row col) : col < p.mapWidth := by
  obtain ⟨-, -, hcol⟩ := hc
  simp only [cols] at hcol
  omega

theorem Covers.mirror (hc : p.Covers row col) : p.Covers row (p.mirror col) := by
  obtain ⟨hrow, hcol, hcol'⟩ := hc
  simp only [cols] at hcol hcol'
  refine ⟨hrow, ?_, ?_⟩
  · simp only [cols, Projection.mirror]
    omega
  · simp only [cols, Projection.mirror]
    omega

theorem mirror_mirror (hcol : col < p.mapWidth) : p.mirror (p.mirror col) = col := by
  unfold mirror
  omega

/-- The source pixel, or the fault, of a column laid counter-clockwise is that of the mirrored
column laid clockwise. -/
theorem sourcePixel_turn (hp : p.rotation = .counterClockwise) (hc : p.Covers row col) :
    p.turn.sourcePixel row (p.mirror col) = p.sourcePixel row col := by
  have hmirror : p.turn.Covers row (p.mirror col) := hc.mirror
  have hdistance : p.turn.colDistance (p.mirror col) = p.colDistance col := by
    simp only [colDistance, hp]
    rfl
  have hcol : p.turn.colOffset (p.mirror col) = p.colOffset col := by
    rw [hmirror.colOffset_eq, hc.colOffset_eq, hdistance]
  unfold sourcePixel
  rw [hcol]
  rfl

/-- What a call hands on after a quarter turn of the map. -/
def Call.turn (e : Extent) (c : Call) : Call :=
  { c with col := e.sizeX - 1 - c.col, tile := (e.sizeX - 1 - c.col) * e.sizeY + c.row }

variable (raster) in
/-- A place counter-clockwise leads where its mirrored place leads clockwise, turned; they fail
alike. -/
theorem look_turn {rasterWidth rasterHeight : Nat}
    (hj : p.Joins rasterWidth rasterHeight e.sizeX e.sizeY .counterClockwise)
    (he : e.sizeX * e.sizeY ≤ 2 ^ 32) (hc : p.Covers row col) :
    p.turn.look e.turn raster (row, p.mirror col) =
      (p.look e raster (row, col)).map (Call.turn e) := by
  obtain ⟨hwidth, hheight⟩ := Prod.mk.inj hj.axes_eq
  obtain ⟨hx, hy⟩ := hc.tilePosition_lt hj
  have hposition : p.tilePosition row col = (col, row) := by
    rw [tilePosition, hj.rotation_eq]
  have hturned : p.turn.tilePosition row (p.mirror col) = (row, p.mirror col) := rfl
  rw [hposition] at hx hy
  have hmirror : p.mirror col = e.sizeX - 1 - col := by rw [mirror, hwidth]
  have hindex : e.index col row = .ok (row * e.sizeX + col) := Extent.index_eq hx hy he
  have hindex' : e.turn.index row (p.mirror col) = .ok (p.mirror col * e.sizeY + row) := by
    refine Extent.index_eq (e := e.turn) hy ?_ ?_
    · rw [hmirror, Extent.turn]
      dsimp only at hx ⊢
      omega
    · rw [Extent.turn, Nat.mul_comm]
      exact he
  unfold look
  dsimp only
  rw [hposition, hturned, hindex, hindex', sourcePixel_turn hj.rotation_eq hc]
  simp only [Outcome.ok_bind]
  cases p.sourcePixel row col with
  | error fault => rfl
  | ok source =>
    simp only [Outcome.ok_bind]
    cases raster.pixel source.1 source.2 with
    | error fault => rfl
    | ok pixel =>
      simp only [Outcome.ok_bind, Outcome.pure_eq_ok, Except.map, Call.turn, hmirror]

section

variable {rasterWidth rasterHeight : Nat}
  (hj : p.Joins rasterWidth rasterHeight e.sizeX e.sizeY .counterClockwise)
  (he : e.sizeX * e.sizeY ≤ 2 ^ 32)

include hj in
/-- Counter-clockwise the columns of the raster run along the X axis. -/
theorem position_of_look {place : Nat × Nat} {c : Call} (h : p.look e raster place = .ok c) :
    c.col < e.sizeX ∧ c.row < e.sizeY ∧ c.tile = c.row * e.sizeX + c.col := by
  have hindex := (look_eq_ok.mp h).2.1
  have hposition : p.tilePosition c.row c.col = (c.col, c.row) := by
    rw [tilePosition, hj.rotation_eq]
  rw [hposition] at hindex
  exact Extent.of_index_eq hindex

include hj in
theorem isInner_turn {place : Nat × Nat} {c : Call} (h : p.look e raster place = .ok c) :
    e.turn.isInner (c.turn e).tile = e.isInner c.tile := by
  obtain ⟨hx, hy, htile⟩ := position_of_look hj h
  rw [htile]
  exact Extent.isInner_turn hx hy

/-- No two calls are turned into one. -/
theorem calls_turn_nodup (hwidth : p.mapWidth = e.sizeX) :
    ((p.calls e raster).map (Call.turn e)).Nodup := by
  refine (p.calls_nodup e raster).map_on ?_
  intro c hmem c' hmem' heq
  obtain ⟨hc, hlook, -⟩ := mem_calls.mp hmem
  obtain ⟨hc', hlook', -⟩ := mem_calls.mp hmem'
  obtain ⟨hrow, hmirror, -⟩ := Call.mk.inj heq
  have hcol := hc.col_lt
  have hcol' := hc'.col_lt
  have hplace : c.place = c'.place := Prod.ext hrow (by dsimp only [Call.place]; omega)
  rw [hplace, hlook'] at hlook
  exact (Except.ok.inj hlook).symm

variable (raster) in
include hj he in
/-- The calls clockwise are those counter-clockwise, turned, in another order. -/
theorem calls_turn_perm :
    (p.turn.calls e.turn raster).Perm ((p.calls e raster).map (Call.turn e)) := by
  have hwidth : p.mapWidth = e.sizeX := (Prod.mk.inj hj.axes_eq).1
  refine (List.perm_ext_iff_of_nodup (p.turn.calls_nodup e.turn raster)
    (calls_turn_nodup hwidth)).mpr fun c' => ?_
  rw [List.mem_map, mem_calls]
  constructor
  · rintro ⟨hc', hlook', hinner⟩
    have hc : p.Covers c'.row (p.mirror c'.col) := Covers.mirror (p := p) hc'
    have hback : p.mirror (p.mirror c'.col) = c'.col :=
      mirror_mirror (Covers.col_lt (p := p) hc')
    have hturn := look_turn raster hj he hc
    rw [hback] at hturn
    obtain ⟨c, hlook, rfl⟩ := Outcome.map_eq_ok.mp (hturn.symm.trans hlook')
    rw [isInner_turn hj hlook] at hinner
    obtain ⟨hplace, -⟩ := look_eq_ok.mp hlook
    rw [← hplace] at hlook
    obtain ⟨hrow, hcol⟩ := Prod.mk.inj hplace
    rw [← hrow, ← hcol] at hc
    exact ⟨c, mem_calls.mpr ⟨hc, hlook, hinner⟩, rfl⟩
  · rintro ⟨c, hmem, rfl⟩
    obtain ⟨hc, hlook, hinner⟩ := mem_calls.mp hmem
    have hturn := look_turn raster hj he hc
    have hcol : p.mirror c.col = (c.turn e).col := by
      rw [mirror, hwidth]
      rfl
    have hplace : p.look e raster (c.row, c.col) = .ok c := hlook
    rw [hplace, hcol] at hturn
    have hcovers : p.Covers c.row (p.mirror c.col) := hc.mirror
    rw [hcol] at hcovers
    exact ⟨hcovers, hturn, (isInner_turn hj hlook).trans hinner⟩

include hj he in
/-- Every place leads somewhere counter-clockwise exactly if every place does clockwise. -/
theorem forall_look_turn :
    (∀ place ∈ p.turn.footprint, ∃ c, p.turn.look e.turn raster place = .ok c) ↔
      ∀ place ∈ p.footprint, ∃ c, p.look e raster place = .ok c := by
  constructor
  · rintro hall ⟨row, col⟩ hmem
    have hc := mem_footprint.mp hmem
    have hturn := look_turn raster hj he hc
    obtain ⟨c', hlook'⟩ := hall (row, p.mirror col) (mem_footprint.mpr hc.mirror)
    obtain ⟨c, hlook, -⟩ := Outcome.map_eq_ok.mp (hturn.symm.trans hlook')
    exact ⟨c, hlook⟩
  · rintro hall ⟨row, col⟩ hmem
    have hc : p.Covers row col := mem_footprint.mp hmem
    obtain ⟨c, hlook⟩ := hall (row, p.mirror col) (mem_footprint.mpr hc.mirror)
    have hturn := look_turn raster hj he hc.mirror
    rw [mirror_mirror hc.col_lt, hlook] at hturn
    exact ⟨c.turn e, hturn⟩

include hj in
/-- The position of a call can be read off its tile. -/
theorem tile_eq_iff {c : Call} (hc : c ∈ p.calls e raster) {x y : Nat} (hx : x < e.sizeX) :
    c.tile = y * e.sizeX + x ↔ c.col = x ∧ c.row = y := by
  obtain ⟨hcol, -, htile⟩ := position_of_look hj (mem_calls.mp hc).2.1
  rw [htile]
  exact Extent.mul_add_eq_iff hcol hx

include hj in
theorem turn_tile_eq_iff {c : Call} (hc : c ∈ p.calls e raster) {x y : Nat} (hx : x < e.sizeX)
    (hy : y < e.sizeY) :
    (c.turn e).tile = (e.sizeX - 1 - x) * e.sizeY + y ↔ c.col = x ∧ c.row = y := by
  obtain ⟨hcol, hrow, -⟩ := position_of_look hj (mem_calls.mp hc).2.1
  have hiff : (c.turn e).tile = (e.sizeX - 1 - x) * e.sizeY + y ↔
      c.row = y ∧ e.sizeX - 1 - c.col = e.sizeX - 1 - x :=
    Extent.mul_add_eq_iff (e := e.turn) hrow hy
  rw [hiff]
  omega

include hj he in
/-- A tile gets a pixel counter-clockwise exactly if the tile it is turned to gets it clockwise. -/
theorem mem_noted_turn_iff {x y : Nat} (hx : x < e.sizeX) (hy : y < e.sizeY)
    {pixel : Raster.Rgb} :
    (y * e.sizeX + x, pixel) ∈ (p.calls e raster).map Call.noted ↔
      ((e.sizeX - 1 - x) * e.sizeY + y, pixel) ∈
        (p.turn.calls e.turn raster).map Call.noted := by
  have hperm := (calls_turn_perm raster hj he).map Call.noted
  rw [hperm.mem_iff, List.map_map]
  simp only [List.mem_map, Function.comp_apply, Call.noted, Prod.mk.injEq]
  refine exists_congr fun c => and_congr_right fun hc => and_congr_left fun _ => ?_
  rw [tile_eq_iff hj hc hx, turn_tile_eq_iff hj hc hx hy]

end

end Projection

open Projection

/-- **Turning the map turns the picture.** A raster laid counter-clockwise onto `sizeX` by `sizeY`
tiles and clockwise onto `sizeY` by `sizeX` has the same scale, paddings and ranges, and the source
pixel of every place, or its fault, is that of the mirrored place. With steps that never fail
both sweeps succeed or neither does. If they do, the tile at `(x, y)` of the first map gets a pixel
exactly if the tile at `(y, sizeX - 1 - x)` of the second one does, and the counts are equal. -/
theorem paintOver_turn (raster : Raster.Pixels) (sizeX sizeY : Nat) (hx : 0 < sizeX)
    (hy : 0 < sizeY) (he : sizeX * sizeY ≤ 2 ^ 32) :
    ∃ p q, fit raster.width raster.height sizeX sizeY .counterClockwise = .ok p ∧
      fit raster.width raster.height sizeY sizeX .clockwise = .ok q ∧
      (q.scale = p.scale ∧ q.rowPad = p.rowPad ∧ q.colPad = p.colPad) ∧
      (q.rows = p.rows ∧ q.cols = p.cols) ∧
      (∀ row col, p.Covers row col →
        q.sourcePixel row (sizeX - 1 - col) = p.sourcePixel row col) ∧
      (∀ (σ τ : Type) (step : σ → Raster.Rgb → Nat → Except Fault σ) (init : σ)
        (step' : τ → Raster.Rgb → Nat → Except Fault τ) (init' : τ),
        (∀ s pixel tile, ∃ s', step s pixel tile = .ok s') →
        (∀ s pixel tile, ∃ s', step' s pixel tile = .ok s') →
        ((∃ result, paintOver ⟨sizeX, sizeY⟩ .counterClockwise raster step init = .ok result) ↔
          ∃ result, paintOver ⟨sizeY, sizeX⟩ .clockwise raster step' init' = .ok result)) ∧
      ∀ r r', paintOver ⟨sizeX, sizeY⟩ .counterClockwise raster note [] = .ok r →
        paintOver ⟨sizeY, sizeX⟩ .clockwise raster note [] = .ok r' →
        r'.count = r.count ∧
          ∀ x y pixel, x < sizeX → y < sizeY →
            ((y * sizeX + x, pixel) ∈ r.state ↔
              ((sizeX - 1 - x) * sizeY + y, pixel) ∈ r'.state) := by
  obtain ⟨p, hfit, hj, -⟩ := exists_fit_raster raster .counterClockwise hx hy he
  have hfit' : fit raster.width raster.height sizeY sizeX .clockwise = .ok p.turn := by
    rw [fit_turn, hfit]
    rfl
  have hwidth : p.mapWidth = sizeX := (Prod.mk.inj hj.axes_eq).1
  refine ⟨p, p.turn, hfit, hfit', ⟨rfl, rfl, rfl⟩, ⟨rfl, rfl⟩, ?_, ?_, ?_⟩
  · intro row col hc
    rw [← hwidth]
    exact sourcePixel_turn hj.rotation_eq hc
  · intro σ τ step init step' init' hstep hstep'
    rw [paintOver, paintOver, hfit, hfit', Outcome.ok_bind, Outcome.ok_bind,
      exists_sweep_iff hstep, exists_sweep_iff hstep']
    exact (forall_look_turn (e := ⟨sizeX, sizeY⟩) hj he).symm
  · intro r r' h h'
    obtain ⟨hstate, hvisited, hborder⟩ := notes_of_paintOver ⟨sizeX, sizeY⟩ hfit h
    obtain ⟨hstate', hvisited', hborder'⟩ := notes_of_paintOver ⟨sizeY, sizeX⟩ hfit' h'
    have hlength := (calls_turn_perm (e := ⟨sizeX, sizeY⟩) raster hj he).length_eq
    have hfootprint : p.turn.footprint.length = p.footprint.length := rfl
    rw [List.length_map] at hlength
    constructor
    · refine SweepCount.ext (hvisited'.trans (hlength.trans hvisited.symm)) ?_
      rw [hfootprint, ← hborder] at hborder'
      exact Nat.add_right_cancel (hborder'.trans (congrArg _ hlength.symm))
    · intro x y pixel hx hy
      rw [hstate, hstate']
      exact mem_noted_turn_iff (e := ⟨sizeX, sizeY⟩) hj he hx hy

/-- Two by four pixels on five by six tiles leave a column free on both sides; the tile at `(1, 1)`
gets the second pixel of the first row, as the tile at `(1, 3)` of the turned map does. -/
theorem padded_picture_turned :
    0 < 5 ∧ 0 < 6 ∧ 5 * 6 ≤ 2 ^ 32 ∧
      ∃ (raster : Raster.Pixels) (p q : Projection) (r r' : Progress (List (Nat × Raster.Rgb))),
        fit raster.width raster.height 5 6 .counterClockwise = .ok p ∧
        fit raster.width raster.height 6 5 .clockwise = .ok q ∧
        p.colPad = 1 ∧ q.colPad = 1 ∧
        paintOver ⟨5, 6⟩ .counterClockwise raster note [] = .ok r ∧
        paintOver ⟨6, 5⟩ .clockwise raster note [] = .ok r' ∧
        r.count = ⟨12, 6⟩ ∧ r'.count = ⟨12, 6⟩ ∧
        (1 * 5 + 1, ⟨0, 1, 0⟩) ∈ r.state ∧ ((5 - 1 - 1) * 6 + 1, ⟨0, 1, 0⟩) ∈ r'.state := by
  let raster := Raster.Pixels.tabulate 2 4
    (fun row col => ⟨UInt8.ofNat row, UInt8.ofNat col, 0⟩) (by decide)
  obtain ⟨p, q, hp, hq, ⟨-, -, hpad⟩, -, -, hiff, hturn⟩ :=
    paintOver_turn raster 5 6 (by decide) (by decide) (by decide)
  have hfit : fit 2 4 5 6 .counterClockwise =
      .ok ⟨.counterClockwise, 2, 4, 5, 6, 24576, 0, 1⟩ := by decide
  have hcol : p.colPad = 1 := congrArg colPad (Except.ok.inj (hp.symm.trans hfit))
  have hrun : (paintOver ⟨5, 6⟩ .counterClockwise raster note []).map
      (fun r => (r.count, decide ((6, ⟨0, 1, 0⟩) ∈ r.state))) = .ok (⟨12, 6⟩, true) := by
    decide +kernel
  obtain ⟨r, hr, hvalue⟩ := Outcome.map_eq_ok.mp hrun
  obtain ⟨hcount, hmem⟩ := Prod.mk.inj hvalue
  have hmem : (1 * 5 + 1, ⟨0, 1, 0⟩) ∈ r.state := of_decide_eq_true hmem
  have hnote : ∀ s pixel tile, ∃ s', note s pixel tile = .ok s' := fun _ _ _ => ⟨_, rfl⟩
  obtain ⟨r', hr'⟩ := (hiff _ _ note [] note [] hnote hnote).mp ⟨r, hr⟩
  obtain ⟨hcounts, hstate⟩ := hturn r r' hr hr'
  exact ⟨by decide, by decide, by decide, raster, p, q, r, r', hp, hq, hcol, hpad.trans hcol, hr,
    hr', hcount, hcounts.trans hcount, hmem,
    (hstate 1 1 _ (by decide) (by decide)).mp hmem⟩

end MapPainter
