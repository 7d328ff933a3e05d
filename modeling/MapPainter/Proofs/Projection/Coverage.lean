import MapPainter.Proofs.Projection.Abort

/-!
# What a sweep covers

On a map of at most `2 ^ 32` tiles every raster has its projection. A sweep that succeeds has
called its step once for every inner tile of the footprint, in reading order, with the pixel that
falls on it, and has counted every place of the footprint once (`paintOver_enumerates`). A sweep
that fails was ended by its step, or by a source pixel outside the raster: no position is off the
map, and no pixel is looked up outside the raster.
-/

namespace MapPainter

namespace Projection

/-- The calls go through the inner tiles of the footprint, each once and in reading order, with
the pixels that fall on them. -/
structure Enumerates (p : Projection) (extent : Extent) (raster : Raster.Pixels)
    (calls : List Call) : Prop where
  /-- Every call hands on an inner tile of the footprint by its index, and its pixel. -/
  sound : ∀ c ∈ calls, p.Covers c.row c.col ∧ extent.isInner c.tile = true ∧
    (∃ x y, p.tilePosition c.row c.col = (x, y) ∧ c.tile = y * extent.sizeX + x) ∧
    ∃ source, p.sourcePixel c.row c.col = .ok source ∧
      raster.pixel source.1 source.2 = .ok c.pixel
  /-- No inner tile of the footprint is left out. -/
  complete : ∀ row col x y, p.Covers row col → p.tilePosition row col = (x, y) →
    extent.isInner (y * extent.sizeX + x) = true → ∃ c ∈ calls, c.row = row ∧ c.col = col
  /-- No tile is handed on twice. -/
  nodup : (calls.map Call.tile).Nodup
  inOrder : calls.Pairwise fun a b => Precedes a.place b.place

section

variable {p : Projection} {e : Extent} {raster : Raster.Pixels}

/-- If every place leads somewhere, the calls of a sweep are complete. -/
theorem enumerates_calls (hall : ∀ place ∈ p.footprint, ∃ c, p.look e raster place = .ok c) :
    p.Enumerates e raster (p.calls e raster) where
  sound c hc := by
    obtain ⟨hcovers, hlook, hinner⟩ := mem_calls.mp hc
    obtain ⟨-, hindex, hsource⟩ := look_eq_ok.mp hlook
    exact ⟨hcovers, hinner, ⟨_, _, rfl, (Extent.of_index_eq hindex).2.2⟩, hsource⟩
  complete row col x y hcovers hposition hinner := by
    obtain ⟨c, hlook⟩ := hall (row, col) (mem_footprint.mpr hcovers)
    obtain ⟨hplace, hindex, -⟩ := look_eq_ok.mp hlook
    obtain ⟨rfl, rfl⟩ := Prod.mk.inj hplace
    rw [hposition] at hindex
    rw [← (Extent.of_index_eq hindex).2.2] at hinner
    exact ⟨c, mem_calls.mpr ⟨hcovers, hlook, hinner⟩, rfl, rfl⟩
  nodup := p.calls_tile_nodup e raster
  inOrder := p.calls_inOrder e raster

/-- Looking at a place fails only where its source pixel does. -/
theorem outside_of_look_eq_error {rotation : Rotation} {row col : Nat} {fault : Fault}
    (h : p.Fitted) (hj : p.Joins raster.width raster.height e.sizeX e.sizeY rotation)
    (he : e.sizeX * e.sizeY ≤ 2 ^ 32) (hc : p.Covers row col)
    (hlook : p.look e raster (row, col) = .error fault) :
    p.sourcePixel row col = .error fault ∧ fault = p.outside row col := by
  have hcases := h.look_of_covers hj he hc
  rw [hlook] at hcases
  split at hcases
  case isTrue ho =>
    cases hcases
    rw [h.sourcePixel_of_covers hc, if_pos ho]
    exact ⟨rfl, rfl⟩
  case isFalse =>
    obtain ⟨c, hok⟩ := hcases
    cases hok

end

/-- A raster has a projection on every map of at most `2 ^ 32` tiles. -/
theorem exists_fit_map (m : TileMap) (hm : m.sizeX * m.sizeY ≤ 2 ^ 32) (raster : Raster.Pixels)
    (rotation : Rotation) :
    ∃ p, fit raster.width raster.height m.sizeX m.sizeY rotation = .ok p ∧
      p.Joins raster.width raster.height m.sizeX m.sizeY rotation ∧ p.Fitted :=
  exists_fit_raster raster rotation m.sizeX_pos m.sizeY_pos hm

end Projection

open Projection

/-- **Coverage.** Whatever its step does, a sweep over a map of at most `2 ^ 32` tiles that
succeeds has folded the step over the inner tiles of the footprint, each once and in reading order,
and its counts add up to the footprint. On the footprint every position is on the map and every
source pixel has its colour, so a sweep that fails was ended by a source pixel outside the raster
or by the step itself, after the calls before. -/
theorem paintOver_enumerates {σ : Type} (m : TileMap) (hm : m.sizeX * m.sizeY ≤ 2 ^ 32)
    (rotation : Rotation) (raster : Raster.Pixels)
    (step : σ → Raster.Rgb → Nat → Except Fault σ) (init : σ) :
    ∃ p, fit raster.width raster.height m.sizeX m.sizeY rotation = .ok p ∧
      (∀ result, paintOver m.toExtent rotation raster step init = .ok result →
        p.Enumerates m.toExtent raster (p.calls m.toExtent raster) ∧
        (p.calls m.toExtent raster).foldlM (fun s c => step s c.pixel c.tile) init =
          .ok result.state ∧
        result.count.visited = (p.calls m.toExtent raster).length ∧
        result.count.visited + result.count.border =
          (p.rows.2 - p.rows.1) * (p.cols.2 - p.cols.1)) ∧
      (∀ row col x y, p.Covers row col → p.tilePosition row col = (x, y) →
        m.toExtent.index x y = .ok (y * m.sizeX + x) ∧
        ∀ source, p.sourcePixel row col = .ok source →
          ∃ pixel, raster.pixel source.1 source.2 = .ok pixel) ∧
      ∀ fault, paintOver m.toExtent rotation raster step init = .error fault →
        (∃ row col, p.Covers row col ∧ p.sourcePixel row col = .error fault ∧
          fault = p.outside row col) ∨
        ∃ done c rest state, p.calls m.toExtent raster = done ++ c :: rest ∧
          done.foldlM (fun s c => step s c.pixel c.tile) init = .ok state ∧
          step state c.pixel c.tile = .error fault := by
  obtain ⟨p, hfit, hj, hp⟩ := exists_fit_map m hm raster rotation
  refine ⟨p, hfit, ?_, ?_, ?_⟩
  · intro result h
    rw [paintOver, hfit, Outcome.ok_bind] at h
    obtain ⟨hall, hfold, hvisited, hborder⟩ := sweep_eq_ok_iff.mp h
    refine ⟨enumerates_calls hall, hfold, hvisited, ?_⟩
    rw [← length_footprint]
    omega
  · intro row col x y hc hposition
    obtain ⟨hx, hy⟩ := hc.tilePosition_lt hj
    rw [hposition] at hx hy
    refine ⟨Extent.index_eq hx hy hm, fun source hsource => ?_⟩
    rw [hp.sourcePixel_of_covers hc] at hsource
    split at hsource
    case isTrue => cases hsource
    case isFalse ho =>
      cases hsource
      obtain ⟨hrow, hcol⟩ := hp.source_lt hc ho
      rw [hj.rasterHeight_eq] at hrow
      rw [hj.rasterWidth_eq] at hcol
      exact Raster.Pixels.exists_pixel hrow hcol
  · intro fault h
    rw [paintOver, hfit, Outcome.ok_bind] at h
    rcases sweep_eq_error h with ⟨⟨row, col⟩, hmem, hlook⟩ | hrefused
    · have hc := mem_footprint.mp hmem
      exact Or.inl ⟨row, col, hc, outside_of_look_eq_error hp hj hm hc hlook⟩
    · exact Or.inr hrefused

/-- Laid clockwise on a map of four by four tiles, a raster of two by two pixels covers the four
inner tiles; its rows run along the X axis. -/
theorem small_map_enumerates :
    ∃ (m : TileMap) (raster : Raster.Pixels), TileMap.fresh 4 4 .temperate = .ok m ∧
      Raster.Pixels.filled 2 2 ⟨10, 20, 30⟩ = .ok raster ∧ m.sizeX * m.sizeY ≤ 2 ^ 32 ∧
      ∃ (p : Projection) (result : Progress (List Nat)),
        paintOver m.toExtent .clockwise raster (fun tiles _ tile => .ok (tiles ++ [tile])) [] =
          .ok result ∧
        result.state = [5, 9, 6, 10] ∧ result.count = ⟨4, 12⟩ ∧
        p.Enumerates m.toExtent raster (p.calls m.toExtent raster) ∧
        (p.calls m.toExtent raster).length = 4 := by
  let m := TileMap.plain 4 4 .temperate (by decide) (by decide)
  let raster := Raster.Pixels.plain 2 2 ⟨10, 20, 30⟩ (by decide)
  let record (tiles : List Nat) (_ : Raster.Rgb) (tile : Nat) : Except Fault (List Nat) :=
    .ok (tiles ++ [tile])
  obtain ⟨p, -, hpass, -, -⟩ :=
    paintOver_enumerates m (by decide) .clockwise raster record []
  have hrun : (paintOver m.toExtent .clockwise raster record []).map
      (fun r => (r.state, r.count)) = .ok ([5, 9, 6, 10], ⟨4, 12⟩) := by decide +kernel
  obtain ⟨result, hresult, hvalue⟩ := Outcome.map_eq_ok.mp hrun
  obtain ⟨hstate, hcount⟩ := Prod.mk.inj hvalue
  obtain ⟨henum, -, hvisited, -⟩ := hpass result hresult
  refine ⟨m, raster, TileMap.fresh_eq _ _ _, Raster.Pixels.filled_eq _ _, by decide, p, result,
    hresult, hstate, hcount, henum, ?_⟩
  rw [← hvisited, hcount]

end MapPainter
