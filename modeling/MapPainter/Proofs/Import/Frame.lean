import MapPainter.Proofs.Import.History
import MapPainter.Proofs.Layer.Frame
import MapPainter.Proofs.Raster.Pixels

/-!
# What imports leave alone

No import changes the sides or the climate of a map, and what becomes of a tile is up to the layers
whose rasters fall on it (`Frame`). One import keeps to this (`Import.Makes.frame`), and so does any
number of them one after the other (`frame_of_history`).
-/

namespace MapPainter

/-- The map `m'` is one that the imports can have made of `m`: it has the same sides and climate,
and every tile is kept but for what the layers do whose imports have reached it. -/
structure Frame (imports : List Import) (m m' : TileMap) : Prop where
  toExtent : m'.toExtent = m.toExtent
  climate : m'.climate = m.climate
  tile : ∀ i t, m.tile i = .ok t → ∃ t', m'.tile i = .ok t' ∧
    t.Kept (fun layer => ∃ im ∈ imports, im.layer = layer ∧ im.Reaches m.toExtent i) t'

namespace Frame

variable {imports imports' : List Import} {m m' m'' : TileMap}

theorem refl (m : TileMap) : Frame [] m m where
  toExtent := rfl
  climate := rfl
  tile _ t ht := ⟨t, ht, .refl t⟩

theorem append (h : Frame imports m m') (h' : Frame imports' m' m'') :
    Frame (imports ++ imports') m m'' where
  toExtent := h'.toExtent.trans h.toExtent
  climate := h'.climate.trans h.climate
  tile i t ht := by
    obtain ⟨t', ht', hkept⟩ := h.tile i t ht
    obtain ⟨t'', ht'', hkept'⟩ := h'.tile i t' ht'
    rw [h.toExtent] at hkept'
    refine ⟨t'', ht'', (hkept.mono ?_).trans (hkept'.mono ?_)⟩
    · rintro layer ⟨im, hmem, hlayer⟩
      exact ⟨im, List.mem_append_left _ hmem, hlayer⟩
    · rintro layer ⟨im, hmem, hlayer⟩
      exact ⟨im, List.mem_append_right _ hmem, hlayer⟩

end Frame

theorem Import.Makes.frame {im : Import} {m : TileMap} {report : ImportReport} {c : Canvas}
    (h : im.Makes m report c) : Frame [im] m c.map := by
  obtain ⟨calls, hpainted, -⟩ := h.painted
  refine ⟨hpainted.toExtent, hpainted.climate, fun i t ht => ?_⟩
  rcases h.touched i with hsame | ⟨hreaches, t₀, touch, ht₀, hlayer, -, htouch⟩
  · exact ⟨t, hsame.trans ht, .refl t⟩
  · obtain rfl := Except.ok.inj (ht₀.symm.trans ht)
    exact ⟨_, htouch, touch.kept t₀ ⟨im, List.mem_singleton_self im, hlayer.symm, hreaches⟩⟩

theorem History.frame {imports : List Import} {m m' : TileMap} (h : History imports m m') :
    Frame imports m m' := by
  induction h with
  | nil m => exact .refl m
  | cons head _ ih => exact head.frame.append ih

/-- **Frame of a history.** Whatever imports are done on whatever map, sides and climate stay, and
so do height and slope of every tile; a structure keeps its owner, and water stays water. A tile
with another owner, or with water that was not there, has been reached by an import of the water
layer; a tile with another zone by one of the desert or the tropics layer; and a tile that differs
at all by some import, so it is an inner tile on which a raster fell. All this holds of every one
of the imports as well. -/
theorem frame_of_history {imports : List Import} {m m' : TileMap} (h : History imports m m') :
    Frame imports m m' ∧
      ∀ before im after, imports = before ++ im :: after →
        ∃ m₁ report c, History before m m₁ ∧ im.Makes m₁ report c ∧ History after c.map m' ∧
          Frame [im] m₁ c.map := by
  refine ⟨h.frame, ?_⟩
  rintro before im after rfl
  obtain ⟨m₁, report, c, hbefore, hmakes, hafter⟩ := h.split
  exact ⟨m₁, report, c, hbefore, hmakes, hafter, hmakes.frame⟩

/-- Rivers fill the four inner tiles of a map, and a desert over them changes their zone only. -/
theorem desert_over_rivers_frame :
    ∃ (rivers desert : Import) (m m' : TileMap), rivers.layer = .water ∧ desert.layer = .desert ∧
      History [rivers, desert] m m' ∧
      m'.tiles.countP (fun t => t.kind = .water ∧ t.owner = .water ∧ t.zone = .desert) = 4 ∧
      Frame [rivers, desert] m m' := by
  let answer (colour : Raster.Rgb) : Raster.Source :=
    .answering (.ok ⟨2, 2, some (Raster.Pixels.plain 2 2 colour (by decide))⟩)
  let request : Raster.Request := ⟨.png, "layer.png", .base⟩
  let rivers : Import := ⟨.water, {}, answer ⟨0, 255, 0⟩, request, .fixed 0⟩
  let desert : Import := ⟨.desert, {}, answer ⟨255, 255, 0⟩, request, .fixed 0⟩
  let m := TileMap.plain 4 4 .tropic (by decide) (by decide)
  let run (im : Import) (m : TileMap) :=
    Workspace.load ⟨⟨m, im.draws⟩, false⟩ im.source im.settings im.layer im.request
  have hrun : (run rivers m >>= fun r => (run desert r.2.map).map fun r' =>
      (r.1, r.2.dirty, r'.1, r'.2.dirty, r'.2.map.tiles.countP
        (fun t => t.kind = .water ∧ t.owner = .water ∧ t.zone = .desert))) =
      .ok (.ok ⟨.water, 2, 2, ⟨4, 12⟩⟩, true, .ok ⟨.desert, 2, 2, ⟨4, 12⟩⟩, true, 4) := by
    decide +kernel
  obtain ⟨⟨report, c₁, dirty₁⟩, hrivers, hrest⟩ := Outcome.bind_eq_ok.mp hrun
  obtain ⟨⟨report', c₂, dirty₂⟩, hdesert, hvalue⟩ := Outcome.map_eq_ok.mp hrest
  simp only [Prod.mk.injEq] at hvalue
  obtain ⟨rfl, rfl, rfl, rfl, hcount⟩ := hvalue
  have hhistory : History [rivers, desert] m c₂.map :=
    .cons ⟨false, hrivers⟩ (.cons ⟨false, hdesert⟩ (.nil c₂.map))
  exact ⟨rivers, desert, m, c₂.map, rfl, rfl, hhistory, hcount, (frame_of_history hhistory).1⟩

end MapPainter
