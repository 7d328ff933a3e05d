import MapPainter.Proofs.Import.Pass
import MapPainter.Proofs.Raster.Pixels

/-!
# Histories of imports

An import is made from a layer, settings, a source with a request, and the draws it starts from
(`Import`). Done on a map it either fails and changes nothing, or makes a map of it (`Import.Makes`)
by touching some of the inner tiles that its raster falls on (`Import.Makes.touched`). A history is
a list of imports done one after the other, each on the map that the one before has made.
-/

namespace MapPainter

/-- All that an import is made from, but for the map. -/
structure Import where
  layer : Layer
  settings : ImportSettings
  source : Raster.Source
  request : Raster.Request
  draws : Draws

namespace Import

/-- Done on a map, the import succeeds with a report; it leaves a map and the rest of the draws. -/
def Makes (im : Import) (m : TileMap) (report : ImportReport) (c : Canvas) : Prop :=
  ∃ dirty, Workspace.load ⟨⟨m, im.draws⟩, dirty⟩ im.source im.settings im.layer im.request =
    .ok (.ok report, ⟨c, true⟩)

/-- The raster falls on the tile of an index, and the tile is an inner one. -/
def Reaches (im : Import) (e : Extent) (index : Nat) : Prop :=
  e.isInner index = true ∧
    ∃ pixels p row col, im.source.pixels im.request = .ok pixels ∧
      Projection.fit pixels.width pixels.height e.sizeX e.sizeY im.settings.rotation = .ok p ∧
      p.Covers row col ∧
      e.index (p.tilePosition row col).1 (p.tilePosition row col).2 = .ok index

/-- The raster of the import has a pixel of that colour. -/
def Shows (im : Import) (pixel : Raster.Rgb) : Prop :=
  ∃ pixels row col, im.source.pixels im.request = .ok pixels ∧ pixels.pixel row col = .ok pixel

variable {im : Import} {m : TileMap} {report : ImportReport} {c : Canvas}

theorem makes_iff :
    im.Makes m report c ↔
      ∃ pixels progress, im.source.pixels im.request = .ok pixels ∧
        Canvas.paint ⟨m, im.draws⟩ im.layer im.settings pixels = .ok progress ∧
        report = ⟨im.layer, pixels.width, pixels.height, progress.count⟩ ∧ c = progress.state := by
  simp only [Makes, Workspace.load_eq_ok, Workspace.mk.injEq, and_true, exists_const]

/-- What is true of the pixel at each position is true of all colours of the raster. -/
theorem forall_shows {pixels : Raster.Pixels} {P : Raster.Rgb → Prop} [DecidablePred P]
    (hpixels : im.source.pixels im.request = .ok pixels)
    (h : ∀ row < pixels.height, ∀ col < pixels.width,
      (pixels.pixel row col).toOption.all fun pixel => P pixel) :
    ∀ pixel, im.Shows pixel → P pixel := by
  rintro pixel ⟨pixels', row, col, hpixels', hpixel⟩
  obtain rfl := Except.ok.inj (hpixels.symm.trans hpixels')
  obtain ⟨hrow, hcol⟩ := Raster.Pixels.lt_of_pixel hpixel
  have hcolour := h row hrow col hcol
  rw [hpixel] at hcolour
  exact of_decide_eq_true hcolour

theorem Makes.unique {report' : ImportReport} {c' : Canvas} (h : im.Makes m report c)
    (h' : im.Makes m report' c') : report = report' ∧ c = c' := by
  obtain ⟨pixels, progress, hpixels, hpaint, rfl, rfl⟩ := makes_iff.mp h
  obtain ⟨pixels', progress', hpixels', hpaint', rfl, rfl⟩ := makes_iff.mp h'
  obtain rfl := Except.ok.inj (hpixels.symm.trans hpixels')
  obtain rfl := Except.ok.inj (hpaint.symm.trans hpaint')
  exact ⟨rfl, rfl⟩

/-- A call of the pass is for a tile that the import reaches. -/
theorem reaches_of_mem_calls {e : Extent} {pixels : Raster.Pixels} {p : Projection}
    {call : Projection.Call} (hpixels : im.source.pixels im.request = .ok pixels)
    (hfit : Projection.fit pixels.width pixels.height e.sizeX e.sizeY im.settings.rotation = .ok p)
    (h : call ∈ p.calls e pixels) : im.Reaches e call.tile := by
  obtain ⟨hc, -, hinner⟩ := Projection.mem_calls.mp h
  exact ⟨hinner, pixels, p, call.row, call.col, hpixels, hfit, hc,
    Projection.index_of_mem_calls h⟩

/-- A call of the pass is for a tile of the map and a colour of the raster. -/
theorem of_mem_calls {e : Extent} {pixels : Raster.Pixels} {p : Projection}
    {call : Projection.Call} (hpixels : im.source.pixels im.request = .ok pixels)
    (h : call ∈ p.calls e pixels) :
    im.Shows call.pixel ∧ ∀ m : TileMap, m.toExtent = e → ∃ t, m.tile call.tile = .ok t := by
  obtain ⟨-, -, source, -, hpixel⟩ := Projection.look_eq_ok.mp (Projection.mem_calls.mp h).2.1
  refine ⟨⟨pixels, _, _, hpixels, hpixel⟩, fun m hm => ?_⟩
  subst hm
  exact TileMap.exists_tile (Projection.index_of_mem_calls h)

theorem Makes.painted (h : im.Makes m report c) :
    ∃ calls, Canvas.Painted im.layer im.settings calls m c.map ∧
      ∀ call ∈ calls, im.Reaches m.toExtent call.tile := by
  obtain ⟨pixels, progress, hpixels, hpaint, -, rfl⟩ := makes_iff.mp h
  obtain ⟨p, hfit, hpainted⟩ := Canvas.painted_of_paint hpaint
  exact ⟨_, hpainted, fun call hcall => reaches_of_mem_calls hpixels hfit hcall⟩

/-- An import leaves a tile alone, or reaches it and touches it in the way of its layer. -/
theorem Makes.touched (h : im.Makes m report c) (i : Nat) :
    c.map.tile i = m.tile i ∨
      im.Reaches m.toExtent i ∧
        ∃ (t : Tile) (touch : Touch), m.tile i = .ok t ∧ touch.layer = im.layer ∧
          touch.Suits t ∧ c.map.tile i = .ok (touch.apply t) := by
  obtain ⟨calls, hpainted, hreaches⟩ := h.painted
  by_cases hi : i ∈ calls.map Projection.Call.tile
  · obtain ⟨call, hcall, rfl⟩ := List.mem_map.mp hi
    exact (hpainted.touched call.tile).imp_right fun htouch => ⟨hreaches call hcall, htouch⟩
  · exact Or.inl (hpainted.frame i hi)

/-- What no touch of its layer changes about a tile, an import does not change. -/
theorem Makes.preserves {α : Type} {g : Tile → α} (h : im.Makes m report c)
    (hg : ∀ (touch : Touch) (t : Tile), touch.layer = im.layer → g (touch.apply t) = g t)
    {i : Nat} {t t' : Tile} (ht : m.tile i = .ok t) (ht' : c.map.tile i = .ok t') : g t' = g t := by
  rcases h.touched i with hsame | ⟨-, t₀, touch, ht₀, htouch, -, hdone⟩
  · rw [Except.ok.inj (ht'.symm.trans (hsame.trans ht))]
  · obtain rfl := Except.ok.inj (ht₀.symm.trans ht)
    rw [Except.ok.inj (ht'.symm.trans hdone)]
    exact hg touch t₀ htouch

end Import

/-- The map `m'` is what the imports, one after the other, have made of `m`. -/
inductive History : List Import → TileMap → TileMap → Prop
  | nil (m : TileMap) : History [] m m
  | cons {im : Import} {imports : List Import} {m m' : TileMap} {report : ImportReport}
      {c : Canvas} (head : im.Makes m report c) (tail : History imports c.map m') :
      History (im :: imports) m m'

/-- Every import of a history has been done at its turn. -/
theorem History.split {before after : List Import} {im : Import} {m m' : TileMap}
    (h : History (before ++ im :: after) m m') :
    ∃ m₁ report c, History before m m₁ ∧ im.Makes m₁ report c ∧ History after c.map m' := by
  induction before generalizing m with
  | nil =>
    obtain _ | ⟨head, tail⟩ := h
    exact ⟨m, _, _, .nil m, head, tail⟩
  | cons first before ih =>
    obtain _ | ⟨head, tail⟩ := h
    obtain ⟨m₁, report, c, hbefore, hmakes, hafter⟩ := ih tail
    exact ⟨m₁, report, c, .cons head hbefore, hmakes, hafter⟩

/-- Between any two imports of a history there is a map. -/
theorem History.exists_between {before after : List Import} {m m' : TileMap}
    (h : History (before ++ after) m m') : ∃ m₁, History before m m₁ ∧ History after m₁ m' := by
  induction before generalizing m with
  | nil => exact ⟨m, .nil m, h⟩
  | cons first before ih =>
    obtain _ | ⟨head, tail⟩ := h
    obtain ⟨m₁, hbefore, hafter⟩ := ih tail
    exact ⟨m₁, .cons head hbefore, hafter⟩

end MapPainter
