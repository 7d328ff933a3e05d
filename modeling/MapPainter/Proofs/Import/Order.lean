import MapPainter.Proofs.Import.Abreast
import MapPainter.Proofs.Layer.Frame
import MapPainter.Proofs.Layer.Way

/-!
# Imports in either order

An import runs on two maps in step if its brush does, tile by tile (`Import.Makes.inStep`): it draws
the same words, and what it makes of a tile of the one map it makes of the same tile of the other.
Trees and the layers that lay ground do not take each other out of step. On a map whose clear land
is open, they can be imported in either order (`trees_in_either_order`).
-/

namespace MapPainter

/-- Every tile has gone the same way of a layer from `m` to `m'` as from `n` to `n'`. -/
def Layer.Parallel (layer : Layer) (m m' n n' : TileMap) : Prop :=
  ∀ i, ∃ f, layer.Way f ∧ m'.tile i = (m.tile i).map f ∧ n'.tile i = (n.tile i).map f

namespace Import

/-- The import cannot tell the tiles of the two maps apart: its brush is in step on them. -/
structure InStep (im : Import) (m n : TileMap) : Prop where
  toExtent : n.toExtent = m.toExtent
  climate : n.climate = m.climate
  tile : ∀ i t t', m.tile i = .ok t → n.tile i = .ok t' → ∀ pixel, im.Shows pixel →
    im.layer.InStep im.settings m.climate pixel t t'

variable {im : Import} {m n : TileMap} {report : ImportReport} {c : Canvas}

/-- What an import does on a map, it does in the same way on another one that it is in step with. -/
theorem Makes.inStep (h : im.Makes m report c) (hin : im.InStep m n) :
    ∃ n', im.Makes n report ⟨n', c.draws⟩ ∧ im.layer.Parallel m c.map n n' := by
  have hstart : ∀ i, ∃ f, im.layer.Way f ∧ m.tile i = (m.tile i).map f ∧
      n.tile i = (n.tile i).map f := by
    intro i
    refine ⟨id, .idle, ?_, ?_⟩
    · rw [Except.map_id, id]
    · rw [Except.map_id, id]
  obtain ⟨⟨n', d'⟩, hmakes, rfl, hparallel⟩ := h.abreast (R := Eq)
    (Q := fun i x y => ∃ f, im.layer.Way f ∧ x = (m.tile i).map f ∧ y = (n.tile i).map f)
    hin.toExtent hin.climate rfl hstart fun i t t' ht ht' pixel hshows => by
      rintro d _ o d' rfl hbrush
      obtain ⟨f, o', hway, hbrush', hf, hf'⟩ := hin.tile i t t' ht ht' pixel hshows d o d' hbrush
      refine ⟨o', d', hbrush', rfl, f, hway, ?_, ?_⟩
      · rw [ht, hf]
        rfl
      · rw [ht', hf']
        rfl
  exact ⟨n', hmakes, hparallel⟩

/-- Two imports that do not take each other out of step, and whose ways commute on every tile, lead
to the same map in both orders. -/
theorem Makes.diamond {a b : Import} {report' : ImportReport} {c' : Canvas}
    (ha : a.Makes m report c) (hb : b.Makes m report' c') (hab : a.InStep m c'.map)
    (hba : b.InStep m c.map)
    (hcomm : ∀ i t, m.tile i = .ok t → ∀ f g, a.layer.Way f → b.layer.Way g → g (f t) = f (g t)) :
    ∃ m', b.Makes c.map report' ⟨m', c'.draws⟩ ∧ a.Makes c'.map report ⟨m', c.draws⟩ := by
  obtain ⟨m₁, hmakes₁, hparallel₁⟩ := hb.inStep hba
  obtain ⟨m₂, hmakes₂, hparallel₂⟩ := ha.inStep hab
  obtain ⟨_, hpainted₁, -⟩ := hmakes₁.painted
  obtain ⟨_, hpainted₂, -⟩ := hmakes₂.painted
  have htile : ∀ i, m₁.tile i = m₂.tile i := by
    -- both tiles are made of the one of `m` by the same two ways, one after the other
    intro i
    obtain ⟨g, hg, hc', hm₁⟩ := hparallel₁ i
    obtain ⟨f, hf, hc, hm₂⟩ := hparallel₂ i
    rw [hm₁, hm₂, hc, hc']
    cases ht : m.tile i with
    | error fault => rfl
    | ok t => exact congrArg Except.ok (hcomm i t ht f g hf hg)
  have hextent : m₁.toExtent = m₂.toExtent := by
    rw [hpainted₁.toExtent, hpainted₂.toExtent, hba.toExtent, hab.toExtent]
  have hclimate : m₁.climate = m₂.climate := by
    rw [hpainted₁.climate, hpainted₂.climate, hba.climate, hab.climate]
  obtain rfl := TileMap.eq_of_tile hextent hclimate htile
  exact ⟨m₁, hmakes₁, hmakes₂⟩

/-- What the brush of `b` cannot tell apart on any tile, before `a` and after it, `b` cannot tell
apart on the two maps. -/
theorem Makes.inStep_of_tile {a b : Import} (h : a.Makes m report c)
    (htile : ∀ i t t', m.tile i = .ok t → c.map.tile i = .ok t' → ∀ pixel, b.Shows pixel →
      b.layer.InStep b.settings m.climate pixel t t' ∧
        b.layer.InStep b.settings m.climate pixel t' t) :
    b.InStep m c.map ∧ b.InStep c.map m := by
  obtain ⟨_, hpainted, -⟩ := h.painted
  constructor
  · exact ⟨hpainted.toExtent, hpainted.climate, fun i t t' ht ht' pixel hshows =>
      (htile i t t' ht ht' pixel hshows).1⟩
  · refine ⟨hpainted.toExtent.symm, hpainted.climate.symm, fun i t t' ht ht' pixel hshows => ?_⟩
    rw [hpainted.climate]
    exact (htile i t' t ht' ht pixel hshows).2

/-- The two imports can be done in either order on `m`. -/
structure Interchange (a b : Import) (m : TileMap) : Prop where
  /-- If both succeed on the map, then each succeeds on what the other has made, with the report
  and the draws it has had on the map itself, and the same map comes out. -/
  both : ∀ report report' c c', a.Makes m report c → b.Makes m report' c' →
    ∃ m', b.Makes c.map report' ⟨m', c'.draws⟩ ∧ a.Makes c'.map report ⟨m', c.draws⟩
  /-- Whatever comes of the one order, be it the reports, the draws or the map, comes of the
  other. -/
  either : ∀ report report' m' d d',
    (∃ m₁, a.Makes m report ⟨m₁, d⟩ ∧ b.Makes m₁ report' ⟨m', d'⟩) ↔
      ∃ m₂, b.Makes m report' ⟨m₂, d'⟩ ∧ a.Makes m₂ report ⟨m', d⟩

/-- Imports whose ways commute, and of which neither can tell the map from what the other makes of
it, can be done in either order. -/
theorem interchange {a b : Import}
    (ha : ∀ report c, a.Makes m report c → b.InStep m c.map ∧ b.InStep c.map m)
    (hb : ∀ report c, b.Makes m report c → a.InStep m c.map ∧ a.InStep c.map m)
    (hcomm : ∀ i t, m.tile i = .ok t → ∀ f g, a.layer.Way f → b.layer.Way g → g (f t) = f (g t)) :
    a.Interchange b m := by
  have hboth : ∀ report report' c c', a.Makes m report c → b.Makes m report' c' →
      ∃ m', b.Makes c.map report' ⟨m', c'.draws⟩ ∧ a.Makes c'.map report ⟨m', c.draws⟩ :=
    fun report report' c c' h h' => h.diamond h' (hb _ _ h').1 (ha _ _ h).1 hcomm
  refine ⟨hboth, fun report report' m' d d' => ⟨?_, ?_⟩⟩
  · rintro ⟨m₁, h, h'⟩
    -- the second import has gone the same way on `m` itself, so the diamond applies there
    obtain ⟨m₂, hfirst, -⟩ := h'.inStep (ha _ _ h).2
    obtain ⟨m'', hsecond, hlast⟩ := hboth _ _ _ _ h hfirst
    obtain ⟨-, heq⟩ := hsecond.unique h'
    cases heq
    exact ⟨m₂, hfirst, hlast⟩
  · rintro ⟨m₂, h', h⟩
    obtain ⟨m₁, hfirst, -⟩ := h.inStep (hb _ _ h').2
    obtain ⟨m'', hlast, hsecond⟩ := hboth _ _ _ _ hfirst h'
    obtain ⟨-, heq⟩ := hsecond.unique h
    cases heq
    exact ⟨m₁, hfirst, hlast⟩

end Import

section

variable {trees ground : Import} {m : TileMap} {report : ImportReport} {c : Canvas}

/-- Planting leaves land land, and that is all that terrain, snow and desert ask for. -/
theorem Import.Makes.ground_inStep (h : trees.Makes m report c) (htrees : trees.layer = .trees)
    (hground : ground.layer = .terrain ∨ ground.layer = .snow ∨ ground.layer = .desert) :
    ground.InStep m c.map ∧ ground.InStep c.map m := by
  refine h.inStep_of_tile fun i t t' ht ht' _ _ => ?_
  have hland : t'.isLand = t.isLand :=
    h.preserves (fun touch t htouch => touch.apply_isLand t (by rw [htouch, htrees]; decide)) ht ht'
  exact ⟨Layer.ground_inStep hground hland, Layer.ground_inStep hground hland.symm⟩

/-- Terrain and snow leave the zone of a tile alone, which is all that trees ask for. A desert does
not, so with a desert the trees must not ask. -/
theorem Import.Makes.trees_inStep (h : ground.Makes m report c) (htrees : trees.layer = .trees)
    (hground : ground.layer = .terrain ∨ ground.layer = .snow ∨ ground.layer = .desert)
    (hzone : ground.layer = .desert →
      m.climate ≠ .tropic ∨ ∀ pixel, trees.Shows pixel → Gradient.dim ≤ pixel.b) :
    trees.InStep m c.map ∧ trees.InStep c.map m := by
  refine h.inStep_of_tile fun i t t' ht ht' pixel hshows => ?_
  have hspecies : ∀ d, Layer.species trees.settings ⟨m.climate, .ok t'⟩ pixel.b d =
      Layer.species trees.settings ⟨m.climate, .ok t⟩ pixel.b d := by
    intro d
    by_cases hdesert : ground.layer = .desert
    · exact Layer.species_congr_of_unread ((hzone hdesert).imp_right fun hbright =>
        hbright pixel hshows) d
    · have htropics : ground.layer ≠ .tropics := by
        rcases hground with hlayer | hlayer | hlayer <;> rw [hlayer] <;> decide
      have hsame : t'.zone = t.zone := h.preserves (fun touch t htouch =>
        touch.apply_zone t (htouch ▸ hdesert) (htouch ▸ htropics)) ht ht'
      exact Layer.species_congr hsame pixel.b
  rw [htrees]
  exact ⟨Layer.trees.inStep hspecies, Layer.trees.inStep fun d => (hspecies d).symm⟩

/-- **Trees and ground in either order.** On a map whose clear land is open, an import of trees and
one of terrain, snow or desert can be done in either order. If both succeed on the map, then each
succeeds on what the other has made, with the report and the draws it has had on the map itself, and
the same map comes out. More than that, whatever comes of the one order, be it the reports, the
draws or the map, comes of the other. A desert moves zones, so with a desert the trees must not ask
for them: the map is not a tropic one, or the raster of the trees is nowhere dark blue. -/
theorem trees_in_either_order (htrees : trees.layer = .trees)
    (hground : ground.layer = .terrain ∨ ground.layer = .snow ∨ ground.layer = .desert)
    (hopen : ∀ i t, m.tile i = .ok t → t.Open)
    (hzone : ground.layer = .desert →
      m.climate ≠ .tropic ∨ ∀ pixel, trees.Shows pixel → Gradient.dim ≤ pixel.b) :
    trees.Interchange ground m := by
  refine Import.interchange (fun _ _ h => h.ground_inStep htrees hground)
    (fun _ _ h => h.trees_inStep htrees hground hzone) fun i t ht f g hf hg => ?_
  exact (htrees ▸ hf : Layer.Way .trees f).comm hg hground (hopen i t ht)

/-- On a tropic map trees of a bright blue raster and a desert with its zone make the same four
tiles in either order: trees on desert ground in the desert zone. -/
theorem trees_and_desert_in_either_order :
    ∃ (trees desert : Import) (m m' : TileMap) (report report' : ImportReport) (d d' : Draws),
      trees.layer = .trees ∧ desert.layer = .desert ∧ m.climate = .tropic ∧
        (∃ m₁, trees.Makes m report ⟨m₁, d⟩ ∧ desert.Makes m₁ report' ⟨m', d'⟩) ∧
        (∃ m₂, desert.Makes m report' ⟨m₂, d'⟩ ∧ trees.Makes m₂ report ⟨m', d⟩) ∧
        d.taken = 8 ∧ d'.taken = 4 ∧
        m'.tiles.countP (fun t => t.treeGround? = some .snowDesert ∧ t.zone = .desert) = 4 := by
  let forest := Raster.Pixels.plain 2 2 ⟨255, 255, 255⟩ (by decide)
  let sand := Raster.Pixels.plain 2 2 ⟨255, 255, 0⟩ (by decide)
  let answer (pixels : Raster.Pixels) : Raster.Source := .answering (.ok ⟨2, 2, some pixels⟩)
  let request : Raster.Request := ⟨.png, "layer.png", .base⟩
  let trees : Import := ⟨.trees, {}, answer forest, request, .fixed 0⟩
  let desert : Import := ⟨.desert, {}, answer sand, request, .fixed 0⟩
  let m := TileMap.plain 4 4 .tropic (by decide) (by decide)
  let run (im : Import) (m : TileMap) :=
    Workspace.load ⟨⟨m, im.draws⟩, false⟩ im.source im.settings im.layer im.request
  have hrun : (run trees m >>= fun r => (run desert r.2.map).map fun r' =>
      (r.1, r.2.dirty, r'.1, r'.2.dirty, [r.2.draws.taken, r'.2.draws.taken, r'.2.map.tiles.countP
        (fun t => t.treeGround? = some .snowDesert ∧ t.zone = .desert)])) =
      .ok (.ok ⟨.trees, 2, 2, ⟨4, 12⟩⟩, true, .ok ⟨.desert, 2, 2, ⟨4, 12⟩⟩, true, [8, 4, 4]) := by
    decide +kernel
  obtain ⟨⟨report, c₁, dirty₁⟩, htrees, hrest⟩ := Outcome.bind_eq_ok.mp hrun
  obtain ⟨⟨report', c₂, dirty₂⟩, hdesert, hvalue⟩ := Outcome.map_eq_ok.mp hrest
  simp only [Prod.mk.injEq, List.cons.injEq, and_true] at hvalue
  obtain ⟨rfl, rfl, rfl, rfl, htaken, htaken', hcount⟩ := hvalue
  have hopen : ∀ i t, m.tile i = .ok t → t.Open := by
    intro i t ht land hland
    rw [TileMap.tile_plain ht] at hland
    obtain rfl := Surface.clear.inj hland
    exact ⟨Or.inl rfl, rfl⟩
  have hbright : ∀ pixel, trees.Shows pixel → Gradient.dim ≤ pixel.b :=
    Import.forall_shows rfl (by decide +kernel)
  have hfirst : ∃ m₁, trees.Makes m ⟨.trees, 2, 2, ⟨4, 12⟩⟩ ⟨m₁, c₁.draws⟩ ∧
      desert.Makes m₁ ⟨.desert, 2, 2, ⟨4, 12⟩⟩ ⟨c₂.map, c₂.draws⟩ :=
    ⟨c₁.map, ⟨false, htrees⟩, ⟨false, hdesert⟩⟩
  have hsecond := ((trees_in_either_order rfl (Or.inr (Or.inr rfl)) hopen
    fun _ => Or.inr hbright).either _ _ _ _ _).mp hfirst
  exact ⟨trees, desert, m, c₂.map, _, _, c₁.draws, c₂.draws, rfl, rfl, rfl, hfirst, hsecond,
    htaken, htaken', hcount⟩

end

end MapPainter
