import MapPainter.Proofs.Import.Abreast
import MapPainter.Proofs.Layer.Checked
import MapPainter.Proofs.Layer.Words

/-!
# Turns

The calls of a pass come one after the other, each with the draws that those before it have left
(`Layer.turns`). No tile is called twice, so a brush meets every tile as the map has it before the
pass, and the words of its turn can be counted there (`Turn.words`). An import that succeeds has
gone through its turns (`Import.Makes.inTurn`), and the words of all turns together are what it has
drawn (`words_accounted`).
-/

namespace MapPainter

open Projection (Call onCall)

/-- A call, and the draws that it is made with. -/
structure Turn where
  call : Call
  draws : Draws

/-- The words that the brush takes in its turn, over the tile as the map has it. -/
def Turn.words (layer : Layer) (m : TileMap) (turn : Turn) : Nat :=
  layer.words (Spot.ofMap m turn.call.tile) turn.call.pixel turn.draws

namespace Layer

/-- The turns of some calls, from a source of draws on. -/
def turns (layer : Layer) (m : TileMap) : List Call → Draws → List Turn
  | [], _ => []
  | call :: calls, d =>
    let turn : Turn := ⟨call, d⟩
    turn :: layer.turns m calls (d.advance (turn.words layer m))

variable {layer : Layer} {m m' : TileMap} {calls : List Call} {d : Draws}

theorem map_call_turns : (layer.turns m calls d).map Turn.call = calls := by
  induction calls generalizing d with
  | nil => rfl
  | cons call calls ih => rw [turns, List.map_cons, ih]

theorem turns_congr
    (h : ∀ call ∈ calls, ∀ d, Turn.words layer m' ⟨call, d⟩ = Turn.words layer m ⟨call, d⟩) :
    layer.turns m' calls d = layer.turns m calls d := by
  induction calls generalizing d with
  | nil => rfl
  | cons call calls ih =>
    rw [turns, turns, h call List.mem_cons_self,
      ih fun later hlater => h later (List.mem_cons_of_mem call hlater)]

/-- A turn begins when the words of those before it are taken. -/
theorem draws_of_turns_eq_append {before after : List Turn} {turn : Turn}
    (h : layer.turns m calls d = before ++ turn :: after) :
    turn.draws = d.advance (before.map (Turn.words layer m)).sum := by
  induction calls generalizing d before with
  | nil => cases before <;> cases h
  | cons call calls ih =>
    cases before with
    | nil =>
      cases h
      rfl
    | cons first before =>
      obtain ⟨rfl, hrest⟩ := List.cons.inj h
      rw [ih hrest, Draws.advance_advance, List.map_cons, List.sum_cons]

/-- But for trees, the words of a turn are the same from every source of draws. -/
theorem map_words_turns (htrees : layer ≠ .trees) (e : Draws) :
    (layer.turns m calls d).map (Turn.words layer m) =
      (layer.turns m calls e).map (Turn.words layer m) := by
  induction calls generalizing d e with
  | nil => rfl
  | cons call calls ih =>
    have hfirst : Turn.words layer m ⟨call, d⟩ = Turn.words layer m ⟨call, e⟩ := by
      cases layer with
      | trees => exact absurd rfl htrees
      | terrain | fields | water | snow | desert | tropics => rfl
    rw [turns, turns, List.map_cons, List.map_cons, hfirst, ih]

end Layer

/-- Strokes on different tiles go through the turns of their calls. -/
theorem Canvas.turns_of_foldlM {layer : Layer} {settings : ImportSettings} {m : TileMap}
    {c c' : Canvas} {calls : List Call} (hnodup : (calls.map Call.tile).Nodup)
    (hclimate : c.map.climate = m.climate)
    (hfound : ∀ call ∈ calls, ∃ t, m.tile call.tile = .ok t)
    (hkept : ∀ call ∈ calls, c.map.tile call.tile = m.tile call.tile)
    (h : calls.foldlM (onCall (stroke layer settings)) c = .ok c') :
    c'.draws = c.draws.advance ((layer.turns m calls c.draws).map (Turn.words layer m)).sum ∧
      ∀ turn ∈ layer.turns m calls c.draws, ∃ t o d', m.tile turn.call.tile = .ok t ∧
        layer.brush settings ⟨m.climate, .ok t⟩ turn.call.pixel turn.draws = .ok (o, d') ∧
        c'.map.tile turn.call.tile = .ok (o.getD t) := by
  induction calls generalizing c with
  | nil =>
    cases h
    exact ⟨rfl, fun turn hturn => absurd hturn List.not_mem_nil⟩
  | cons call calls ih =>
    obtain ⟨c₁, hstroke, hrest⟩ := Outcome.foldlM_cons_eq_ok.mp h
    obtain ⟨o, hbrush, hmap⟩ := stroke_eq_ok.mp hstroke
    obtain ⟨t, ht⟩ := hfound call List.mem_cons_self
    have htile : c.map.tile call.tile = .ok t := (hkept call List.mem_cons_self).trans ht
    obtain ⟨hnot, hnodup⟩ := List.nodup_cons.mp hnodup
    rw [Spot.ofMap, htile, hclimate] at hbrush
    have hdraws : c₁.draws = c.draws.advance (Turn.words layer m ⟨call, c.draws⟩) := by
      rw [Turn.words, Spot.ofMap, ht]
      exact Layer.draws_of_brush hbrush
    -- the later calls are for tiles that the first stroke has left alone
    have hkept₁ : ∀ later ∈ calls, c₁.map.tile later.tile = m.tile later.tile := by
      intro later hlater
      have hne : call.tile ≠ later.tile := fun heq => hnot (heq ▸ List.mem_map_of_mem hlater)
      rw [stroke_tile_of_ne hstroke hne, hkept later (List.mem_cons_of_mem call hlater)]
    obtain ⟨htaken, hturns⟩ := ih hnodup ((stroke_climate hstroke).trans hclimate)
      (fun later hlater => hfound later (List.mem_cons_of_mem call hlater)) hkept₁ hrest
    rw [Layer.turns, List.map_cons, List.sum_cons, ← Draws.advance_advance, ← hdraws]
    refine ⟨htaken, fun turn hturn => ?_⟩
    rcases List.mem_cons.mp hturn with rfl | hturn
    · refine ⟨t, o, c₁.draws, ht, hbrush, ?_⟩
      rw [(painted_of_foldlM hnodup hrest).frame call.tile hnot, hmap, settle_tile htile]
    · exact hturns turn hturn

namespace Import

variable {im : Import} {m : TileMap} {report : ImportReport} {c : Canvas}

/-- The calls of the import on a map of an extent. -/
def calls (im : Import) (e : Extent) : List Call :=
  match im.source.pixels im.request with
  | .error _ => []
  | .ok pixels =>
    match Projection.fit pixels.width pixels.height e.sizeX e.sizeY im.settings.rotation with
    | .error _ => []
    | .ok p => p.calls e pixels

def turns (im : Import) (m : TileMap) : List Turn :=
  im.layer.turns m (im.calls m.toExtent) im.draws

/-- The import has gone through its turns on the map `m`. -/
structure InTurn (im : Import) (m : TileMap) (report : ImportReport) (c : Canvas) : Prop where
  calls : ∃ pixels p, im.source.pixels im.request = .ok pixels ∧
    Projection.fit pixels.width pixels.height m.sizeX m.sizeY im.settings.rotation = .ok p ∧
    im.calls m.toExtent = p.calls m.toExtent pixels
  toExtent : c.map.toExtent = m.toExtent
  climate : c.map.climate = m.climate
  visited : report.count.visited = (im.turns m).length
  draws : c.draws = im.draws.advance ((im.turns m).map (Turn.words im.layer m)).sum
  frame : ∀ i, (∀ turn ∈ im.turns m, turn.call.tile ≠ i) → c.map.tile i = m.tile i
  brushed : ∀ turn ∈ im.turns m, im.Shows turn.call.pixel ∧ ∃ t o d',
    m.tile turn.call.tile = .ok t ∧
    im.layer.brush im.settings ⟨m.climate, .ok t⟩ turn.call.pixel turn.draws = .ok (o, d') ∧
    c.map.tile turn.call.tile = .ok (o.getD t)

theorem map_call_turns : (im.turns m).map Turn.call = im.calls m.toExtent := Layer.map_call_turns

theorem Makes.inTurn (h : im.Makes m report c) : im.InTurn m report c := by
  obtain ⟨pixels, progress, hpixels, hpaint, rfl, rfl⟩ := makes_iff.mp h
  obtain ⟨p, hfit, -, hfold, hvisited, -⟩ := Canvas.paint_eq_ok.mp hpaint
  have hcalls : im.calls m.toExtent = p.calls m.toExtent pixels := by
    simp only [calls, hpixels, hfit]
  have hnodup := p.calls_tile_nodup m.toExtent pixels
  have hmem : ∀ turn ∈ im.turns m, turn.call ∈ p.calls m.toExtent pixels := by
    intro turn hturn
    rw [← hcalls, ← map_call_turns]
    exact List.mem_map_of_mem hturn
  have hfound : ∀ call ∈ p.calls m.toExtent pixels, ∃ t, m.tile call.tile = .ok t :=
    fun call hcall => (of_mem_calls hpixels hcall).2 m rfl
  obtain ⟨hdraws, hturns⟩ :=
    Canvas.turns_of_foldlM hnodup rfl hfound (fun _ _ => rfl) hfold
  rw [← hcalls] at hdraws hturns
  have hpainted := Canvas.painted_of_foldlM hnodup hfold
  constructor
  case calls => exact ⟨pixels, p, hpixels, hfit, hcalls⟩
  case toExtent => exact hpainted.toExtent
  case climate => exact hpainted.climate
  case visited =>
    rw [hvisited, ← hcalls, ← map_call_turns, List.length_map]
  case draws => exact hdraws
  case frame =>
    intro i hi
    refine hpainted.frame i fun hmap => ?_
    rw [← hcalls, ← map_call_turns, List.map_map] at hmap
    obtain ⟨turn, hturn, heq⟩ := List.mem_map.mp hmap
    exact hi turn hturn heq
  case brushed =>
    exact fun turn hturn => ⟨(of_mem_calls hpixels (hmem turn hturn)).1, hturns turn hturn⟩

theorem InTurn.called_or_kept (h : im.InTurn m report c) (i : Nat) :
    (∃ turn ∈ im.turns m, turn.call.tile = i) ∨ c.map.tile i = m.tile i := by
  by_cases hcalled : ∃ turn ∈ im.turns m, turn.call.tile = i
  · exact Or.inl hcalled
  · exact Or.inr (h.frame i fun turn hturn heq => hcalled ⟨turn, hturn, heq⟩)

/-- An import that succeeds does so on every map of the extent and climate, from every source of
draws. -/
theorem Makes.exists_makes {n : TileMap} (h : im.Makes m report c)
    (hextent : n.toExtent = m.toExtent) (hclimate : n.climate = m.climate) (d : Draws) :
    ∃ c', { im with draws := d }.Makes n report c' := by
  obtain ⟨c', hmakes, -⟩ := h.abreast (d := d) (R := fun _ _ => True) (Q := fun _ _ _ => True)
    hextent hclimate trivial (fun _ => trivial) fun _ _ t _ _ pixel _ _ e _ _ _ _ => by
      have htotal : Total (im.layer.brush im.settings ⟨m.climate, .ok t⟩ pixel) :=
        im.layer.brush_total
      obtain ⟨o, e', hbrush⟩ := htotal e
      exact ⟨o, e', hbrush, trivial, trivial⟩
  exact ⟨c', hmakes⟩

end Import

/-- **Words accounted for.** An import that succeeds has called its brush once for every tile that
it visits, and has drawn the words that are counted for these turns, tile by tile as the map was
before. Any layer but trees succeeds from every source of draws with as many words. -/
theorem words_accounted {im : Import} {m : TileMap} {report : ImportReport} {c : Canvas}
    (h : im.Makes m report c) :
    (∃ pixels p, im.source.pixels im.request = .ok pixels ∧
      Projection.fit pixels.width pixels.height m.sizeX m.sizeY im.settings.rotation = .ok p ∧
      (im.turns m).map Turn.call = p.calls m.toExtent pixels) ∧
    report.count.visited = (im.turns m).length ∧
    c.draws = im.draws.advance ((im.turns m).map (Turn.words im.layer m)).sum ∧
    (im.layer ≠ .trees → ∀ d, ∃ c', { im with draws := d }.Makes m report c' ∧
      c'.draws = d.advance ((im.turns m).map (Turn.words im.layer m)).sum) := by
  have hturn := h.inTurn
  refine ⟨Import.map_call_turns ▸ hturn.calls, hturn.visited, hturn.draws, fun htrees d => ?_⟩
  obtain ⟨c', hmakes⟩ := h.exists_makes rfl rfl d
  refine ⟨c', hmakes, ?_⟩
  rw [hmakes.inTurn.draws]
  exact congrArg (fun words : List Nat => d.advance words.sum)
    (Layer.map_words_turns htrees im.draws)

/-- Four tiles of one colour and four words in turn: the third tile draws the highest word for its
green channel and gets no trees, so it needs no word for a species. -/
theorem trees_accounted :
    ∃ (im : Import) (m : TileMap) (report : ImportReport) (c : Canvas), im.layer = .trees ∧
      im.Makes m report c ∧ report.count.visited = 4 ∧ c.draws.taken = 11 ∧
      (im.turns m).map (Turn.words .trees m) = [3, 3, 2, 3] ∧
      c.draws = im.draws.advance [3, 3, 2, 3].sum := by
  let pixels := Raster.Pixels.plain 2 2 ⟨0x20, 0x2b, 0⟩ (by decide)
  let source : Raster.Source := .answering (.ok ⟨2, 2, some pixels⟩)
  let im : Import :=
    ⟨.trees, {}, source, ⟨.png, "trees.png", .base⟩, .cycle #[0, 0, 0, 0xffffffff]⟩
  let m := TileMap.plain 4 4 .temperate (by decide) (by decide)
  have hrun : (Workspace.load ⟨⟨m, im.draws⟩, false⟩ im.source im.settings im.layer im.request).map
      (fun r => (r.1, r.2.dirty, r.2.draws.taken)) =
      .ok (.ok ⟨.trees, 2, 2, ⟨4, 12⟩⟩, true, 11) := by decide +kernel
  obtain ⟨⟨answer, c, dirty⟩, hload, hvalue⟩ := Outcome.map_eq_ok.mp hrun
  simp only [Prod.mk.injEq] at hvalue
  obtain ⟨rfl, rfl, htaken⟩ := hvalue
  have hmakes : im.Makes m ⟨.trees, 2, 2, ⟨4, 12⟩⟩ c := ⟨false, hload⟩
  have hwords : (im.turns m).map (Turn.words .trees m) = [3, 3, 2, 3] := by decide +kernel
  obtain ⟨-, -, hdraws, -⟩ := words_accounted hmakes
  rw [hwords] at hdraws
  exact ⟨im, m, _, c, rfl, hmakes, rfl, htaken, hwords, hdraws⟩

end MapPainter
