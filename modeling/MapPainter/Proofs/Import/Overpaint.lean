import MapPainter.Proofs.Import.Turns

/-!
# Painting over

Fields, snow and zones are laid by the pixel alone: whether a brush of these layers acts, and what
it lays, does not hang on the tile, and what it lays hides what the same layer has laid before
(`Touch.apply_apply_of_layer`). So of two imports of such a layer, the later one decides wherever it
acts, and the earlier one everywhere else (`later_import_wins`).
-/

namespace MapPainter

open Raster (Rgb)

/-- The brush of the layer lays something, of the layers that do so by the pixel alone. -/
inductive Layer.Acts (pixel : Rgb) (d : Draws) : Layer → Prop
  | fields (hred : Gradient.off ≤ pixel.r) (hgreen : presence.raises pixel.g d.peek) :
      Acts pixel d .fields
  | snow (hblue : snowDepth.raises pixel.b d.peek) : Acts pixel d .snow
  | tropics
      (hbright : Gradient.on < pixel.r ∨ Gradient.on < pixel.g ∨ Gradient.on < pixel.b) :
      Acts pixel d .tropics

namespace Layer

variable {pixel : Rgb} {d : Draws}

theorem acts_fields :
    Acts pixel d .fields ↔ Gradient.off ≤ pixel.r ∧ presence.raises pixel.g d.peek :=
  ⟨fun | .fields hred hgreen => ⟨hred, hgreen⟩, fun ⟨hred, hgreen⟩ => .fields hred hgreen⟩

theorem acts_snow : Acts pixel d .snow ↔ snowDepth.raises pixel.b d.peek :=
  ⟨fun | .snow hblue => hblue, .snow⟩

theorem acts_tropics :
    Acts pixel d .tropics ↔
      Gradient.on < pixel.r ∨ Gradient.on < pixel.g ∨ Gradient.on < pixel.b :=
  ⟨fun | .tropics hbright => hbright, .tropics⟩

instance : (layer : Layer) → Decidable (layer.Acts pixel d)
  | .fields => decidable_of_iff' _ acts_fields
  | .snow => decidable_of_iff' _ acts_snow
  | .tropics => decidable_of_iff' _ acts_tropics
  | .terrain | .water | .trees | .desert => .isFalse nofun

end Layer

/-- In its turn on a tile the import acts. -/
def Import.ActsOn (im : Import) (m : TileMap) (index : Nat) : Prop :=
  ∃ turn ∈ im.turns m, turn.call.tile = index ∧ im.layer.Acts turn.call.pixel turn.draws

instance (im : Import) (m : TileMap) (index : Nat) : Decidable (im.ActsOn m index) :=
  inferInstanceAs (Decidable (∃ turn ∈ im.turns m, _ ∧ _))

/-- What is laid last hides what the same layer has laid. -/
theorem Touch.apply_apply_of_layer {layer : Layer} {touch later : Touch}
    (hlayer : layer ∈ [.fields, .snow, .tropics]) (htouch : touch.layer = layer)
    (hlater : later.layer = layer) (t : Tile) :
    later.apply (touch.apply t) = later.apply t := by
  subst hlater
  cases later with
  | field later =>
    cases touch with
    | field fieldType => exact t.makeField_makeField fieldType later
    | _ => cases htouch
  | snow later =>
    cases touch with
    | snow density => exact snowOver_snowOver t density later
    | _ => cases htouch
  | rezone later =>
    cases touch with
    | rezone zone => rfl
    | _ => cases htouch
  | _ => simp [Touch.layer] at hlayer

namespace Layer

variable {layer : Layer} {settings : ImportSettings} {climate : Climate} {t t' : Tile} {pixel : Rgb}
  {touch : Option Touch} {o o' : Option Tile} {d d' d'' : Draws}

theorem fields.acts_iff (h : fields.plan pixel d = .ok (touch, d')) :
    Acts pixel d .fields ↔ touch.isSome := by
  rw [acts_fields]
  unfold fields.plan at h
  split at h
  case isTrue hdark =>
    cases h
    simp [UInt8.not_le.mpr hdark]
  case isFalse hred =>
    obtain ⟨⟨level, d₁⟩, hread, h⟩ := Outcome.bind_eq_ok.mp h
    have hmem := Gradient.read_mem hread
    rw [Gradient.raises_iff_of_read hread, and_iff_right (UInt8.not_lt.mp hred)]
    cases h
    by_cases hlevel : level = 0
    · simp [hlevel]
    · simp only [ne_eq, hlevel, not_false_eq_true, if_true, Option.isSome_some, iff_true]
      omega

theorem snow.acts_iff (h : snow.plan pixel d = .ok (touch, d')) :
    Acts pixel d .snow ↔ touch.isSome := by
  obtain ⟨⟨level, d₁⟩, hread, h⟩ := Outcome.bind_eq_ok.mp h
  rw [acts_snow, Gradient.raises_iff_of_read hread]
  cases h
  by_cases hlevel : level - 1 < 0
  · simp only [hlevel, if_true, Option.isSome_none, Bool.false_eq_true, iff_false]
    omega
  · simp only [hlevel, if_false, Option.isSome_some, iff_true]
    omega

theorem tropics.acts_iff (h : tropics.plan pixel d = .ok (touch, d')) :
    Acts pixel d .tropics ↔ touch.isSome := by
  cases h
  rw [acts_tropics, Option.isSome_map, wantedZone]
  grind

/-- The pixel and the draws alone say whether a brush acts and what it lays. -/
theorem touch_of_acting_brush (hlayer : layer ∈ [.fields, .snow, .tropics])
    (h : layer.brush settings ⟨climate, .ok t⟩ pixel d = .ok (o, d'))
    (h' : layer.brush settings ⟨climate, .ok t'⟩ pixel d = .ok (o', d'')) :
    ∃ touch : Option Touch, (∀ later ∈ touch, later.layer = layer) ∧
      (layer.Acts pixel d ↔ touch.isSome) ∧
      o = touch.map (·.apply t) ∧ o' = touch.map (·.apply t') := by
  rw [brush_eq] at h h'
  obtain ⟨touch, hplan, rfl⟩ := Plan.stroke_tile_eq_ok.mp h
  obtain ⟨touch', hplan', rfl⟩ := Plan.stroke_tile_eq_ok.mp h'
  have hplans : layer.plan settings ⟨climate, .ok t'⟩ pixel d = .ok (touch, d') ∧
      (layer.Acts pixel d ↔ touch.isSome) := by
    simp only [List.mem_cons, List.not_mem_nil, or_false] at hlayer
    rcases hlayer with rfl | rfl | rfl
    · exact ⟨hplan, fields.acts_iff hplan⟩
    · exact ⟨hplan, snow.acts_iff hplan⟩
    · exact ⟨hplan, tropics.acts_iff hplan⟩
  obtain ⟨hagain, hacts⟩ := hplans
  obtain ⟨rfl, -⟩ := Prod.mk.inj (Except.ok.inj (hplan'.symm.trans hagain))
  refine ⟨touch', ?_, hacts, rfl, rfl⟩
  rintro later ⟨⟩
  exact (suits_of_plan hplan rfl).1

end Layer

/-- Fields, snow and zones take their words whatever the tiles. -/
theorem Turn.words_of_mem {layer : Layer} (hlayer : layer ∈ [.fields, .snow, .tropics])
    (m n : TileMap) (turn : Turn) : turn.words layer n = turn.words layer m := by
  simp only [List.mem_cons, List.not_mem_nil, or_false] at hlayer
  rcases hlayer with rfl | rfl | rfl <;> rfl

section

variable {a b : Import} {m n : TileMap} {ra rb rc : ImportReport} {ca cb cc : Canvas}

theorem Import.turns_of_mem (hlayer : b.layer ∈ [.fields, .snow, .tropics])
    (hextent : n.toExtent = m.toExtent) : b.turns n = b.turns m := by
  rw [turns, turns, hextent]
  exact Layer.turns_congr fun call _ d => Turn.words_of_mem hlayer m n ⟨call, d⟩

/-- In a turn of the later import, the tile is made as if the earlier one had not been there, or is
left as the earlier one has made it. -/
theorem Import.Makes.overpaint (ha : a.Makes m ra ca) (hb : b.Makes m rb cb)
    (hc : b.Makes ca.map rc cc) (hsame : a.layer = b.layer)
    (hlayer : b.layer ∈ [.fields, .snow, .tropics]) {turn : Turn} (hturn : turn ∈ b.turns m) :
    (b.layer.Acts turn.call.pixel turn.draws →
      cc.map.tile turn.call.tile = cb.map.tile turn.call.tile) ∧
    (¬ b.layer.Acts turn.call.pixel turn.draws →
      cc.map.tile turn.call.tile = ca.map.tile turn.call.tile) := by
  have hturn' : turn ∈ b.turns ca.map := by
    rwa [turns_of_mem hlayer ha.inTurn.toExtent]
  obtain ⟨-, t, o, d', ht, hbrush, htile⟩ := hb.inTurn.brushed turn hturn
  obtain ⟨-, t', o', d'', ht', hbrush', htile'⟩ := hc.inTurn.brushed turn hturn'
  rw [ha.inTurn.climate] at hbrush'
  obtain ⟨touch, htouch, hacts, rfl, rfl⟩ := Layer.touch_of_acting_brush hlayer hbrush hbrush'
  rw [htile, htile', ht', hacts]
  cases touch with
  | none => exact ⟨fun h => absurd h Bool.false_ne_true, fun _ => rfl⟩
  | some later =>
    refine ⟨fun _ => congrArg Except.ok ?_, fun h => absurd rfl h⟩
    have hlater : later.layer = b.layer := htouch later rfl
    -- what the earlier import has laid, if anything, is hidden now
    rcases ha.touched turn.call.tile with hkept | ⟨-, t₀, earlier, ht₀, hearlier, -, hlaid⟩
    · obtain rfl : t' = t := Except.ok.inj (ht'.symm.trans (hkept.trans ht))
      rfl
    · obtain rfl : t₀ = t := Except.ok.inj (ht₀.symm.trans ht)
      obtain rfl : t' = earlier.apply t₀ := Except.ok.inj (ht'.symm.trans hlaid)
      exact Touch.apply_apply_of_layer hlayer (hearlier.trans hsame) hlater t₀

/-- **The later import wins.** Of two imports of fields, of two of snow and of two of the tropics
layer, let both succeed on a map. Then the later one succeeds after the earlier one as well, with
the same report and draws. Every tile on which it acts is as the later one alone makes it, and every
other tile as the earlier one alone makes it, whatever the rasters and the parts of the map they
fall on. -/
theorem later_import_wins (ha : a.Makes m ra ca) (hb : b.Makes m rb cb) (hsame : a.layer = b.layer)
    (hlayer : b.layer ∈ [.fields, .snow, .tropics]) :
    (∃ c, b.Makes ca.map rb c) ∧
      ∀ report c, b.Makes ca.map report c →
        report = rb ∧ c.draws = cb.draws ∧ c.map.toExtent = m.toExtent ∧
          c.map.climate = m.climate ∧
          ∀ i, (b.ActsOn m i → c.map.tile i = cb.map.tile i) ∧
            (¬ b.ActsOn m i → c.map.tile i = ca.map.tile i) := by
  have hfirst := ha.inTurn
  obtain ⟨c', hc'⟩ := hb.exists_makes hfirst.toExtent hfirst.climate b.draws
  refine ⟨⟨c', hc'⟩, fun report c hc => ?_⟩
  obtain ⟨rfl, rfl⟩ := hc'.unique hc
  have hthen := hc.inTurn
  have hturns : b.turns ca.map = b.turns m := Import.turns_of_mem hlayer hfirst.toExtent
  have hwords : Turn.words b.layer ca.map = Turn.words b.layer m :=
    funext (Turn.words_of_mem hlayer m ca.map)
  refine ⟨rfl, ?_, hthen.toExtent.trans hfirst.toExtent, hthen.climate.trans hfirst.climate,
    fun i => ⟨?_, fun hidle => ?_⟩⟩
  · rw [hthen.draws, hb.inTurn.draws, hturns, hwords]
  · rintro ⟨turn, hturn, rfl, hacts⟩
    exact (ha.overpaint hb hc hsame hlayer hturn).1 hacts
  · rcases hthen.called_or_kept i with ⟨turn, hturn, rfl⟩ | hkept
    · rw [hturns] at hturn
      exact (ha.overpaint hb hc hsame hlayer hturn).2 fun hacts => hidle ⟨turn, hturn, rfl, hacts⟩
    · exact hkept

end

/-- Thin snow on deep snow. Two of the tiles that the later import visits have one pixel, and chance
has it act on the first of them only; the other one stays under deep snow. -/
theorem thin_snow_wins_where_it_falls :
    ∃ (deep thin : Import) (m : TileMap) (report report' : ImportReport) (ca cb c : Canvas),
      deep.layer = .snow ∧ thin.layer = .snow ∧ report.count.visited = 8 ∧
        report'.count.visited = 4 ∧ deep.Makes m report ca ∧ thin.Makes m report' cb ∧
        thin.Makes ca.map report' c ∧ thin.ActsOn m 8 ∧ ¬ thin.ActsOn m 9 ∧
        ca.map.tile 8 ≠ cb.map.tile 8 ∧ ca.map.tile 9 ≠ cb.map.tile 9 ∧
        c.map.tile 8 = cb.map.tile 8 ∧ c.map.tile 9 = ca.map.tile 9 := by
  let answer (pixels : Raster.Pixels) : Raster.Source :=
    .answering (.ok ⟨pixels.width, pixels.height, some pixels⟩)
  let request : Raster.Request := ⟨.png, "snow.png", .layers⟩
  let white := Raster.Pixels.plain 3 2 ⟨0, 0, 0xff⟩ (by decide)
  let grey := Raster.Pixels.plain 1 2 ⟨0, 0, 0x20⟩ (by decide)
  let deep : Import := ⟨.snow, {}, answer white, request, .fixed 0⟩
  let thin : Import := ⟨.snow, {}, answer grey, request, .cycle #[0, 0xffffffff]⟩
  let m := TileMap.plain 6 4 .arctic (by decide) (by decide)
  let snowed (depth : Nat) : Tile :=
    { Tile.fresh with surface := .clear { ClearLand.grass depth with snow := true } }
  let run (im : Import) :=
    (Workspace.load ⟨⟨m, im.draws⟩, false⟩ im.source im.settings im.layer im.request).map fun r =>
      (r.1, r.2.dirty, (r.2.map.tile 8).toOption, (r.2.map.tile 9).toOption)
  have hdeep : run deep =
      .ok (.ok ⟨.snow, 3, 2, ⟨8, 16⟩⟩, true, some (snowed 3), some (snowed 3)) := by decide +kernel
  have hthin : run thin =
      .ok (.ok ⟨.snow, 1, 2, ⟨4, 4⟩⟩, true, some (snowed 0), some .fresh) := by decide +kernel
  obtain ⟨⟨answer₁, ca, dirty₁⟩, hload, hvalue⟩ := Outcome.map_eq_ok.mp hdeep
  obtain ⟨⟨answer₂, cb, dirty₂⟩, hload', hvalue'⟩ := Outcome.map_eq_ok.mp hthin
  simp only [Prod.mk.injEq] at hvalue hvalue'
  obtain ⟨rfl, rfl, hdeep₈, hdeep₉⟩ := hvalue
  obtain ⟨rfl, rfl, hthin₈, hthin₉⟩ := hvalue'
  have hmakes : deep.Makes m ⟨.snow, 3, 2, ⟨8, 16⟩⟩ ca := ⟨false, hload⟩
  have hmakes' : thin.Makes m ⟨.snow, 1, 2, ⟨4, 4⟩⟩ cb := ⟨false, hload'⟩
  have hacts : thin.ActsOn m 8 := by decide +kernel
  have hidle : ¬ thin.ActsOn m 9 := by decide +kernel
  have hne₈ : ca.map.tile 8 ≠ cb.map.tile 8 := by
    intro heq
    rw [heq, hthin₈] at hdeep₈
    exact absurd hdeep₈ (by decide)
  have hne₉ : ca.map.tile 9 ≠ cb.map.tile 9 := by
    intro heq
    rw [heq, hthin₉] at hdeep₉
    exact absurd hdeep₉ (by decide)
  obtain ⟨⟨c, hthen⟩, hwins⟩ := later_import_wins hmakes hmakes' rfl (by decide)
  obtain ⟨-, -, -, -, htile⟩ := hwins _ c hthen
  exact ⟨deep, thin, m, _, _, ca, cb, c, rfl, rfl, rfl, rfl, hmakes, hmakes', hthen, hacts, hidle,
    hne₈, hne₉, (htile 8).1 hacts, (htile 9).2 hidle⟩

end MapPainter
