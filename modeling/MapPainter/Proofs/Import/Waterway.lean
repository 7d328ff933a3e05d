import MapPainter.Proofs.Import.Turns

/-!
# Waterways of an import

The water layer takes a word only for a tile that asks for bits, and also where a structure then
keeps the water out. So the word that a tile is given is numbered by the tiles that have asked
before it (`waterways_in_turn`).
-/

namespace MapPainter

open Layer.water (AsksForBits Floods)
open Projection (Call)

deriving instance DecidableEq for Projection.Call

/-- The pixel of the call asks for random bits for the tile, as the map has it. -/
def Projection.Call.asksForBits (m : TileMap) (call : Call) : Bool :=
  (m.tile call.tile).toOption.any (AsksForBits call.pixel)

/-- The words of some turns of the water layer are the bits that are asked for. -/
theorem sum_words_water (m : TileMap) (turns : List Turn) :
    (turns.map (Turn.words .water m)).sum = (turns.map Turn.call).countP (Call.asksForBits m) := by
  induction turns with
  | nil => rfl
  | cons turn turns ih =>
    have hwords : turn.words .water m = if turn.call.asksForBits m then 1 else 0 := rfl
    rw [List.map_cons, List.sum_cons, ih, List.map_cons, List.countP_cons, hwords, Nat.add_comm]

variable {im : Import} {m : TileMap} {report : ImportReport} {c : Canvas}

/-- **Waterways in turn.** An import of the water layer keeps the size and the climate of a map and
all tiles that it does not call. A tile that it calls becomes a canal, a river, sea or none of them
as its pixel asks, and a structure stays as it is. Bits are the words of the source one after the
other, one for each tile that asks for bits, structures among them. -/
theorem waterways_in_turn (h : im.Makes m report c) (hwater : im.layer = .water) :
    c.map.toExtent = m.toExtent ∧ c.map.climate = m.climate ∧
      (∃ pixels p, im.source.pixels im.request = .ok pixels ∧
        Projection.fit pixels.width pixels.height m.sizeX m.sizeY im.settings.rotation = .ok p ∧
        im.calls m.toExtent = p.calls m.toExtent pixels) ∧
      (∀ i, i ∉ (im.calls m.toExtent).map Call.tile → c.map.tile i = m.tile i) ∧
      ∀ before call after, im.calls m.toExtent = before ++ call :: after →
        ∃ t t', m.tile call.tile = .ok t ∧ c.map.tile call.tile = .ok t' ∧
          Floods call.pixel
            (im.draws.word (im.draws.taken + before.countP (Call.asksForBits m))) t t' := by
  have hturn := h.inTurn
  refine ⟨hturn.toExtent, hturn.climate, hturn.calls, fun i hi => ?_, ?_⟩
  · refine hturn.frame i fun turn hmem heq => hi ?_
    rw [← Import.map_call_turns, List.map_map]
    exact List.mem_map.mpr ⟨turn, hmem, heq⟩
  · intro before call after hsplit
    rw [← Import.map_call_turns] at hsplit
    obtain ⟨turnsBefore, rest, hturns, rfl, hrest⟩ := List.map_eq_append_iff.mp hsplit
    obtain ⟨turn, turnsAfter, rfl, rfl, -⟩ := List.map_eq_cons_iff.mp hrest
    have hmem : turn ∈ im.turns m := hturns ▸ List.mem_append_right _ List.mem_cons_self
    obtain ⟨-, t, o, d', ht, hbrush, htile⟩ := hturn.brushed turn hmem
    have hdraws : turn.draws = im.draws.advance
        ((turnsBefore.map Turn.call).countP (Call.asksForBits m)) := by
      rw [Layer.draws_of_turns_eq_append hturns, hwater, sum_words_water]
    rw [hwater] at hbrush
    have hfloods := Layer.water.floods_of_brush hbrush
    rw [hdraws] at hfloods
    exact ⟨t, o.getD t, ht, htile, hfloods⟩

/-- Bright red and green over four tiles: the sea's own flat tile becomes a canal of nobody, a
structure keeps out a second canal, a half tile gets a river and a slope nothing. The structure has
taken the second word, so the river has the third. -/
theorem canal_and_river_in_turn :
    ∃ (im : Import) (m : TileMap) (report : ImportReport) (c : Canvas), im.layer = .water ∧
      im.draws = .cycle #[7, 8, 9, 10] ∧ im.Makes m report c ∧
      (im.calls m.toExtent).map Call.tile = [5, 6, 9, 10] ∧
      (im.calls m.toExtent).map (Call.asksForBits m) = [true, true, true, false] ∧
      m.tile 5 = .ok { Tile.fresh with owner := .water } ∧
      c.map.tile 5 = .ok { Tile.fresh with surface := .water ⟨.canal, 7⟩ } ∧
      c.map.tile 6 = .ok { Tile.fresh with surface := .built } ∧
      c.map.tile 9 = .ok { Tile.fresh with
        slope := ⟨0x21⟩, owner := .water, surface := .water ⟨.river, 9⟩ } ∧
      c.map.tile 10 = .ok { Tile.fresh with slope := ⟨1⟩ } := by
  let pixels := Raster.Pixels.plain 2 2 ⟨0xff, 0xff, 0⟩ (by decide)
  let source : Raster.Source := .answering (.ok ⟨2, 2, some pixels⟩)
  let im : Import := ⟨.water, {}, source, ⟨.png, "water.png", .base⟩, .cycle #[7, 8, 9, 10]⟩
  let sea : Tile := { Tile.fresh with owner := .water }
  let house : Tile := { Tile.fresh with surface := .built }
  let half : Tile := { Tile.fresh with slope := ⟨0x21⟩ }
  let hill : Tile := { Tile.fresh with slope := ⟨1⟩ }
  let plain := TileMap.plain 4 4 .temperate (by decide) (by decide)
  let m := (((plain.put 5 sea).put 6 house).put 9 half).put 10 hill
  have hrun : (Workspace.load ⟨⟨m, im.draws⟩, false⟩ im.source im.settings im.layer im.request).map
      (fun r => (r.1, r.2.dirty)) = .ok (.ok ⟨.water, 2, 2, ⟨4, 12⟩⟩, true) := by decide +kernel
  obtain ⟨⟨answer, c, dirty⟩, hload, hvalue⟩ := Outcome.map_eq_ok.mp hrun
  simp only [Prod.mk.injEq] at hvalue
  obtain ⟨rfl, rfl⟩ := hvalue
  have hmakes : im.Makes m ⟨.water, 2, 2, ⟨4, 12⟩⟩ c := ⟨false, hload⟩
  let call (row col tile : Nat) : Call := ⟨row, col, ⟨0xff, 0xff, 0⟩, tile⟩
  have hcalls : im.calls m.toExtent = [call 1 1 5, call 1 2 6, call 2 1 9, call 2 2 10] := by
    decide +kernel
  obtain ⟨-, -, -, -, hturns⟩ := waterways_in_turn hmakes rfl
  obtain ⟨t₅, t₅', ht₅, ht₅', h₅⟩ := hturns [] _ _ hcalls
  obtain ⟨t₆, t₆', ht₆, ht₆', h₆⟩ := hturns [_] _ _ hcalls
  obtain ⟨t₉, t₉', ht₉, ht₉', h₉⟩ := hturns [_, _] _ _ hcalls
  obtain ⟨t₁₀, t₁₀', ht₁₀, ht₁₀', h₁₀⟩ := hturns [_, _, _] _ _ hcalls
  obtain rfl : sea = t₅ := Except.ok.inj ht₅
  obtain rfl : house = t₆ := Except.ok.inj ht₆
  obtain rfl : half = t₉ := Except.ok.inj ht₉
  obtain rfl : hill = t₁₀ := Except.ok.inj ht₁₀
  refine ⟨im, m, _, c, rfl, rfl, hmakes, by rw [hcalls]; rfl, by rw [hcalls]; decide +kernel, rfl,
    ?_, ?_, ?_, ?_⟩
  · rw [ht₅', h₅.canal (by decide) ⟨by decide, rfl⟩]
    decide +kernel
  · rw [ht₆', h₆.built rfl]
  · rw [ht₉', h₉.river (by decide) ⟨by decide, Or.inl (by decide)⟩]
    decide +kernel
  · have hnone : Layer.wantedWater ⟨0xff, 0xff, 0⟩ hill.slope hill.height = none := by decide
    have hdry : ∀ cls, ¬ Layer.water.Asks ⟨0xff, 0xff, 0⟩ hill cls := by
      intro cls
      rw [← Layer.water.wantedWater_eq_some_iff, hnone]
      exact Option.some_ne_none cls ∘ Eq.symm
    rw [ht₁₀', h₁₀.dry hdry]

end MapPainter
