import MapPainter.Proofs.Import.History

/-!
# Imports abreast

An import is done on two maps of one extent and climate, from two sources of draws. If at every tile
its brush keeps up a relation between the draws, and leaves the two tiles in a relation that they
have been in before or come into now, then so does the whole import (`Import.Makes.abreast`): it
succeeds on the one map if it does on the other, and reports the same. No tile is met twice, so
each is met as the two maps have it at the start.
-/

namespace MapPainter

/-- The brush of a layer, done on two tiles from sources that are related, takes words that leave
them related and makes two tiles that are related. -/
def Layer.Abreast (layer : Layer) (settings : ImportSettings) (climate : Climate)
    (pixel : Raster.Rgb) (R : Draws → Draws → Prop)
    (Q : Except Fault Tile → Except Fault Tile → Prop) (t t' : Tile) : Prop :=
  ∀ d e o d', R d e → layer.brush settings ⟨climate, .ok t⟩ pixel d = .ok (o, d') →
    ∃ o' e', layer.brush settings ⟨climate, .ok t'⟩ pixel e = .ok (o', e') ∧ R d' e' ∧
      Q (.ok (o.getD t)) (.ok (o'.getD t'))

variable {m n : TileMap} {R : Draws → Draws → Prop}
  {Q : Nat → Except Fault Tile → Except Fault Tile → Prop}

namespace Canvas

open Projection (Call onCall)

variable {layer : Layer} {settings : ImportSettings} {d e : Draws} {c : Canvas}

theorem stroke_abreast {pixel : Raster.Rgb} {i : Nat} {t t' : Tile}
    (h : Canvas.stroke layer settings ⟨m, d⟩ pixel i = .ok c) (hclimate : n.climate = m.climate)
    (hdraws : R d e) (ht : m.tile i = .ok t) (ht' : n.tile i = .ok t')
    (hstep : layer.Abreast settings m.climate pixel R (Q i) t t') :
    ∃ c', Canvas.stroke layer settings ⟨n, e⟩ pixel i = .ok c' ∧ R c.draws c'.draws ∧
      Q i (c.map.tile i) (c'.map.tile i) := by
  obtain ⟨o, hbrush, hmap⟩ := stroke_eq_ok.mp h
  rw [Spot.ofMap, ht] at hbrush
  obtain ⟨o', e', hbrush', hdraws', hdone⟩ := hstep d e o c.draws hdraws hbrush
  refine ⟨⟨settle n i o', e'⟩, stroke_eq_ok.mpr ⟨o', ?_, rfl⟩, hdraws', ?_⟩
  · rw [Spot.ofMap, ht', hclimate]
    exact hbrush'
  · rw [hmap, settle_tile ht, settle_tile ht']
    exact hdone

theorem foldlM_abreast {calls : List Call} (hnodup : (calls.map Call.tile).Nodup)
    (hclimate : n.climate = m.climate) (hdraws : R d e)
    (hstart : ∀ i, Q i (m.tile i) (n.tile i))
    (hstep : ∀ call ∈ calls, ∃ t t', m.tile call.tile = .ok t ∧ n.tile call.tile = .ok t' ∧
      layer.Abreast settings m.climate call.pixel R (Q call.tile) t t')
    (h : calls.foldlM (onCall (stroke layer settings)) ⟨m, d⟩ = .ok c) :
    ∃ c', calls.foldlM (onCall (stroke layer settings)) ⟨n, e⟩ = .ok c' ∧ R c.draws c'.draws ∧
      ∀ i, Q i (c.map.tile i) (c'.map.tile i) := by
  induction calls generalizing m n d e with
  | nil =>
    cases h
    exact ⟨⟨n, e⟩, rfl, hdraws, hstart⟩
  | cons call calls ih =>
    obtain ⟨c₁, hstroke, hrest⟩ := Outcome.foldlM_cons_eq_ok.mp h
    obtain ⟨hnot, hnodup⟩ := List.nodup_cons.mp hnodup
    obtain ⟨t, t', ht, ht', habreast⟩ := hstep call List.mem_cons_self
    obtain ⟨c₁', hstroke', hdraws₁, hmet⟩ :=
      stroke_abreast hstroke hclimate hdraws ht ht' habreast
    have hclimate₁ : c₁'.map.climate = c₁.map.climate := by
      rw [stroke_climate hstroke, stroke_climate hstroke', hclimate]
    have hother : ∀ i, call.tile ≠ i → c₁.map.tile i = m.tile i ∧ c₁'.map.tile i = n.tile i :=
      fun i hi => ⟨stroke_tile_of_ne hstroke hi, stroke_tile_of_ne hstroke' hi⟩
    have hstart₁ : ∀ i, Q i (c₁.map.tile i) (c₁'.map.tile i) := by
      intro i
      by_cases hi : call.tile = i
      · exact hi ▸ hmet
      · rw [(hother i hi).1, (hother i hi).2]
        exact hstart i
    have hstep₁ : ∀ later ∈ calls, ∃ s s', c₁.map.tile later.tile = .ok s ∧
        c₁'.map.tile later.tile = .ok s' ∧
        layer.Abreast settings c₁.map.climate later.pixel R (Q later.tile) s s' := by
      -- the first stroke is not on the tile of a later one
      intro later hlater
      have hne : call.tile ≠ later.tile := fun heq => hnot (heq ▸ List.mem_map_of_mem hlater)
      rw [(hother _ hne).1, (hother _ hne).2, stroke_climate hstroke]
      exact hstep later (List.mem_cons_of_mem call hlater)
    obtain ⟨c', hfold, hdone⟩ := ih hnodup hclimate₁ hdraws₁ hstart₁ hstep₁ hrest
    exact ⟨c', Outcome.foldlM_cons_eq_ok.mpr ⟨c₁', hstroke', hfold⟩, hdone⟩

end Canvas

/-- What the brush keeps up on every tile, an import keeps up on the two maps. -/
theorem Import.Makes.abreast {im : Import} {report : ImportReport} {c : Canvas} {d : Draws}
    (h : im.Makes m report c) (hextent : n.toExtent = m.toExtent) (hclimate : n.climate = m.climate)
    (hdraws : R im.draws d) (hstart : ∀ i, Q i (m.tile i) (n.tile i))
    (hstep : ∀ i t t', m.tile i = .ok t → n.tile i = .ok t' → ∀ pixel, im.Shows pixel →
      im.layer.Abreast im.settings m.climate pixel R (Q i) t t') :
    ∃ c', { im with draws := d }.Makes n report c' ∧ R c.draws c'.draws ∧
      ∀ i, Q i (c.map.tile i) (c'.map.tile i) := by
  obtain ⟨pixels, progress, hpixels, hpaint, rfl, rfl⟩ := makes_iff.mp h
  obtain ⟨p, hfit, hall, hfold, hcount⟩ := Canvas.paint_eq_ok.mp hpaint
  have hcalls : ∀ call ∈ p.calls m.toExtent pixels, ∃ t t', m.tile call.tile = .ok t ∧
      n.tile call.tile = .ok t' ∧
      im.layer.Abreast im.settings m.climate call.pixel R (Q call.tile) t t' := by
    intro call hcall
    obtain ⟨hshows, htile⟩ := of_mem_calls hpixels hcall
    obtain ⟨t, ht⟩ := htile m rfl
    obtain ⟨t', ht'⟩ := htile n hextent
    exact ⟨t, t', ht, ht', hstep _ t t' ht ht' _ hshows⟩
  obtain ⟨c', hfold', hdone⟩ :=
    Canvas.foldlM_abreast (p.calls_tile_nodup _ _) hclimate hdraws hstart hcalls hfold
  have hpaint' : Canvas.paint ⟨n, d⟩ im.layer im.settings pixels = .ok ⟨c', progress.count⟩ := by
    refine Canvas.paint_eq_ok.mpr ⟨p, ?_, ?_⟩
    · rw [hextent]
      exact hfit
    · rw [hextent]
      exact ⟨hall, hfold', hcount⟩
  exact ⟨c', makes_iff.mpr ⟨pixels, _, hpixels, hpaint', rfl, rfl⟩, hdone⟩

end MapPainter
