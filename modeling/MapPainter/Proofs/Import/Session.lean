import MapPainter.Proofs.Import.Pass
import MapPainter.Proofs.Raster.Pixels
import MapPainter.TileMap.Census

/-!
# Sessions

In a session imports alternate with other steps: rasters are put on the shelf, the request for a
repaint is taken up, and a new source of draws takes the place of the old one. An import that is
refused leaves no trace at all, and one that succeeds has painted the whole raster
(`Workshop.Loads`). At any time a repaint is due exactly if an import has succeeded since the
request was last taken up (`Workshop.loads_all_or_nothing`).
-/

namespace MapPainter

open Raster (Source Shelf Pixels Request)

/-- Why a source is refused. -/
inductive Raster.Source.Refused (source : Source) (request : Request) : ImportError → Prop
  | unread {error : Raster.ReadError} (h : source request .full = .error error) :
      source.Refused request (.unread error)
  | missingPixels {image : Raster.Image} (h : source request .full = .ok image)
      (hnone : image.pixels = none) : source.Refused request (.missingPixels request.locator)

/-- A workspace with rasters at hand. -/
structure Workshop extends Workspace where
  shelf : Shelf

namespace Workshop

inductive Step where
  /-- Imports a layer, from the shelf or from another source. -/
  | load (source : Option Source) (settings : ImportSettings) (layer : Layer) (request : Request)
  | insert (locator : String) (pixels : Pixels)
  /-- Takes up the request for a repaint, if there is one. -/
  | take
  /-- Goes on with other draws. -/
  | reseed (draws : Draws)

inductive Answer where
  | loaded (result : Except ImportError ImportReport)
  | taken (due : Bool)
  | done
  deriving DecidableEq

/-- A step with what came of it. -/
structure Event where
  step : Step
  answer : Answer

def perform (s : Workshop) : Step → Except Fault (Answer × Workshop)
  | .load source settings layer request => do
    let (result, w) ← s.toWorkspace.load (source.getD s.shelf.read) settings layer request
    return (.loaded result, { s with toWorkspace := w })
  | .insert locator pixels => .ok (.done, { s with shelf := s.shelf.insert locator pixels })
  | .take =>
    let (due, w) := s.toWorkspace.takeDirty
    .ok (.taken due, { s with toWorkspace := w })
  | .reseed draws => .ok (.done, { s with draws := draws })

/-- Performs steps one after the other; a fault ends the session. -/
def run (s : Workshop) : List Step → Except Fault (List Event × Workshop)
  | [] => .ok ([], s)
  | step :: steps => do
    let (answer, s) ← s.perform step
    let (events, s) ← s.run steps
    return (⟨step, answer⟩ :: events, s)

/-- What becomes of a session by a load, according to its result. -/
inductive Loads (s : Workshop) (source : Source) (settings : ImportSettings) (layer : Layer)
    (request : Request) : Except ImportError ImportReport → Workshop → Prop
  /-- Nothing. -/
  | refused {error : ImportError} (h : source.Refused request error) :
      s.Loads source settings layer request (.error error) s
  /-- One pass with the pixels of the source, counted in full, and the request for a repaint. -/
  | painted {image : Raster.Image} {pixels : Pixels} {p : Projection}
      {progress : Projection.Progress Canvas} (hread : source request .full = .ok image)
      (hpixels : image.pixels = some pixels)
      (hpaint : s.toCanvas.paint layer settings pixels = .ok progress)
      (hfit : Projection.fit pixels.width pixels.height s.map.sizeX s.map.sizeY
        settings.rotation = .ok p)
      (hvisited : progress.count.visited = (p.calls s.map.toExtent pixels).length)
      (hcount : progress.count.visited + progress.count.border = p.footprint.length) :
      s.Loads source settings layer request
        (.ok ⟨layer, pixels.width, pixels.height, progress.count⟩)
        { s with toCanvas := progress.state, dirty := true }

def Event.Succeeded (e : Event) : Prop := ∃ report, e.answer = .loaded (.ok report)

/-- A load has succeeded, and no request for a repaint has been taken up after it. -/
def RepaintDue (events : List Event) : Prop :=
  ∃ before e after, events = before ++ e :: after ∧ e.Succeeded ∧
    ∀ later ∈ after, later.step ≠ .take

variable {s s' : Workshop} {step : Step} {steps : List Step} {answer : Answer}
  {events : List Event} {source : Source} {settings : ImportSettings} {layer : Layer}
  {request : Request} {source? : Option Source}

theorem pixels_eq_error {error : ImportError} (h : source.pixels request = .error error) :
    source.Refused request error := by
  unfold Source.pixels at h
  split at h
  case h_1 error' hread =>
    cases h
    exact .unread hread
  case h_2 image hread =>
    split at h
    case h_1 hnone =>
      cases h
      exact .missingPixels hread hnone
    case h_2 => cases h

theorem pixels_eq_ok {pixels : Pixels} (h : source.pixels request = .ok pixels) :
    ∃ image, source request .full = .ok image ∧ image.pixels = some pixels := by
  unfold Source.pixels at h
  split at h
  case h_1 => cases h
  case h_2 image hread =>
    split at h
    case h_1 => cases h
    case h_2 pixels' hpixels =>
      cases h
      exact ⟨image, hread, hpixels⟩

theorem loads_of_load {result : Except ImportError ImportReport} {w : Workspace}
    (h : s.toWorkspace.load source settings layer request = .ok (result, w)) :
    s.Loads source settings layer request result { s with toWorkspace := w } := by
  cases result with
  | error error =>
    obtain ⟨herror, rfl⟩ := Workspace.load_eq_error.mp h
    exact .refused (pixels_eq_error herror)
  | ok report =>
    obtain ⟨pixels, progress, hpixels, hpaint, rfl, rfl⟩ := Workspace.load_eq_ok.mp h
    obtain ⟨image, hread, hsome⟩ := pixels_eq_ok hpixels
    obtain ⟨p, hfit, -, -, hvisited, hborder⟩ := Canvas.paint_eq_ok.mp hpaint
    exact .painted hread hsome hpaint hfit hvisited (by omega)

theorem Loads.dirty_iff {result : Except ImportError ImportReport}
    (h : s.Loads source settings layer request result s') :
    s'.dirty = true ↔ (∃ report, result = .ok report) ∨ s.dirty = true := by
  cases h with
  | refused => simp
  | painted => simp

theorem perform_load (h : s.perform (.load source? settings layer request) = .ok (answer, s')) :
    ∃ result, answer = .loaded result ∧
      s.Loads (source?.getD s.shelf.read) settings layer request result s' := by
  obtain ⟨⟨result, w⟩, hload, h⟩ := Outcome.bind_eq_ok.mp h
  cases h
  exact ⟨result, rfl, loads_of_load hload⟩

/-- A step leaves a repaint due if it is a load that succeeds, or if a repaint was due and the step
does not take it up. -/
theorem dirty_of_perform (h : s.perform step = .ok (answer, s')) :
    s'.dirty = true ↔ (⟨step, answer⟩ : Event).Succeeded ∨ s.dirty = true ∧ step ≠ .take := by
  unfold Event.Succeeded
  cases step with
  | load source? settings layer request =>
    obtain ⟨result, rfl, hloads⟩ := perform_load h
    simp [hloads.dirty_iff]
  | insert locator pixels =>
    cases h
    simp
  | take =>
    cases h
    simp
  | reseed draws =>
    cases h
    simp

theorem repaintDue_cons {e : Event} :
    RepaintDue (e :: events) ↔
      RepaintDue events ∨ e.Succeeded ∧ ∀ later ∈ events, later.step ≠ .take := by
  constructor
  · rintro ⟨before, e', after, heq, hsucceeded, hkept⟩
    cases before with
    | nil =>
      obtain ⟨rfl, rfl⟩ := List.cons.inj heq
      exact Or.inr ⟨hsucceeded, hkept⟩
    | cons first before =>
      obtain ⟨rfl, rfl⟩ := List.cons.inj heq
      exact Or.inl ⟨before, e', after, rfl, hsucceeded, hkept⟩
  · rintro (⟨before, e', after, rfl, hsucceeded, hkept⟩ | ⟨hsucceeded, hkept⟩)
    · exact ⟨e :: before, e', after, rfl, hsucceeded, hkept⟩
    · exact ⟨[], e, events, rfl, hsucceeded, hkept⟩

theorem run_cons_eq_ok :
    s.run (step :: steps) = .ok (events, s') ↔
      ∃ answer s₁ rest, s.perform step = .ok (answer, s₁) ∧ s₁.run steps = .ok (rest, s') ∧
        events = ⟨step, answer⟩ :: rest := by
  simp only [run, Outcome.bind_eq_ok, Outcome.pure_eq_ok, Except.ok.injEq, Prod.mk.injEq]
  constructor
  · rintro ⟨⟨answer, s₁⟩, hstep, ⟨rest, s₂⟩, hrest, rfl, rfl⟩
    exact ⟨answer, s₁, rest, hstep, hrest, rfl⟩
  · rintro ⟨answer, s₁, rest, hstep, hrest, rfl⟩
    exact ⟨(answer, s₁), hstep, (rest, s'), hrest, rfl, rfl⟩

/-- Every step of a session has been performed at its turn. -/
theorem run_split {before after : List Step}
    (h : s.run (before ++ step :: after) = .ok (events, s')) :
    ∃ done answer rest s₁ s₂, s.run before = .ok (done, s₁) ∧
      s₁.perform step = .ok (answer, s₂) ∧ s₂.run after = .ok (rest, s') ∧
      events = done ++ ⟨step, answer⟩ :: rest := by
  induction before generalizing s events with
  | nil =>
    obtain ⟨answer, s₂, rest, hstep, hrest, rfl⟩ := run_cons_eq_ok.mp h
    exact ⟨[], answer, rest, s, s₂, rfl, hstep, hrest, rfl⟩
  | cons first before ih =>
    obtain ⟨answer₀, s₀, later, hfirst, hlater, rfl⟩ := run_cons_eq_ok.mp h
    obtain ⟨done, answer, rest, s₁, s₂, hdone, hstep, hrest, rfl⟩ := ih hlater
    exact ⟨_, answer, rest, s₁, s₂, run_cons_eq_ok.mpr ⟨_, _, _, hfirst, hdone, rfl⟩, hstep,
      hrest, rfl⟩

/-- After a session a repaint is due for what happened in it, or has been due from the start. -/
theorem dirty_of_run (h : s.run steps = .ok (events, s')) :
    s'.dirty = true ↔
      RepaintDue events ∨ s.dirty = true ∧ ∀ e ∈ events, e.step ≠ .take := by
  induction steps generalizing s events with
  | nil =>
    cases h
    have hnone : ¬ RepaintDue [] := by
      rintro ⟨before, e, after, heq, -⟩
      exact List.append_ne_nil_of_right_ne_nil before (List.cons_ne_nil e after) heq.symm
    simp [hnone]
  | cons step steps ih =>
    obtain ⟨answer, s₁, rest, hstep, hrest, rfl⟩ := run_cons_eq_ok.mp h
    rw [ih hrest, dirty_of_perform hstep, repaintDue_cons, List.forall_mem_cons]
    tauto

/-- **Imports are all or nothing.** In a session that starts without a request for a repaint, let
loads from whatever sources alternate with whatever else. A load that its source refuses, be it with
an error or with a size and no pixels, leaves map, draws and request exactly as they are. A load
that succeeds asks for a repaint and reports the sides of the raster that it has painted, with the
counts of the pass. And at any point a repaint is due exactly if some load has succeeded since the
request was last taken up. -/
theorem loads_all_or_nothing (hclean : s.dirty = false)
    (h : s.run steps = .ok (events, s')) :
    (s'.dirty = true ↔ RepaintDue events) ∧
      ∀ before step after, steps = before ++ step :: after →
        ∃ done answer rest s₁ s₂, s.run before = .ok (done, s₁) ∧
          s₁.perform step = .ok (answer, s₂) ∧ s₂.run after = .ok (rest, s') ∧
          events = done ++ ⟨step, answer⟩ :: rest ∧ (s₁.dirty = true ↔ RepaintDue done) ∧
          ∀ source? settings layer request, step = .load source? settings layer request →
            ∃ result, answer = .loaded result ∧
              s₁.Loads (source?.getD s₁.shelf.read) settings layer request result s₂ := by
  have hdue : ∀ {steps events s'}, s.run steps = .ok (events, s') →
      (s'.dirty = true ↔ RepaintDue events) := by
    intro steps events s' hrun
    rw [dirty_of_run hrun, hclean]
    simp
  refine ⟨hdue h, ?_⟩
  rintro before step after rfl
  obtain ⟨done, answer, rest, s₁, s₂, hdone, hstep, hrest, heq⟩ := run_split h
  refine ⟨done, answer, rest, s₁, s₂, hdone, hstep, hrest, heq, hdue hdone, ?_⟩
  rintro source? settings layer request rfl
  exact perform_load hstep

/-- Snow is asked for before it is on the shelf, then from the shelf, which lays it on the four
tiles inside the map, then from a source that knows its size only, which changes nothing. The
request for a repaint is taken up after that, and a source that fails does not renew it. -/
theorem snow_session :
    ∃ (s s' : Workshop) (steps : List Step) (events : List Event), s.dirty = false ∧
      s.run steps = .ok (events, s') ∧
      events.map Event.answer =
        [.loaded (.error (.unread (.notFound "snow.png"))), .done,
          .loaded (.ok ⟨.snow, 2, 2, ⟨4, 12⟩⟩), .loaded (.error (.missingPixels "snow.png")),
          .taken true, .loaded (.error (.unread (.undecodable .header)))] ∧
      s'.draws.taken = 4 ∧ s'.map.census = { grass := 12, snow := 4 } ∧ ¬ RepaintDue events ∧
      ∃ (done : List Event) (s₁ : Workshop), RepaintDue done ∧
        s₁.Loads (.answering (.ok ⟨4, 4, none⟩)) {} .snow ⟨.png, "snow.png", .layers⟩
          (.error (.missingPixels "snow.png")) s₁ := by
  let map := TileMap.plain 4 4 .arctic (by decide) (by decide)
  let s : Workshop := ⟨⟨⟨map, .fixed 0⟩, false⟩, .empty⟩
  let request : Request := ⟨.png, "snow.png", .layers⟩
  let snow := Pixels.plain 2 2 ⟨0, 0, 120⟩ (by decide)
  let before : List Step :=
    [.load none {} .snow request, .insert "snow.png" snow, .load none {} .snow request]
  let sizeOnly : Step := .load (some (.answering (.ok ⟨4, 4, none⟩))) {} .snow request
  let after : List Step :=
    [.take, .load (some (.answering (.error (.undecodable .header)))) {} .snow request]
  have hvalues : (s.run (before ++ sizeOnly :: after)).map
      (fun r => (r.1.map Event.answer, r.2.draws.taken, r.2.map.census, r.2.dirty)) =
        .ok ([.loaded (.error (.unread (.notFound "snow.png"))), .done,
          .loaded (.ok ⟨.snow, 2, 2, ⟨4, 12⟩⟩), .loaded (.error (.missingPixels "snow.png")),
          .taken true, .loaded (.error (.unread (.undecodable .header)))],
          4, { grass := 12, snow := 4 }, false) := by decide +kernel
  have hpainted : (s.run before).map (fun r => r.2.dirty) = .ok true := by decide +kernel
  obtain ⟨⟨events, s'⟩, hrun, hvalue⟩ := Outcome.map_eq_ok.mp hvalues
  simp only [Prod.mk.injEq] at hvalue
  obtain ⟨hanswers, htaken, hcensus, hdirty⟩ := hvalue
  obtain ⟨hdue, hsteps⟩ := loads_all_or_nothing rfl hrun
  obtain ⟨done, answer, rest, s₁, s₂, hdone, -, -, -, hdue₁, hload⟩ := hsteps before _ after rfl
  obtain ⟨result, -, hloads⟩ := hload _ _ _ _ rfl
  rw [hdone] at hpainted
  have hnot : ¬ RepaintDue events := fun h => by simp [hdue.mpr h] at hdirty
  refine ⟨s, s', _, events, rfl, hrun, hanswers, htaken, hcensus, hnot, done, s₁,
    hdue₁.mp (Except.ok.inj hpainted), ?_⟩
  cases hloads with
  | refused hrefused =>
    cases hrefused with
    | unread hread => cases hread
    | missingPixels hread hnone => exact .refused (.missingPixels hread hnone)
  | painted hread hpixels =>
    cases hread
    cases hpixels

end Workshop

end MapPainter
