import MapPainter.Proofs.Import.Pass
import MapPainter.Proofs.Raster.Stocked

/-!
# Probes

A probe asks a source for the size of a raster, an import for its pixels. For the sources of this
library both find the same: an import is refused for what a probe is refused for, and one that
succeeds has painted a raster of the size that a probe gives (`Raster.Stocked.probe_agrees`). Only
what is wrong with the pixels behind a sound header comes as a surprise, or that the file cannot be
opened once more for them.
-/

namespace MapPainter

open Raster (Source Request Pixels Stocked ValidSize)

namespace Raster.Stocked

variable {source : Source} {request : Request}

/-- What a probe and an import find at the same source. -/
theorem found (h : Stocked source) (request : Request) :
    (∃ error, source.probe request = .error error ∧ source.pixels request = .error error) ∨
    (∃ width height error, source.probe request = .ok (width, height) ∧ ValidSize width height ∧
      error.Late ∧ source.pixels request = .error (.unread error)) ∨
    ∃ pixels : Pixels, source.probe request = .ok (pixels.width, pixels.height) ∧
      source.pixels request = .ok pixels := by
  cases h.answers request with
  | @refused error hsize hpixels =>
    exact Or.inl ⟨.unread error, by rw [Source.probe, hsize], by rw [Source.pixels, hpixels]⟩
  | @late image error hvalid hlate hsize hpixels =>
    exact Or.inr (Or.inl ⟨image.width, image.height, error, by rw [Source.probe, hsize], hvalid,
      hlate, by rw [Source.pixels, hpixels]⟩)
  | @read pixels hsize hpixels =>
    exact Or.inr (Or.inr ⟨pixels, by rw [Source.probe, hsize], by rw [Source.pixels, hpixels]⟩)

theorem pixels_of_probe_error (h : Stocked source) {error : ImportError}
    (hprobe : source.probe request = .error error) : source.pixels request = .error error := by
  rcases h.found request with ⟨error', hprobe', hpixels⟩ | ⟨_, _, _, hprobe', -⟩ |
    ⟨pixels, hprobe', -⟩
  · obtain rfl := Except.error.inj (hprobe.symm.trans hprobe')
    exact hpixels
  · cases hprobe.symm.trans hprobe'
  · cases hprobe.symm.trans hprobe'

theorem probe_of_pixels (h : Stocked source) {pixels : Pixels}
    (hpixels : source.pixels request = .ok pixels) :
    source.probe request = .ok (pixels.width, pixels.height) := by
  rcases h.found request with ⟨error, -, hpixels'⟩ | ⟨_, _, _, -, -, -, hpixels'⟩ |
    ⟨pixels', hprobe, hpixels'⟩
  · cases hpixels.symm.trans hpixels'
  · cases hpixels.symm.trans hpixels'
  · obtain rfl := Except.ok.inj (hpixels.symm.trans hpixels')
    exact hprobe

theorem validSize_of_probe (h : Stocked source) {width height : Nat}
    (hprobe : source.probe request = .ok (width, height)) : ValidSize width height := by
  rcases h.found request with ⟨error, hprobe', -⟩ | ⟨width', height', _, hprobe', hvalid, -⟩ |
    ⟨pixels, hprobe', -⟩
  · cases hprobe.symm.trans hprobe'
  · obtain ⟨rfl, rfl⟩ := Prod.mk.inj (Except.ok.inj (hprobe.symm.trans hprobe'))
    exact hvalid
  · obtain ⟨rfl, rfl⟩ := Prod.mk.inj (Except.ok.inj (hprobe.symm.trans hprobe'))
    exact pixels.valid

/-- What an import is refused for, a probe is refused for as well, or it is late. -/
theorem probe_error_or_late (h : Stocked source) {error : ImportError}
    (hpixels : source.pixels request = .error error) :
    source.probe request = .error error ∨ ∃ late, late.Late ∧ error = .unread late := by
  rcases h.found request with ⟨error', hprobe, hpixels'⟩ | ⟨_, _, late, -, -, hlate, hpixels'⟩ |
    ⟨pixels', -, hpixels'⟩
  · obtain rfl := Except.error.inj (hpixels.symm.trans hpixels')
    exact Or.inl hprobe
  · exact Or.inr ⟨late, hlate, Except.error.inj (hpixels.symm.trans hpixels')⟩
  · cases hpixels.symm.trans hpixels'

/-- **A probe tells what an import will find.** At a shelf in any state, or in a folder over files
with any contents, some of which may refuse to be opened, let the files stay as they are and the
decoders agree with the headers. Then the error of a probe is the error of any import, which leaves
everything as it is. An import that is refused for another error has met it in the pixels: the file
could not be opened once more or not be decoded, or the bytes were too many or too few. An import
that succeeds reports the size that a probe gives. And a raster that is painted has the size that a
probe gives, which is always a valid one, and three bytes for each of its pixels. -/
theorem probe_agrees (h : Stocked source) (request : Request) :
    (∀ error, source.probe request = .error error →
      ∀ (w : Workspace) (settings : ImportSettings) (layer : Layer),
        w.load source settings layer request = .ok (.error error, w)) ∧
    (∀ (w w' : Workspace) (settings : ImportSettings) (layer : Layer) (error : ImportError),
      w.load source settings layer request = .ok (.error error, w') →
        source.probe request = .error error ∨ ∃ late, late.Late ∧ error = .unread late) ∧
    (∀ (w w' : Workspace) (settings : ImportSettings) (layer : Layer) (report : ImportReport),
      w.load source settings layer request = .ok (.ok report, w') →
        source.probe request = .ok (report.width, report.height)) ∧
    (∀ width height, source.probe request = .ok (width, height) → ValidSize width height) ∧
    ∀ pixels : Pixels, source.pixels request = .ok pixels →
      ∃ width height, source.probe request = .ok (width, height) ∧
        pixels.width = width ∧ pixels.height = height ∧
        pixels.bytes.size = width * height * 3 := by
  refine ⟨?_, ?_, ?_, fun width height => h.validSize_of_probe, ?_⟩
  · intro error hprobe w settings layer
    exact Workspace.load_eq_error.mpr ⟨h.pixels_of_probe_error hprobe, rfl⟩
  · intro w w' settings layer error hload
    exact h.probe_error_or_late (Workspace.load_eq_error.mp hload).1
  · intro w w' settings layer report hload
    obtain ⟨pixels, progress, hpixels, -, rfl, -⟩ := Workspace.load_eq_ok.mp hload
    exact h.probe_of_pixels hpixels
  · intro pixels hpixels
    exact ⟨_, _, h.probe_of_pixels hpixels, rfl, rfl, pixels.size_bytes⟩

/-- A file of one blue pixel is painted with the size that its header gives. Of a file that is cut
off behind its header, and of one that is gone when it is opened once more, a probe still gives the
size, and an import is refused. Both are refused a file that has no header, for that reason, and a
file that cannot be opened, for another one. -/
theorem probe_of_bitmaps :
    ∃ (source : Source) (blue cut gone broken locked : Request) (w w' : Workspace)
        (report : ImportReport) (noHeader noAccess : ImportError),
      Stocked source ∧ w.load source {} .snow blue = .ok (.ok report, w') ∧
      source.probe blue = .ok (report.width, report.height) ∧
      source.probe cut = .ok (1, 1) ∧
      w.load source {} .snow cut = .ok (.error (.unread (.undecodable .pixels)), w) ∧
      source.probe gone = .ok (1, 1) ∧
      w.load source {} .snow gone = .ok (.error (.unread (.unopened "gone.bmp" .missing)), w) ∧
      noHeader = .unread (.undecodable .header) ∧ source.probe broken = .error noHeader ∧
      w.load source {} .snow broken = .ok (.error noHeader, w) ∧
      noAccess = .unread (.unopened "locked.bmp" (.denied "no access")) ∧
      source.probe locked = .error noAccess ∧
      w.load source {} .snow locked = .ok (.error noAccess, w) := by
  let header : Array UInt8 := #[0x42, 0x4d, 58, 0, 0, 0, 0, 0, 0, 0, 54, 0, 0, 0, 40, 0, 0, 0,
    1, 0, 0, 0, 1, 0, 0, 0, 1, 0, 24, 0, 0, 0, 0, 0, 4, 0, 0, 0, 0, 0, 0, 0, 0, 0, 0, 0, 0, 0, 0, 0,
    0, 0, 0, 0]
  let file : Node := .file ⟨header ++ #[200, 0, 0, 0]⟩
  let tree : FileTree := ⟨[(["blue.bmp"], file), (["cut.bmp"], .file ⟨header⟩),
    (["gone.bmp"], file), (["broken.bmp"], .file ⟨#[0x42]⟩),
    (["locked.bmp"], .locked (.denied "no access"))], []⟩
  let disk : Disk := ⟨tree.isFile, fun opening path =>
    if opening = .pixels ∧ path = "gone.bmp" then .error .missing else tree.read path⟩
  let source : Source := (Folder.mk []).readWith .standard disk
  let request (locator : String) : Request := ⟨.bmp, locator, .layers⟩
  let w : Workspace := ⟨⟨TileMap.plain 4 4 .arctic (by decide) (by decide), .fixed 0⟩, false⟩
  have hsteady : disk.Steady := by
    intro path first second hfirst hsecond
    have hread : tree.read path = .ok first := hfirst
    by_cases hgone : path = "gone.bmp"
    · simp [disk, hgone] at hsecond
    · have hagain : tree.read path = .ok second := by simpa [disk, hgone] using hsecond
      exact Disk.steady_ofTree tree path first second hread hagain
  have hstocked : Stocked source := .folder Decoders.standard_agree _ hsteady
  have hreport : (w.load source {} .snow (request "blue.bmp")).map (·.1) =
      .ok (.ok ⟨.snow, 1, 1, ⟨4, 12⟩⟩) := by decide +kernel
  have hcut : (w.load source {} .snow (request "cut.bmp")).map (·.1) =
      .ok (.error (.unread (.undecodable .pixels))) := by decide +kernel
  have hgone : (w.load source {} .snow (request "gone.bmp")).map (·.1) =
      .ok (.error (.unread (.unopened "gone.bmp" .missing))) := by decide +kernel
  have hbroken : source.probe (request "broken.bmp") =
      .error (.unread (.undecodable .header)) := by decide +kernel
  have hlocked : source.probe (request "locked.bmp") =
      .error (.unread (.unopened "locked.bmp" (.denied "no access"))) := by decide +kernel
  obtain ⟨⟨_, w'⟩, hload, rfl⟩ := Outcome.map_eq_ok.mp hreport
  obtain ⟨⟨_, w₁⟩, hrefused, rfl⟩ := Outcome.map_eq_ok.mp hcut
  obtain ⟨hcutPixels, rfl⟩ := Workspace.load_eq_error.mp hrefused
  obtain ⟨⟨_, w₂⟩, hrefused', rfl⟩ := Outcome.map_eq_ok.mp hgone
  obtain ⟨hgonePixels, rfl⟩ := Workspace.load_eq_error.mp hrefused'
  exact ⟨source, request "blue.bmp", request "cut.bmp", request "gone.bmp", request "broken.bmp",
    request "locked.bmp", w, w', _, _, _, hstocked, hload,
    (probe_agrees hstocked _).2.2.1 _ _ _ _ _ hload, by decide +kernel, hrefused,
    by decide +kernel, hrefused', rfl, hbroken, (probe_agrees hstocked _).1 _ hbroken _ _ _, rfl,
    hlocked, (probe_agrees hstocked _).1 _ hlocked _ _ _⟩

end Raster.Stocked

end MapPainter
