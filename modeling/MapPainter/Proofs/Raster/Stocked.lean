import MapPainter.Proofs.Outcome
import MapPainter.Proofs.Raster.Layout
import MapPainter.Raster.Folder

/-!
# Sizes and pixels from one source

A shelf and a folder answer a request for a size and a request for pixels in two different ways: a
folder opens a file for its header, and once more for its pixels, which have a size of their own.
Where files stay as they are in between (`Raster.Disk.Steady`), and the decoder makes pictures of
the size that the header gives (`Raster.Decoders.Agree`), both answers agree. The decoders of this
library are of that kind.
-/

namespace MapPainter.Raster

/-! ## Decoders -/

/-- A picture has the size that is read from the header of its file. -/
def Decoders.Agree (d : Decoders) : Prop :=
  ∀ format file size picture, d.size format file = .ok size →
    d.decode format file = .ok picture → (picture.width, picture.height) = size

theorem size_of_decode_bmp {file : ByteArray} {picture : ImageFile.Picture}
    (h : ImageFile.Bmp.decode file = .ok picture) :
    ImageFile.Bmp.size file = .ok (picture.width, picture.height) := by
  obtain ⟨header, hheader, h⟩ := Outcome.bind_eq_ok.mp h
  rw [ImageFile.Bmp.size, hheader]
  split at h
  · cases h
  · obtain rfl := Except.ok.inj h
    rfl

theorem size_of_decode_png {file : ByteArray} {picture : ImageFile.Picture}
    (h : ImageFile.Png.decode file = .ok picture) :
    ImageFile.Png.size file = .ok (picture.width, picture.height) := by
  obtain ⟨preamble, hpreamble, h⟩ := Outcome.bind_eq_ok.mp h
  obtain ⟨rows, -, h⟩ := Outcome.bind_eq_ok.mp h
  obtain rfl := Except.ok.inj h
  rw [ImageFile.Png.size, hpreamble]
  rfl

theorem Decoders.standard_agree : standard.Agree := by
  intro format file size picture hsize hpicture
  cases format with
  | png => exact Except.ok.inj ((size_of_decode_png hpicture).symm.trans hsize)
  | bmp => exact Except.ok.inj ((size_of_decode_bmp hpicture).symm.trans hsize)

/-! ## Disks -/

/-- A file that can be opened both times has the same bytes both times. -/
def Disk.Steady (disk : Disk) : Prop :=
  ∀ path header pixels, disk.contents .header path = .ok header →
    disk.contents .pixels path = .ok pixels → pixels = header

theorem Disk.steady_ofTree (tree : FileTree) : (ofTree tree).Steady := by
  intro path header pixels hheader hpixels
  exact Except.ok.inj (hpixels.symm.trans hheader)

theorem Disk.opened_eq_ok {disk : Disk} {opening : Opening} {path : String} {file : ByteArray} :
    disk.opened opening path = .ok file ↔ disk.contents opening path = .ok file :=
  Outcome.mapError_eq_ok

/-! ## Answers -/

/-- The errors that a reading of pixels can meet when the size was read without any. -/
inductive ReadError.Late : ReadError → Prop
  /-- The file cannot be opened once more. -/
  | unopened (path : String) (cause : FileError) : Late (.unopened path cause)
  | undecodable (cause : ImageFile.DecodeError) : Late (.undecodable cause)
  /-- There are not three bytes for each pixel. -/
  | length (actual expected : Nat) : Late (.size (.length actual expected))

/-- What a source answers to a request, for its size and for its pixels. -/
inductive Source.Answers (source : Source) (request : Request) : Prop
  | refused {error : ReadError} (hsize : source request .sizeOnly = .error error)
      (hpixels : source request .full = .error error)
  /-- The header gives a valid size, and something is wrong with the pixels behind it. -/
  | late {image : Image} {error : ReadError} (hvalid : ValidSize image.width image.height)
      (hlate : error.Late) (hsize : source request .sizeOnly = .ok image)
      (hpixels : source request .full = .error error)
  | read {pixels : Pixels}
      (hsize : source request .sizeOnly = .ok ⟨pixels.width, pixels.height, none⟩)
      (hpixels : source request .full = .ok ⟨pixels.width, pixels.height, some pixels⟩)

/-- The sources of this library: a shelf in any state, and a folder over any files. -/
inductive Stocked : Source → Prop
  | shelf (s : Shelf) : Stocked s.read
  | folder {d : Decoders} (hd : d.Agree) (f : Folder) {disk : Disk} (hdisk : disk.Steady) :
    Stocked (f.readWith d disk)

theorem Shelf.answers (s : Shelf) (request : Request) : s.read.Answers request := by
  cases hget : s.get? request.locator with
  | none =>
    have herror (mode : Mode) : s.read request mode = .error (.notFound request.locator) := by
      rw [Shelf.read, hget]
    exact .refused (herror _) (herror _)
  | some pixels =>
    have hread (mode : Mode) : s.read request mode =
        .ok ⟨pixels.width, pixels.height, if mode = .full then some pixels else none⟩ := by
      rw [Shelf.read, hget]
    exact .read (hread _) (hread _)

namespace Folder

variable {d : Decoders} {disk : Disk} {format : Format} {path : String}

/-- A size that is read is the one in the header of the file, and a valid one. -/
theorem sizeAt_eq_ok {width height : Nat} :
    sizeAt d disk format path = .ok (width, height) ↔
      ∃ file, disk.contents .header path = .ok file ∧ d.size format file = .ok (width, height) ∧
        ValidSize width height := by
  rw [sizeAt, Outcome.bind_eq_ok]
  refine exists_congr fun file => and_congr Disk.opened_eq_ok ?_
  rw [Outcome.bind_eq_ok]
  constructor
  · rintro ⟨⟨w, h⟩, hsize, hcheck⟩
    obtain ⟨hvalid, hcheck⟩ := Outcome.ite_error_eq_ok.mp hcheck
    obtain ⟨rfl, rfl⟩ := Prod.mk.inj (Except.ok.inj hcheck)
    exact ⟨Outcome.mapError_eq_ok.mp hsize, hvalid⟩
  · rintro ⟨hsize, hvalid⟩
    exact ⟨(width, height), Outcome.mapError_eq_ok.mpr hsize, if_pos hvalid⟩

/-- Behind a header with a valid size there are pixels of that size, or a late error. -/
theorem pixelsAt_of_sizeAt (hd : d.Agree) (hdisk : disk.Steady) {width height : Nat}
    (hsize : sizeAt d disk format path = .ok (width, height)) :
    (∃ error : ReadError, error.Late ∧ pixelsAt d disk format path = .error error) ∨
      ∃ pixels : Pixels, pixels.width = width ∧ pixels.height = height ∧
        pixelsAt d disk format path = .ok pixels := by
  obtain ⟨header, hheader, hsize, hvalid⟩ := sizeAt_eq_ok.mp hsize
  cases hfile : disk.contents .pixels path with
  | error cause =>
    refine Or.inl ⟨_, .unopened path cause, ?_⟩
    rw [pixelsAt, Disk.opened, hfile]
    rfl
  | ok file =>
    obtain rfl := hdisk _ _ _ hheader hfile
    have hopened := Disk.opened_eq_ok.mpr hfile
    cases hpicture : d.decode format file with
    | error cause =>
      refine Or.inl ⟨_, .undecodable cause, ?_⟩
      rw [pixelsAt, hopened, Outcome.ok_bind, hpicture]
      rfl
    | ok picture =>
      have hread : pixelsAt d disk format path =
          (Pixels.ofBytes picture.width picture.height picture.bytes).mapError .size := by
        rw [pixelsAt, hopened, Outcome.ok_bind, hpicture]
        rfl
      -- the picture has the size of the header, so that only its bytes may be too many or too few
      obtain ⟨rfl, rfl⟩ := Prod.mk.inj (hd _ _ _ _ hsize hpicture)
      by_cases hlength : picture.bytes.size = picture.width * picture.height * 3
      · rw [hread, Pixels.ofBytes_eq_ok hvalid hlength]
        exact Or.inr ⟨_, rfl, rfl, rfl⟩
      · rw [hread, Pixels.ofBytes_eq_error_iff.mpr (Or.inr ⟨hvalid, hlength, rfl⟩)]
        exact Or.inl ⟨_, .length _ _, rfl⟩

theorem answers (hd : d.Agree) (f : Folder) (hdisk : disk.Steady) (request : Request) :
    (f.readWith d disk).Answers request := by
  cases hpath : f.resolve disk request.locator request.subdirectory with
  | none =>
    have herror (mode : Mode) :
        f.readWith d disk request mode = .error (.notFound request.locator) := by
      rw [readWith, hpath]
    exact .refused (herror _) (herror _)
  | some path =>
    have hread (mode : Mode) :
        f.readWith d disk request mode = imageAt d disk request.format path mode := by
      rw [readWith, hpath]
    cases hsize : sizeAt d disk request.format path with
    | error error =>
      have herror (mode : Mode) : f.readWith d disk request mode = .error error := by
        rw [hread, imageAt, hsize]
        rfl
      exact .refused (herror _) (herror _)
    | ok size =>
      obtain ⟨width, height⟩ := size
      obtain ⟨-, -, -, hvalid⟩ := sizeAt_eq_ok.mp hsize
      have hsizeOnly : f.readWith d disk request .sizeOnly = .ok ⟨width, height, none⟩ := by
        rw [hread, imageAt, hsize]
        rfl
      rcases pixelsAt_of_sizeAt hd hdisk hsize with ⟨error, hlate, herror⟩ |
        ⟨pixels, rfl, rfl, hpixels⟩
      · refine .late hvalid hlate hsizeOnly ?_
        rw [hread, imageAt, hsize, Outcome.ok_bind]
        simp only [herror, Outcome.error_bind]
      · refine .read hsizeOnly ?_
        rw [hread, imageAt, hsize, Outcome.ok_bind]
        simp only [hpixels, Outcome.ok_bind, Outcome.pure_eq_ok]

end Folder

theorem Stocked.answers {source : Source} (h : Stocked source) (request : Request) :
    source.Answers request := by
  cases h with
  | shelf s => exact s.answers request
  | folder hd f hdisk => exact f.answers hd hdisk request

end MapPainter.Raster
