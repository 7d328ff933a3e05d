import MapPainter.FileTree
import MapPainter.ImageFile.Bmp
import MapPainter.ImageFile.Png
import MapPainter.Raster.Source

/-!
# Rasters in folders

A source that looks image files up below a list of search paths. The first file found counts,
whatever it holds and whether or not it can be opened; a locator that is itself the path of a file
is tried last, and an absolute one alone. The format asked for decides how the file is decoded.
-/

namespace MapPainter.Raster

/-! ## Decoders -/

/-- The size of the picture in a file of a format, from its header. -/
def Format.size : Format → ByteArray → Except ImageFile.DecodeError (Nat × Nat)
  | png => ImageFile.Png.size
  | bmp => ImageFile.Bmp.size

/-- The picture in a file of a format. -/
def Format.decode : Format → ByteArray → Except ImageFile.DecodeError ImageFile.Picture
  | png => ImageFile.Png.decode
  | bmp => ImageFile.Bmp.decode

/-- What makes rasters of the bytes of files: the size from the header alone, and the picture. -/
structure Decoders where
  size : Format → ByteArray → Except ImageFile.DecodeError (Nat × Nat)
  decode : Format → ByteArray → Except ImageFile.DecodeError ImageFile.Picture

/-- The decoders of this library. -/
def Decoders.standard : Decoders := ⟨Format.size, Format.decode⟩

/-! ## Disks -/

/-- What a file is opened for. Whoever wants its pixels opens it once for each. -/
inductive Opening where
  | header
  | pixels
  deriving DecidableEq, Repr

/-- A disk, as far as a folder looks at it. -/
structure Disk where
  /-- Whether a path leads to a file. -/
  isFile : String → Bool
  /-- The bytes of the file of a path. -/
  contents : Opening → String → Except FileError ByteArray

/-- The disk that has the files of a tree. -/
def Disk.ofTree (tree : FileTree) : Disk := ⟨tree.isFile, fun _ => tree.read⟩

/-- The bytes of a file, or the error that says which file cannot be opened. -/
def Disk.opened (disk : Disk) (opening : Opening) (path : String) : Except ReadError ByteArray :=
  (disk.contents opening path).mapError (.unopened path)

/-! ## Folders -/

structure Folder where
  searchPaths : List String
  deriving DecidableEq, Repr

namespace Folder

/-- Where the file of a locator may be, in the order of looking. -/
def candidates (f : Folder) (locator : String) (subdirectory : Subdirectory) : List String :=
  if Path.isAbsolute locator then [locator]
  else f.searchPaths.map (fun root => Path.join (Path.join root subdirectory.name) locator) ++
    [locator]

/-- The path of the file that a locator stands for. -/
def resolve (f : Folder) (disk : Disk) (locator : String) (subdirectory : Subdirectory) :
    Option String :=
  (f.candidates locator subdirectory).find? disk.isFile

/-- The size in the header of a file, which has to be a valid one. -/
def sizeAt (d : Decoders) (disk : Disk) (format : Format) (path : String) :
    Except ReadError (Nat × Nat) := do
  let file ← disk.opened .header path
  let (width, height) ← (d.size format file).mapError .undecodable
  if ValidSize width height then return (width, height)
  else throw (.size (.dimensions width height))

/-- The pixels in a file. -/
def pixelsAt (d : Decoders) (disk : Disk) (format : Format) (path : String) :
    Except ReadError Pixels := do
  let file ← disk.opened .pixels path
  let picture ← (d.decode format file).mapError .undecodable
  (Pixels.ofBytes picture.width picture.height picture.bytes).mapError .size

/-- The image in a file. The size is looked at before the file is opened for its pixels. -/
def imageAt (d : Decoders) (disk : Disk) (format : Format) (path : String) (mode : Mode) :
    Except ReadError Image := do
  let (width, height) ← sizeAt d disk format path
  match mode with
  | .sizeOnly => return ⟨width, height, none⟩
  | .full =>
    let pixels ← pixelsAt d disk format path
    return ⟨width, height, some pixels⟩

/-- Answers from the files of a disk. -/
def readWith (d : Decoders) (f : Folder) (disk : Disk) : Source := fun request mode =>
  match f.resolve disk request.locator request.subdirectory with
  | none => .error (.notFound request.locator)
  | some path => imageAt d disk request.format path mode

/-- Answers from the files of a tree with the decoders of this library. -/
def read (f : Folder) (tree : FileTree) : Source := f.readWith .standard (.ofTree tree)

end Folder

end MapPainter.Raster
