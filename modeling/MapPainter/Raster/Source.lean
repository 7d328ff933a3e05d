import MapPainter.FileTree
import MapPainter.ImageFile.Picture

/-!
# Raster sources

A source answers a request for a raster, named by a locator, with its size and, if asked for, its
pixels. Sources in this library are a shelf of rasters in memory (`Shelf`) and image files on
disk (`Raster.Folder`); an import works with any function of the same type.
-/

namespace MapPainter.Raster

/-- Container formats of image files. -/
inductive Format where
  | png
  | bmp
  deriving DecidableEq, Repr

/-- A word that names no format, in lower case. -/
structure UnknownFormat where
  word : String
  deriving DecidableEq, Repr

def UnknownFormat.message (e : UnknownFormat) : String :=
  s!"unsupported raster format '{e.word}' (expected png or bmp)"

namespace Format

def name : Format → String
  | png => "png"
  | bmp => "bmp"

def parse (word : String) : Except UnknownFormat Format :=
  match word.toLower with
  | "png" => .ok png
  | "bmp" => .ok bmp
  | other => .error ⟨other⟩

/-- The format that the extension of a path names. -/
def ofPath? (path : String) : Option Format := do
  let extension ← Path.extension? path
  (parse extension).toOption

end Format

/-- How much of a raster is read. -/
inductive Mode where
  | sizeOnly
  | full
  deriving DecidableEq, Repr

/-- The directory below a search path in which a locator is looked up. -/
inductive Subdirectory where
  | base
  | layers
  | heights
  | scenarios
  deriving DecidableEq, Repr

def Subdirectory.name : Subdirectory → String
  | base => ""
  | layers => "geomap"
  | heights => "heightmap"
  | scenarios => "scenario"

/-- Why a source has no raster for a request. -/
inductive ReadError where
  /-- Nothing has that locator. -/
  | notFound (locator : String)
  /-- The image file cannot be opened. -/
  | unopened (path : String) (cause : FileError)
  /-- The image file is not sound. -/
  | undecodable (cause : ImageFile.DecodeError)
  /-- The raster does not have a valid size, or not the bytes for it. -/
  | size (error : SizeError)
  deriving DecidableEq, Repr

def SizeError.message : SizeError → String
  | dimensions width height => s!"raster of {width}x{height} pixels is outside the supported limits"
  | length actual expected => s!"pixel buffer holds {actual} bytes, expected {expected}"

def ReadError.message : ReadError → String
  | notFound locator => s!"raster '{locator}' not found"
  | unopened path cause => s!"failed to open raster {path}: {cause.message}"
  | undecodable cause => s!"failed to decode raster: {cause.message}"
  | size error => error.message

/-- The answer to a request: a size, and the pixels if they were asked for. -/
structure Image where
  width : Nat
  height : Nat
  pixels : Option Pixels

/-- A request for a raster. -/
structure Request where
  format : Format
  locator : String
  subdirectory : Subdirectory
  deriving DecidableEq, Repr

/-- Anything that answers requests. -/
abbrev Source := Request → Mode → Except ReadError Image

/-- A source that always gives the same answer. -/
def Source.answering (answer : Except ReadError Image) : Source := fun _ _ => answer

/-- Rasters in memory by locator, each locator once. -/
structure Shelf where
  rasters : List (String × Pixels)

namespace Shelf

def empty : Shelf := ⟨[]⟩

/-- Puts a raster on the shelf, in place of the one that had its locator. -/
def insert (s : Shelf) (locator : String) (pixels : Pixels) : Shelf :=
  ⟨(locator, pixels) :: s.rasters.filter (·.1 != locator)⟩

def get? (s : Shelf) (locator : String) : Option Pixels := s.rasters.lookup locator

def size (s : Shelf) : Nat := s.rasters.length

/-- Answers from the shelf; format and subdirectory do not matter. -/
def read (s : Shelf) : Source := fun request mode =>
  match s.get? request.locator with
  | none => .error (.notFound request.locator)
  | some pixels => .ok {
      width := pixels.width
      height := pixels.height
      pixels := if mode = .full then some pixels else none }

end Shelf

end MapPainter.Raster
