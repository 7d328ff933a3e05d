import MapPainter.Config
import MapPainter.Ron.Layout
import MapPainter.Ron.Record

/-!
# Configurations as text

The text of a configuration is a record of three sections. Sections and fields that are left out
have their default values, and unknown ones are skipped.
-/

namespace MapPainter

namespace Climate

/-- The words for climates in a document. -/
def documentWord : Climate → String
  | temperate => "Temperate"
  | arctic => "Arctic"
  | tropic => "Tropic"
  | toyland => "Toyland"

end Climate

namespace Rotation

def all : List Rotation := [counterClockwise, clockwise]

/-- The words for rotations in a document. -/
def documentWord : Rotation → String
  | counterClockwise => "CounterClockwise"
  | clockwise => "Clockwise"

end Rotation

namespace Config

open Ron
open Text (Reader)

/-! ## Writing -/

/-- The text of a configuration. -/
def write (c : Config) : String :=
  let world := writeRecord 1 [
    ("map_size_x", writeNatural c.sizeX.toNat),
    ("map_size_y", writeNatural c.sizeY.toNat),
    ("climate", c.climate.documentWord.toList),
    ("rotation", c.rotation.documentWord.toList),
    ("seed", writeNatural c.seed.toNat)]
  let lookup := writeRecord 1 [
    ("search_paths", writeList 2 (c.searchPaths.map fun path => writeText path.toList))]
  let debug := writeRecord 1 [("log_level", writeText c.logLevel.toList)]
  String.ofList (writeRecord 0 [("world", world), ("import", lookup), ("debug", debug)])

/-- The text of a configuration for its file. Search paths are texts, so there always is one. -/
def serialize (c : Config) : Except Failure String := .ok c.write

/-! ## Reading -/

def climateWord : Reader Climate := oneOf (Climate.all.map fun c => (c.documentWord, c))

def rotationWord : Reader Rotation := oneOf (Rotation.all.map fun r => (r.documentWord, r))

/-- The fields of the first section. -/
def worldFields : List (FieldReader Config) := [
  .of "map_size_x" (integer (.unsigned 32)) fun c n => { c with sizeX := UInt32.ofNat n },
  .of "map_size_y" (integer (.unsigned 32)) fun c n => { c with sizeY := UInt32.ofNat n },
  .of "climate" climateWord fun c climate => { c with climate },
  .of "rotation" rotationWord fun c rotation => { c with rotation },
  .of "seed" (integer (.unsigned 64)) fun c n => { c with seed := UInt64.ofNat n }]

def importFields : List (FieldReader Config) := [
  .of "search_paths" texts fun c searchPaths => { c with searchPaths }]

def debugFields : List (FieldReader Config) := [
  .of "log_level" Ron.text fun c level => { c with logLevel := String.ofList level }]

/-- How deep the values of a document may be nested. -/
def maxDepth : Nat := 128

/-- A section; a record and its field are two levels each. -/
def readSection (e : Extensions) (title : String) (fields : List (FieldReader Config)) :
    Config → Reader Config :=
  record e title fields (maxDepth - 4)

def sections (e : Extensions) : List (FieldReader Config) := [
  ⟨"world", readSection e "WorldConfig" worldFields⟩,
  ⟨"import", readSection e "ImportConfig" importFields⟩,
  ⟨"debug", readSection e "DebugConfig" debugFields⟩]

/-- The configuration that a text stands for. -/
def read (text : String) : Except Failure Config :=
  document (fun e => record e "Config" (sections e) (maxDepth - 2) {}) text.toList

end Config

end MapPainter
