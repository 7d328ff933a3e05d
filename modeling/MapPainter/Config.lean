import MapPainter.FileTree
import MapPainter.Ron.Record
import MapPainter.Settings

/-!
# Configurations

What is set once and kept in a file: how maps are made, where rasters are looked up, and how much
is logged.
-/

namespace MapPainter

structure Config where
  /-- The sides of a map, in tiles. -/
  sizeX : UInt32 := 256
  sizeY : UInt32 := 256
  climate : Climate := .temperate
  rotation : Rotation := .counterClockwise
  /-- The number that all draws come from. -/
  seed : UInt64 := 0
  /-- The directories below which rasters are looked up, in order. -/
  searchPaths : List String := []
  /-- Which entries of the journal are shown. -/
  logLevel : String := "info"
  deriving DecidableEq, Repr

/-- Why there is no configuration to work with. -/
inductive ConfigError where
  /-- The file cannot be read as text. -/
  | unreadable (cause : FileError)
  /-- The text is not a configuration. -/
  | unparsable (cause : Ron.Failure)
  /-- The configuration has no text. -/
  | unserializable (cause : Ron.Failure)
  /-- The file cannot be written. -/
  | unwritable (cause : FileError)
  /-- A side of the map is too short or too long. -/
  | mapSize (x y : UInt32)
  deriving DecidableEq, Repr

namespace Config

/-- The shortest side of a map that has an inner tile. -/
def minSide : Nat := 3

/-- The longest side of a map. -/
def maxSide : Nat := 65536

def SideOk (side : UInt32) : Prop := minSide ≤ side.toNat ∧ side.toNat ≤ maxSide

instance (side : UInt32) : Decidable (SideOk side) := inferInstanceAs (Decidable (_ ∧ _))

/-- Whether maps can be made with a configuration. -/
def validate (c : Config) : Except ConfigError Unit :=
  if SideOk c.sizeX ∧ SideOk c.sizeY then .ok () else .error (.mapSize c.sizeX c.sizeY)

end Config

def ConfigError.message : ConfigError → String
  | unreadable cause => s!"failed to read config: {cause.message}"
  | unparsable cause => s!"failed to parse config: {cause.message}"
  | unserializable cause => s!"failed to serialize config: {cause.message}"
  | unwritable cause => s!"failed to write config: {cause.message}"
  | mapSize x y => s!"map size {x}x{y} out of range " ++
      s!"(each side must be {Config.minSide}..={Config.maxSide})"

end MapPainter
