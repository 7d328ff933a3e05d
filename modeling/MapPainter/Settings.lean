/-!
# Climate and rotation

The two settings a map is made with, the words they are written with, and the error for a word
that is none of them. Words are compared without regard to ASCII case.
-/

namespace MapPainter

/-- A word that is not one of the expected ones. -/
structure UnknownWord where
  /-- What the word was to name. -/
  setting : String
  value : String
  expected : String
  deriving DecidableEq, Repr

def UnknownWord.message (e : UnknownWord) : String :=
  s!"unknown {e.setting} '{e.value}' (expected one of: {e.expected})"

/-- The item of `items` whose name is `word`, up to ASCII case. -/
def findNamed {α : Type} (name : α → String) (items : List α) (word : String) : Option α :=
  items.find? fun item => (name item).toLower == word.toLower

/-- Landscape climates. -/
inductive Climate where
  | temperate
  | arctic
  | tropic
  | toyland
  deriving DecidableEq, Repr, Inhabited

namespace Climate

def all : List Climate := [temperate, arctic, tropic, toyland]

def name : Climate → String
  | temperate => "temperate"
  | arctic => "arctic"
  | tropic => "tropic"
  | toyland => "toyland"

def parse (word : String) : Except UnknownWord Climate :=
  match findNamed name all word with
  | some climate => .ok climate
  | none => .error ⟨"climate", word, ", ".intercalate (all.map name)⟩

end Climate

/-- How a raster is laid onto the map: with its columns along the X axis, counted from the far end
(counter-clockwise), or along the Y axis (clockwise). -/
inductive Rotation where
  | counterClockwise
  | clockwise
  deriving DecidableEq, Repr, Inhabited

namespace Rotation

def name : Rotation → String
  | counterClockwise => "counter-clockwise"
  | clockwise => "clockwise"

/-- Both rotations have a short spelling; the longer one may leave out its hyphen. -/
def parse (word : String) : Except UnknownWord Rotation :=
  if word.toLower ∈ ["ccw", "counter-clockwise", "counterclockwise"] then .ok counterClockwise
  else if word.toLower ∈ ["cw", "clockwise"] then .ok clockwise
  else .error ⟨"rotation", word, "ccw, cw"⟩

end Rotation

end MapPainter
