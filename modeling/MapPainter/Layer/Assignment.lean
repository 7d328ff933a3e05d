import MapPainter.Layer
import MapPainter.Raster.Source
import MapPainter.Text.Blank

/-!
# Layer assignments

An assignment such as `water=maps/rivers.png` says which raster a layer is painted from. The
layer stands before the first equals sign, with or without blanks around it; all that follows is
the locator.
-/

namespace MapPainter

/-- Why a text is not an assignment. -/
inductive AssignmentError where
  /-- There is no equals sign. -/
  | noLocator (text : String)
  /-- Nothing follows the equals sign. -/
  | emptyLocator (word : String)
  | layer (error : UnknownWord)
  deriving DecidableEq, Repr

def AssignmentError.message : AssignmentError → String
  | noLocator text => s!"expected <theme>=<path>, got '{text}'"
  | emptyLocator word => s!"layer '{word}' has an empty path"
  | layer error => error.message

/-- A layer and the locator of its raster. -/
structure Assignment where
  layer : Layer
  locator : String
  deriving DecidableEq, Repr

/-- Reads an assignment. -/
def Assignment.parse (text : String) : Except AssignmentError Assignment :=
  match Text.cut? '=' text.toList with
  | none => .error (.noLocator text)
  | some (word, []) => .error (.emptyLocator (String.ofList word))
  | some (word, c :: locator) =>
    match Layer.parse (String.ofList (Text.trim word)) with
    | .ok layer => .ok ⟨layer, String.ofList (c :: locator)⟩
    | .error error => .error (.layer error)

namespace Raster

/-- A locator whose extension names no format. -/
structure UnclearFormat where
  locator : String
  deriving DecidableEq, Repr

def UnclearFormat.message (e : UnclearFormat) : String :=
  s!"cannot tell the format of '{e.locator}'; pass --format png|bmp"

/-- The format of a raster: the one asked for, or else the one its extension names. -/
def Format.choose (asked : Option Format) (locator : String) : Except UnclearFormat Format :=
  match asked.or (Format.ofPath? locator) with
  | some format => .ok format
  | none => .error ⟨locator⟩

end Raster

end MapPainter
