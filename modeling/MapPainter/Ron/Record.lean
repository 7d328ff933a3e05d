import MapPainter.Ron.Value

/-!
# Records

A record is a title, which may be left out, and named fields in parentheses, in any order. A known
field may be given once; unknown ones are skipped. A document is a record between blanks, with
attributes in front.
-/

namespace MapPainter.Ron

open Text (Reader)

/-- A known field: its name, and a reader that puts its value into a state. -/
structure FieldReader (σ : Type) where
  name : String
  read : σ → Reader σ

/-- A field read by itself, and then put into the state. -/
def FieldReader.of {σ α : Type} (name : String) (read : Reader α) (put : σ → α → σ) :
    FieldReader σ :=
  ⟨name, fun state text => (read text).map fun (value, rest) => (put state value, rest)⟩

/-- Reads a field of a record. The state has the names of the known fields read so far. -/
def readField {σ : Type} (e : Extensions) (fields : List (FieldReader σ)) (limit : Nat) :
    List String × σ → Reader (List String × σ) := fun (seen, state) text => do
  let (key, rest) ← name text
  let value ← skipBlank (← expect ':' rest)
  match fields.find? fun f => f.name.toList == key with
  | some f =>
    if seen.contains f.name then none
    else
      let (state, rest) ← f.read state value
      return ((f.name :: seen, state), rest)
  | none =>
    let rest ← skipValue e limit value
    return ((seen, state), rest)

/-- Takes the title of a record, or sees that there is none, which `titled` forbids. -/
def takeTitle (titled : Bool) (title : String) (text : List Char) : Option (List Char) :=
  if text.head?.any Text.isNamePart then
    match name text with
    | some (found, rest) => if found = title.toList then some rest else none
    | none => none
  else if titled then none
  else some text

/-- A record, read into a state. Values of unknown fields may be nested as deep as `limit` says. -/
def record {σ : Type} (e : Extensions) (title : String) (fields : List (FieldReader σ))
    (limit : Nat) (state : σ) : Reader σ := fun text => do
  let rest ← expect '(' (← takeTitle e.titled title text)
  let ((_, state), rest) ← separated ')' (readField e fields limit) ([], state) rest
  return (state, rest)

/-- One of several words. -/
def oneOf {α : Type} (items : List (String × α)) : Reader α := fun text => do
  let (found, rest) ← name text
  let (_, value) ← items.find? fun (word, _) => word.toList == found
  return (value, rest)

/-- Texts in a list. -/
def texts : Reader (List String)
  | '[' :: rest => do
    let item (before : List String) : Reader (List String) := fun text => do
      let (content, rest) ← Ron.text text
      return (String.ofList content :: before, rest)
    let (items, rest) ← separated ']' item [] rest
    return (items.reverse, rest)
  | _ => none

/-! ## Documents -/

/-- Why a text is not a document, or a value has no text. -/
inductive Failure where
  /-- Blanks, comments or attributes in front of the value are not sound. -/
  | front
  /-- There is no value of the kind that was asked for. -/
  | value
  /-- More than blanks and comments stands behind the value. -/
  | trailing
  /-- The value cannot be written, for a reason of its own. -/
  | unwritable (reason : String)
  deriving DecidableEq, Repr

def Failure.message : Failure → String
  | front => "the text does not begin like a document"
  | value => "the text does not hold a value of this kind"
  | trailing => "the text goes on behind its value"
  | unwritable reason => reason

/-- Reads a document as a whole. `read` is told which extensions are enabled. -/
def document {α : Type} (read : Extensions → Reader α) (text : List Char) : Except Failure α :=
  match (skipBlank text).bind (takeAttributes {}) with
  | none => .error .front
  | some (e, rest) =>
    match read e rest with
    | none => .error .value
    | some (value, rest) =>
      match skipBlank rest with
      | some [] => .ok value
      | _ => .error .trailing

end MapPainter.Ron
