import MapPainter.Ron.Quoted

/-!
# Attributes

In front of a document there may be attributes, each one `#![…]`. Some enable extensions of the
notation; the others say what kind of document it is, and have no effect.
-/

namespace MapPainter.Ron

open Text (Reader)

/-- The extensions of the notation that matter to the reader. -/
structure Extensions where
  /-- Records have to have their titles. -/
  titled : Bool := false
  /-- The value of an option may stand behind the word without parentheses. -/
  bareOptions : Bool := false
  /-- The parentheses of an option may be those of the record or tuple in it. -/
  joinedOptions : Bool := false
  deriving DecidableEq, Repr

namespace Extensions

/-- The words for extensions, and what each one adds. -/
def words : List (String × (Extensions → Extensions)) := [
  ("explicit_struct_names", fun e => { e with titled := true }),
  ("implicit_some", fun e => { e with bareOptions := true }),
  ("unwrap_variant_newtypes", fun e => { e with joinedOptions := true }),
  ("unwrap_newtypes", id)]

/-- The word for an extension, as an item of a list. -/
def enable (e : Extensions) : Reader Extensions := fun text => do
  let (found, rest) ← name text
  let (_, add) ← words.find? fun (word, _) => word.toList == found
  return (add e, rest)

end Extensions

/-- Takes a sequence of texts with blanks between and behind them. -/
def takeAll (parts : List String) (text : List Char) : Option (List Char) :=
  parts.foldlM (fun (text : List Char) part =>
    if part.toList.isPrefixOf text then skipBlank (text.drop part.length) else none) text

/-- Attributes with a text as their value. -/
def namedTexts : List String := ["type", "schema"]

/-- What is between the brackets of an attribute, and blanks behind it. -/
def takeAttribute (e : Extensions) : Reader Extensions := fun text =>
  match takeAll ["enable", "("] text with
  | some inner => do
    if inner.head? == some ')' then none
    let (e, rest) ← separated ')' Extensions.enable e inner
    return (e, ← skipBlank rest)
  | none => do
    let value ← namedTexts.findSome? fun word => takeAll [word, "="] text
    let (_, rest) ← Ron.text value
    return (e, ← skipBlank rest)

/-- Takes the attributes in front of a document, and the blanks behind them. -/
def takeAttributes (e : Extensions) (text : List Char) : Option (Extensions × List Char) :=
  match text with
  | '#' :: rest => do
    let (e, after) ← takeAttribute e (← takeAll ["#", "!", "["] text)
    let next ← takeAll ["]"] after
    if next.length ≤ rest.length then takeAttributes e next else none
  | _ => some (e, text)
termination_by text.length

end MapPainter.Ron
