import MapPainter.Ron.Attribute
import MapPainter.Ron.Range

/-!
# Values of any kind

What stands behind an unknown field is skipped, and has to be a value: a number, range, text,
character or byte string, an option, a list, a map, a tuple or record with or without a name, or a
name alone. Values are nested at most as deep as a limit says; a container takes one level, and
each of its items another.
-/

namespace MapPainter.Ron

open Text (Reader Skipper)

/-- Words that are values by themselves. -/
def valueWords : List (List Char) := ["true", "false", "None"].map String.toList

/-- Whether a parenthesis, which has been taken, holds named fields. -/
def holdsFields (text : List Char) : Bool :=
  match (skipBlank text).bind longestName with
  | some (_, rest) =>
    match skipBlank rest with
    | some (':' :: _) => true
    | _ => false
  | none => false

/-- Whether a parenthesis, which has been taken, holds a comma with something behind it. `depth`
brackets in it are open; what is in them or between quotes does not count. -/
def holdsSeveral (depth : Nat) (text : List Char) : Option Bool :=
  match (skipBlank text).bind passQuoted with
  | none | some [] => none
  | some (c :: rest) =>
    if c = ',' ∧ depth = 0 then (skipBlank rest).map fun rest => rest.head? != some ')'
    else if rest.length < text.length then
      if c ∈ ['(', '[', '\x7b'] then holdsSeveral (depth + 1) rest
      else if c ∈ [')', ']', '\x7d'] then
        match depth with
        | 0 => some false
        | depth + 1 => holdsSeveral depth rest
      else holdsSeveral depth rest
    else none
termination_by text.length

/-- Whether a parenthesis, which has been taken, holds named fields or more than one value. -/
def holdsItems (text : List Char) : Option Bool :=
  if holdsFields text then some true
  else holdsSeveral 0 (((longestName text).map (·.2)).getD text)

/-- A reader that ignores what it reads, as an item of a container. -/
def ignoring (skip : Skipper) : Unit → Reader Unit := fun _ text =>
  (skip text).map fun rest => ((), rest)

/-- Takes what stands behind a colon. -/
def skipNamed (skip : Skipper) : Skipper := fun text => do
  let rest ← skipBlank (← expect ':' text)
  skip rest

/-- Takes a container up to its closing character; `item` takes an item, and is `none` where the
limit does not allow a container. -/
def skipItems (item : Option Skipper) (close : Char) : Skipper := fun text =>
  match item with
  | none => none
  | some item => (separated close (ignoring item) () text).map (·.2)

/-- Takes what follows an opening parenthesis. -/
def skipTuple (value : Option Skipper) : Skipper := fun text =>
  if holdsFields text then
    skipItems (value.map fun value text => do
      let (_, rest) ← name text
      skipNamed value rest) ')' text
  else skipItems value ')' text

/-- What takes the value of an option, and the items of the record or tuple that it is. -/
structure Inner where
  value : Skipper
  item : Option Skipper

/-- Takes the value of an option and its closing parenthesis. -/
def skipContent (e : Extensions) (inner : Inner) : Skipper := fun text => do
  let text ← skipBlank text
  if e.joinedOptions && text.head? == some ')' then return text.tail
  if ← (if e.joinedOptions then holdsItems text else some false) then skipTuple inner.item text
  else
    match ← skipBlank (← inner.value text) with
    | ',' :: rest => expect ')' rest
    | ')' :: rest => some rest
    | _ => none

/-- Takes the rest of an option; the word has been taken. -/
def skipOption (e : Extensions) (inner : Option Inner) : Skipper := fun text => do
  let inner ← inner
  match ← skipBlank text with
  | '(' :: rest => skipContent e inner rest
  | rest => if e.bareOptions then inner.value rest else none

/-- Takes a value: `item` takes an item of a container, and `inner` what is in an option. -/
def skipValueWith (e : Extensions) (item : Option Skipper) (inner : Option Inner) : Skipper :=
    fun text =>
  match valueWords.findSome? fun word => word? word text with
  | some rest => some rest
  | none =>
  match word? "Some".toList text with
  | some rest => skipOption e inner rest
  | none =>
  if beginsBound text then skipRange text
  else
  match longestName text with
  | some (_, rest) =>
    match skipBlank rest with
    | some ('(' :: rest) => skipTuple item rest
    | other => other
  | none =>
  match text with
  | '(' :: ')' :: rest => some rest
  | '(' :: rest => skipTuple item rest
  | '[' :: rest => skipItems item ']' rest
  | '\x7b' :: rest =>
    skipItems (item.map fun value text => do
      let rest ← value text
      skipNamed value rest) '\x7d' rest
  | text => skipQuoted text

/-- Takes a value that is nested at most that deep: an item of a container is two levels further
in, and the value of an option is one. -/
def skipValue (e : Extensions) : Nat → Skipper
  | 0 => skipValueWith e none none
  | 1 => skipValueWith e (some fun _ => none) (some ⟨skipValue e 0, none⟩)
  | 2 => skipValueWith e (some (skipValue e 0)) (some ⟨skipValue e 1, some fun _ => none⟩)
  | limit + 3 =>
    skipValueWith e (some (skipValue e (limit + 1)))
      (some ⟨skipValue e (limit + 2), some (skipValue e limit)⟩)

end MapPainter.Ron
