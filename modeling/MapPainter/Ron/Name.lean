import MapPainter.Ron.Blank
import MapPainter.Text.NameCharacter

/-!
# Names

A name begins with a character of the class XID_Start or an underscore and goes on with those of
XID_Continue. Behind the mark `r#` a name may have dots, signs and leading digits as well; the
mark does not belong to the name. Where a text or a byte string begins, there is no name.
-/

namespace MapPainter.Ron

open Text (Reader isNameStart isNamePart)

/-- A character that only a marked name may have everywhere. -/
def isMarkedPart (c : Char) : Bool := c == '.' || c == '+' || c == '-' || isNamePart c

def beginsName (c : Char) : Bool := c == '_' || isNameStart c

/-- How texts between quotes begin that have a letter in front. -/
def literalFronts : List (List Char) :=
  ["b\"", "b'", "br#", "br\"", "r\"", "r#\"", "r##"].map String.toList

def beginsLiteral (text : List Char) : Bool := literalFronts.any fun front => front.isPrefixOf text

/-- The longest name at the front of a text. -/
def longestName : Reader (List Char) := fun text =>
  if beginsLiteral text then none
  else
    match text with
    | 'r' :: '#' :: rest =>
      let name := rest.takeWhile isMarkedPart
      if name.isEmpty then none else some (name, rest.dropWhile isMarkedPart)
    | c :: rest =>
      if beginsName c then some (c :: rest.takeWhile isNamePart, rest.dropWhile isNamePart)
      else none
    | [] => none

/-- A name where one has to stand: an unmarked name is not followed by a dot or a sign. -/
def name : Reader (List Char) := fun text =>
  match longestName text with
  | some (name, rest) =>
    if rest.head?.any isMarkedPart then none else some (name, rest)
  | none => none

/-- Takes a word that is not the beginning of a longer name. -/
def word? (word : List Char) (text : List Char) : Option (List Char) :=
  if word.isPrefixOf text then
    let rest := text.drop word.length
    if rest.head?.any isNamePart then none else some rest
  else none

end MapPainter.Ron
