import MapPainter.Pattern.Depth
import MapPainter.Pattern.Piece

/-!
# Sets of letters

A set stands between square brackets. Its members are letters, ranges, kinds, named classes of
ASCII and further sets; two signs in a row make the intersection, the difference or the symmetric
difference of what stands before them and the members behind. A hyphen is a member at either end
of the set, and a closing bracket at the beginning.
-/

namespace MapPainter.Pattern

open Text (Reader Skipper Progress)

/-- A set whose bracket is open. -/
structure CharacterSet where
  /-- Whether there have been hyphens alone. -/
  fresh : Bool := true
  /-- The depths of the members behind the last operator, in reverse. -/
  members : List Nat := []
  /-- The depth of what stands before that operator. -/
  left : Option Nat := none
  deriving DecidableEq, Repr

namespace CharacterSet

/-- The depth of what stands between the brackets. -/
def depth (set : CharacterSet) : Nat :=
  match set.left with
  | none => rowDepth set.members
  | some left => rowDepth [left, rowDepth set.members]

/-- A set with one more member, of some depth. -/
def add (set : CharacterSet) (depth : Nat) : CharacterSet :=
  { set with fresh := false, members := depth :: set.members }

/-- A set with an operator behind it. -/
def operator (set : CharacterSet) : CharacterSet := { fresh := false, left := some set.depth }

/-! ## Members -/

/-- The classes of ASCII that have a name. -/
def classNames : List (List Char) :=
  ["alnum", "alpha", "ascii", "blank", "cntrl", "digit", "graph", "lower", "print", "punct",
    "space", "upper", "word", "xdigit"].map String.toList

/-- Takes the name of a class, and a colon and a bracket behind it. -/
def className : Skipper := fun text =>
  match Text.cut? ':' text with
  | some (name, ']' :: rest) => if name ∈ classNames then some rest else none
  | _ => none

/-- Reads a named class, whose opening bracket has been taken: whether it is negated. -/
def namedClass : Reader Bool
  | ':' :: '^' :: rest => (className rest).map fun rest => (true, rest)
  | ':' :: rest => (className rest).map fun rest => (false, rest)
  | _ => none

/-- Whether a named class may be a member. -/
def admitsClass (s : Switches) (negated : Bool) : Bool :=
  if s.unicode then !s.anyCase else !negated

/-- What comes behind a hyphen and the blanks after it. Behind blanks one hash is passed over, and
the blanks after it, but not the line that it begins. -/
def behindHyphen (s : Switches) (text : List Char) : List Char :=
  if s.spaced then
    match text.dropWhile Text.isBlank with
    | '#' :: rest => rest.dropWhile Text.isBlank
    | rest => rest
  else text

/-- Whether a hyphen is no sign of a range: a bracket follows, or one more hyphen. -/
def isLone (s : Switches) (text : List Char) : Bool :=
  match behindHyphen s text with
  | c :: _ => c ∈ [']', '-']
  | [] => false

/-- Whether two pieces are the first and the last letter of a range. -/
def isRange (s : Switches) : Piece → Piece → Bool
  | .letter first isByte, .letter last isByte' =>
    first ≤ last && (Piece.letter first isByte).fitsSet s && (Piece.letter last isByte').fitsSet s
  | _, _ => false

/-- Takes a letter, a kind of letters or a range. -/
def member (s : Switches) : Skipper := fun text => do
  let (first, after) ← Piece.readMember s text
  match s.skip after with
  | '-' :: rest =>
    if isLone s rest then
      if first.fitsSet s then some ('-' :: rest) else none
    else
      let (last, rest) ← Piece.readMember s (s.skip rest)
      if isRange s first last then some rest else none
  | rest => if first.fitsSet s then some rest else none

/-! ## Reading -/

/-- Takes the sign of a complement, if it is there. Only a pattern of characters has any. -/
def complement (s : Switches) : Skipper := fun text =>
  match s.skip text with
  | '^' :: rest => if s.unicode then some rest else none
  | rest => some rest

/-- Takes a hyphen at the beginning of a set, or a bracket that is its first member. -/
def leading? (set : CharacterSet) : Reader CharacterSet
  | '-' :: rest => if set.fresh then some ({ set.add 0 with fresh := true }, rest) else none
  | ']' :: rest => if set.fresh ∧ set.members = [] then some (set.add 0, rest) else none
  | _ => none

/-- Reads a part of a set, or the bracket that closes it. `outer` are the sets around it, the
inner ones first; the result is the depth of the outermost one. -/
def step (s : Switches) :
    CharacterSet × List CharacterSet → Reader (Progress (CharacterSet × List CharacterSet) Nat) :=
  fun (set, outer) text =>
    let text := s.skip text
    match set.leading? text with
    | some (set, rest) =>
      if (Piece.letter '-').fitsSet s then some (.more (set, outer), rest) else none
    | none =>
      match text with
      | '[' :: rest =>
        match namedClass rest with
        | some (negated, rest) =>
          if admitsClass s negated then some (.more (set.add 0, outer), rest) else none
        | none => (complement s rest).map fun rest => (.more ({}, set :: outer), rest)
      | ']' :: rest =>
        match outer with
        | [] => some (.done (set.depth + 1), rest)
        | parent :: outer => some (.more (parent.add (set.depth + 1), outer), rest)
      | '&' :: '&' :: rest | '-' :: '-' :: rest | '~' :: '~' :: rest =>
        some (.more (set.operator, outer), rest)
      | text => (member s text).map fun rest => (.more (set.add 0, outer), rest)

/-- Reads a set whose bracket has been taken: its depth. -/
def read (s : Switches) : Reader Nat := fun text =>
  (complement s text).bind (Text.repeated (step s) ({}, []))

end CharacterSet

end MapPainter.Pattern
