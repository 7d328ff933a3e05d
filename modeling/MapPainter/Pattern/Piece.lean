import MapPainter.Pattern.Switches
import MapPainter.Text.Digit

/-!
# Pieces

The smallest pieces of a pattern are letters, most of which stand for themselves, the point, the
signs for edges, and escapes, which begin with a backslash. No tables of letters are at hand: what
would need the cases, the kinds or the words of all scripts is no piece of a pattern of characters,
and what would match a part of a character is none of a pattern of bytes.
-/

namespace MapPainter.Pattern

open Text (Reader)

inductive Piece where
  /-- One letter; `isByte` says that it is given by two digits. -/
  | letter (c : Char) (isByte : Bool := false)
  /-- Any letter at all. -/
  | any
  /-- The beginning or the end of the text or of a line. -/
  | edge
  /-- A place where a word begins or ends, or where none does. -/
  | wordEdge
  /-- A kind of letters: digits, blanks, or those of a word, or else all but these. -/
  | kind (negated : Bool)
  deriving DecidableEq, Repr

namespace Piece

/-- Whether a piece may stand in a pattern. -/
def fits (s : Switches) : Piece → Bool
  | letter c isByte => if s.unicode then !s.anyCase else !isByte || c.toNat < 128
  | any => s.unicode
  | edge => true
  | wordEdge => !s.unicode
  | kind negated => !s.unicode && !negated

/-- Whether a piece may be a member of a set. -/
def fitsSet (s : Switches) : Piece → Bool
  | letter c _ => if s.unicode then !s.anyCase else c.toNat < 128
  | kind negated => !s.unicode && !negated
  | _ => false

/-! ## Escapes -/

/-- Escapes for letters that cannot be seen. -/
def controls : List (Char × Char) :=
  [('a', '\x07'), ('f', '\x0c'), ('t', '\t'), ('n', '\n'), ('r', '\r'), ('v', '\x0b')]

/-- The escapes for a letter by its number, and how many digits follow. -/
def numbers : List (Char × Nat) := [('x', 2), ('u', 4), ('U', 8)]

/-- What the escape of a single character stands for. -/
def ofEscape? (c : Char) : Option Piece :=
  match controls.lookup c with
  | some control => some (.letter control)
  | none =>
    if c ∈ ['d', 's', 'w'] then some (.kind false)
    else if c ∈ ['D', 'S', 'W'] then some (.kind true)
    else if c ∈ ['A', 'z'] then some .edge
    else if c ∈ ['b', 'B', '<', '>'] then some .wordEdge
    else if c.toNat < 128 ∧ !c.isAlphanum then some (.letter c)
    else none

/-- Reads `count` digits, behind those of `high`. -/
def digits (s : Switches) : Nat → Nat → Reader Nat
  | 0, high, text => some (high, text)
  | count + 1, high, text =>
    match s.skip text with
    | c :: rest =>
      if Text.isHexDigit c then digits s count (16 * high + Text.digitValue c) rest else none
    | [] => none

/-- Reads an escape; the backslash has been taken. -/
def escape (s : Switches) : Reader Piece
  | [] => none
  | c :: rest =>
    match numbers.lookup c with
    | none => (ofEscape? c).map fun piece => (piece, rest)
    | some count =>
      match digits s count 0 rest with
      | some (n, rest) =>
        if n.isValidChar then some (.letter (Char.ofNat n) (c == 'x'), rest) else none
      | none => none

/-! ## Reading -/

/-- Reads a piece. -/
def read (s : Switches) : Reader Piece
  | [] => none
  | '\x5c' :: rest => escape s rest
  | '.' :: rest => some (.any, rest)
  | '^' :: rest | '$' :: rest => some (.edge, rest)
  | c :: rest => some (.letter c, rest)

/-- Reads a piece in a set, where all but the escapes are letters. -/
def readMember (s : Switches) : Reader Piece
  | [] => none
  | '\x5c' :: rest => escape s rest
  | c :: rest => some (.letter c, rest)

end Piece

end MapPainter.Pattern
