import MapPainter.Text.Blank
import MapPainter.Text.Reader

/-!
# Switches

A pattern can change its own rules by letters between `(?` and `)`, or between `(?` and `:` for a
group alone; the letters behind a hyphen switch off. Three of them bear on what may be written:
whether letters stand for both of their cases, whether a pattern is one of characters or one of
bytes, and whether blanks and comments are left out of it.
-/

namespace MapPainter.Pattern

open Text (Reader)

structure Switches where
  anyCase : Bool := false
  /-- Whether the pattern is one of characters. -/
  unicode : Bool := true
  /-- Whether blanks and comments do not count. -/
  spaced : Bool := false
  deriving DecidableEq, Repr

namespace Switches

def letters : List Char := ['i', 'm', 's', 'U', 'u', 'R', 'x']

/-- Turns a switch on or off. -/
def turn (s : Switches) (letter : Char) (on : Bool) : Switches :=
  match letter with
  | 'i' => { s with anyCase := on }
  | 'u' => { s with unicode := on }
  | 'x' => { s with spaced := on }
  | _ => s

/-- Reads switches up to the mark behind them: a colon, or a bracket if there are any. None of
them comes twice, and neither does the hyphen, which has a letter behind it; `seen` are those
before. -/
def read (s : Switches) (seen : List Char) : Reader (Switches × Char)
  | [] => none
  | c :: rest =>
    if c = ':' ∨ c = ')' then
      if seen.head? = some '-' ∨ (c = ')' ∧ seen = []) then none else some ((s, c), rest)
    else if c ∈ seen then none
    else if c = '-' then s.read (c :: seen) rest
    else if c ∈ letters then (s.turn c !(seen.contains '-')).read (c :: seen) rest
    else none

/-- What follows the blanks and comments at the front of a text. A comment begins with a hash and
ends with the line; `inside` says whether the text begins in one. -/
def skipSpace (inside : Bool) : List Char → List Char
  | [] => []
  | c :: rest =>
    if inside then skipSpace (c != '\n') rest
    else if Text.isBlank c then skipSpace false rest
    else if c = '#' then skipSpace true rest
    else c :: rest

/-- What follows at the front of a text that does not count. -/
def skip (s : Switches) (text : List Char) : List Char :=
  if s.spaced then skipSpace false text else text

end Switches

end MapPainter.Pattern
