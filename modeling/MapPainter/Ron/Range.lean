import MapPainter.Ron.Quoted

/-!
# Ranges

A range has two points between its bounds, or two points and a sign of equality where the upper
bound belongs to it. A bound is a number or a byte, and may be left out, except behind the sign of
equality. There are no blanks in a range.
-/

namespace MapPainter.Ron

/-- Whether a bound, and nothing else, may stand at the front of a text. -/
def beginsBound (text : List Char) : Bool :=
  beginsNumber text || ['b', '\x27'].isPrefixOf text

/-- Takes a number or a byte. -/
def skipBound (text : List Char) : Option (List Char) :=
  if beginsNumber text then skipNumber text else skipByte text

/-- Takes what follows the two points of a range. -/
def skipUpperBound : List Char → Option (List Char)
  | '=' :: rest => skipBound rest
  | rest => if beginsBound rest then skipBound rest else some rest

/-- Takes a bound by itself or a range. -/
def skipRange : List Char → Option (List Char)
  | '.' :: '.' :: rest => skipUpperBound rest
  | text =>
    match skipBound text with
    | some ('.' :: '.' :: rest) => skipUpperBound rest
    | other => other

end MapPainter.Ron
