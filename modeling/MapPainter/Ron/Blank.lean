import MapPainter.Text.Reader

/-!
# Blanks and comments

Between any two tokens of the notation there may be blanks, comments up to the end of the line,
and comments between `/*` and `*/`, which nest.
-/

namespace MapPainter.Ron

open Text (Reader)

/-- The characters with the property Pattern_White_Space. -/
def isBlank (c : Char) : Bool :=
  c ∈ ['\t', '\n', '\x0b', '\x0c', '\r', ' ', '\u0085', '\u200e', '\u200f', '\u2028', '\u2029']

mutual

/-- What follows the blanks and comments at the front of a text. A comment that is not closed, or
a slash that does not begin one, is an error. -/
def skipBlank : List Char → Option (List Char)
  | '/' :: '/' :: rest => skipLine rest
  | '/' :: '*' :: rest => skipComment 0 rest
  | '/' :: _ => none
  | c :: rest => if isBlank c then skipBlank rest else some (c :: rest)
  | [] => some []

/-- Inside a comment up to the end of the line. -/
def skipLine : List Char → Option (List Char)
  | c :: rest => if c = '\n' then skipBlank rest else skipLine rest
  | [] => some []

/-- Inside a comment, and in that many others around it. -/
def skipComment (around : Nat) : List Char → Option (List Char)
  | '/' :: '*' :: rest => skipComment (around + 1) rest
  | '*' :: '/' :: rest =>
    match around with
    | 0 => skipBlank rest
    | n + 1 => skipComment n rest
  | _ :: rest => skipComment around rest
  | [] => none

end

/-- Skips blanks, and then takes a character. -/
def expect (c : Char) (text : List Char) : Option (List Char) :=
  match skipBlank text with
  | some (d :: rest) => if d = c then some rest else none
  | _ => none

/-! ## Separated items -/

/-- Takes items separated by commas up to a closing character, which is taken as well. A comma may
follow the last item. Every item is read into a state; one that takes nothing is an error. -/
def separated {σ : Type} (close : Char) (item : σ → Reader σ) (state : σ) (text : List Char) :
    Option (σ × List Char) :=
  match skipBlank text with
  | some (c :: rest) =>
    if c = close then some (state, rest)
    else
      match item state (c :: rest) with
      | none => none
      | some (state, after) =>
        match skipBlank after with
        | some (d :: next) =>
          if d = close then some (state, next)
          else if d = ',' ∧ next.length < text.length then separated close item state next
          else none
        | _ => none
  | _ => none
termination_by text.length

end MapPainter.Ron
