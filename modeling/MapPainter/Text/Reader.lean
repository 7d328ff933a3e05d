/-!
# Readers

A text is read from the front. A reader gives what it has read and what is left of the text, and a
skipper what is left alone; neither gives anything where the text is not as it should be.
-/

namespace MapPainter.Text

/-- Reads something off the front of a text. -/
abbrev Reader (α : Type) := List Char → Option (α × List Char)

/-- Takes something off the front of a text. -/
abbrev Skipper := List Char → Option (List Char)

/-! ## Repeated steps -/

/-- What a step of a longer reading comes to. -/
inductive Progress (σ α : Type) where
  | more (state : σ)
  | done (result : α)

/-- Repeats a step up to a result. A step that does not give the result has to take something. -/
def repeated {σ α : Type} (step : σ → Reader (Progress σ α)) (state : σ) (text : List Char) :
    Option (α × List Char) :=
  match step state text with
  | none => none
  | some (.done result, rest) => some (result, rest)
  | some (.more state, rest) =>
    if rest.length < text.length then repeated step state rest else none
termination_by text.length

end MapPainter.Text
