import MapPainter.Journal
import MapPainter.Journal.FieldValue
import MapPainter.Text.Alphanumeric
import MapPainter.Text.Blank
import MapPainter.Text.Part

/-!
# Directives

A filter of a journal is a list of directives. A directive is a level, a topic, or a topic and a
level with a sign of equality between them. Behind the topic there may be a condition in brackets:
the name of a span, a field in braces, or both; a field may be given with its value, a number or a
pattern.

The marks of a directive are looked for in its text without the blanks around it, while its parts
are cut out of the text with the blanks, by the number of bytes. So blanks in front move every
part to the left, and those behind belong to the last part.
-/

namespace MapPainter.Journal

/-- Shows the entries of a topic up to a level, numbered from 0 for none to 5 for all. -/
structure Directive where
  /-- What the topics of the entries begin with; `none` stands for all topics. -/
  topic : Option String
  /-- What the entries have to consist of, among other things. -/
  field : Option String := none
  level : Nat
  deriving DecidableEq, Repr

/-- What a directive is about. -/
inductive Rule where
  | entries (directive : Directive)
  /-- Spans alone, of which there are none. -/
  | spans
  deriving DecidableEq, Repr

/-- Why a directive is not read. -/
inductive Flaw where
  | malformed
  /-- A part of it would begin or end within a character. -/
  | torn
  deriving DecidableEq, Repr

/-! ## Levels -/

/-- A number without a sign of its own, in decimal digits. -/
def decimal? (word : List Char) : Option Nat :=
  let digits := match word with
    | '+' :: rest => rest
    | word => word
  if digits.isEmpty || !digits.all Char.isDigit then none
  else some (digits.foldl (fun n c => 10 * n + (c.toNat - '0'.toNat)) 0)

/-- A word for a level, up to ASCII case, or its number. -/
def level? (word : List Char) : Option Nat :=
  match (decimal? word).filter (· ≤ Level.trace.number) with
  | some n => some n
  | none =>
    (("OFF", 0) :: Level.all.map fun l => (l.name, l.number)).lookup (String.ofList word).toUpper

/-! ## Reading -/

/-- The part of a text between two places. -/
def part (text : List Char) (start stop : Nat) : Except Flaw (List Char) :=
  (Text.part? start stop text).elim (.error .torn) .ok

/-- The level that a text gives from a place on. A directive without one shows all entries. -/
def levelFrom (text : List Char) (start : Nat) : Except Flaw Nat :=
  match Text.partFrom? start text with
  | none => .error .torn
  | some [] => .ok Level.trace.number
  | some word => (level? word).elim (.error .malformed) .ok

/-- What follows a condition is the end, or a sign of equality and a level. -/
def levelBehind (text : List Char) (start : Nat) : List Char → Except Flaw Nat
  | [] => .ok Level.trace.number
  | '=' :: _ => levelFrom text (start + 1)
  | _ => .error .malformed

/-- The value that a field is given with: what follows the first sign of equality, up to a second
one. -/
def valueOf? (field : List Char) : Option (List Char) := (Text.pieces '=' field)[1]?

/-- Whether a field can be asked for. -/
def isField (field : List Char) : Bool := !field.isEmpty && (valueOf? field).all isFieldValue

/-- Reads a condition up to its closing bracket; `rest` is what follows the opening one, and begins
at `start`. A condition on spans, or on the value of a field, concerns no entries. -/
def condition (text : List Char) (topic : Option String) (start : Nat) (rest : List Char) :
    Except Flaw Rule :=
  match Text.findMark? [']', '\x7b'] start rest with
  | none => .error .malformed
  | some (stop, ']', rest) => do
    let _ ← part text start stop
    let _ ← levelBehind text (stop + 1) rest
    return .spans
  | some (stop, _, rest) => do
    let span ← part text start stop
    match Text.findMark? ['\x7d'] (stop + 1) rest with
    | none => .error .malformed
    | some (close, _, rest) =>
      let field ← part text (stop + 1) close
      if !isField field then .error .malformed
      else
        match rest with
        | ']' :: rest =>
          let level ← levelBehind text (close + 2) rest
          if span.isEmpty && !field.contains '=' then
            return .entries { topic, field := some (String.ofList field), level }
          else return .spans
        | _ => .error .malformed

/-- Whether a directive may begin with a character. -/
def beginsDirective (c : Char) : Bool := Text.isAlphanumeric c || c ∈ ['-', ':', '_']

/-- A directive without marks: a level for all topics, or a topic of which all is shown. -/
def plain (word : List Char) : Directive :=
  match level? word with
  | some level => { topic := none, level }
  | none => { topic := some (String.ofList word), level := Level.trace.number }

/-- Reads a directive. -/
def Rule.parse (text : List Char) : Except Flaw Rule :=
  match Text.trim text with
  | '[' :: rest => condition text none 1 rest
  | [] => .error .malformed
  | c :: rest =>
    if !beginsDirective c then .error .malformed
    else
      match Text.findMark? ['=', '['] 0 (c :: rest) with
      | none => .ok (.entries (plain text))
      | some (stop, mark, rest) => do
        let topic := some (String.ofList (← part text 0 stop))
        if mark = '[' then condition text topic (stop + 1) rest
        else return .entries { topic, level := ← levelFrom text (stop + 1) }

end MapPainter.Journal
