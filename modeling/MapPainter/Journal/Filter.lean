import MapPainter.Journal.Directive

/-!
# Filters

Which entries of a journal are shown is said by a list of directives, of which the most particular
one that fits an entry decides.
-/

namespace MapPainter.Journal

/-- The rules of a text. The malformed ones are left aside; a torn one spoils the text. -/
def rules : List (List Char) → Option (List Rule)
  | [] => some []
  | piece :: rest =>
    match Rule.parse piece with
    | .ok rule => (rules rest).map (rule :: ·)
    | .error .malformed => rules rest
    | .error .torn => none

/-- The directives of a filter, which are separated by commas. A blank text asks for information;
where nothing can be read, errors alone are shown. There are none for a text that is spoilt. -/
def filter? (text : String) : Option (List Directive) :=
  let trimmed := Text.trim text.toList
  if trimmed.isEmpty then some [{ topic := none, level := Level.info.number }]
  else
    (rules ((Text.pieces ',' trimmed).filter fun piece => !piece.isEmpty)).map fun
      | [] => [{ topic := none, level := Level.error.number }]
      | rules => rules.filterMap fun
        | .entries directive => some directive
        | .spans => none

namespace Directive

/-- Whether a directive is about an entry. -/
def fits (d : Directive) (e : Entry) : Bool :=
  (d.topic.all fun topic => topic.toList.isPrefixOf e.topic.toList) &&
    d.field.all fun field => e.fields.contains field

/-- Of two directives that fit an entry, the one with the longer topic, then the one with a field,
and then the one whose field comes later in the order of texts; if they are equal in that, the
second one. -/
def stricter (first second : Directive) : Directive :=
  let size (d : Directive) : Nat := d.topic.elim 0 fun topic => topic.length + 1
  let field (d : Directive) : String := d.field.getD ""
  if size first < size second ∨ (size first = size second ∧ field first ≤ field second) then second
  else first

end Directive

/-- Whether an entry is shown. -/
def shows (directives : List Directive) (e : Entry) : Bool :=
  match directives.filter fun d => d.fits e with
  | [] => false
  | first :: rest => e.level.number ≤ (rest.foldl Directive.stricter first).level

end MapPainter.Journal
