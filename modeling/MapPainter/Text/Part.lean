/-!
# Parts of a text

A text can be cut at a number of bytes in UTF-8, if no character lies across the cut.
-/

namespace MapPainter.Text

/-- What a text holds up to and from a number of bytes. -/
def cutAt? : Nat → List Char → Option (List Char × List Char)
  | 0, cs => some ([], cs)
  | _ + 1, [] => none
  | n + 1, c :: rest =>
    if c.utf8Size ≤ n + 1 then
      (cutAt? (n + 1 - c.utf8Size) rest).map fun (before, after) => (c :: before, after)
    else none
termination_by _ cs => cs.length

/-- The part of a text from the byte `start` up to the byte `stop`. -/
def part? (start stop : Nat) (cs : List Char) : Option (List Char) := do
  let (_, after) ← cutAt? start cs
  let (part, _) ← cutAt? (stop - start) after
  return part

/-- The part of a text from the byte `start` on. -/
def partFrom? (start : Nat) (cs : List Char) : Option (List Char) := (cutAt? start cs).map (·.2)

/-- The first of some marks in a text: its place in bytes, the mark, and what follows. The text
begins at the byte `start`. -/
def findMark? (marks : List Char) (start : Nat) : List Char → Option (Nat × Char × List Char)
  | [] => none
  | c :: rest =>
    if c ∈ marks then some (start, c, rest) else findMark? marks (start + c.utf8Size) rest

end MapPainter.Text
