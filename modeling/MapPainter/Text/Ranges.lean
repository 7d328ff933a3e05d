/-!
# Classes of characters

A class of characters beyond ASCII is a table of ranges of code points, in rising order.
-/

namespace MapPainter.Text

/-- The first and the last code point of every range. -/
abbrev Ranges := List (Nat × Nat)

def Ranges.contains (table : Ranges) (c : Char) : Bool :=
  table.any fun (first, last) => first ≤ c.toNat && c.toNat ≤ last

end MapPainter.Text
