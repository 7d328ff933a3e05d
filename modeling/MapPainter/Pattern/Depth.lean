/-!
# Depths

A pattern may not be nested too deep. Single pieces have no depth. What is built of several things
is one deeper than the deepest of them, and a repetition, a group or a set is one deeper than what
it holds.
-/

namespace MapPainter.Pattern

/-- How deep a pattern may be nested. -/
def maxDepth : Nat := 250

/-- The depth of what stands in a row; a thing alone is no row. -/
def rowDepth : List Nat → Nat
  | [] => 0
  | [depth] => depth
  | depths => depths.foldl max 0 + 1

end MapPainter.Pattern
