/-!
# Faults

A fault ends a computation that was started outside its domain: arithmetic that leaves its
width, a position that is not on the map, a gradient without room for its levels. Faults are
not answers about the input (those are the errors of `Raster.ReadError`, `ConfigError` and so
on); an import that meets one stops where it is.
-/

namespace MapPainter

/-- Why a computation stopped. -/
inductive Fault where
  /-- A sum, difference or product left the width it is computed in. -/
  | overflow
  /-- A division by zero. -/
  | zeroDivisor
  /-- A tile index beyond the last tile of the map. -/
  | noSuchTile
  /-- A tile position outside the map. -/
  | offMap
  /-- Trees of the invalid species were to be planted. -/
  | invalidSpecies
  /-- A map with an empty side was asked for. -/
  | emptySide
  /-- A gradient was asked for without any level above the lowest. -/
  | noLevels
  /-- A gradient whose ends are closer together than it has levels. -/
  | shortGradient (start stop levels : Int)
  /-- A projected row that the raster does not have. -/
  | rowOutside (row height : Nat)
  /-- A projected column that the raster does not have. -/
  | columnOutside (column width : Nat)
  /-- A pixel position that the raster does not have. -/
  | pixelOutside (row column width height : Nat)
  deriving DecidableEq, Repr

/-- The wording of those faults that have one. -/
def Fault.message? : Fault → Option String
  | .overflow | .zeroDivisor | .noSuchTile | .offMap | .invalidSpecies => none
  | .emptySide => some "map sides must be non-zero"
  | .noLevels => some "gradient needs at least one level"
  | .shortGradient start stop levels =>
    some s!"gradient {start}..{stop} is too short for {levels} levels"
  | .rowOutside row height => some s!"projected row {row} outside raster of height {height}"
  | .columnOutside column width =>
    some s!"projected column {column} outside raster of width {width}"
  | .pixelOutside row column width height =>
    some s!"pixel ({row}, {column}) outside {width}x{height} raster"

/-! ## Arithmetic of a bounded width

Quantities are natural numbers or integers throughout; where a width is part of the contract,
the operation goes through one of these and fails instead of leaving the width. -/

namespace Word

/-- A difference of unsigned numbers; below zero is an overflow. -/
def sub (a b : Nat) : Except Fault Nat :=
  if b ≤ a then .ok (a - b) else .error .overflow

/-- A quotient, rounded down. -/
def div (a b : Nat) : Except Fault Nat :=
  if b = 0 then .error .zeroDivisor else .ok (a / b)

/-- A number that has to fit in an unsigned word of `bits` bits. -/
def fit (bits n : Nat) : Except Fault Nat :=
  if n < 1 <<< bits then .ok n else .error .overflow

/-- An integer that has to fit in a signed word of 32 bits. -/
def fitSigned (n : Int) : Except Fault Int :=
  if -0x80000000 ≤ n ∧ n < 0x80000000 then .ok n else .error .overflow

end Word

end MapPainter
