import MapPainter.ImageFile.Bits

/-!
# Prefix codes

A canonical prefix code is known from the lengths of its codewords: shorter codewords come first,
and among those of one length, smaller symbols.
-/

namespace MapPainter.ImageFile

open Bits

structure PrefixCode where
  /-- How many codewords there are of each length from 1 on. -/
  counts : List Nat
  /-- The symbols in the order of their codewords. -/
  symbols : Array Nat

namespace PrefixCode

/-- The longest codeword. -/
def maxLength : Nat := 15

/-- The code whose symbols 0, 1, … have codewords of these lengths; a symbol of length 0 has no
codeword. -/
def ofLengths (lengths : List Nat) : PrefixCode :=
  let ofLength (n : Nat) : List Nat :=
    lengths.zipIdx.filterMap fun (length, symbol) => if length = n then some symbol else none
  let bySize := (List.range' 1 maxLength).map ofLength
  ⟨bySize.map List.length, bySize.flatten.toArray⟩

/-- How many codewords of the greatest length are left over; `none` if there are not enough. -/
def spare (room : Nat) : List Nat → Option Nat
  | [] => some room
  | count :: counts => if count ≤ 2 * room then spare (2 * room - count) counts else none

/-- Whether every sequence of bits begins with a codeword. -/
def isComplete (code : PrefixCode) : Bool := spare 1 code.counts == some 0

/-- Whether the code has at most one codeword, of a single bit. -/
def isTrivial (code : PrefixCode) : Bool :=
  code.symbols.size == 0 || (code.symbols.size == 1 && code.counts.head? == some 1)

/-- Takes a codeword: `code` are the bits so far, `first` is the first codeword of the length and
`index` the number of shorter codewords. -/
def symbolFrom (symbols : Array Nat) (code first index : Nat) : List Nat → Reading Nat
  | [] => throw .bad
  | count :: counts => do
    let code := 2 * code + (← bit)
    let first := 2 * first
    if code < first + count then
      match symbols[index + (code - first)]? with
      | some symbol => return symbol
      | none => throw .bad
    else symbolFrom symbols code (first + count) (index + count) counts

/-- Takes a codeword and gives its symbol. -/
def symbol (code : PrefixCode) : Reading Nat := symbolFrom code.symbols 0 0 0 code.counts

end PrefixCode

end MapPainter.ImageFile
