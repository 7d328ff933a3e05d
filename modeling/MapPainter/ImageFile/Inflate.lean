import MapPainter.ImageFile.Adler
import MapPainter.ImageFile.PrefixCode

/-!
# Decompression

The data format of zlib: a header of two bytes, a sequence of blocks in the deflate format, and a
checksum. Where data arrive in portions, only as much is decompressed as is needed: what comes
behind it, the rest of a block and the checksum included, need not be there. With the last byte of
output, though, the end of its block is taken, if it comes next, and the blocks without any bytes
that follow.
-/

namespace MapPainter.ImageFile

open Bits

/-- What comes next in the data. -/
inductive Phase where
  | header
  | block
  /-- So many bytes of a block that is not compressed. -/
  | stored (left : Nat) (last : Bool)
  /-- A symbol of a block with these codes. -/
  | coded (literals distances : PrefixCode) (last : Bool)
  | finished

/-- What a step adds to the output. -/
inductive Piece where
  | nothing
  | byte (value : UInt8)
  | pair (first second : UInt8)
  /-- So many bytes of the data, from a position on. -/
  | bytes (start count : Nat)
  /-- So many bytes that stand a distance back. -/
  | copy (distance length : Nat)

namespace Piece

/-- Appends `n` bytes that stand `distance` bytes back. -/
def copyBack (out : ByteArray) (distance : Nat) : Nat → ByteArray
  | 0 => out
  | n + 1 => copyBack (out.push (Bytes.byteD out (out.size - distance))) distance n

def appendTo (data out : ByteArray) : Piece → ByteArray
  | nothing => out
  | byte value => out.push value
  | pair first second => (out.push first).push second
  | bytes start count => out ++ data.extract start (start + count)
  | copy distance length => copyBack out distance length

end Piece

namespace Inflate

/-- What follows a block. -/
def behind (last : Bool) : Phase := if last then .finished else .block

/-! ## Symbols -/

/-- The symbol that ends a block. Smaller ones are literals, greater ones lengths. -/
def endSymbol : Nat := 256

/-- Length symbols from 257 on: the shortest length and the number of bits added to it. -/
def lengthBase : List (Nat × Nat) :=
  [(3, 0), (4, 0), (5, 0), (6, 0), (7, 0), (8, 0), (9, 0), (10, 0), (11, 1), (13, 1), (15, 1),
    (17, 1), (19, 2), (23, 2), (27, 2), (31, 2), (35, 3), (43, 3), (51, 3), (59, 3), (67, 4),
    (83, 4), (99, 4), (115, 4), (131, 5), (163, 5), (195, 5), (227, 5), (258, 0)]

/-- Distance symbols: the shortest distance and the number of bits added to it. -/
def distanceBase : List (Nat × Nat) :=
  [(1, 0), (2, 0), (3, 0), (4, 0), (5, 1), (7, 1), (9, 2), (13, 2), (17, 3), (25, 3), (33, 4),
    (49, 4), (65, 5), (97, 5), (129, 6), (193, 6), (257, 7), (385, 7), (513, 8), (769, 8),
    (1025, 9), (1537, 9), (2049, 10), (3073, 10), (4097, 11), (6145, 11), (8193, 12), (12289, 12),
    (16385, 13), (24577, 13)]

/-- The value of a symbol of one of these tables. -/
def extended (table : List (Nat × Nat)) (symbol : Nat) : Reading Nat :=
  match table[symbol]? with
  | some (base, extra) => do return base + (← number extra)
  | none => throw .bad

/-- The greatest length of two codewords that are taken together. -/
def pairBits : Nat := 12

/-- Takes the literal that goes together with one of `first` bits, if there is such a literal: the
codeword of the second one has more than one bit. Bits that have not arrived count as zeros, so a
literal may have to wait for another one. -/
def partner (literals : PrefixCode) (first : Nat) : Reading (Option Nat) := fun b =>
  match measured literals.symbol { b with padded := true } with
  | .error _ => .ok (none, b)
  | .ok ((symbol, second), after) =>
    if symbol < endSymbol ∧ 1 < second ∧ first + second ≤ pairBits then
      if second ≤ b.left then .ok (some symbol, { b with taken := after.taken })
      else .error .short
    else .ok (none, b)

/-- One or two literals, one copy, or the end of a block. There are `size` bytes of output so far.
A length symbol that stands for no length ends a block as well. -/
def codedStep (literals distances : PrefixCode) (last : Bool) (size : Nat) :
    Reading (Phase × Piece) := do
  let here := .coded literals distances last
  let (symbol, bits) ← measured literals.symbol
  if symbol < endSymbol then
    match ← partner literals bits with
    | some second => return (here, .pair (UInt8.ofNat symbol) (UInt8.ofNat second))
    | none => return (here, .byte (UInt8.ofNat symbol))
  else if symbol = endSymbol ∨ endSymbol + lengthBase.length < symbol then
    return (behind last, .nothing)
  else
    let length ← extended lengthBase (symbol - endSymbol - 1)
    let distance ← extended distanceBase (← distances.symbol)
    if size < distance then throw .bad
    return (here, .copy distance length)

/-- Takes the end of a block if it comes next. -/
def takeEnd (literals : PrefixCode) : Reading Bool := fun b =>
  match literals.symbol b with
  | .ok (symbol, after) => .ok (if symbol = endSymbol then (true, after) else (false, b))
  | .error _ => .ok (false, b)

/-- The end of a block where no more output is wanted. It is looked for only if there are bits for
any symbol. -/
def endStep (literals : PrefixCode) (last : Bool) : Reading (Phase × Piece) := do
  require PrefixCode.maxLength
  if ← takeEnd literals then return (behind last, .nothing) else throw .short

/-! ## Blocks -/

/-- As many of the bytes as have arrived, and `room` at most. -/
def storedStep (left : Nat) (last : Bool) (room : Nat) : Reading (Phase × Piece) := fun b =>
  let count := min left (min room (b.left / 8))
  let next := if count < left then .stored (left - count) last else behind last
  if count = 0 then .error .short
  else .ok ((next, .bytes (b.taken / 8) count), { b with taken := b.taken + 8 * count })

def fixedLiterals : PrefixCode :=
  .ofLengths (List.replicate 144 8 ++ List.replicate 112 9 ++ List.replicate 24 7 ++
    List.replicate 8 8)

def fixedDistances : PrefixCode := .ofLengths (List.replicate 32 5)

/-- The order in which the lengths of the first code are given. -/
def lengthOrder : List Nat := [16, 17, 18, 0, 8, 7, 9, 6, 10, 5, 11, 4, 12, 3, 13, 2, 14, 1, 15]

/-- Takes the lengths of one symbol or one run, in reverse order, until there are `total`. -/
def lengthStep (code : PrefixCode) (total : Nat) (lengths : List Nat) :
    Reading (List Nat ⊕ List Nat) := do
  require 7
  let symbol ← code.symbol
  let (length, run) ← match symbol with
    | 16 => do
      let run ← number 2
      match lengths with
      | [] => throw .bad
      | last :: _ => pure (last, 3 + run)
    | 17 => do pure (0, 3 + (← number 3))
    | 18 => do pure (0, 11 + (← number 7))
    | _ => pure (symbol, 1)
  let lengths := List.replicate run length ++ lengths
  if lengths.length < total then return .inl lengths
  else if lengths.length = total then return .inr lengths.reverse
  else throw .bad

/-- The codes of a block, which are given by the lengths of their codewords. There has to be one for
the end of the block. -/
def ownCodes : Reading (PrefixCode × PrefixCode) := do
  let literalCount := 257 + (← number 5)
  let distanceCount := 1 + (← number 5)
  let lengthCount := 4 + (← number 4)
  if 286 < literalCount ∨ 30 < distanceCount then throw .bad
  let given ← numbers 3 lengthCount
  let lengthOf (symbol : Nat) : Nat := ((lengthOrder.zip given).lookup symbol).getD 0
  let lengthCode := PrefixCode.ofLengths ((List.range 19).map lengthOf)
  if !lengthCode.isComplete then throw .bad
  let lengths ← repeatStep (lengthStep lengthCode (literalCount + distanceCount)) []
  let literals := PrefixCode.ofLengths (lengths.take literalCount)
  let distances := PrefixCode.ofLengths (lengths.drop literalCount)
  if !literals.isComplete || !literals.symbols.contains endSymbol then throw .bad
  if !(distances.isComplete || distances.isTrivial) then throw .bad
  return (literals, distances)

/-- The beginning of a block. The last one ends the data. -/
def blockStep : Reading Phase := do
  require 10
  let last := (← bit) = 1
  match ← number 2 with
  | 0 => do
    align
    let length ← number 16
    let complement ← number 16
    if length + complement ≠ 65535 then throw .bad
    return if length = 0 then behind last else .stored length last
  | 1 =>
    if ← takeEnd fixedLiterals then return behind last
    else return .coded fixedLiterals fixedDistances last
  | 2 => do
    let (literals, distances) ← ownCodes
    return .coded literals distances last
  | _ => throw .bad

/-- The header: method 8, a window of at most 32768 bytes, no dictionary, and a remainder of 0
modulo 31. -/
def header : Reading Unit := do
  let method ← number 4
  let window ← number 4
  let flags ← number 8
  if method ≠ 8 ∨ 7 < window ∨ flags / 32 % 2 = 1 then throw .bad
  if (256 * (16 * window + method) + flags) % 31 ≠ 0 then throw .bad

end Inflate

/-! ## Running -/

/-- How far the data have been decompressed. -/
structure Inflater where
  phase : Phase := .header
  /-- The number of bits taken. -/
  taken : Nat := 0
  out : ByteArray := .empty

namespace Inflater

open Inflate

/-- Takes what comes next; there are `size` bytes of output, and `limit` are wanted. A pair or a
copy may go beyond that. -/
def step (phase : Phase) (size limit : Nat) : Reading (Phase × Piece) :=
  match phase with
  | .header => do
    header
    return (.block, .nothing)
  | .block => do return (← blockStep, .nothing)
  | .stored left last => storedStep left last (limit - size)
  | .coded literals distances last =>
    if size < limit then codedStep literals distances last size
    else if size = limit then endStep literals last
    else throw .short
  | .finished => throw .short

/-- Goes on while the bits that have arrived allow it. -/
def run (data : ByteArray) (stop limit : Nat) (s : Inflater) : Option Inflater :=
  match step s.phase s.out.size limit ⟨data, stop, s.taken, false⟩ with
  | .error .short => some s
  | .error .bad => none
  | .ok ((phase, piece), after) =>
    if stop - after.taken < stop - s.taken then
      run data stop limit ⟨phase, after.taken, piece.appendTo data s.out⟩
    else none
termination_by stop - s.taken

/-- The output as soon as it has the bytes that are needed. The portions of the data end at
`stops`. -/
def outputFrom (data : ByteArray) (needed : Nat) (s : Inflater) : List Nat → Option ByteArray
  | [] => none
  | stop :: stops => do
    let s ← s.run data (8 * stop) needed
    if needed ≤ s.out.size then some s.out else outputFrom data needed s stops

end Inflater

/-- Decompresses data that arrive in portions, until there are `needed` bytes or more. -/
def inflate? (data : ByteArray) (stops : List Nat) (needed : Nat) : Option ByteArray :=
  Inflater.outputFrom data needed {} stops

/-- Decompresses data up to and with their checksum into at most `most` bytes. -/
def inflateWhole? (data : ByteArray) (most : Nat) : Option ByteArray := do
  let s ← Inflater.run data (8 * data.size) most {}
  let .finished := s.phase | none
  guard (Bytes.big? data ((s.taken + 7) / 8) 4 = some (Adler.checksum s.out))
  return s.out

end MapPainter.ImageFile
