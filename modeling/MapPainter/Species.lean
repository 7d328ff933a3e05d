import MapPainter.Settings

/-!
# Tree species

A species is a number below 255; 255 stands for "no species". The species of one climate form a
block of consecutive numbers. A `SpeciesRange` is a non-empty block of proper species, so any
offset below its count is a species again.
-/

namespace MapPainter

/-- A tree species by number. -/
structure Species where
  id : UInt8
  deriving DecidableEq, Repr

namespace Species

/-- The value that is no species. -/
def invalid : Species := ⟨0xff⟩

def IsValid (s : Species) : Prop := s ≠ invalid

instance (s : Species) : Decidable s.IsValid := inferInstanceAs (Decidable (s ≠ invalid))

/-- The species `n` places after `base`, invalid if the numbers end before. -/
def offset (base : Species) (n : Nat) : Species :=
  if base.id.toNat + n < 256 then ⟨UInt8.ofNat (base.id.toNat + n)⟩ else invalid

end Species

/-- A block of `count` species from `base` on. -/
structure SpeciesRange where
  base : Species
  count : Nat
  count_pos : 0 < count := by decide
  fits : base.id.toNat + count ≤ 255 := by decide
  deriving DecidableEq, Repr

namespace SpeciesRange

/-- The block of that base and count, if it is not empty and ends before the invalid species. -/
def of? (base : Species) (count : Nat) : Option SpeciesRange :=
  if h : 0 < count ∧ base.id.toNat + count ≤ 255 then some ⟨base, count, h.1, h.2⟩ else none

def temperate : SpeciesRange := { base := ⟨0x00⟩, count := 12 }
def subArctic : SpeciesRange := { base := ⟨0x0c⟩, count := 8 }
def rainforest : SpeciesRange := { base := ⟨0x14⟩, count := 7 }
def cactus : SpeciesRange := { base := ⟨0x1b⟩, count := 1 }
def subTropical : SpeciesRange := { base := ⟨0x1c⟩, count := 4 }
def toyland : SpeciesRange := { base := ⟨0x20⟩, count := 9 }

/-- The species that a byte of randomness picks from the block: the byte scaled to the count. -/
def pick (r : SpeciesRange) (seed : Nat) : Species :=
  r.base.offset (seed * r.count / 256)

end SpeciesRange

/-- The block that a tree raster picks its species from, for each climate. -/
structure SpeciesTable where
  temperate : SpeciesRange
  arctic : SpeciesRange
  tropic : SpeciesRange
  toyland : SpeciesRange
  deriving DecidableEq, Repr

namespace SpeciesTable

/-- The blocks of the climates. A tropic raster picks from the start of the rainforest block and
wraps around at the size of the sub-tropical one. -/
def standard : SpeciesTable where
  temperate := .temperate
  arctic := .subArctic
  tropic := { base := ⟨0x14⟩, count := 4 }
  toyland := .toyland

instance : Inhabited SpeciesTable := ⟨standard⟩

def range (t : SpeciesTable) : Climate → SpeciesRange
  | .temperate => t.temperate
  | .arctic => t.arctic
  | .tropic => t.tropic
  | .toyland => t.toyland

/-- The table with the block of one climate replaced. -/
def withRange (t : SpeciesTable) (r : SpeciesRange) : Climate → SpeciesTable
  | .temperate => { t with temperate := r }
  | .arctic => { t with arctic := r }
  | .tropic => { t with tropic := r }
  | .toyland => { t with toyland := r }

end SpeciesTable

end MapPainter
