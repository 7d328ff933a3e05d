import MapPainter.Fault

/-!
# Pixels

A raster in memory is a row-major array of bytes, three for each pixel, and its size lies within
fixed limits. Both are part of the type: whatever has type `Pixels` has a valid size and exactly
the bytes for it.
-/

namespace MapPainter.Raster

/-- The longest side of a raster. -/
def maxSide : Nat := 131072

/-- The largest number of pixels. -/
def maxPixels : Nat := 268435456

/-- Whether a raster of this size may be loaded. -/
def ValidSize (width height : Nat) : Prop :=
  width * height ≤ maxPixels ∧ 0 < width ∧ width ≤ maxSide ∧ 0 < height ∧ height ≤ maxSide

instance (width height : Nat) : Decidable (ValidSize width height) :=
  inferInstanceAs (Decidable (_ ∧ _))

/-- One sampled pixel. -/
structure Rgb where
  r : UInt8
  g : UInt8
  b : UInt8
  deriving DecidableEq, Repr

/-- Why a byte array is not a raster of the size asked for. -/
inductive SizeError where
  /-- The size is outside the limits. -/
  | dimensions (width height : Nat)
  /-- The bytes are not three for each pixel. -/
  | length (actual expected : Nat)
  deriving DecidableEq, Repr

/-- A raster of a valid size. -/
structure Pixels where
  width : Nat
  height : Nat
  bytes : ByteArray
  valid : ValidSize width height
  size_bytes : bytes.size = width * height * 3

namespace Pixels

/-- The raster of a byte array. The size is looked at before the length. -/
def ofBytes (width height : Nat) (bytes : ByteArray) : Except SizeError Pixels :=
  if hv : ValidSize width height then
    if hs : bytes.size = width * height * 3 then
      .ok ⟨width, height, bytes, hv, hs⟩
    else .error (.length bytes.size (width * height * 3))
  else .error (.dimensions width height)

/-- Appends the bytes of a pixel. -/
def pushPixel (bytes : ByteArray) (p : Rgb) : ByteArray := ((bytes.push p.r).push p.g).push p.b

@[simp] theorem size_pushPixel (bytes : ByteArray) (p : Rgb) :
    (pushPixel bytes p).size = bytes.size + 3 := by
  simp [pushPixel, ByteArray.size_push]

/-- Appends `n` pixels, the colours given by their columns from `col` on. -/
def pushRow (f : Nat → Rgb) (col : Nat) : Nat → ByteArray → ByteArray
  | 0, bytes => bytes
  | n + 1, bytes => pushRow f (col + 1) n (pushPixel bytes (f col))

/-- Appends `n` rows of `width` pixels, from row `row` on. -/
def pushRows (f : Nat → Nat → Rgb) (width row : Nat) : Nat → ByteArray → ByteArray
  | 0, bytes => bytes
  | n + 1, bytes => pushRows f width (row + 1) n (pushRow (f row) 0 width bytes)

@[simp] theorem size_pushRow (f : Nat → Rgb) (col n : Nat) (bytes : ByteArray) :
    (pushRow f col n bytes).size = bytes.size + 3 * n := by
  induction n generalizing col bytes with
  | zero => rfl
  | succ n ih => rw [pushRow, ih, size_pushPixel]; omega

@[simp] theorem size_pushRows (f : Nat → Nat → Rgb) (width row n : Nat) (bytes : ByteArray) :
    (pushRows f width row n bytes).size = bytes.size + 3 * (width * n) := by
  induction n generalizing row bytes with
  | zero => rfl
  | succ n ih => rw [pushRows, ih, size_pushRow, Nat.mul_succ]; omega

/-- The raster whose pixel at `(row, col)` is `f row col`, for a valid size. -/
def tabulate (width height : Nat) (f : Nat → Nat → Rgb) (hv : ValidSize width height) :
    Pixels where
  width := width
  height := height
  bytes := pushRows f width 0 height ByteArray.empty
  valid := hv
  size_bytes := by rw [size_pushRows, ByteArray.size_empty]; omega

/-- The raster whose pixel at `(row, col)` is `f row col`. -/
def ofFn (width height : Nat) (f : Nat → Nat → Rgb) : Except SizeError Pixels :=
  if hv : ValidSize width height then .ok (tabulate width height f hv)
  else .error (.dimensions width height)

/-- A raster of one colour. -/
def filled (width height : Nat) (colour : Rgb) : Except SizeError Pixels :=
  ofFn width height fun _ _ => colour

/-- Where the bytes of a pixel begin. -/
def start (p : Pixels) (row col : Nat) : Nat := (row * p.width + col) * 3

theorem start_lt (p : Pixels) {row col : Nat} (hr : row < p.height) (hc : col < p.width) :
    p.start row col + 2 < p.bytes.size := by
  have h : row * p.width + p.width ≤ p.height * p.width := by
    rw [← Nat.succ_mul]
    exact Nat.mul_le_mul_right _ hr
  rw [p.size_bytes, start, Nat.mul_comm p.width]
  omega

/-- The pixel at a position. -/
def pixel (p : Pixels) (row col : Nat) : Except Fault Rgb :=
  if h : row < p.height ∧ col < p.width then
    have hs := p.start_lt h.1 h.2
    .ok ⟨p.bytes[p.start row col], p.bytes[p.start row col + 1], p.bytes[p.start row col + 2]⟩
  else .error (.pixelOutside row col p.width p.height)

end Pixels

end MapPainter.Raster
