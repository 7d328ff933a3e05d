import MapPainter.Proofs.Division
import MapPainter.Proofs.Raster.Pixels

/-!
# The layout of rasters

The bytes of a raster are those of its pixels, row by row. Rasters are written pixel by pixel, and
every pixel that is written follows those before it (`Raster.Laid.pushPixel`), so after whole rows
all of them are there in order (`Raster.Laid.pushRows`). Reading goes by the number of a pixel,
`row * width + col`, and finds the one that was written at `(row, col)`. As the pixels are all there
is, a raster that is written from the pixels of another one is the same
(`Raster.Pixels.ofFn_of_pixel`).
-/

namespace MapPainter.Raster

variable {bytes : ByteArray} {x y : UInt8} {i n m row col width height : Nat} {p q : Rgb}
  {colour : Nat → Rgb}

/-! ## Pixels among bytes -/

/-- The bytes of a pixel begin at a place of a byte array. -/
structure PixelAt (bytes : ByteArray) (i : Nat) (p : Rgb) : Prop where
  red : bytes[i]? = some p.r
  green : bytes[i + 1]? = some p.g
  blue : bytes[i + 2]? = some p.b

theorem getElem?_push : (bytes.push x)[i]? = if i = bytes.size then some x else bytes[i]? :=
  Array.getElem?_push

theorem getElem?_push_size (bytes : ByteArray) (x : UInt8) :
    (bytes.push x)[bytes.size]? = some x := by
  rw [getElem?_push, if_pos rfl]

theorem getElem?_push_of_eq_some (h : bytes[i]? = some y) : (bytes.push x)[i]? = some y := by
  obtain ⟨hi, -⟩ := getElem?_eq_some_iff.mp h
  rw [getElem?_push, if_neg (Nat.ne_of_lt hi), h]

namespace PixelAt

theorem unique (hp : PixelAt bytes i p) (hq : PixelAt bytes i q) : p = q := by
  have hr := Option.some.inj (hp.red.symm.trans hq.red)
  have hg := Option.some.inj (hp.green.symm.trans hq.green)
  have hb := Option.some.inj (hp.blue.symm.trans hq.blue)
  cases p
  cases q
  simp_all

theorem push (h : PixelAt bytes i p) : PixelAt (bytes.push x) i p :=
  ⟨getElem?_push_of_eq_some h.red, getElem?_push_of_eq_some h.green,
    getElem?_push_of_eq_some h.blue⟩

theorem pushPixel (h : PixelAt bytes i p) : PixelAt (Pixels.pushPixel bytes q) i p :=
  h.push.push.push

end PixelAt

theorem pixelAt_pushPixel (bytes : ByteArray) (p : Rgb) :
    PixelAt (Pixels.pushPixel bytes p) bytes.size p := by
  have hred : (bytes.push p.r).size = bytes.size + 1 := ByteArray.size_push
  have hgreen : ((bytes.push p.r).push p.g).size = bytes.size + 2 := by
    rw [ByteArray.size_push, hred]
  refine ⟨?_, ?_, ?_⟩
  · exact getElem?_push_of_eq_some (getElem?_push_of_eq_some (getElem?_push_size bytes p.r))
  · rw [← hred]
    exact getElem?_push_of_eq_some (getElem?_push_size _ p.g)
  · rw [← hgreen]
    exact getElem?_push_size _ p.b

/-! ## Pixels one after another -/

/-- A byte array holds the pixels `colour 0` to `colour (n - 1)`, one after another, and nothing
else. -/
structure Laid (bytes : ByteArray) (n : Nat) (colour : Nat → Rgb) : Prop where
  size : bytes.size = n * 3
  pixel : ∀ k < n, PixelAt bytes (k * 3) (colour k)

theorem laid_empty (colour : Nat → Rgb) : Laid ByteArray.empty 0 colour :=
  ⟨rfl, fun _ h => absurd h (Nat.not_lt_zero _)⟩

namespace Laid

/-- The next pixel is put where its number says. -/
theorem pushPixel (h : Laid bytes n colour) :
    Laid (Pixels.pushPixel bytes (colour n)) (n + 1) colour := by
  have hsize := h.size
  refine ⟨by rw [Pixels.size_pushPixel]; omega, fun k hk => ?_⟩
  rcases Nat.lt_succ_iff_lt_or_eq.mp hk with hlt | rfl
  · exact (h.pixel k hlt).pushPixel
  · rw [← hsize]
    exact pixelAt_pushPixel bytes _

/-- Pixels of a row are put behind any number of others. -/
theorem pushRow {f : Nat → Rgb} (h : Laid bytes n colour)
    (hf : ∀ j < m, f (col + j) = colour (n + j)) :
    Laid (Pixels.pushRow f col m bytes) (n + m) colour := by
  -- over the pixels still to come: the first of them makes one more for the others to follow
  induction m generalizing bytes n col with
  | zero => exact h
  | succ m ih =>
    have hfirst : f col = colour n := hf 0 (Nat.succ_pos m)
    rw [Pixels.pushRow, hfirst, Nat.add_comm m, ← Nat.add_assoc]
    refine ih h.pushPixel fun j hj => ?_
    rw [Nat.add_assoc, Nat.add_assoc, Nat.add_comm 1]
    exact hf (j + 1) (Nat.succ_lt_succ hj)

/-- Whole rows are put behind the rows before them. -/
theorem pushRows {f : Nat → Nat → Rgb} (h : Laid bytes (row * width) colour)
    (hf : ∀ r, ∀ c < width, f r c = colour (r * width + c)) :
    Laid (Pixels.pushRows f width row n bytes) ((row + n) * width) colour := by
  induction n generalizing bytes row with
  | zero => exact h
  | succ n ih =>
    have hrow : Laid (Pixels.pushRow (f row) 0 width bytes) ((row + 1) * width) colour := by
      rw [Nat.succ_mul]
      refine h.pushRow fun j hj => ?_
      rw [Nat.zero_add]
      exact hf row j hj
    rw [Pixels.pushRows, Nat.add_comm n, ← Nat.add_assoc]
    exact ih hrow

/-- The pixels make up the bytes. -/
theorem ext {bytes' : ByteArray} {colour' : Nat → Rgb} (h : Laid bytes n colour)
    (h' : Laid bytes' n colour') (heq : ∀ k < n, colour k = colour' k) : bytes = bytes' := by
  refine ByteArray.ext (Array.ext_getElem? fun i => ?_)
  change bytes[i]? = bytes'[i]?
  rcases Nat.lt_or_ge i (n * 3) with hi | hi
  · have hk : i / 3 < n := Nat.div_lt_of_lt_mul (Nat.mul_comm n 3 ▸ hi)
    have hpixel := h.pixel _ hk
    have hpixel' := h'.pixel _ hk
    rw [← heq _ hk] at hpixel'
    -- the byte is one of the three of pixel `i / 3`
    have hi3 : i = i / 3 * 3 ∨ i = i / 3 * 3 + 1 ∨ i = i / 3 * 3 + 2 := by omega
    rcases hi3 with hi | hi | hi
    · rw [hi, hpixel.red, hpixel'.red]
    · rw [hi, hpixel.green, hpixel'.green]
    · rw [hi, hpixel.blue, hpixel'.blue]
  · rw [getElem?_neg bytes i (Nat.not_lt.mpr (h.size ▸ hi)),
      getElem?_neg bytes' i (Nat.not_lt.mpr (h'.size ▸ hi))]

end Laid

/-! ## Rasters -/

namespace Pixels

variable {raster : Pixels} {f g : Nat → Nat → Rgb}

theorem pixelAt_of_pixel (h : raster.pixel row col = .ok p) :
    PixelAt raster.bytes (raster.start row col) p := by
  unfold pixel at h
  split at h
  · obtain rfl := Except.ok.inj h
    exact ⟨getElem?_pos _ _ _, getElem?_pos _ _ _, getElem?_pos _ _ _⟩
  · cases h

theorem pixel_of_pixelAt (hr : row < raster.height) (hc : col < raster.width)
    (h : PixelAt raster.bytes (raster.start row col) p) : raster.pixel row col = .ok p := by
  obtain ⟨q, hq⟩ := exists_pixel hr hc
  obtain rfl := h.unique (pixelAt_of_pixel hq)
  exact hq

theorem pixel_outside (h : ¬ (row < raster.height ∧ col < raster.width)) :
    raster.pixel row col = .error (.pixelOutside row col raster.width raster.height) :=
  dif_neg h

theorem ext_bytes {raster' : Pixels} (hw : raster.width = raster'.width)
    (hh : raster.height = raster'.height) (hb : raster.bytes = raster'.bytes) :
    raster = raster' := by
  cases raster
  cases raster'
  simp_all

/-- The colour of a pixel by its number. -/
def byNumber (width : Nat) (f : Nat → Nat → Rgb) (k : Nat) : Rgb := f (k / width) (k % width)

theorem byNumber_number (f : Nat → Nat → Rgb) (row : Nat) (hc : col < width) :
    byNumber width f (row * width + col) = f row col := by
  rw [byNumber, Division.number_div row hc, Nat.mul_add_mod_of_lt hc]

theorem laid_tabulate (f : Nat → Nat → Rgb) (hv : ValidSize width height) :
    Laid (tabulate width height f hv).bytes (height * width) (byNumber width f) := by
  have hstart : Laid ByteArray.empty (0 * width) (byNumber width f) := by
    rw [Nat.zero_mul]
    exact laid_empty _
  have hrows := hstart.pushRows (n := height) fun r c hc => (byNumber_number f r hc).symm
  rwa [Nat.zero_add] at hrows

theorem laid_of_pixel
    (h : ∀ row < raster.height, ∀ col < raster.width, raster.pixel row col = .ok (g row col)) :
    Laid raster.bytes (raster.height * raster.width) (byNumber raster.width g) := by
  refine ⟨by rw [raster.size_bytes, Nat.mul_comm raster.width], fun k hk => ?_⟩
  have hrow : k / raster.width < raster.height :=
    Nat.div_lt_of_lt_mul (Nat.mul_comm raster.height _ ▸ hk)
  have hcol : k % raster.width < raster.width := Nat.mod_lt k raster.valid.2.1
  have hpixel := pixelAt_of_pixel (h _ hrow _ hcol)
  rwa [start, Nat.div_add_mod'] at hpixel

theorem pixelAt_of_laid (h : Laid bytes (height * width) (byNumber width f)) (hr : row < height)
    (hc : col < width) : PixelAt bytes ((row * width + col) * 3) (f row col) := by
  rw [← byNumber_number f row hc]
  exact h.pixel _ (Division.number_lt hr hc)

/-- A raster that is written from the pixels of another one is the same. -/
theorem ofFn_of_pixel (raster : Pixels)
    (h : ∀ row < raster.height, ∀ col < raster.width, raster.pixel row col = .ok (g row col)) :
    ofFn raster.width raster.height g = .ok raster := by
  rw [ofFn, dif_pos raster.valid]
  refine congrArg Except.ok (ext_bytes rfl rfl ?_)
  exact (laid_tabulate g raster.valid).ext (laid_of_pixel h) fun _ _ => rfl

/-! ## Sizes -/

theorem ofFn_eq_ok (f : Nat → Nat → Rgb) (hv : ValidSize width height) :
    ofFn width height f = .ok (tabulate width height f hv) :=
  dif_pos hv

theorem ofFn_eq_error_iff {e : SizeError} :
    ofFn width height f = .error e ↔ ¬ ValidSize width height ∧ e = .dimensions width height := by
  by_cases hv : ValidSize width height
  · simp [ofFn, hv]
  · simp [ofFn, hv, eq_comm]

theorem ofBytes_eq_ok (hv : ValidSize width height) (hs : bytes.size = width * height * 3) :
    ofBytes width height bytes = .ok ⟨width, height, bytes, hv, hs⟩ := by
  rw [ofBytes, dif_pos hv, dif_pos hs]

/-- The size is looked at before the length. -/
theorem ofBytes_eq_error_iff {e : SizeError} :
    ofBytes width height bytes = .error e ↔
      (¬ ValidSize width height ∧ e = .dimensions width height) ∨
      (ValidSize width height ∧ bytes.size ≠ width * height * 3 ∧
        e = .length bytes.size (width * height * 3)) := by
  by_cases hv : ValidSize width height
  · by_cases hs : bytes.size = width * height * 3
    · simp [ofBytes, hv, hs]
    · simp [ofBytes, hv, hs, eq_comm]
  · simp [ofBytes, hv, eq_comm]

/-- The places of all bytes have room in words of 32 bits. -/
theorem size_bytes_lt (raster : Pixels) : raster.bytes.size < 2 ^ 32 := by
  have hpixels : raster.width * raster.height ≤ 268435456 := raster.valid.1
  rw [raster.size_bytes]
  omega

/-- **The layout of a raster is kept both ways.** A function makes a raster of every valid size: it
has three bytes for each pixel, those of `(row, col)` from `(row * width + col) * 3` on, and gives
back the colours of the function. The right number of bytes makes a raster of these bytes, and a
function with its colours makes the same one. Inside a raster there is a pixel at every position,
and its bytes are there; outside there is none, and the fault says so. Other sizes are refused, and
bytes are refused for the size before they are for their number. -/
theorem layout_kept :
    (∀ (width height : Nat) (f : Nat → Nat → Rgb), ValidSize width height →
      ∃ raster, ofFn width height f = .ok raster ∧
        raster.width = width ∧ raster.height = height ∧
        raster.bytes.size = width * height * 3 ∧
        ∀ row < height, ∀ col < width,
          raster.pixel row col = .ok (f row col) ∧
          PixelAt raster.bytes ((row * width + col) * 3) (f row col)) ∧
    (∀ (width height : Nat) (bytes : ByteArray), ValidSize width height →
      bytes.size = width * height * 3 →
      ∃ raster, ofBytes width height bytes = .ok raster ∧
        raster.width = width ∧ raster.height = height ∧ raster.bytes = bytes ∧
        ∀ f : Nat → Nat → Rgb,
          (∀ row < height, ∀ col < width, raster.pixel row col = .ok (f row col)) →
          ofFn width height f = .ok raster) ∧
    (∀ (raster : Pixels) (row col : Nat), row < raster.height → col < raster.width →
      (row * raster.width + col) * 3 + 2 < raster.bytes.size ∧ raster.bytes.size < 2 ^ 32 ∧
      ∃ p, raster.pixel row col = .ok p ∧
        PixelAt raster.bytes ((row * raster.width + col) * 3) p) ∧
    (∀ (raster : Pixels) (row col : Nat), ¬ (row < raster.height ∧ col < raster.width) →
      raster.pixel row col = .error (.pixelOutside row col raster.width raster.height)) ∧
    (∀ row col width height : Nat, (Fault.pixelOutside row col width height).message? =
      some s!"pixel ({row}, {col}) outside {width}x{height} raster") ∧
    (∀ (width height : Nat) (f : Nat → Nat → Rgb) (e : SizeError),
      ofFn width height f = .error e ↔
        ¬ ValidSize width height ∧ e = .dimensions width height) ∧
    ∀ (width height : Nat) (bytes : ByteArray) (e : SizeError),
      ofBytes width height bytes = .error e ↔
        (¬ ValidSize width height ∧ e = .dimensions width height) ∨
        (ValidSize width height ∧ bytes.size ≠ width * height * 3 ∧
          e = .length bytes.size (width * height * 3)) := by
  refine ⟨?_, ?_, ?_, fun _ _ _ => pixel_outside, fun _ _ _ _ => rfl,
    fun _ _ _ _ => ofFn_eq_error_iff, fun _ _ _ _ => ofBytes_eq_error_iff⟩
  · intro width height f hv
    refine ⟨_, ofFn_eq_ok f hv, rfl, rfl, (tabulate width height f hv).size_bytes, ?_⟩
    intro row hr col hc
    have hat := pixelAt_of_laid (laid_tabulate f hv) hr hc
    exact ⟨pixel_of_pixelAt hr hc hat, hat⟩
  · intro width height bytes hv hs
    let raster : Pixels := ⟨width, height, bytes, hv, hs⟩
    exact ⟨raster, ofBytes_eq_ok hv hs, rfl, rfl, rfl, fun _ => ofFn_of_pixel raster⟩
  · intro raster row col hr hc
    obtain ⟨p, hp⟩ := exists_pixel hr hc
    exact ⟨raster.start_lt hr hc, raster.size_bytes_lt, p, hp, pixelAt_of_pixel hp⟩

/-- Of two rows of three pixels the last pixel stands from byte 15 on. From the bytes alone comes
the same raster. -/
theorem two_rows_kept :
    ∃ (f : Nat → Nat → Rgb) (raster : Pixels), ValidSize 3 2 ∧ ofFn 3 2 f = .ok raster ∧
      raster.bytes.size = 18 ∧ raster.pixel 1 2 = .ok ⟨1, 2, 9⟩ ∧
      PixelAt raster.bytes 15 ⟨1, 2, 9⟩ ∧
      raster.pixel 2 0 = .error (.pixelOutside 2 0 3 2) ∧
      ofBytes 3 2 raster.bytes = .ok raster := by
  let f (row col : Nat) : Rgb := ⟨UInt8.ofNat row, UInt8.ofNat col, 9⟩
  have hv : ValidSize 3 2 := by decide
  obtain ⟨raster, hraster, hw, hh, hsize, hpixels⟩ := layout_kept.1 3 2 f hv
  obtain ⟨again, hagain, hw', hh', hbytes, -⟩ := layout_kept.2.1 3 2 raster.bytes hv hsize
  obtain ⟨hpixel, hat⟩ := hpixels 1 (by decide) 2 (by decide)
  have hsame : again = raster := ext_bytes (hw'.trans hw.symm) (hh'.trans hh.symm) hbytes
  have houtside := layout_kept.2.2.2.1 raster 2 0 (by omega)
  rw [hw, hh] at houtside
  exact ⟨f, raster, hv, hraster, hsize, hpixel, hat, houtside, hsame ▸ hagain⟩

end Pixels

end MapPainter.Raster
