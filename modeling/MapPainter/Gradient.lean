import MapPainter.Draws
import MapPainter.Fault

/-!
# Gradients

A gradient divides the numbers between two ends into bands and gives each band a level. Rasters
with few colours would draw hard seams that way, so a sample in the upper part of its band is
pushed to the next level at random, the more likely the closer it is to the end of the band.
Samples next to the edges of a band never jitter.

A sample first finds its place (`Gradient.locate`), then takes one word, and that word decides
the level (`Place.level`).
-/

namespace MapPainter

/-- A gradient from level 0 at `start` to level `levels` at `stop`. It runs downwards if `start`
is the higher end. -/
structure Gradient where
  levels : Int
  start : Int
  stop : Int
  deriving DecidableEq, Repr

namespace Gradient

/-- Values below this carry no information. -/
def off : UInt8 := 0x0f

/-- Values from this on are fully set. -/
def on : UInt8 := 0xf0

/-- Values from this on are looked at. -/
def dim : UInt8 := 0x10

/-- The gradient over the bytes between "off" and "on". -/
def rising (levels : Int) : Gradient := ⟨levels, 0x0f, 0xf0⟩

/-- The gradient over the bytes between "on" and "off". -/
def falling (levels : Int) : Gradient := ⟨levels, 0xf0, 0x0f⟩

/-- The width of a band, negative if the gradient runs downwards. -/
def step (g : Gradient) : Except Fault Int := do
  if g.levels ≤ 0 then throw .noLevels
  let span ← Word.fitSigned (g.stop - g.start)
  let step := span.tdiv g.levels
  if step = 0 then throw (.shortGradient g.start g.stop g.levels)
  return step

/-- Where a sample lies: its offset from the lower end, the width of the bands, and how many
values the jitter threshold can take. -/
structure Place where
  offset : Int
  step : Int
  range : Nat
  deriving DecidableEq, Repr

/-- The place of a sample. The range of the threshold leaves out both edges of a band. -/
def locate (g : Gradient) (sample : Int) : Except Fault Place := do
  let step ← g.step
  let offset ← Word.fitSigned (sample - min g.start g.stop)
  let inner ← Word.fitSigned (step - 2)
  return ⟨max offset 0, step, inner.natAbs⟩

namespace Place

/-- The offset into a band that a sample has to exceed to jitter. -/
def threshold (p : Place) (w : UInt32) : Except Fault Int :=
  Word.fitSigned (Draws.scale w p.range + 1)

/-- The level at a place, given the word that decides on jitter. -/
def level (p : Place) (levels : Int) (w : UInt32) : Except Fault Int := do
  let threshold ← p.threshold w
  let jitter : Int := if p.offset.tmod p.step > threshold then 1 else 0
  let level := min (max (p.offset.tdiv p.step.natAbs + jitter) 0) levels
  return if p.step < 0 then levels - level else level

end Place

/-- The level of a sample for a given word. -/
def levelFor (g : Gradient) (sample : Int) (w : UInt32) : Except Fault Int := do
  let place ← g.locate sample
  place.level g.levels w

/-- The level of a sample. A word is taken as soon as the sample has its place, even if the level
then fails. -/
def sample (g : Gradient) (sample : Int) (d : Draws) : Except Fault Int × Draws :=
  match g.locate sample with
  | .ok place => (place.level g.levels d.peek, d.skip)
  | .error fault => (.error fault, d)

/-- The levels of several samples from one source; a fault takes the place of its level. -/
def samples (g : Gradient) : List Int → Draws → List (Except Fault Int) × Draws
  | [], d => ([], d)
  | s :: rest, d =>
    let (level, d) := g.sample s d
    let (levels, d) := g.samples rest d
    (level :: levels, d)

/-- The level of a byte, as one step of a longer computation. -/
def read (g : Gradient) (value : UInt8) (d : Draws) : Except Fault (Int × Draws) := do
  let level ← g.levelFor value.toNat d.peek
  return (level, d.skip)

end Gradient

end MapPainter
