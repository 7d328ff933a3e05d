import MapPainter.Draws.Seed
import MapPainter.Layer.Paint
import MapPainter.Projection.Sweep
import MapPainter.Raster.Source

/-!
# Imports

An import reads a raster from a source and paints it onto a map as a layer. It either fails
before the first stroke, and then changes nothing, or paints the whole layer and asks for the
screen to be repainted.
-/

namespace MapPainter

/-- Why a raster was not imported. -/
inductive ImportError where
  /-- The source has no raster for the request. -/
  | unread (error : Raster.ReadError)
  /-- The source answered with a size only. -/
  | missingPixels (locator : String)
  deriving DecidableEq, Repr

def ImportError.message : ImportError → String
  | unread error => error.message
  | missingPixels locator => s!"raster source returned no pixels for '{locator}'"

/-- What an import reports. -/
structure ImportReport where
  layer : Layer
  width : Nat
  height : Nat
  count : SweepCount
  deriving DecidableEq, Repr

/-- What an import may change: the map, the source of the draws, and whether the screen has to be
repainted. -/
structure Workspace extends Canvas where
  dirty : Bool

namespace Workspace

/-- Asks whether a repaint is due, and takes the request back. -/
def takeDirty (w : Workspace) : Bool × Workspace := (w.dirty, { w with dirty := false })

end Workspace

/-- Paints a raster onto a map as a layer. -/
def Canvas.paint (c : Canvas) (layer : Layer) (settings : ImportSettings)
    (raster : Raster.Pixels) : Except Fault (Projection.Progress Canvas) :=
  paintOver c.map.toExtent settings.rotation raster (Canvas.stroke layer settings) c

/-- The raster that a source has for an import. -/
def Raster.Source.pixels (source : Raster.Source) (request : Raster.Request) :
    Except ImportError Raster.Pixels :=
  match source request .full with
  | .error error => .error (.unread error)
  | .ok image =>
    match image.pixels with
    | none => .error (.missingPixels request.locator)
    | some pixels => .ok pixels

/-- Imports a layer. An error leaves the workspace as it is. -/
def Workspace.load (w : Workspace) (source : Raster.Source) (settings : ImportSettings)
    (layer : Layer) (request : Raster.Request) :
    Except Fault (Except ImportError ImportReport × Workspace) :=
  match source.pixels request with
  | .error error => .ok (.error error, w)
  | .ok pixels => do
    let progress ← w.toCanvas.paint layer settings pixels
    let report := ⟨layer, pixels.width, pixels.height, progress.count⟩
    return (.ok report, { toCanvas := progress.state, dirty := true })

/-- The size of a raster, without its pixels. -/
def Raster.Source.probe (source : Raster.Source) (request : Raster.Request) :
    Except ImportError (Nat × Nat) :=
  match source request .sizeOnly with
  | .error error => .error (.unread error)
  | .ok image => .ok (image.width, image.height)

end MapPainter
