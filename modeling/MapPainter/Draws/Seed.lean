import MapPainter.Draws.ChaCha
import MapPainter.Draws.SipHash
import MapPainter.Layer

/-!
# Seeds of imports

Every layer of a world draws from a stream of its own, so importing one layer again does not
change how another is dithered.
-/

namespace MapPainter

/-- The seed of one layer of a world. -/
def Layer.seed (layer : Layer) (world : UInt64) : UInt64 :=
  SipHash.hash [world, UInt64.ofNat layer.number]

/-- The stream that one layer of a world draws from. -/
def Draws.forLayer (world : UInt64) (layer : Layer) : Draws := .chacha (layer.seed world)

end MapPainter
