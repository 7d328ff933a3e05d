import MapPainter.Settings

/-!
# Layers

A layer is what a raster describes. There are seven; their order numbers them.
-/

namespace MapPainter

inductive Layer where
  /-- Grass density, rough land and rocks. -/
  | terrain
  /-- Farm fields. -/
  | fields
  /-- Canals, rivers and sea. -/
  | water
  /-- Trees: growth, number and species. -/
  | trees
  /-- Snow cover. -/
  | snow
  /-- Desert ground and the desert zone. -/
  | desert
  /-- Zones of a tropic map. -/
  | tropics
  deriving DecidableEq, Repr

namespace Layer

def all : List Layer := [terrain, fields, water, trees, snow, desert, tropics]

def name : Layer → String
  | terrain => "terrain"
  | fields => "fields"
  | water => "water"
  | trees => "trees"
  | snow => "snow"
  | desert => "desert"
  | tropics => "tropics"

/-- The place of a layer in the order. -/
def number : Layer → Nat
  | terrain => 0
  | fields => 1
  | water => 2
  | trees => 3
  | snow => 4
  | desert => 5
  | tropics => 6

def parse (word : String) : Except UnknownWord Layer :=
  match findNamed name all word with
  | some layer => .ok layer
  | none => .error ⟨"raster layer", word, ", ".intercalate (all.map name)⟩

end Layer

end MapPainter
