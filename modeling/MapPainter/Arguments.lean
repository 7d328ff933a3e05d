import MapPainter.Config
import MapPainter.Layer.Assignment

/-!
# Command-line arguments

Every flag takes a value, either behind an equals sign or as the next argument, which then does
not begin with a dash unless it is a dash alone. Arguments are looked at from left to right, and
the first one that cannot be used, or that asks for help, ends the reading. Nothing but flags is
accepted, before a double dash or behind it.
-/

namespace MapPainter

/-- Why there is nothing to run. -/
inductive Usage where
  /-- Help was asked for. -/
  | help
  /-- The arguments cannot be used. -/
  | refused
  deriving DecidableEq, Repr

/-- A flag whose values are read into a state. -/
structure Flag (σ : Type) where
  name : String
  /-- How the value is called in the help text. -/
  placeholder : String
  about : String
  repeatable : Bool
  read : String → σ → Option σ

namespace Flag

/-- A flag that is given at most once. -/
def single {σ α : Type} (name placeholder about : String) (read : String → Option α)
    (put : σ → α → σ) : Flag σ :=
  ⟨name, placeholder, about, false, fun value state => (read value).map (put state)⟩

/-- A flag for a part of a state. -/
def within {σ τ : Type} (get : τ → σ) (put : τ → σ → τ) (f : Flag σ) : Flag τ :=
  { f with read := fun value state => (f.read value (get state)).map (put state) }

/-- The name and the value of an argument that begins with two dashes. -/
def split? (argument : String) : Option (String × Option String) :=
  match argument.toList with
  | '-' :: '-' :: body =>
    match Text.cut? '=' body with
    | some (name, value) => some (String.ofList name, some (String.ofList value))
    | none => some (String.ofList body, none)
  | _ => none

/-- Whether an argument can be the value of the flag before it. -/
def isValue (argument : String) : Bool := argument == "-" || !argument.startsWith "-"

/-- Reads a value of a flag; `seen` has the names of the flags given before. -/
def take {σ : Type} (f : Flag σ) (seen : List String) (value : String) (state : σ) :
    Except Usage σ :=
  if seen.contains f.name && !f.repeatable then .error .refused
  else
    match f.read value state with
    | some state => .ok state
    | none => .error .refused

/-- Reads arguments into a state; `seen` has the names of the flags given before. -/
def readAll {σ : Type} (flags : List (Flag σ)) (seen : List String) (state : σ) :
    List String → Except Usage σ
  | [] => .ok state
  | argument :: rest =>
    if argument = "--" then if rest.isEmpty then .ok state else .error .refused
    else
      match split? argument with
      | none => .error (if argument.startsWith "-h" then .help else .refused)
      | some (name, value) =>
        if name = "help" then .error (if value.isNone then .help else .refused)
        else
          match flags.find? (·.name == name) with
          | none => .error .refused
          | some flag =>
            match value with
            | some value => do readAll flags (name :: seen) (← flag.take seen value state) rest
            | none =>
              match rest with
              | [] => .error .refused
              | next :: rest =>
                if isValue next then do
                  readAll flags (name :: seen) (← flag.take seen next state) rest
                else .error .refused

/-- The line of a flag in the help text, with its first column filled up to `width`. -/
def helpLine (width : Nat) (column about : String) : String :=
  column ++ String.ofList (List.replicate (width - column.length) ' ') ++ "  " ++ about

/-- The help text of a program. -/
def helpText {σ : Type} (program about : String) (flags : List (Flag σ)) : List String :=
  let columns := flags.map fun f => (s!"      --{f.name} <{f.placeholder}>", f.about)
  let columns := columns ++ [("  -h, --help", "Print help")]
  let width := columns.foldl (fun width column => max width column.1.length) 0
  [about, "", s!"Usage: {program} [OPTIONS]", "", "Options:"] ++
    columns.map fun (column, about) => helpLine width column about

end Flag

/-! ## Values -/

/-- A decimal number with an optional sign: whether it is negative, and its amount. -/
def readDecimal (word : String) : Option (Bool × Nat) :=
  let (negative, digits) := match word.toList with
    | '-' :: digits => (true, digits)
    | '+' :: digits => (false, digits)
    | digits => (false, digits)
  if digits.isEmpty || !digits.all Char.isDigit then none
  else some (negative, digits.foldl (fun n c => 10 * n + (c.toNat - 48)) 0)

/-- A number of 32 bits. It is looked at as a signed number, so zero may have any sign. -/
def readWord32 (word : String) : Option UInt32 := do
  let (negative, n) ← readDecimal word
  if n < UInt32.size ∧ (negative = true → n = 0) then some (UInt32.ofNat n) else none

/-- A number of 64 bits, without a minus. -/
def readWord64 (word : String) : Option UInt64 := do
  let (negative, n) ← readDecimal word
  if n < UInt64.size ∧ negative = false then some (UInt64.ofNat n) else none

/-! ## The flags -/

/-- What arguments put in place of settings. -/
structure Overrides where
  sizeX : Option UInt32 := none
  sizeY : Option UInt32 := none
  climate : Option Climate := none
  rotation : Option Rotation := none
  seed : Option UInt64 := none
  logLevel : Option String := none
  /-- The directory of the configuration. -/
  directory : Option String := none
  deriving DecidableEq, Repr

namespace Overrides

def flags : List (Flag Overrides) := [
  .single "map-x" "MAP_X" "Map size along X in tiles" readWord32
    fun o x => { o with sizeX := some x },
  .single "map-y" "MAP_Y" "Map size along Y in tiles" readWord32
    fun o y => { o with sizeY := some y },
  .single "climate" "CLIMATE" "Landscape climate (temperate, arctic, tropic, toyland)"
    (fun word => (Climate.parse word).toOption) fun o c => { o with climate := some c },
  .single "rotation" "ROTATION" "Image orientation on the map (ccw, cw)"
    (fun word => (Rotation.parse word).toOption) fun o r => { o with rotation := some r },
  .single "seed" "SEED" "Seed for dithering and random tree species" readWord64
    fun o seed => { o with seed := some seed },
  .single "log-level" "LOG_LEVEL" "Log level (error, warn, info, debug, trace)" some
    fun o level => { o with logLevel := some level },
  .single "config" "CONFIG" "Path to config directory (overrides default location)"
    (fun path => if path.isEmpty then none else some path)
    fun o path => { o with directory := some path }]

/-- The arguments of a program that has no other flags. -/
def parse (arguments : List String) : Except Usage Overrides := Flag.readAll flags [] {} arguments

end Overrides

/-- A configuration with some of its settings replaced. -/
def Config.override (c : Config) (o : Overrides) : Config where
  sizeX := o.sizeX.getD c.sizeX
  sizeY := o.sizeY.getD c.sizeY
  climate := o.climate.getD c.climate
  rotation := o.rotation.getD c.rotation
  seed := o.seed.getD c.seed
  searchPaths := c.searchPaths
  logLevel := o.logLevel.getD c.logLevel

/-- The arguments of a program that paints maps. -/
structure Arguments where
  overrides : Overrides := {}
  /-- The layers to be painted, in order. -/
  layers : List Assignment := []
  /-- The format of all rasters. -/
  format : Option Raster.Format := none
  /-- The raster whose size is asked for. -/
  probe : Option String := none
  deriving DecidableEq, Repr

namespace Arguments

def flags : List (Flag Arguments) :=
  Overrides.flags.map (.within overrides fun a overrides => { a with overrides }) ++ [
    { name := "layer"
      placeholder := "THEME=PATH"
      about := "Raster layer as <theme>=<path>; repeat to stack layers in order"
      repeatable := true
      read := fun word a => (Assignment.parse word).toOption.map fun layer =>
        { a with layers := a.layers ++ [layer] } },
    .single "format" "FORMAT" "Container format of every layer (defaults to the file extension)"
      (fun word => (Raster.Format.parse word).toOption) fun a f => { a with format := some f },
    .single "probe" "PATH" "Print the size of a raster and exit" some
      fun a locator => { a with probe := some locator }]

/-- Reads the arguments. A size cannot be asked for along with layers. -/
def parse (arguments : List String) : Except Usage Arguments := do
  let a ← Flag.readAll flags [] {} arguments
  if a.probe.isSome && !a.layers.isEmpty then throw .refused
  return a

end Arguments

end MapPainter
