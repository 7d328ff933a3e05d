import MapPainter.Arguments
import MapPainter.Config.File
import MapPainter.Import
import MapPainter.Journal.Filter
import MapPainter.Raster.Folder
import MapPainter.TileMap.Census

/-!
# The program

One run of the command-line program, as a function of its arguments and the files there are: it
loads the configuration, makes a map, paints the layers one after the other, and tells the census
of the map. Asked for the size of a raster, it tells that instead.
-/

namespace MapPainter.Program

def name : String := "geomap"

def about : String := "Apply raster images to a tile map"

/-- What a run leaves behind. -/
structure Outcome where
  /-- 0 is success, 1 an error, 2 a misuse of the arguments, 101 a fault. -/
  exitCode : Nat
  /-- Lines of the standard output. -/
  output : List String := []
  /-- Lines of the standard error output. -/
  complaints : List String := []
  /-- The entries that are shown. -/
  journal : List Entry := []
  /-- The files after the run. -/
  tree : FileTree

/-! ## Sessions -/

/-- What ends a run early. -/
inductive Stop where
  | failed (message : String)
  | fault (fault : Fault)

/-- A computation that keeps a journal and may stop. -/
abbrev Session := ExceptT Stop (StateM (List Entry))

namespace Session

def noteEntry (e : Entry) : Session Unit := modify fun entries => entries ++ [e]

def note (level : Level) (topic message : String) : Session Unit :=
  noteEntry { level, topic, message }

/-- The value of a result; an error is put into words and ends the run. -/
def ofExcept {ε α : Type} (message : ε → String) : Except ε α → Session α
  | .ok a => pure a
  | .error e => throw (.failed (message e))

end Session

open Session

/-- Topics of the journal. -/
def programTopic : String := name
def importTopic : String := "geomap_import::dispatch"
def projectionTopic : String := "geomap_import::projector"
def fileTopic : String := "geomap_raster::file"
def configTopic : String := "geomap_config::config"

/-- What entries on the configuration consist of. -/
def configFields : List String :=
  ["message", "log.target", "log.module_path", "log.file", "log.line"]

def checkConfig (c : Config) : Session Unit :=
  match c.validate with
  | .ok () => pure ()
  | .error e => do
    noteEntry {
      level := .warn
      topic := configTopic
      message := s!"Rejecting map size {c.sizeX}x{c.sizeY}"
      fields := configFields }
    throw (.failed e.message)

/-! ## Rasters -/

/-- Where rasters come from. -/
structure Library where
  folder : Raster.Folder
  tree : FileTree

/-- Reads a raster and notes what became of its file. -/
def Library.read (l : Library) (request : Raster.Request) (mode : Raster.Mode) :
    Session (Except Raster.ReadError Raster.Image) := do
  let result := l.folder.read l.tree request mode
  match l.folder.resolve (.ofTree l.tree) request.locator request.subdirectory with
  | none =>
    let count := l.folder.searchPaths.length
    note .warn fileTopic s!"Raster '{request.locator}' not found in {count} search paths"
  | some path =>
    match result, mode with
    | .error (.size (.dimensions width height)), _ =>
      note .warn fileTopic s!"Rejecting {path}: {width}x{height} raster is out of range"
    | .ok image, .full =>
      note .debug fileTopic
        s!"Read {request.format.name} raster {path} ({image.width}x{image.height})"
    | _, _ => pure ()
  return result

/-- The request for the raster of a layer. -/
def layerRequest (format : Raster.Format) (locator : String) : Raster.Request :=
  ⟨format, locator, .layers⟩

/-- The size of a raster, as a line of output. -/
def probe (l : Library) (asked : Option Raster.Format) (locator : String) : Session String := do
  let format ← ofExcept Raster.UnclearFormat.message (Raster.Format.choose asked locator)
  match ← l.read (layerRequest format locator) .sizeOnly with
  | .ok image => return s!"{image.width}x{image.height}"
  | .error e =>
    note .warn importTopic s!"Cannot probe raster '{locator}': {e.message}"
    throw (.failed e.message)

/-! ## Layers -/

/-- Notes how a raster lies on the map. -/
def noteProjection (extent : Extent) (settings : ImportSettings) (raster : Raster.Pixels) :
    Session Unit :=
  match Projection.fit raster.width raster.height extent.sizeX extent.sizeY settings.rotation with
  | .error _ => pure ()
  | .ok p =>
    note .debug projectionTopic <|
      s!"Projecting {raster.width}x{raster.height} raster onto {p.mapWidth}x{p.mapHeight} map " ++
      s!"({p.rotation.name}): scale {p.scale}/{Projection.unit}, " ++
      s!"padding rows {p.rowPad} cols {p.colPad}"

/-- Paints one layer. The draws come from the stream of the layer. -/
def paintLayer (l : Library) (c : Config) (asked : Option Raster.Format) (map : TileMap)
    (assignment : Assignment) : Session TileMap := do
  let ⟨layer, locator⟩ := assignment
  let settings : ImportSettings := { climate := c.climate, rotation := c.rotation }
  let format ← ofExcept Raster.UnclearFormat.message (Raster.Format.choose asked locator)
  let request := layerRequest format locator
  let source := Raster.Source.answering (← l.read request .full)
  match source.pixels request with
  | .error e =>
    note .warn importTopic s!"Rejected {layer.name} raster '{locator}': {e.message}"
    throw (.failed e.message)
  | .ok pixels =>
    note .info importTopic <|
      s!"Applying {pixels.width}x{pixels.height} {format.name} raster '{locator}' " ++
      s!"as {layer.name} layer"
    noteProjection map.toExtent settings pixels
    let workspace : Workspace := { map, draws := .forLayer c.seed layer, dirty := false }
    match workspace.load source settings layer request with
    | .error f => throw (.fault f)
    | .ok (.error e, _) => throw (.failed e.message)
    | .ok (.ok report, after) =>
      note .info importTopic <|
        s!"{layer.name} layer done: {report.count.visited} tiles visited, " ++
        s!"{report.count.border} border tiles skipped"
      return after.map

/-! ## Runs -/

/-- Makes a map and paints the layers; the census is a line of output. -/
def paint (l : Library) (c : Config) (a : Arguments) : Session String := do
  match TileMap.fresh c.sizeX.toNat c.sizeY.toNat c.climate with
  | .error f => throw (.fault f)
  | .ok map =>
    note .info programTopic <|
      s!"Created {c.sizeX}x{c.sizeY} {c.climate.name} map, rotation {c.rotation.name}"
    let painted ← a.layers.foldlM (paintLayer l c a.format) map
    if !a.layers.isEmpty then note .info programTopic "Map changed, repaint requested"
    let census := painted.census.text
    note .info programTopic s!"Tile census: {census}"
    return census

/-- What is asked for. -/
def perform (tree : FileTree) (c : Config) (a : Arguments) : Session String := do
  checkConfig c
  let library : Library := ⟨⟨c.searchPaths⟩, tree⟩
  match a.probe with
  | some locator => probe library a.format locator
  | none => paint library c a

/-- The file that the journal is kept in, below the directory of the configuration. -/
def journalDirectory (directory : String) : String := Path.join directory "logs"

def journalFile (directory : String) : String := Path.join (journalDirectory directory) "geomap.log"

/-- Puts entries into the file of the journal, in place of all others, if that can be done. -/
def keepJournal (tree : FileTree) (directory : String) (entries : List Entry) : FileTree :=
  let text := String.join (entries.map fun e => e.text ++ "\n")
  match tree.makeDirectories (journalDirectory directory) with
  | (tree, .error _) => tree
  | (tree, .ok ()) => ((tree.write (journalFile directory) text.toUTF8).toOption).getD tree

/-- The work of a run, with the entries that a filter shows. -/
def work (tree : FileTree) (directory : String) (c : Config) (a : Arguments)
    (filter : List Journal.Directive) : Outcome :=
  let tree := keepJournal tree directory []
  let (result, entries) := (perform tree c a).run []
  let (exitCode, output, last) : Nat × List String × List Entry := match result with
    | .ok line => (0, [line], [])
    | .error (.failed message) => (1, [], [{ level := .error, topic := programTopic, message }])
    | .error (.fault _) => (101, [], [])
  let journal := (entries ++ last).filter (Journal.shows filter)
  { exitCode, output, journal, tree := keepJournal tree directory journal }

/-- A run with arguments that could be read. A filter that cannot be read at all is a fault. -/
def runWith (tree : FileTree) (defaultDirectory : String) (a : Arguments) : Outcome :=
  let directory := a.overrides.directory.getD defaultDirectory
  let (loaded, tree) := Config.loadOrCreate tree directory
  let (config, complaints) := match loaded with
    | .ok config => (config, [])
    | .error e => ({}, [s!"Failed to load config: {e.message}, using defaults"])
  let config := config.override a.overrides
  match Journal.filter? config.logLevel with
  | none => { exitCode := 101, complaints, tree }
  | some filter => { work tree directory config a filter with complaints }

/-- A run. The default directory is used if the arguments name none. -/
def run (tree : FileTree) (defaultDirectory : String) (arguments : List String) : Outcome :=
  match Arguments.parse arguments with
  | .error .help => { exitCode := 0, output := Flag.helpText name about Arguments.flags, tree }
  | .error .refused => { exitCode := 2, tree }
  | .ok a => runWith tree defaultDirectory a

end MapPainter.Program
