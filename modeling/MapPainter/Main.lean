import MapPainter.Program

/-!
# The command line

The outer layer of the program. It copies what a run may look up from the disk into a tree, runs
the program on it, writes the changed files back, and prints.
-/

namespace MapPainter.CommandLine

/-- The error that the disk gives for a file it does not open. -/
def fileError : IO.Error → FileError
  | .permissionDenied _ code details => .denied s!"{details} (os error {code})"
  | e => .denied e.toString

/-- What stands on the disk under a path. A file that cannot be opened is there all the same. -/
def nodeOnDisk (path : String) : IO (Option Node) := do
  try
    match (← (← IO.FS.realPath path).metadata).type with
    | .dir => return some .directory
    | .file =>
      try return some (.file (← IO.FS.readBinFile path))
      catch e => return some (.locked (fileError e))
    | _ => return none
  catch _ => return none

/-- Copies what a path leads through into a tree. `front` is the part of the path that has been
followed, and `place` is where it leads. -/
def copyAlong (tree : FileTree) (place : Place) (front : String) : List String → IO FileTree
  | [] => return tree
  | segment :: rest => do
    let path := front ++ segment
    if FileTree.stays segment then copyAlong tree place (path ++ "/") rest
    else if segment == ".." then copyAlong tree place.dropLast (path ++ "/") rest
    else
      let next := place ++ [segment]
      match ← nodeOnDisk path with
      | none => return tree
      | some node => copyAlong (tree.put next node) next (path ++ "/") rest

def copyPath (tree : FileTree) (path : String) : IO FileTree :=
  copyAlong tree (tree.start path) "" (Path.segments path)

/-- The path of a place from the root on. -/
def pathOf (place : Place) : String := "/" ++ "/".intercalate place

/-- Puts on the disk what a run has made or changed, as far as that can be done. -/
def writeBack (before after : FileTree) : IO Unit :=
  after.nodes.reverse.forM fun (place, node) => do
    try
      match node, before.node? place with
      | .directory, some .directory => return
      | .directory, _ => IO.FS.createDir (pathOf place)
      | .file bytes, some (.file old) =>
        if bytes.toList ≠ old.toList then IO.FS.writeBinFile (pathOf place) bytes
      | .file bytes, _ => IO.FS.writeBinFile (pathOf place) bytes
      | .locked _, _ => return
    catch _ => return

/-- The directory of the configuration where no argument names one. -/
def defaultDirectory : IO String := do
  match ← IO.getEnv "XDG_CONFIG_HOME" with
  | some home => if Path.isAbsolute home then return Path.join home Program.name
  | none => pure ()
  match ← IO.getEnv "HOME" with
  | some home => return Path.join (Path.join home ".config") Program.name
  | none => return "." ++ Program.name

/-- The rasters that arguments ask for. -/
def locators (a : Arguments) : List String :=
  a.layers.map (·.locator) ++ a.probe.toList

/-- The tree of everything that a run with these arguments may look up. -/
def gather (tree : FileTree) (directory : String) (a : Arguments) : IO FileTree := do
  let tree ← copyPath tree (Config.path directory)
  let tree ← copyPath tree (Program.journalFile directory)
  let folder : Raster.Folder := match (Config.loadOrCreate tree directory).1 with
    | .ok config => ⟨config.searchPaths⟩
    | .error _ => ⟨[]⟩
  let paths := (locators a).flatMap fun locator => folder.candidates locator .layers
  paths.foldlM copyPath tree

def run (arguments : List String) : IO UInt32 := do
  let here := (← IO.currentDir).toString
  let bare := FileTree.bare (Path.names here)
  let standard ← defaultDirectory
  let before ← match Arguments.parse arguments with
    | .error _ => pure bare
    | .ok a => gather bare (a.overrides.directory.getD standard) a
  let outcome := Program.run before standard arguments
  writeBack before outcome.tree
  for complaint in outcome.complaints do IO.eprintln complaint
  for entry in outcome.journal do IO.println entry.text
  for line in outcome.output do IO.println line
  return UInt32.ofNat outcome.exitCode

end MapPainter.CommandLine

def main (arguments : List String) : IO UInt32 := MapPainter.CommandLine.run arguments
