import MapPainter.Config.Document
import MapPainter.FileTree

/-!
# Configuration files

A configuration is kept in a directory, in a file of a fixed name. If there is no such file, it is
made, with a configuration of default values.
-/

namespace MapPainter.Config

def fileName : String := "config.ron"

/-- The path of the file in a directory. -/
def path (directory : String) : String := Path.join directory fileName

/-- Writes a configuration, with the directory if it is missing. What is there afterwards is told in
any case. -/
def save (c : Config) (tree : FileTree) (directory : String) : Except ConfigError Unit × FileTree :=
  match tree.makeDirectories directory with
  | (tree, .error e) => (.error (.unwritable e), tree)
  | (tree, .ok ()) =>
    match c.serialize with
    | .error e => (.error (.unserializable e), tree)
    | .ok text =>
      match tree.write (path directory) text.toUTF8 with
      | .error e => (.error (.unwritable e), tree)
      | .ok tree => (.ok (), tree)

/-- The configuration in a file. -/
def ofFile (tree : FileTree) (path : String) : Except ConfigError Config :=
  match tree.readText path with
  | .error e => .error (.unreadable e)
  | .ok text => (read text).mapError .unparsable

/-- The configuration of a directory, which is made if there is none. -/
def loadOrCreate (tree : FileTree) (directory : String) : Except ConfigError Config × FileTree :=
  if tree.has (path directory) then (ofFile tree (path directory), tree)
  else
    let (result, tree) := save {} tree directory
    (result.map fun () => {}, tree)

end MapPainter.Config
