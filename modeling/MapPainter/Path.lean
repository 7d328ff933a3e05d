/-!
# Paths

A path is a text of names separated by slashes. Joining and taking the extension work on the text
alone; empty names and single dots do not count as components, except that a path may begin with
a dot.
-/

namespace MapPainter.Path

def isAbsolute (path : String) : Bool := path.startsWith "/"

/-- `path` below `base`. An absolute path stands for itself; a slash is put in only where the base
does not end with one, also before an empty path. -/
def join (base path : String) : String :=
  if isAbsolute path then path
  else if base.isEmpty || base.endsWith "/" then base ++ path
  else base ++ "/" ++ path

/-- What stands between the slashes of a path, also where that is nothing. -/
def segments (path : String) : List String := (path.toList.splitOn '/').map String.ofList

/-- The names of a path between its slashes, without the empty ones. -/
def names (path : String) : List String := (segments path).filter fun name => !name.isEmpty

/-- The components of a path behind its root. -/
def components (path : String) : List String :=
  let first := if (names path).head? == some "." && !isAbsolute path then ["."] else []
  first ++ (names path).filter (· != ".")

/-- A path and all its parents, the longest first. Neither the root nor the empty path belongs to
them. -/
def ancestors (path : String) : List String :=
  let count := (components path).length
  let root := if isAbsolute path then "/" else ""
  let parent (n : Nat) : String := root ++ "/".intercalate ((components path).take n)
  if count = 0 then []
  else path :: ((List.range' 1 (count - 1)).map parent).reverse

/-- The last component, if it is a proper name. -/
def fileName? (path : String) : Option String := do
  let name ← ((names path).filter (· != ".")).getLast?
  if name == ".." then none else some name

/-- What follows the last dot of the file name; a dot in front does not start an extension. -/
def extension? (path : String) : Option String := do
  let name ← fileName? path
  let (after, rest) := name.toList.reverse.span (· != '.')
  match rest with
  | _ :: _ :: _ => some (String.ofList after.reverse)
  | _ => none

end MapPainter.Path
