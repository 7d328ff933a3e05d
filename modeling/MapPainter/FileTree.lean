import MapPainter.Path

/-!
# File trees

A tree of directories and files as values, with a working directory. A path is walked name by
name: an empty name and a dot stay where they are, two dots lead to the parent, and every name,
also an empty one at the end, asks for a directory to be looked up in. Paths and names have a
greatest length.
-/

namespace MapPainter

/-- The names that lead from the root to a file or directory. -/
abbrev Place := List String

/-! ## Errors -/

/-- Why a path does not lead where it should, or a file cannot be used. -/
inductive FileError where
  /-- Nothing has the name that was looked up. -/
  | missing
  /-- The path leads through what is not a directory. -/
  | notDirectory
  /-- A directory is where a file should be. -/
  | isDirectory
  /-- Something is already where a directory should be made. -/
  | taken
  /-- The path, or a name in it, is too long. -/
  | tooLong
  /-- The path has a null character. -/
  | nullCharacter
  /-- The bytes of the file are not a text. -/
  | notText
  /-- The disk does not allow it, for a reason of its own. -/
  | denied (reason : String)
  deriving DecidableEq, Repr

def FileError.message : FileError → String
  | missing => "No such file or directory (os error 2)"
  | notDirectory => "Not a directory (os error 20)"
  | isDirectory => "Is a directory (os error 21)"
  | taken => "File exists (os error 17)"
  | tooLong => "File name too long (os error 36)"
  | nullCharacter => "file name contained an unexpected NUL byte"
  | notText => "stream did not contain valid UTF-8"
  | denied reason => reason

/-! ## Nodes -/

inductive Node where
  | directory
  | file (bytes : ByteArray)
  /-- A file that cannot be opened. -/
  | locked (error : FileError)

/-- The bytes of a file, which has to be opened for them. -/
def Node.contents : Node → Except FileError ByteArray
  | directory => .error .isDirectory
  | file bytes => .ok bytes
  | locked error => .error error

structure FileTree where
  /-- What there is, apart from the root. -/
  nodes : List (Place × Node)
  /-- The working directory. -/
  here : Place

namespace FileTree

/-- The tree with nothing but the working directory and those above it. -/
def bare (here : Place) : FileTree where
  nodes := (List.range here.length).map fun n => (here.take (n + 1), .directory)
  here := here

def node? (t : FileTree) (place : Place) : Option Node :=
  if place = [] then some .directory else t.nodes.lookup place

def put (t : FileTree) (place : Place) (node : Node) : FileTree :=
  { t with nodes := (place, node) :: t.nodes.filter (·.1 != place) }

def isDirectoryAt (t : FileTree) (place : Place) : Bool :=
  match t.node? place with
  | some .directory => true
  | _ => false

/-! ## Looking up -/

/-- The greatest length of a path, in bytes. -/
def maxPathBytes : Nat := 4095

/-- The greatest length of a name, in bytes. -/
def maxNameBytes : Nat := 255

def isShort (name : String) : Bool := name.utf8ByteSize ≤ maxNameBytes

/-- Whether a name stays in its directory. -/
def stays (name : String) : Bool := name.isEmpty || name == "."

/-- Where a name leads from a place. -/
def step (t : FileTree) (place : Place) (name : String) : Except FileError Place :=
  if !t.isDirectoryAt place then .error .notDirectory
  else if stays name then .ok place
  else if name == ".." then .ok place.dropLast
  else if !isShort name then .error .tooLong
  else
    let next := place ++ [name]
    if (t.node? next).isSome then .ok next else .error .missing

/-- Where a path begins. -/
def start (t : FileTree) (path : String) : Place :=
  if Path.isAbsolute path then [] else t.here

/-- Whether a text can be a path: it has a character, no null character, and is not too long. -/
def isPath (path : String) : Bool :=
  !path.isEmpty && !path.toList.contains '\x00' && path.utf8ByteSize ≤ maxPathBytes

/-- What is wrong with a text that cannot be a path. -/
def pathError (path : String) : FileError :=
  if path.toList.contains '\x00' then .nullCharacter
  else if path.isEmpty then .missing
  else .tooLong

/-- Where names lead from the beginning of a path. -/
def follow (t : FileTree) (path : String) (names : List String) : Except FileError Place :=
  if isPath path then names.foldlM t.step (t.start path) else .error (pathError path)

/-- Where a path leads. -/
def walk (t : FileTree) (path : String) : Except FileError Place :=
  t.follow path (Path.segments path)

def get? (t : FileTree) (path : String) : Option Node := (t.walk path).toOption.bind t.node?

def has (t : FileTree) (path : String) : Bool := (t.walk path).isOk

def isDirectory (t : FileTree) (path : String) : Bool :=
  match t.get? path with
  | some .directory => true
  | _ => false

/-- Whether a path leads to a file, be it one that cannot be opened. -/
def isFile (t : FileTree) (path : String) : Bool :=
  match t.get? path with
  | some (.file _) | some (.locked _) => true
  | _ => false

/-- The bytes of a file. -/
def read (t : FileTree) (path : String) : Except FileError ByteArray := do
  match t.node? (← t.walk path) with
  | some node => node.contents
  | none => throw .missing

def read? (t : FileTree) (path : String) : Option ByteArray := (t.read path).toOption

/-- The text of a file. -/
def readText (t : FileTree) (path : String) : Except FileError String := do
  match String.fromUTF8? (← t.read path) with
  | some text => return text
  | none => throw .notText

/-! ## Making -/

/-- Whether a name can be given to a new file or directory: it is a name of its own, and short
enough. -/
def isNameable (name : String) : Bool := !stays name && name != ".." && isShort name

/-- The place of a name, which may be new, in a directory, with what is there. A name that is not
one of its own stands for a directory. -/
def placeIn (t : FileTree) (parent : Place) (name : String) :
    Except FileError (Place × Option Node) :=
  if !t.isDirectoryAt parent then .error .notDirectory
  else if stays name || name == ".." then .ok (parent, some .directory)
  else if !isShort name then .error .tooLong
  else .ok (parent ++ [name], t.node? (parent ++ [name]))

/-- The place that names lead to, where the last one may be new, with what is there. -/
def target (t : FileTree) (path : String) (names : List String) :
    Except FileError (Place × Option Node) := do
  t.placeIn (← t.follow path names.dropLast) (names.getLastD "")

/-- Makes the directory of a path, where there is nothing. Slashes at the end do not matter. -/
def makeDirectory (t : FileTree) (path : String) : Except FileError FileTree := do
  let names := ((Path.segments path).reverse.dropWhile String.isEmpty).reverse
  match ← t.target path names with
  | (place, none) => return t.put place .directory
  | (_, some _) => throw .taken

/-- Makes the first directory of a list, where the others are its parents. They are made only if
it cannot be made before. Parents that were made remain in any case. It is no error if the
directory is there. -/
def makeFirst (t : FileTree) : List String → FileTree × Except FileError Unit
  | [] => (t, .ok ())
  | path :: parents =>
    match t.makeDirectory path with
    | .ok t => (t, .ok ())
    | .error .missing =>
      match t.makeFirst parents with
      | (t, .error e) => (t, .error e)
      | (t, .ok ()) =>
        match t.makeDirectory path with
        | .ok t => (t, .ok ())
        | .error e => (t, if t.isDirectory path then .ok () else .error e)
    | .error e => (t, if t.isDirectory path then .ok () else .error e)

/-- Makes the directory of a path with those above it, where they are missing. What is there
afterwards is told in any case. -/
def makeDirectories (t : FileTree) (path : String) : FileTree × Except FileError Unit :=
  t.makeFirst (Path.ancestors path)

/-- Writes a file into a directory that is there. A file of that name is written over if it can be
opened. -/
def write (t : FileTree) (path : String) (bytes : ByteArray) : Except FileError FileTree := do
  match ← t.target path (Path.segments path) with
  | (place, none) | (place, some (.file _)) => return t.put place (.file bytes)
  | (_, some .directory) => throw .isDirectory
  | (_, some (.locked error)) => throw error

end FileTree

end MapPainter
