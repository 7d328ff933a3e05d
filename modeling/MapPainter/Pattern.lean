import MapPainter.Pattern.CharacterSet
import MapPainter.Text.Alphabetic

/-!
# Patterns

A pattern is a regular expression: branches with bars between them, each of which is a row of
pieces, sets, groups in round brackets, and repetitions of these. A pattern is only checked here:
whether it is well formed, is not nested too deep, and holds nothing that its switches rule out.
Numbers of repetitions, in curly brackets, are not among what it may hold.
-/

namespace MapPainter.Pattern

open Text (Reader Progress)

/-- A group whose bracket is open, or the pattern itself. -/
structure Group where
  /-- The depths of the items of the branch that is read, in reverse; switches have none. -/
  items : List (Option Nat) := []
  /-- The depths of the branches before it. -/
  branches : List Nat := []
  /-- The switches in front of the group. -/
  before : Switches := {}
  deriving DecidableEq, Repr

namespace Group

/-- The depths of all branches. -/
def allBranches (g : Group) : List Nat := rowDepth (g.items.map (·.getD 0)) :: g.branches

/-- The depth of what stands in the group. -/
def depth (g : Group) : Nat := rowDepth g.allBranches

def add (g : Group) (item : Option Nat) : Group := { g with items := item :: g.items }

/-- Ends a branch and begins the next one. -/
def nextBranch (g : Group) : Group := { g with items := [], branches := g.allBranches }

/-- Repeats the last item, which has to be there and may not be switches. -/
def repeatLast? (g : Group) : Option Group :=
  match g.items with
  | some depth :: items => some { g with items := some (depth + 1) :: items }
  | _ => none

end Group

/-- What is known behind a part of a pattern. -/
structure Reading where
  switches : Switches := {}
  /-- The names that groups have been given. -/
  names : List (List Char) := []
  group : Group := {}
  /-- The groups around that one, the inner ones first. -/
  outer : List Group := []
  deriving DecidableEq, Repr

namespace Reading

/-! ## Groups -/

def enter (r : Reading) : Reading :=
  { r with group := { before := r.switches }, outer := r.group :: r.outer }

/-- Closes a group, behind which the switches are those in front of it. -/
def leave? (r : Reading) : Option Reading :=
  match r.outer with
  | [] => none
  | parent :: outer =>
    some { r with
      switches := r.group.before
      group := parent.add (some (r.group.depth + 1))
      outer }

/-- What the name of a group begins with. -/
def beginsName (c : Char) : Bool := c == '_' || Text.isAlphabetic c

/-- What the name of a group goes on with. -/
def isNamePart (c : Char) : Bool := c ∈ ['_', '.', '[', ']'] || Text.isAlphanumeric c

/-- Takes the name of a group, which no group before has, and enters the group. -/
def enterNamed (r : Reading) : Reader Reading := fun text =>
  match Text.cut? '>' text with
  | some (c :: name, rest) =>
    if beginsName c && name.all isNamePart && !r.names.contains (c :: name) then
      some ({ r.enter with names := (c :: name) :: r.names }, rest)
    else none
  | _ => none

/-- Takes what stands at the beginning of a group, whose bracket has been taken, and enters it.
Between brackets switches alone are no group. -/
def openGroup (r : Reading) : Reader Reading := fun text =>
  match r.switches.skip text with
  | '?' :: 'P' :: '<' :: rest | '?' :: '<' :: rest => r.enterNamed rest
  | '?' :: rest =>
    (r.switches.read [] rest).map fun
      | ((switches, ':'), rest) => ({ r.enter with switches }, rest)
      | ((switches, _), rest) => ({ r with switches, group := r.group.add none }, rest)
  | rest => some (r.enter, rest)

/-! ## Steps -/

def addItem (r : Reading) (depth : Nat) : Reading :=
  { r with group := r.group.add (some depth) }

/-- Reads a set, whose bracket has been taken. -/
def addSet (r : Reading) : Reader Reading := fun text =>
  (CharacterSet.read r.switches text).map fun (depth, rest) => (r.addItem depth, rest)

/-- Repeats the last item. A question mark directly behind, by which the shortest match is asked
for, is taken as well. -/
def repeatLast (r : Reading) : Reader Reading := fun text =>
  r.group.repeatLast?.map fun group =>
    ({ r with group }, match text with
      | '?' :: rest => rest
      | text => text)

/-- Reads a piece. -/
def addPiece (r : Reading) : Reader Reading := fun text => do
  let (piece, rest) ← Piece.read r.switches text
  if piece.fits r.switches then some (r.addItem 0, rest) else none

/-- Reads an item, or a sign that holds items together. -/
def readPart (r : Reading) : Reader Reading
  | '(' :: rest => r.openGroup rest
  | ')' :: rest => r.leave?.map fun r => (r, rest)
  | '|' :: rest => some ({ r with group := r.group.nextBranch }, rest)
  | '[' :: rest => r.addSet rest
  | '*' :: rest | '+' :: rest | '?' :: rest => r.repeatLast rest
  | '\x7b' :: _ => none
  | text => r.addPiece text

/-- Reads a part of a pattern. At the end no group is open, and the depth is the result. -/
def step (r : Reading) : Reader (Progress Reading Nat) := fun text =>
  match r.switches.skip text with
  | [] => if r.outer = [] then some (.done r.group.depth, []) else none
  | text => (r.readPart text).map fun (r, rest) => (.more r, rest)

end Reading

/-- Whether a text is a pattern. -/
def isValid (text : List Char) : Bool :=
  (Text.repeated Reading.step {} text).any fun (depth, _) => depth ≤ maxDepth

end MapPainter.Pattern
