import MapPainter.Ron.Quoted

/-!
# Layout

How records and lists are written: every field and every item has a line of its own, four blanks
further in than what holds it, and ends with a comma.
-/

namespace MapPainter.Ron

def indent (depth : Nat) : List Char := List.replicate (4 * depth) ' '

/-- A record at a depth, from its fields. -/
def writeRecord (depth : Nat) (fields : List (String × List Char)) : List Char :=
  "(\n".toList ++
    fields.flatMap (fun (name, value) =>
      indent (depth + 1) ++ name.toList ++ ": ".toList ++ value ++ ",\n".toList) ++
    indent depth ++ [')']

/-- A list at a depth; the empty list takes no line. -/
def writeList (depth : Nat) : List (List Char) → List Char
  | [] => "[]".toList
  | items =>
    "[\n".toList ++ items.flatMap (fun item => indent (depth + 1) ++ item ++ ",\n".toList) ++
      indent depth ++ [']']

def writeNatural (n : Nat) : List Char := Nat.toDigits 10 n

end MapPainter.Ron
