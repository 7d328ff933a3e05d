import MapPainter.Ron.Name
import MapPainter.Text.Digit

/-!
# Numbers

An integer has an optional sign, an optional base (`0b`, `0o` or `0x`), digits with underscores
between them, and an optional suffix with the type it has to fit. A fractional number is a decimal
with an optional exponent. Two points in a row do not belong to a number.
-/

namespace MapPainter.Ron

open Text (Reader isHexDigit digitValue)

/-! ## Integers -/

/-- A type of integers. -/
structure IntegerType where
  signed : Bool
  bits : Nat
  deriving DecidableEq, Repr

namespace IntegerType

def unsigned (bits : Nat) : IntegerType := ⟨false, bits⟩

/-- Whether the number `n`, or its negative, is in the type. -/
def holds (t : IntegerType) (negative : Bool) (n : Nat) : Bool :=
  if t.signed then n < 1 <<< (t.bits - 1) || (negative && n == 1 <<< (t.bits - 1))
  else n < 1 <<< t.bits && (!negative || n == 0)

def suffix (t : IntegerType) : List Char :=
  (if t.signed then 'i' else 'u') :: Nat.toDigits 10 t.bits

/-- The types that have a suffix. -/
def all : List IntegerType :=
  [true, false].flatMap fun signed => [8, 16, 32, 64].map fun bits => ⟨signed, bits⟩

end IntegerType

def isDigitChar (c : Char) : Bool := isHexDigit c || c == '_'

/-- The number that digits and underscores stand for, behind the digits of `high`. -/
def valueFrom (base high : Nat) : List Char → Option Nat
  | [] => some high
  | '_' :: rest => valueFrom base high rest
  | c :: rest =>
    if digitValue c < base then valueFrom base (base * high + digitValue c) rest else none

/-- A run of digits, which does not begin with an underscore. -/
def digits (base : Nat) : Reader Nat := fun text =>
  match text.takeWhile isDigitChar with
  | [] | '_' :: _ => none
  | run => (valueFrom base 0 run).map fun n => (n, text.dropWhile isDigitChar)

/-- A number without a sign. -/
def natural : Reader Nat := fun text =>
  match text with
  | '0' :: 'b' :: rest => digits 2 rest
  | '0' :: 'o' :: rest => digits 8 rest
  | '0' :: 'x' :: rest => digits 16 rest
  | _ => digits 10 text

/-- Takes a sign and tells whether it is a minus. -/
def sign : List Char → Bool × List Char
  | '-' :: rest => (true, rest)
  | '+' :: rest => (false, rest)
  | text => (false, text)

/-- The type whose suffix stands at the front of a text. -/
def suffix? (text : List Char) : Option (IntegerType × List Char) :=
  IntegerType.all.findSome? fun t => (word? t.suffix text).map fun rest => (t, rest)

/-- An integer as its sign, its amount, and the type of its suffix. -/
def signedInteger : Reader (Bool × Nat × Option IntegerType) := fun text =>
  let (negative, text) := sign text
  match natural text with
  | none => none
  | some (n, rest) =>
    match suffix? rest with
    | some (t, rest) => some ((negative, n, some t), rest)
    | none => some ((negative, n, none), rest)

/-- An integer of a type. -/
def integer (t : IntegerType) : Reader Nat := fun text =>
  match signedInteger text with
  | none => none
  | some ((negative, n, suffix), rest) =>
    if (suffix.all (· == t)) && t.holds negative n then some (n, rest) else none

/-! ## Numbers of any kind -/

def isFractionChar (c : Char) : Bool :=
  c.isDigit || c == 'e' || c == 'E' || c == '.' || c == '+' || c == '-' || c == '_'

/-- Whether underscores stand behind digits, exponent marks or other underscores only. -/
def underscoresFit (behind : Bool) : List Char → Bool
  | [] => true
  | '_' :: rest => behind && underscoresFit behind rest
  | c :: rest => underscoresFit (c != '.' && (behind || (c != '+' && c != '-'))) rest

/-- Whether a text without underscores is a decimal: a sign, digits with or without a point, and an
exponent. -/
def isDecimal (text : List Char) : Bool :=
  let unsigned := (sign text).2
  let whole := unsigned.takeWhile Char.isDigit
  let rest := unsigned.dropWhile Char.isDigit
  let (fraction, rest) := match rest with
    | '.' :: rest => (rest.takeWhile Char.isDigit, rest.dropWhile Char.isDigit)
    | rest => ([], rest)
  let exponentFits := match rest with
    | [] => true
    | c :: rest =>
      let exponent := (sign rest).2
      (c == 'e' || c == 'E') && !exponent.isEmpty && exponent.all Char.isDigit
  !(whole.isEmpty && fraction.isEmpty) && exponentFits

def fractionSuffixes : List (List Char) := ["f32", "f64"].map String.toList

/-- The characters at the front of a text that may belong to a decimal, and what is left. -/
def fractionRun : List Char → List Char × List Char
  | '.' :: '.' :: rest => ([], '.' :: '.' :: rest)
  | c :: rest =>
    if isFractionChar c then
      let (run, rest) := fractionRun rest
      (c :: run, rest)
    else ([], c :: rest)
  | [] => ([], [])

/-- Takes a decimal with its suffix. -/
def skipFraction (text : List Char) : Option (List Char) :=
  let (run, rest) := fractionRun text
  if underscoresFit false run && isDecimal (run.filter (· != '_')) then
    some ((fractionSuffixes.findSome? fun suffix => word? suffix rest).getD rest)
  else none

/-- Whether more of a text belongs to a fractional number than to an integer. -/
def beginsFraction (text : List Char) : Bool :=
  let unsigned := (sign text).2
  (unsigned.takeWhile isDigitChar).length < (fractionRun unsigned).1.length

/-- Takes an integer of at most 64 bits, or of the type of its suffix. -/
def skipInteger (text : List Char) : Option (List Char) :=
  match signedInteger text with
  | none => none
  | some ((negative, n, suffix), rest) =>
    if (suffix.getD ⟨negative, 64⟩).holds negative n then some rest else none

/-- Numbers that are written as words. -/
def numberWords : List (List Char) :=
  ["", "+", "-"].flatMap fun sign => ["inf", "NaN"].flatMap fun word =>
    ["", "f32", "f64"].map fun suffix => (sign ++ word ++ suffix).toList

def numberWord? (text : List Char) : Option (List Char) :=
  numberWords.findSome? fun word => word? word text

/-- Takes a number of any kind. -/
def skipNumber (text : List Char) : Option (List Char) :=
  match numberWord? text with
  | some rest => some rest
  | none =>
    if beginsFraction text then skipFraction text
    else (skipInteger text).or (skipFraction text)

/-- Whether a number, and nothing else, may stand at the front of a text. -/
def beginsNumber (text : List Char) : Bool :=
  (numberWord? text).isSome || text.head?.any fun c => c.isDigit || c ∈ ['+', '-', '.']

end MapPainter.Ron
