import MapPainter.Pattern

/-!
# Values of fields

The value that is asked of a field is a number, or else a pattern. A number without a sign, or with
a hyphen in front, is a pattern as well; one with a plus sign is none, as nothing stands there that
could be repeated.
-/

namespace MapPainter.Journal

/-- An exponent, or nothing. -/
def isExponent : List Char → Bool
  | [] => true
  | c :: rest =>
    let digits := match rest with
      | '+' :: digits | '-' :: digits => digits
      | digits => digits
    (c == 'e' || c == 'E') && !digits.isEmpty && digits.all Char.isDigit

/-- A decimal number without a sign: digits, which may have a point among them or at either end,
and an exponent. -/
def isDecimal (text : List Char) : Bool :=
  let whole := text.takeWhile Char.isDigit
  match text.dropWhile Char.isDigit with
  | '.' :: rest =>
    let fraction := rest.takeWhile Char.isDigit
    !(whole.isEmpty && fraction.isEmpty) && isExponent (rest.dropWhile Char.isDigit)
  | rest => !whole.isEmpty && isExponent rest

/-- The words for what is no finite number. -/
def unboundedWords : List String := ["inf", "infinity", "nan"]

/-- A number behind its sign. -/
def isNumber (text : List Char) : Bool :=
  isDecimal text || unboundedWords.contains (String.ofList (text.map Char.toLower))

/-- Whether a field can be asked for with a value. -/
def isFieldValue (text : List Char) : Bool :=
  Pattern.isValid text ||
    match text with
    | '+' :: rest => isNumber rest
    | _ => false

end MapPainter.Journal
