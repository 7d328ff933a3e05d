import MapPainter.Ron.Number
import MapPainter.Text.Numbered

/-!
# Quoted texts

A text stands between quotes; quotes, backslashes and characters that could not be seen are
written with a backslash. A backslash at the end of a line joins it with the next one, without the
blanks in front of that. A raw text has the letter `r` in front, stands between quotes with any
number of hashes around them, and has no escapes. Byte strings are written in the same ways, with
the letter `b` in front.
-/

namespace MapPainter.Ron

open Text (Reader isHexDigit digitValue)

/-- Escapes of one letter, and what they stand for. -/
def letterEscapes : List (Char × Char) :=
  [('0', '\x00'), ('t', '\t'), ('r', '\r'), ('n', '\n'), ('\x27', '\x27'), ('\x22', '\x22'),
    ('\x5c', '\x5c')]

/-! ## Writing -/

/-- How a character is written in a quoted text. -/
def writeCharacter (c : Char) : List Char :=
  match letterEscapes.find? fun escape => escape.2 == c with
  | some (letter, _) => ['\x5c', letter]
  | none =>
    if Text.isNumbered c then '\x5c' :: 'u' :: '\x7b' :: Nat.toDigits 16 c.toNat ++ ['\x7d']
    else [c]

/-- A text in quotes. -/
def writeText (text : List Char) : List Char :=
  '\x22' :: text.flatMap writeCharacter ++ ['\x22']

/-! ## Reading -/

/-- Two hexadecimal digits. -/
def hexByte : Reader Nat
  | a :: b :: rest =>
    if isHexDigit a && isHexDigit b then some (16 * digitValue a + digitValue b, rest) else none
  | _ => none

/-- `count` more bytes of a character in UTF-8, each one an escape, behind the bits of `high`. -/
def followingBytes : Nat → Nat → Reader Nat
  | 0, high, text => some (high, text)
  | count + 1, high, '\x5c' :: 'x' :: text =>
    match hexByte text with
    | some (byte, rest) =>
      if 128 ≤ byte ∧ byte < 192 then followingBytes count (64 * high + (byte - 128)) rest else none
    | none => none
  | _, _, _ => none

/-- A character whose first byte in UTF-8 has been read: `high` are the bits of that byte, `count`
the number of bytes to follow, and `least` the least character of that many. -/
def multibyte (high count least : Nat) : Reader Char := fun text =>
  match followingBytes count high text with
  | some (n, rest) => if least ≤ n ∧ n.isValidChar then some (Char.ofNat n, rest) else none
  | none => none

/-- A byte as the character of that number. -/
def anyByte : Reader Char := fun text =>
  (hexByte text).map fun (byte, rest) => (Char.ofNat byte, rest)

/-- A byte that is a character in ASCII. -/
def asciiByte : Reader Char := fun text =>
  (anyByte text).filter fun (c, _) => c.toNat < 128

/-- A character given by its bytes in UTF-8. -/
def utf8Bytes : Reader Char := fun text =>
  match hexByte text with
  | none => none
  | some (byte, rest) =>
    if byte < 128 then some (Char.ofNat byte, rest)
    else if byte < 192 then none
    else if byte < 224 then multibyte (byte - 192) 1 128 rest
    else if byte < 240 then multibyte (byte - 224) 2 2048 rest
    else if byte < 248 then multibyte (byte - 240) 3 65536 rest
    else none

/-- A character given by its number, in one to six hexadecimal digits. -/
def numberEscape : Reader Char
  | '\x7b' :: text =>
    let run := text.takeWhile isHexDigit
    match valueFrom 16 0 run, text.dropWhile isHexDigit with
    | some n, '\x7d' :: rest =>
      if 0 < run.length ∧ run.length ≤ 6 ∧ n.isValidChar then some (Char.ofNat n, rest) else none
    | _, _ => none
  | _ => none

/-- The character that an escape stands for; the backslash has been taken. `byte` reads what
follows the letter of a byte, and `number` what follows that of a character's number. -/
def escape (byte number : Reader Char) : Reader Char
  | 'x' :: rest => byte rest
  | 'u' :: rest => number rest
  | letter :: rest => (letterEscapes.lookup letter).map fun c => (c, rest)
  | [] => none

/-- No escape at all. -/
def noEscape : Reader Char := fun _ => none

/-- What follows the end of a line and the blanks behind it, where a backslash joins two lines. -/
def joined? : List Char → Option (List Char)
  | '\n' :: rest | '\r' :: '\n' :: rest => some (rest.dropWhile (· ∈ [' ', '\t', '\r', '\n']))
  | _ => none

/-- What an escape in a quoted text stands for: a character, or nothing where lines are joined. -/
def piece (escape : Reader Char) : Reader (Option Char) := fun text =>
  match joined? text with
  | some rest => some (none, rest)
  | none => (escape text).map fun (c, rest) => (some c, rest)

/-- Text up to the closing quote, which is taken as well. -/
def quoted (escape : Reader Char) (text : List Char) : Option (List Char × List Char) :=
  match text with
  | [] => none
  | c :: rest =>
    if c = '\x22' then some ([], rest)
    else if c = '\x5c' then
      match piece escape rest with
      | some (d, after) =>
        if after.length < (c :: rest).length then
          (quoted escape after).map fun (content, rest) => (d.toList ++ content, rest)
        else none
      | none => none
    else (quoted escape rest).map fun (content, rest) => (c :: content, rest)
termination_by text.length
decreasing_by all_goals (simp only [List.length_cons] at *; omega)

/-- Text up to an ending, which is taken as well. -/
def upTo (ending : List Char) : Reader (List Char)
  | [] => none
  | c :: rest =>
    if ending.isPrefixOf (c :: rest) then some ([], (c :: rest).drop ending.length)
    else (upTo ending rest).map fun (content, rest) => (c :: content, rest)

/-- A raw text; the letter has been taken. -/
def raw : Reader (List Char) := fun text =>
  let hashes := text.takeWhile (· == '#')
  match text.dropWhile (· == '#') with
  | '\x22' :: rest => upTo ('\x22' :: hashes) rest
  | _ => none

/-- A text. -/
def text : Reader (List Char)
  | '\x22' :: rest => quoted (escape utf8Bytes numberEscape) rest
  | 'r' :: rest => raw rest
  | _ => none

/-- Takes a single character and the apostrophe behind it. -/
def skipSingle (escape : Reader Char) (text : List Char) : Option (List Char) :=
  let content := match text with
    | '\x5c' :: rest => (escape rest).map (·.2)
    | _ :: rest => some rest
    | [] => none
  match content with
  | some ('\x27' :: rest) => some rest
  | _ => none

/-- Takes a character between apostrophes. -/
def skipCharacter : List Char → Option (List Char)
  | '\x27' :: rest => skipSingle (escape asciiByte numberEscape) rest
  | _ => none

/-- Takes a byte, which is a character of ASCII or an escape between apostrophes. -/
def skipByte : List Char → Option (List Char)
  | 'b' :: '\x27' :: c :: rest =>
    if c.toNat < 128 then skipSingle (escape anyByte noEscape) (c :: rest) else none
  | _ => none

/-- Takes a byte string or a raw one. -/
def skipBytes : List Char → Option (List Char)
  | 'b' :: '\x22' :: rest => (quoted (escape anyByte numberEscape) rest).map (·.2)
  | 'b' :: 'r' :: rest => (raw rest).map (·.2)
  | _ => none

/-- Takes a text, a byte string or a character. -/
def skipQuoted (text : List Char) : Option (List Char) :=
  ((Ron.text text).map (·.2)).or ((skipBytes text).or (skipCharacter text))

/-! ## Looking ahead -/

/-- Whether a quoted text has no end: no quote follows where it begins, or behind one of its
escapes. -/
def isOpen (escape : Reader Char) (text : List Char) : Bool :=
  match text with
  | [] => true
  | c :: rest =>
    if c = '\x22' then false
    else if c = '\x5c' then
      if !rest.contains '\x22' then true
      else
        match piece escape rest with
        | some (_, after) =>
          if after.length < (c :: rest).length then isOpen escape after else false
        | none => false
    else isOpen escape rest
termination_by text.length
decreasing_by all_goals (simp only [List.length_cons] at *; omega)

/-- Passes a quoted text without its first quote. One with an escape that cannot be read is not
passed, and `text` is left; one without an end is an error. -/
def passQuote (escape : Reader Char) (rest text : List Char) : Option (List Char) :=
  match quoted escape rest with
  | some (_, after) => some after
  | none => if isOpen escape rest then none else some text

/-- Passes a raw text without its letter, if it is one. -/
def passRaw (rest text : List Char) : Option (List Char) :=
  match rest.dropWhile (· == '#') with
  | '\x22' :: _ => (raw rest).map (·.2)
  | _ => some text

/-- Passes a text, if there is one. -/
def passText (text : List Char) : Option (List Char) :=
  match text with
  | '\x22' :: rest => passQuote (escape utf8Bytes numberEscape) rest text
  | 'r' :: rest => passRaw rest text
  | _ => some text

/-- Passes a byte string, if there is one. -/
def passBytes (text : List Char) : Option (List Char) :=
  match text with
  | 'b' :: '\x22' :: rest => passQuote (escape anyByte numberEscape) rest text
  | 'b' :: 'r' :: rest => passRaw rest text
  | _ => some text

/-- Passes a character, a text and a byte string, as far as they are there. -/
def passQuoted (text : List Char) : Option (List Char) := do
  passBytes (← passText ((skipCharacter text).getD text))

end MapPainter.Ron
