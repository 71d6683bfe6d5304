import LanguageClient.Decimal
import LanguageClient.Text.Utf8

/-!
# Reading the parts of JSON text

The tokens of JSON: blanks, words, texts and numbers. A reader that meets a fault says of which
kind it is: the text ended too early, it is malformed, or it is well formed and holds something
else than was wanted. Every reader returns the text that follows what it took.
-/

namespace LanguageClient.Json

/-- Why a text was not read. -/
inductive Fault
  /-- The text ended too early. -/
  | ended
  /-- The text is malformed. -/
  | malformed
  /-- The text is well formed and holds something else than was wanted. -/
  | unsuitable
deriving Repr, DecidableEq

/-- A reader takes the front of a text. -/
abbrev Scanner (α : Type) := List Char → Except Fault (α × List Char)

/-- Blank characters between tokens. -/
def isBlank (c : Char) : Bool := c = ' ' || c = '\n' || c = '\t' || c = '\r'

/-- The text without leading blanks. -/
def skipBlanks (text : List Char) : List Char := text.dropWhile isBlank

/-- Takes the rest of a word whose first letter has been taken. -/
def scanWord : List Char → Scanner Unit
  | [], text => .ok ((), text)
  | letter :: word, c :: text => if c = letter then scanWord word text else .error .malformed
  | _ :: _, [] => .error .ended

/-- The value of a digit in base sixteen. -/
def hexValue? (c : Char) : Option Nat :=
  if '0' ≤ c ∧ c ≤ '9' then some (c.toNat - '0'.toNat)
  else if 'a' ≤ c ∧ c ≤ 'f' then some (c.toNat - 'a'.toNat + 10)
  else if 'A' ≤ c ∧ c ≤ 'F' then some (c.toNat - 'A'.toNat + 10)
  else none

/-- Takes the four digits of an escaped code unit. Fewer than four bytes are an early end,
whatever they hold. -/
def scanUnit : Scanner Nat
  | a :: b :: c :: d :: text =>
    match hexValue? a, hexValue? b, hexValue? c, hexValue? d with
    | some a, some b, some c, some d => .ok (((a * 16 + b) * 16 + c) * 16 + d, text)
    | _, _, _, _ => .error .malformed
  | short => .error (if (Utf8.encode short).length < 4 then .ended else .malformed)

/-- The character of an escape by a single letter. -/
def letterEscape? : Char → Option Char
  | '"' => some '"'
  | '\\' => some '\\'
  | '/' => some '/'
  | 'b' => some '\x08'
  | 'f' => some '\x0c'
  | 'n' => some '\n'
  | 'r' => some '\r'
  | 't' => some '\t'
  | _ => none

/-- Takes what follows `\u`: one code unit, or two that form a surrogate pair. -/
def scanCodePoint (text : List Char) : Except Fault (Char × List Char) := do
  let (unit, text) ← scanUnit text
  if 0xdc00 ≤ unit ∧ unit ≤ 0xdfff then throw .malformed
  if 0xd800 ≤ unit ∧ unit ≤ 0xdbff then
    match text with
    | [] => throw .ended
    | ['\\'] => throw .ended
    | '\\' :: 'u' :: text =>
      let (low, text) ← scanUnit text
      if low < 0xdc00 ∨ 0xdfff < low then throw .malformed
      return (Char.ofNat (0x10000 + (unit - 0xd800) * 0x400 + (low - 0xdc00)), text)
    | _ => throw .malformed
  return (Char.ofNat unit, text)

/-- Takes the rest of a text whose opening quote has been taken; `fuel` bounds its length. -/
def scanTextFrom : Nat → List Char → Scanner String
  | 0, _, _ => .error .ended
  | _ + 1, _, [] => .error .ended
  | fuel + 1, taken, c :: text =>
    if c = '"' then .ok (String.ofList taken.reverse, text)
    else if c = '\\' then
      match text with
      | [] => .error .ended
      | 'u' :: text => do
        let (c, text) ← scanCodePoint text
        scanTextFrom fuel (c :: taken) text
      | letter :: text =>
        match letterEscape? letter with
        | some c => scanTextFrom fuel (c :: taken) text
        | none => .error .malformed
    else if c.toNat < 0x20 then .error .malformed
    else scanTextFrom fuel (c :: taken) text

/-- Takes the rest of a text whose opening quote has been taken. -/
def scanText : Scanner String := fun text => scanTextFrom (text.length + 1) [] text

/-- Takes the rest of a text that nobody wants; escaped code units need not form characters. -/
def skipTextFrom : Nat → Scanner Unit
  | 0, _ => .error .ended
  | _ + 1, [] => .error .ended
  | fuel + 1, c :: text =>
    if c = '"' then .ok ((), text)
    else if c = '\\' then
      match text with
      | [] => .error .ended
      | 'u' :: text => do
        let (_, text) ← scanUnit text
        skipTextFrom fuel text
      | letter :: text => if (letterEscape? letter).isSome then skipTextFrom fuel text
        else .error .malformed
    else if c.toNat < 0x20 then .error .malformed
    else skipTextFrom fuel text

/-- Takes the rest of a text that nobody wants, its opening quote taken. -/
def skipText : Scanner Unit := fun text => skipTextFrom (text.length + 1) text

/-- A number as it was written. -/
inductive Numeral
  /-- Digits alone, with a sign unless they are zero. -/
  | whole (value : Int)
  /-- Anything with a point, a power of ten, more digits than sixty-four bits hold, or the
  negative zero. -/
  | fraction (value : Decimal)
deriving Repr, DecidableEq

/-- The number of a list of decimal digits. -/
def digitsValue (digits : List Char) : Nat :=
  digits.foldl (fun n c => n * 10 + (c.toNat - '0'.toNat)) 0

/-- Whether a decimal is beyond the largest number of double precision. -/
def isHuge (d : Decimal) : Bool :=
  d.digits ≠ 0 && ((400 : Int) < (Nat.toDigits 10 d.digits).length + d.exponent
    || (0 ≤ d.exponent && d.exponent ≤ 400
      && 0x3fffffffffffff * Nat.pow 2 970 ≤ d.digits * Nat.pow 10 d.exponent.toNat))

/-- Takes the digits after a point or the mark of a power of ten; there is at least one. -/
def scanDigits (text : List Char) : Except Fault (List Char × List Char) :=
  match text.span Char.isDigit with
  | ([], []) => .error .ended
  | ([], _) => .error .malformed
  | (digits, text) => .ok (digits, text)

/-- Takes a power of ten whose mark has been taken. -/
def scanPower (text : List Char) : Except Fault (Int × List Char) := do
  let (negative, text) := match text with
    | '-' :: text => (true, text)
    | '+' :: text => (false, text)
    | text => (false, text)
  let (digits, text) ← scanDigits text
  let power : Int := digitsValue digits
  return (if negative then -power else power, text)

/-- The numeral of a sign and digits without point or power. -/
def Numeral.ofDigits (negative : Bool) (digits : Nat) : Numeral :=
  if negative then
    if digits = 0 ∨ 0x8000000000000000 < digits then .fraction (Decimal.ofParts true digits 0)
    else .whole (-(digits : Int))
  else if digits < 0x10000000000000000 then .whole digits
  else .fraction (Decimal.ofParts false digits 0)

/-- Takes a number whose sign has been taken. -/
def scanNumber (negative : Bool) (text : List Char) : Except Fault (Numeral × List Char) := do
  let (digits, text) ← scanDigits text
  if digits.length ≠ 1 ∧ digits.head? = some '0' then throw .malformed
  let (fraction, text) ← match text with
    | '.' :: text => do
      let (fraction, text) ← scanDigits text
      pure (some fraction, text)
    | text => pure (none, text)
  let (power, text) ← match text with
    | 'e' :: text | 'E' :: text => do
      let (power, text) ← scanPower text
      pure (some power, text)
    | text => pure (none, text)
  match fraction, power with
  | none, none =>
    let number := Numeral.ofDigits negative (digitsValue digits)
    match number with
    | .fraction d => if isHuge d then throw .malformed
    | .whole _ => pure ()
    return (number, text)
  | _, _ =>
    let after := fraction.getD []
    let number := Decimal.ofParts negative (digitsValue (digits ++ after))
      (power.getD 0 - after.length)
    if isHuge number then throw .malformed
    return (.fraction number, text)

/-- Takes the digits of a number that nobody wants; a missing digit is a malformed number, also at
the end of the text. -/
def skipDigits (text : List Char) : Except Fault (Unit × List Char) :=
  match text.span Char.isDigit with
  | ([], _) => .error .malformed
  | (_, text) => .ok ((), text)

/-- Takes a number that nobody wants, its sign taken. -/
def skipNumber (text : List Char) : Except Fault (Unit × List Char) := do
  let leading := text.takeWhile Char.isDigit
  let (_, text) ← skipDigits text
  if leading.length ≠ 1 ∧ leading.head? = some '0' then throw .malformed
  let (_, text) ← match text with
    | '.' :: text => skipDigits text
    | text => pure ((), text)
  match text with
  | 'e' :: text | 'E' :: text =>
    match text with
    | '-' :: text | '+' :: text => skipDigits text
    | text => skipDigits text
  | text => return ((), text)

end LanguageClient.Json
