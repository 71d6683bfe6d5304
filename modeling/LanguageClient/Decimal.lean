/-!
# Decimal fractions

A number with a decimal point, kept exactly as its digits and the power of ten that scales them.
Trailing zeros are dropped, so two texts of one number give one decimal. There are two ways of
writing it: positionally, as a message does, and with a power of ten where the positional form
grows long, as data does.
-/

namespace LanguageClient

/-- The number `digits * 10 ^ exponent`, negated if `negative`. -/
structure Decimal where
  /-- Whether a minus sign stands before the number; zero keeps its sign. -/
  negative : Bool
  /-- The digits of the number, read as one natural number. -/
  digits : Nat
  /-- The power of ten that scales the digits. -/
  exponent : Int
deriving Repr, DecidableEq

namespace Decimal

/-- Moves trailing zeros of the digits into the exponent; `fuel` bounds their number. -/
def strip : Nat → Nat → Int → Nat × Int
  | 0, digits, exponent => (digits, exponent)
  | fuel + 1, digits, exponent =>
    if digits % 10 = 0 then strip fuel (digits / 10) (exponent + 1) else (digits, exponent)

/-- The decimal of a sign, digits and a power of ten, without trailing zeros. -/
def ofParts (negative : Bool) (digits : Nat) (exponent : Int) : Decimal :=
  if digits = 0 then ⟨negative, 0, 0⟩
  else
    let (digits, exponent) := strip (Nat.toDigits 10 digits).length digits exponent
    ⟨negative, digits, exponent⟩

/-- A run of zeros. -/
def zeros (n : Nat) : List Char := List.replicate n '0'

/-- The sign that stands before the digits. -/
def sign (d : Decimal) : List Char := if d.negative then ['-'] else []

/-- The decimal without a power of ten, with at least one digit on each side of the point. -/
def positional (d : Decimal) : String :=
  let ds := Nat.toDigits 10 d.digits
  let point := (ds.length : Int) + d.exponent
  String.ofList <| d.sign ++
    if 0 ≤ d.exponent then ds ++ zeros d.exponent.toNat ++ ['.', '0']
    else if 0 < point then ds.take point.toNat ++ '.' :: ds.drop point.toNat
    else '0' :: '.' :: zeros (-point).toNat ++ ds

/-- The decimal with one digit before the point and a power of ten. -/
def scientific (d : Decimal) : String :=
  let ds := Nat.toDigits 10 d.digits
  let power := (ds.length : Int) + d.exponent - 1
  let fraction := if ds.length ≤ 1 then [] else '.' :: ds.drop 1
  String.ofList (d.sign ++ ds.take 1 ++ fraction ++ 'e' :: (toString power).toList)

/-- The decimal as data carries it: positional while the point lies within sixteen digits to the
right of the first digit or five to its left, with a power of ten beyond. -/
def render (d : Decimal) : String :=
  let point := ((Nat.toDigits 10 d.digits).length : Int) + d.exponent
  if d.digits = 0 ∨ (-5 < point ∧ point ≤ 16) then d.positional else d.scientific

end Decimal

end LanguageClient
