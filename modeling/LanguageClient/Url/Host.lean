import LanguageClient.Url.Basic
import LanguageClient.Url.Domain
import LanguageClient.Url.Percent

/-!
# Reading hosts

The host of a URL is an address of eight pieces between brackets, an address of four bytes, or a
name. Schemes that name a host by their own rules keep the name as it is; the others decode it,
write it as the name of a domain and take a name that ends in a number for an address.
-/

namespace LanguageClient

/-- Why a text is not a URL. -/
inductive UrlError
  /-- There is no scheme. -/
  | relative
  /-- A host is needed and missing. -/
  | emptyHost
  /-- The port is not a number of sixteen bits. -/
  | invalidPort
  /-- The host ends in a number and is no address of four bytes. -/
  | invalidV4
  /-- The host stands between brackets and is no address of eight pieces. -/
  | invalidV6
  /-- The host holds a character that no host may hold. -/
  | invalidHostCharacter
  /-- The host is no domain name. -/
  | invalidDomain
deriving Repr, DecidableEq

/-- The reason as a text. -/
def UrlError.message : UrlError → String
  | .relative => "relative URL without a base"
  | .emptyHost => "empty host"
  | .invalidPort => "invalid port number"
  | .invalidV4 => "invalid IPv4 address"
  | .invalidV6 => "invalid IPv6 address"
  | .invalidHostCharacter => "invalid domain character"
  | .invalidDomain => "invalid international domain name"

namespace Host

/-- The value of a list of digits in a base, or none if one of them is no digit of the base. -/
def digitsIn? (base : Nat) (digits : List Char) : Option Nat :=
  digits.foldlM (fun n c => do
    let value ← if c.isDigit then some (c.toNat - '0'.toNat)
      else if 'a' ≤ c ∧ c ≤ 'f' then some (c.toNat - 'a'.toNat + 10)
      else if 'A' ≤ c ∧ c ≤ 'F' then some (c.toNat - 'A'.toNat + 10)
      else none
    if value < base then some (n * base + value) else none) 0

/-- The number that a part of an address spells, in base ten, eight or sixteen. -/
def number? : List Char → Option Nat
  | [] => none
  | '0' :: 'x' :: digits | '0' :: 'X' :: digits => digitsIn? 16 digits
  | ['0'] => some 0
  | '0' :: digits => digitsIn? 8 digits
  | digits => digitsIn? 10 digits

/-- The parts of a name, without an empty last one. -/
def properLabels (name : List Char) : List (List Char) :=
  let parts := labels name
  if parts.length > 1 ∧ parts.getLast? = some [] then parts.dropLast else parts

/-- Whether the last part of a name is a number. -/
def endsInNumber (name : List Char) : Bool :=
  match (properLabels name).getLast? with
  | none | some [] => false
  | some last => last.all Char.isDigit || (number? last).isSome

/-- The address of four bytes that a name spells; the last part fills the bytes that are left. -/
def v4? (name : List Char) : Option Nat := do
  let parts := properLabels name
  if parts.length > 4 then none
  let numbers ← parts.mapM number?
  let last ← numbers.getLast?
  let leading := numbers.dropLast
  if Nat.pow 256 (4 - leading.length) ≤ last ∨ leading.any (255 < ·) then none
  return leading.zipIdx.foldl (fun sum (n, i) => sum + n * Nat.pow 256 (3 - i)) last

/-- The four numbers at the end of an address of eight pieces, as two pieces. -/
def tailV4? (text : List Char) : Option (List Nat) := do
  let parts := text.splitOn '.'
  if parts.length ≠ 4 then none
  let numbers ← parts.mapM fun part => do
    if part.isEmpty ∨ (part.length > 1 ∧ part.head? = some '0') ∨ part.length > 3 then none
    let n ← if part.all Char.isDigit then digitsIn? 10 part else none
    if n ≤ 255 then some n else none
  match numbers with
  | [a, b, c, d] => some [a * 256 + b, c * 256 + d]
  | _ => none

/-- The pieces of an address of eight pieces, front to back, with the place of the double colon;
`fuel` bounds the length of the text. -/
def pieces? : Nat → List Nat → Option Nat → List Char → Option (List Nat × Option Nat)
  | 0, _, _, _ => none
  | _ + 1, taken, gap, [] => some (taken, gap)
  | fuel + 1, taken, gap, c :: text =>
    if taken.length = 8 then none
    else if c = ':' then
      if gap.isSome then none else pieces? fuel (taken ++ [0]) (some (taken.length + 1)) text
    else
      let whole := c :: text
      let digits := (whole.take 4).takeWhile fun c => (digitsIn? 16 [c]).isSome
      let rest := whole.drop digits.length
      match rest with
      | [] => some (taken ++ [(digitsIn? 16 digits).getD 0], gap)
      | '.' :: _ =>
        if digits.isEmpty ∨ taken.length > 6 then none
        else (tailV4? whole).map fun tail => (taken ++ tail, gap)
      | ':' :: rest =>
        if rest.isEmpty then none
        else pieces? fuel (taken ++ [(digitsIn? 16 digits).getD 0]) gap rest
      | _ => none

/-- The address that a text of pieces and colons spells. -/
def v6? (text : List Char) : Option (List Nat) := do
  let (pieces, gap) ← match text with
    | ':' :: ':' :: rest => pieces? (text.length + 1) [0] (some 1) rest
    | ':' :: _ => none
    | _ => if text.length < 2 then none else pieces? (text.length + 1) [] none text
  match gap with
  | none => if pieces.length = 8 then some pieces else none
  | some gap =>
    if pieces.length > 8 then none
    else some (pieces.take gap ++ List.replicate (8 - pieces.length) 0 ++ pieces.drop gap)

/-- The host between brackets. -/
def bracketed (text : List Char) : Except UrlError Host :=
  if text.getLast? ≠ some ']' then .error .invalidV6
  else
    match v6? (text.drop 1).dropLast with
    | some pieces => .ok (.v6 pieces)
    | none => .error .invalidV6

/-- Reads the host of a scheme that has its own rules for hosts. -/
def readOpaque (text : List Char) : Except UrlError Host :=
  if text.head? = some '[' then bracketed text
  else if text.any isForbidden then .error .invalidHostCharacter
  else .ok (.name (Percent.encode Percent.control text))

/-- Reads the host of a scheme that names hosts by domain. -/
def readDomain [Idna] (text : List Char) : Except UrlError Host :=
  if text.head? = some '[' then bracketed text
  else
    match (Utf8.decode? (Percent.decode (Utf8.encode text))).bind domain? with
    | none => .error .invalidDomain
    | some [] => .error .emptyHost
    | some written =>
      if endsInNumber written then
        match v4? written with
        | some address => .ok (.v4 address)
        | none => .error .invalidV4
      else .ok (.name (String.ofList written))

end Host

end LanguageClient
