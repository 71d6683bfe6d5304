/-!
# Text as bytes

The bytes of a text in UTF-8, and the two ways of reading bytes as text: exactly, which refuses
ill-formed bytes, and leniently, which shows each maximal ill-formed run as one replacement mark.
-/

namespace LanguageClient.Utf8

/-- The bytes of a list of characters. -/
def encode (characters : List Char) : List UInt8 := characters.flatMap String.utf8EncodeChar

/-- The bytes of a text. -/
def ofString (text : String) : List UInt8 := encode text.toList

/-- What stands at the front of a byte list. -/
inductive Front
  /-- A well-formed character. -/
  | character (c : Char)
  /-- Bytes that begin no well-formed character. -/
  | broken
deriving Repr, DecidableEq

/-- A byte that continues a character. -/
def isContinuation (byte : UInt8) : Bool := 0x80 ≤ byte && byte ≤ 0xbf

/-- The bytes that may follow a leading byte of a three-byte character. -/
def secondOfThree (lead byte : UInt8) : Bool :=
  if lead = 0xe0 then 0xa0 ≤ byte && byte ≤ 0xbf
  else if lead = 0xed then 0x80 ≤ byte && byte ≤ 0x9f
  else isContinuation byte

/-- The bytes that may follow a leading byte of a four-byte character. -/
def secondOfFour (lead byte : UInt8) : Bool :=
  if lead = 0xf0 then 0x90 ≤ byte && byte ≤ 0xbf
  else if lead = 0xf4 then 0x80 ≤ byte && byte ≤ 0x8f
  else isContinuation byte

/-- The six low bits of a continuing byte. -/
def payload (byte : UInt8) : Nat := byte.toNat % 64

/-- Reads the front of a byte list whose first byte is given apart, together with the number of
further bytes it takes. An ill-formed run takes as many bytes as could still have begun a
character. -/
def front (lead : UInt8) (rest : List UInt8) : Front × Nat :=
  if lead < 0x80 then (.character (Char.ofNat lead.toNat), 0)
  else if 0xc2 ≤ lead && lead ≤ 0xdf then
    match rest with
    | b :: _ =>
      if isContinuation b then
        (.character (Char.ofNat ((lead.toNat - 0xc0) * 64 + payload b)), 1)
      else (.broken, 0)
    | [] => (.broken, 0)
  else if 0xe0 ≤ lead && lead ≤ 0xef then
    match rest with
    | b :: more =>
      if secondOfThree lead b then
        match more with
        | c :: _ =>
          if isContinuation c then
            (.character (Char.ofNat ((lead.toNat - 0xe0) * 4096 + payload b * 64 + payload c)), 2)
          else (.broken, 1)
        | [] => (.broken, 1)
      else (.broken, 0)
    | [] => (.broken, 0)
  else if 0xf0 ≤ lead && lead ≤ 0xf4 then
    match rest with
    | b :: more =>
      if secondOfFour lead b then
        match more with
        | c :: more =>
          if isContinuation c then
            match more with
            | d :: _ =>
              if isContinuation d then
                (.character (Char.ofNat ((lead.toNat - 0xf0) * 262144 + payload b * 4096
                  + payload c * 64 + payload d)), 3)
              else (.broken, 2)
            | [] => (.broken, 2)
          else (.broken, 1)
        | [] => (.broken, 1)
      else (.broken, 0)
    | [] => (.broken, 0)
  else (.broken, 0)

/-- The pieces of a byte list, front to back. -/
def fronts : List UInt8 → List Front
  | [] => []
  | lead :: rest => (front lead rest).1 :: fronts (rest.drop (front lead rest).2)
termination_by bytes => bytes.length
decreasing_by
  rw [List.length_drop, List.length_cons]
  omega

/-- The characters of well-formed bytes. -/
def decode? (bytes : List UInt8) : Option (List Char) :=
  (fronts bytes).mapM fun
    | .character c => some c
    | .broken => none

/-- The text of well-formed bytes. -/
def toString? (bytes : List UInt8) : Option String := (decode? bytes).map String.ofList

/-- The text that is shown for bytes, each ill-formed run as one replacement mark. -/
def display (bytes : List UInt8) : String :=
  String.ofList ((fronts bytes).map fun
    | .character c => c
    | .broken => '\ufffd')

end LanguageClient.Utf8
