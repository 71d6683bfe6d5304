import LanguageClient.Text.Utf8

/-!
# Percent encoding

A byte is written as a percent sign and two digits in base sixteen where the byte itself could not
stand. Which characters have to be encoded depends on the part of the URL; bytes outside ASCII
always are.
-/

namespace LanguageClient.Percent

/-- A digit in base sixteen, in upper case. -/
def digit (n : Nat) : Char := (Nat.digitChar n).toUpper

/-- A byte as a percent sign and two digits. -/
def escape (byte : UInt8) : List Char := ['%', digit (byte.toNat / 16), digit (byte.toNat % 16)]

/-- The characters that are encoded everywhere. -/
def control (c : Char) : Bool := c.toNat < 0x20 || 0x7f ≤ c.toNat

/-- The characters that are encoded in a fragment. -/
def fragment (c : Char) : Bool := control c || [' ', '"', '<', '>', '\x60'].contains c

/-- The characters that are encoded in a query. -/
def query (c : Char) : Bool := control c || [' ', '"', '#', '<', '>'].contains c

/-- The characters that are encoded in the query of a scheme that names a host. -/
def specialQuery (c : Char) : Bool := query c || c = '\''

/-- The characters that are encoded in a path. -/
def path (c : Char) : Bool := fragment c || ['#', '?', '\x7b', '\x7d'].contains c

/-- The characters that are encoded in the name of a user and in a password. -/
def userinfo (c : Char) : Bool :=
  path c || ['/', ':', ';', '=', '@', '[', '\\', ']', '^', '|'].contains c

/-- The characters that are encoded in the name of a file. -/
def fileName (c : Char) : Bool := path c || ['/', '%', '\\'].contains c

/-- One byte, encoded if its character has to be. -/
def encodeByte (encoded : Char → Bool) (byte : UInt8) : List Char :=
  if encoded (Char.ofNat byte.toNat) then escape byte else [Char.ofNat byte.toNat]

/-- Bytes with those encoded whose characters have to be. -/
def encodeBytes (encoded : Char → Bool) (bytes : List UInt8) : List Char :=
  bytes.flatMap (encodeByte encoded)

/-- A text with those characters encoded that have to be. -/
def encode (encoded : Char → Bool) (text : List Char) : String :=
  String.ofList (encodeBytes encoded (Utf8.encode text))

/-- The value of a digit in base sixteen. -/
def value? (byte : UInt8) : Option Nat :=
  let n := byte.toNat
  if 0x30 ≤ n ∧ n ≤ 0x39 then some (n - 0x30)
  else if 0x41 ≤ n ∧ n ≤ 0x46 then some (n - 0x41 + 10)
  else if 0x61 ≤ n ∧ n ≤ 0x66 then some (n - 0x61 + 10)
  else none

/-- Bytes with every escape replaced by the byte it stands for; a percent sign that begins no
escape stays. -/
def decode : List UInt8 → List UInt8
  | [] => []
  | 0x25 :: high :: low :: rest =>
    match value? high, value? low with
    | some h, some l => UInt8.ofNat (h * 16 + l) :: decode rest
    | _, _ => 0x25 :: decode (high :: low :: rest)
  | byte :: rest => byte :: decode rest

end LanguageClient.Percent
