import LanguageClient.Files.Path
import LanguageClient.Url.Reader
import LanguageClient.Wire.Error

/-!
# Forms of values on the wire

A form is a way of writing values of a type as JSON together with a way of reading them back.
The forms of the plain types stand here; records are put together from their fields elsewhere.
-/

namespace LanguageClient

/-- How values of a type are written and read. -/
structure Form (α : Type) where
  /-- The JSON value that is written. -/
  encode : α → Json
  /-- Reads a JSON value, or says what is wrong with it. -/
  decode : Json → Except DecodeError α

namespace Form

variable {α β : Type}

/-- Whatever is written is read back as it was. -/
def Lawful (form : Form α) : Prop := ∀ value, form.decode (form.encode value) = .ok value

/-- Any JSON value, as it is. -/
def json : Form Json where
  encode value := value
  decode value := .ok value

/-- A text. -/
def text : Form String where
  encode := .str
  decode
    | .str value => .ok value
    | other => .error (.wrongType other "a string")

/-- A truth value. -/
def truth : Form Bool where
  encode := .bool
  decode
    | .bool value => .ok value
    | other => .error (.wrongType other "a boolean")

/-- The whole number between two bounds that a value holds. -/
def wholeBetween (low high : Int) (type : String) : Json → Except DecodeError Int
  | .int value =>
    if low ≤ value ∧ value < high then .ok value else .error (.wrongValue (.int value) type)
  | other => .error (.wrongType other type)

/-- A natural number of sixteen bits. -/
def word16 : Form UInt16 where
  encode value := .int value.toNat
  decode value := (wholeBetween 0 0x10000 "u16" value).map fun n => UInt16.ofNat n.toNat

/-- A natural number of thirty-two bits. -/
def word32 : Form UInt32 where
  encode value := .int value.toNat
  decode value := (wholeBetween 0 0x100000000 "u32" value).map fun n => UInt32.ofNat n.toNat

/-- A natural number of sixty-four bits. -/
def word64 : Form UInt64 where
  encode value := .int value.toNat
  decode value := (wholeBetween 0 0x10000000000000000 "u64" value).map fun n => UInt64.ofNat n.toNat

/-- A URL, which is written in normal form. -/
def url : Form Url where
  encode value := .str value.render
  decode
    | .str value => (Url.read value).mapError fun reason => .notUrl reason value
    | other => .error (.wrongType other "a string representing an URL")

/-- A path, which is written as it is shown. -/
def path : Form Path where
  encode value := .str value.display
  decode
    | .str value => .ok (Path.ofString value)
    | other => .error (.wrongType other "path string")

/-- Reads the items of a list front to back. -/
def decodeItems (form : Form α) : List Json → Except DecodeError (List α)
  | [] => .ok []
  | item :: rest => do
    let value ← form.decode item
    let values ← decodeItems form rest
    return value :: values

/-- A list of values. -/
def list (form : Form α) : Form (List α) where
  encode values := .arr (values.map form.encode)
  decode
    | .arr items => decodeItems form items
    | other => .error (.wrongType other "a sequence")

/-- A value, or null for none. -/
def nullable (form : Form α) : Form (Option α) where
  encode
    | some value => form.encode value
    | none => .null
  decode
    | .null => .ok none
    | other => (form.decode other).map some

/-- The value with a name among named values. -/
def named? (name : String) : List (String × α) → Option α
  | [] => none
  | (other, value) :: rest => if other = name then some value else named? name rest

/-- The value that a name stands for. -/
def ofName (variants : List (String × α)) (name : String) : Except DecodeError α :=
  match named? name variants with
  | some value => .ok value
  | none => .error (.unknownVariant name (variants.map Prod.fst))

/-- One of several named values, written as its name. It is also read from an object that holds
null under the name. -/
def choice (variants : List (String × α)) (name : α → String) : Form α where
  encode value := .str (name value)
  decode
    | .str spelled => ofName variants spelled
    | .obj [(spelled, content)] => do
      let value ← ofName variants spelled
      match content with
      | .null => return value
      | other => throw (.wrongType other "unit")
    | .obj entries => .error (.wrongValue (.obj entries) "map with a single key")
    | other => .error (.wrongType other "string or map")

end Form

end LanguageClient
