import LanguageClient.Wire.Form

/-!
# Payloads that are handed on

Some payloads are only checked and handed on: the fields that are known are kept, all others are
dropped. Their form is given by what it makes of a JSON value.
-/

namespace LanguageClient

/-- What a form of payload makes of a JSON value: the value with what is known of it, or what is
wrong with it. -/
abbrev Passive := Json → Except DecodeError Json

/-- Whether a field has to be there, and what becomes of it if it is not. -/
inductive Presence
  /-- It has to be there. -/
  | needed
  /-- It may be left out, and is then left out. -/
  | allowed
  /-- It may be left out, and is then null. -/
  | shown
deriving Repr, DecidableEq

/-- A field of a payload that is handed on. -/
structure PassiveField where
  /-- The name of the field. -/
  name : String
  /-- Whether the field has to be there. -/
  presence : Presence
  /-- The form of the field. -/
  form : Passive

namespace Passive

/-- A payload of a form that has a type of its own. -/
def of {α : Type} (form : Form α) : Passive := fun value => (form.decode value).map form.encode

/-- A whole number of thirty-two bits with a sign. -/
def int32 : Passive := fun value =>
  (Form.wholeBetween (-0x80000000) 0x80000000 "i32" value).map Json.int

/-- A list. -/
def list (form : Passive) : Passive
  | .arr items => (items.mapM form).map Json.arr
  | other => .error (.wrongType other "a sequence")

/-- The first of several forms that fits. -/
def oneOf (type : String) (forms : List Passive) : Passive := fun value =>
  match forms.findSome? fun form => (form value).toOption with
  | some found => .ok found
  | none => .error (.noMatch type)

/-- The value of a field; null in a field that may be left out counts as left out. -/
def field (field : PassiveField) (value : Json) : Except DecodeError (Option Json) :=
  if field.presence ≠ .needed && value.isNull then .ok none else (field.form value).map some

/-- Takes the fields from an object's entries, in the order of the keys. -/
def ofEntries (fields : List PassiveField) :
    List (String × Json) → Except DecodeError (List (String × Json))
  | [] => .ok []
  | (key, value) :: rest => do
    let first ← match fields.find? fun field => field.name = key with
      | some known => do
        let kept ← field known value
        pure (kept.map fun kept => (key, kept)).toList
      | none => pure []
    let others ← ofEntries fields rest
    return first ++ others

/-- Takes the fields from a list, in their order. -/
def ofItems (tooShort : Nat → DecodeError) :
    Nat → List PassiveField → List Json → Except DecodeError (List (String × Json) × List Json)
  | _, [], items => .ok ([], items)
  | index, _ :: _, [] => .error (tooShort index)
  | index, known :: fields, item :: items => do
    let kept ← field known item
    let (others, items) ← ofItems tooShort (index + 1) fields items
    return ((kept.map fun kept => (known.name, kept)).toList ++ others, items)

/-- The fields that are null because they were left out. -/
def blanks (fields : List PassiveField) (kept : List (String × Json)) : List (String × Json) :=
  (fields.filter fun field => field.presence = .shown && (Json.entry? field.name kept).isNone).map
    fun field => (field.name, .null)

/-- A record. One that shares its object with another record cannot be a list. -/
def record (name : String) (fields : List PassiveField) (shared : Bool) : Passive
  | .obj entries => do
    let kept ← ofEntries fields entries
    match fields.find? fun field =>
        field.presence = .needed && (Json.entry? field.name entries).isNone with
    | some field => throw (.missing field.name)
    | none => return Json.object (kept ++ blanks fields kept)
  | .arr items =>
    if shared then .error (.wrongType (.arr items) ("struct " ++ name))
    else do
      let tooShort index := DecodeError.tooShort index name fields.length
      match ← ofItems tooShort 0 fields items with
      | (kept, []) => return Json.object (kept ++ blanks fields kept)
      | (_, _ :: _) => throw (.tooLong items.length)
  | other => .error (.wrongType other ("struct " ++ name))

/-- Fields that have to be there. -/
def needed (fields : List (String × Passive)) : List PassiveField :=
  fields.map fun (name, form) => ⟨name, .needed, form⟩

/-- Fields that may be left out. -/
def allowed (fields : List (String × Passive)) : List PassiveField :=
  fields.map fun (name, form) => ⟨name, .allowed, form⟩

/-- Fields that may be left out and are null then. -/
def shown (fields : List (String × Passive)) : List PassiveField :=
  fields.map fun (name, form) => ⟨name, .shown, form⟩

/-- A truth value. -/
def truth : Passive := of .truth

/-- A text. -/
def text : Passive := of .text

/-- A list of texts. -/
def texts : Passive := list text

/-- Anything. -/
def any : Passive := fun value => .ok value

/-- Null alone. -/
def nothing : Passive
  | .null => .ok .null
  | other => .error (.wrongType other "unit")

end Passive

end LanguageClient
