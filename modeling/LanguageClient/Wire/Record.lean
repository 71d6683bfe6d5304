import LanguageClient.Wire.Form

/-!
# Records on the wire

A record is written as an object with a value under the name of each field. It is read from an
object, where unknown names do not count, or from a list that holds the fields in their order. An
object is refused for the first bad value in the order of its keys; only when every value is good
does a missing field count.
-/

namespace LanguageClient

/-- How some fields of a record are written and read. -/
structure Fields (α : Type) where
  /-- The names of the fields in their order. -/
  names : List String
  /-- Checks one entry of an object; names of other fields pass. -/
  check : String → Json → Except DecodeError Unit
  /-- The entries that are written. -/
  write : α → List (String × Json)
  /-- Reads the fields from the entries of an object. -/
  read : List (String × Json) → Except DecodeError α
  /-- Reads the fields from the front of a list, given the number of fields before them and the
  complaint about a field that is missing. -/
  take : (Nat → DecodeError) → Nat → List Json → Except DecodeError (α × List Json)

namespace Fields

variable {α β : Type}

/-- Checks an entry under one name against a form. -/
def checkOne (name : String) (form : Form α) (key : String) (value : Json) :
    Except DecodeError Unit :=
  if key = name then (form.decode value).map fun _ => () else .ok ()

/-- A field that has to be there. -/
def required (name : String) (form : Form α) : Fields α where
  names := [name]
  check := checkOne name form
  write value := [(name, form.encode value)]
  read entries :=
    match Json.entry? name entries with
    | some value => form.decode value
    | none => .error (.missing name)
  take tooShort index
    | item :: rest => (form.decode item).map fun value => (value, rest)
    | [] => .error (tooShort index)

/-- A field that is written unless it has its usual value, and has that value when it is left
out. -/
def usual (name : String) (form : Form α) (value : α) (omitted : α → Bool) : Fields α where
  names := [name]
  check := checkOne name form
  write chosen := if omitted chosen then [] else [(name, form.encode chosen)]
  read entries :=
    match Json.entry? name entries with
    | some found => form.decode found
    | none => .ok value
  take _ _
    | item :: rest => (form.decode item).map fun chosen => (chosen, rest)
    | [] => .ok (value, [])

/-- A field that is always written and has a default when it is left out. -/
def defaulted (name : String) (form : Form α) (value : α) : Fields α :=
  usual name form value fun _ => false

/-- A field that may be left out; null counts as left out. -/
def optional (name : String) (form : Form α) : Fields (Option α) :=
  usual name form.nullable none Option.isNone

/-- A field that an object may leave out and a list may not; null counts as left out. -/
def optionalInObject (name : String) (form : Form α) : Fields (Option α) :=
  { optional name form with
    take := fun tooShort index items =>
      match items with
      | item :: rest => (form.nullable.decode item).map fun value => (value, rest)
      | [] => .error (tooShort index) }

/-- Some fields followed by others. -/
def both (first : Fields α) (second : Fields β) : Fields (α × β) where
  names := first.names ++ second.names
  check key value := do
    first.check key value
    second.check key value
  write values := first.write values.1 ++ second.write values.2
  read entries := do
    let a ← first.read entries
    let b ← second.read entries
    return (a, b)
  take tooShort index items := do
    let (a, items) ← first.take tooShort index items
    let (b, items) ← second.take tooShort (index + first.names.length) items
    return ((a, b), items)

/-- The same fields seen as a value of another type. -/
def as (build : α → β) (parts : β → α) (fields : Fields α) : Fields β where
  names := fields.names
  check := fields.check
  write value := fields.write (parts value)
  read entries := (fields.read entries).map build
  take tooShort index items :=
    (fields.take tooShort index items).map fun (value, rest) => (build value, rest)

/-- Checks every entry of an object in the order of its keys. -/
def checkAll (fields : Fields α) : List (String × Json) → Except DecodeError Unit
  | [] => .ok ()
  | (key, value) :: rest => do
    fields.check key value
    checkAll fields rest

/-- Reads the fields from an object's entries, bad values before missing fields. -/
def ofEntries (fields : Fields α) (entries : List (String × Json)) : Except DecodeError α := do
  fields.checkAll entries
  fields.read entries

/-- Reads all fields of a record from a list. -/
def ofItems (fields : Fields α) (record : String) (items : List Json) : Except DecodeError α := do
  let tooShort index := DecodeError.tooShort index record fields.names.length
  match ← fields.take tooShort 0 items with
  | (value, []) => return value
  | (_, _ :: _) => throw (.tooLong items.length)

end Fields

/-- A record with the given name and fields. -/
def Form.record {α : Type} (name : String) (fields : Fields α) : Form α where
  encode value := Json.object (fields.write value)
  decode
    | .obj entries => fields.ofEntries entries
    | .arr items => fields.ofItems name items
    | other => .error (.wrongType other ("struct " ++ name))

end LanguageClient
