import LanguageClient.Wire.Error

/-!
# Layouts of payloads

A layout says where the records of a payload lie, which fields they have, and which values of a
field stand for its absence. `Omits` takes such a value away, however deep it lies, and `HoldsBlank`
finds one.
-/

namespace LanguageClient

mutual

/-- Where the records of a payload lie. -/
inductive Layout
  /-- There are none, or none that matter. -/
  | plain
  /-- In the items of a list. -/
  | list (item : Layout)
  /-- At this place, as an object, or as a list of its fields in their order. -/
  | record (slots : List Slot)

/-- A field of a record. -/
structure Slot where
  /-- The name of the field. -/
  name : String
  /-- The values that stand for the absence of the field. -/
  blanks : List Json
  /-- The layout of the field. -/
  layout : Layout

end

/-- A field that is never left out. -/
def Slot.fixed (name : String) (layout : Layout) : Slot := ⟨name, [], layout⟩

/-- A field that is left out for null. -/
def Slot.optional (name : String) (layout : Layout) : Slot := ⟨name, [.null], layout⟩

namespace Layout

/-- A payload becomes another one when a value that stands for an absence is left out of an object,
in which nothing else stands under its name. -/
inductive Omits : Layout → Json → Json → Prop
  /-- It is left out of the object itself. -/
  | drop {slots : List Slot} {slot : Slot} {value : Json} {before after : List (String × Json)}
    (field : slot ∈ slots) (blank : value ∈ slot.blanks)
    (alone : slot.name ∉ (before ++ after).map Prod.fst) :
    Omits (.record slots) (.obj (before ++ (slot.name, value) :: after)) (.obj (before ++ after))
  /-- It is left out of a field of an object. -/
  | inEntry {slots : List Slot} {slot : Slot} {value other : Json}
    {before after : List (String × Json)} (field : slot ∈ slots)
    (deep : Omits slot.layout value other) :
    Omits (.record slots) (.obj (before ++ (slot.name, value) :: after))
      (.obj (before ++ (slot.name, other) :: after))
  /-- It is left out of a field of a record that is written as a list. -/
  | inPlace {slots : List Slot} {slot : Slot} {value other : Json} {before after : List Json}
    (place : slots[before.length]? = some slot) (deep : Omits slot.layout value other) :
    Omits (.record slots) (.arr (before ++ value :: after)) (.arr (before ++ other :: after))
  /-- It is left out of an item of a list. -/
  | inItem {item : Layout} {value other : Json} {before after : List Json}
    (deep : Omits item value other) :
    Omits (.list item) (.arr (before ++ value :: after)) (.arr (before ++ other :: after))

/-- Somewhere in a payload a value stands for an absence. -/
inductive HoldsBlank : Layout → Json → Prop
  /-- It stands in the object itself. -/
  | entry {slots : List Slot} {slot : Slot} {value : Json} {entries : List (String × Json)}
    (field : slot ∈ slots) (stands : (slot.name, value) ∈ entries) (blank : value ∈ slot.blanks) :
    HoldsBlank (.record slots) (.obj entries)
  /-- It stands in a field of an object. -/
  | inEntry {slots : List Slot} {slot : Slot} {value : Json} {entries : List (String × Json)}
    (field : slot ∈ slots) (stands : (slot.name, value) ∈ entries)
    (deep : HoldsBlank slot.layout value) : HoldsBlank (.record slots) (.obj entries)
  /-- It stands in a field of a record that is written as a list. -/
  | inPlace {slots : List Slot} {slot : Slot} {value : Json} {before after : List Json}
    (place : slots[before.length]? = some slot) (deep : HoldsBlank slot.layout value) :
    HoldsBlank (.record slots) (.arr (before ++ value :: after))
  /-- It stands in an item of a list. -/
  | inItem {item : Layout} {value : Json} {items : List Json} (stands : value ∈ items)
    (deep : HoldsBlank item value) : HoldsBlank (.list item) (.arr items)

/-- Two payloads are the same, or the second one omits a value of the first. -/
def Alike (layout : Layout) (value other : Json) : Prop := value = other ∨ layout.Omits value other

end Layout

/-- What stands under the name of a field before and after a value is left out. -/
inductive Slot.Alike (slot : Slot) : Option Json → Option Json → Prop
  /-- Nothing has changed. -/
  | same (found : Option Json) : Alike slot found found
  /-- The value was left out of the field. -/
  | deep {value other : Json} (omits : slot.layout.Omits value other) :
    Alike slot (some value) (some other)
  /-- The field itself was left out. -/
  | gone {value : Json} (blank : value ∈ slot.blanks) : Alike slot (some value) none

/-- The fields of a record that is written as a list, before and after a value is left out. -/
inductive Along : List Slot → List Json → List Json → Prop
  /-- Nothing has changed. -/
  | same (slots : List Slot) (items : List Json) : Along slots items items
  /-- The value was left out of the first field. -/
  | here {slot : Slot} {value other : Json} (slots : List Slot) (items : List Json)
    (omits : slot.layout.Omits value other) :
    Along (slot :: slots) (value :: items) (other :: items)
  /-- The value was left out of a later field. -/
  | later {slots : List Slot} {items others : List Json} (slot : Slot) (item : Json)
    (rest : Along slots items others) :
    Along (slot :: slots) (item :: items) (item :: others)

/-- The value of one field may be left out of a list. -/
theorem Along.of_place {slots : List Slot} {slot : Slot} {value other : Json}
    {before : List Json} (after : List Json) (place : slots[before.length]? = some slot)
    (omits : slot.layout.Omits value other) :
    Along slots (before ++ value :: after) (before ++ other :: after) := by
  induction before generalizing slots with
  | nil =>
    cases slots with
    | nil => cases place
    | cons first rest =>
      obtain rfl := Option.some.inj place
      exact .here rest after omits
  | cons item before ih =>
    cases slots with
    | nil => cases place
    | cons first rest => exact .later first item (ih place)

/-- Two such lists both have a first item or both have none. -/
theorem Along.uncons {slot : Slot} {slots : List Slot} {items others : List Json}
    (along : Along (slot :: slots) items others) :
    items = [] ∧ others = [] ∨ ∃ value other rest left, items = value :: rest ∧
      others = other :: left ∧ slot.layout.Alike value other ∧ Along slots rest left := by
  cases along with
  | same =>
    cases items with
    | nil => exact .inl ⟨rfl, rfl⟩
    | cons item rest => exact .inr ⟨item, item, rest, rest, rfl, rfl, .inl rfl, .same slots rest⟩
  | here slots rest omits => exact .inr ⟨_, _, rest, rest, rfl, rfl, .inr omits, .same slots rest⟩
  | later slot item rest => exact .inr ⟨item, item, _, _, rfl, rfl, .inl rfl, rest⟩

/-- What is taken from the front of two such lists: the same failure, or the same value with two
such lists left. -/
inductive TakenAlike {α : Type} (more : List Slot) :
    Except DecodeError (α × List Json) → Except DecodeError (α × List Json) → Prop
  /-- Neither can be read. -/
  | failed (cause : DecodeError) : TakenAlike more (.error cause) (.error cause)
  /-- Both are read. -/
  | taken (value : α) {items others : List Json} (along : Along more items others) :
    TakenAlike more (.ok (value, items)) (.ok (value, others))

end LanguageClient
