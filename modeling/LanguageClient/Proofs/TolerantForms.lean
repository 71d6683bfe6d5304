import LanguageClient.Proofs.LawfulForms
import LanguageClient.Proofs.Layout

/-!
# Forms that read what is left out

A form follows a layout if it reads a payload alike before and after a value is left out that
stands for an absence, and never writes such a value. Forms are put together from others, and so is
what they follow; a record follows the slots of its fields (`Form.follows_record`).
-/

namespace LanguageClient

variable {α β : Type}

/-- A form reads a payload as it reads what omits a value of it, and writes no value that stands for
an absence. -/
structure Form.Follows (form : Form α) (layout : Layout) : Prop where
  /-- What is left out does not count. -/
  tolerant : ∀ json other, layout.Omits json other → form.decode other = form.decode json
  /-- What does not count is not written. -/
  terse : ∀ value, ¬ layout.HoldsBlank (form.encode value)

/-- Fields treat what is left out as a form does, wherever it is left out. -/
structure Fields.Follows (fields : Fields α) (slots : List Slot) : Prop where
  /-- An entry passes as it did before. -/
  check : ∀ key value other,
    (∀ slot ∈ slots, slot.name = key → slot.layout.Alike value other) →
      fields.check key other = fields.check key value
  /-- An entry that may be left out passes. -/
  blank : ∀ key value, (∀ slot ∈ slots, slot.name = key → value ∈ slot.blanks) →
    fields.check key value = .ok ()
  /-- The same is read from the entries of an object. -/
  read : ∀ entries others,
    (∀ slot ∈ slots, slot.Alike (Json.entry? slot.name entries) (Json.entry? slot.name others)) →
      fields.read others = fields.read entries
  /-- The same is taken from the front of a list. -/
  take : ∀ more tooShort index items others, Along (slots ++ more) items others →
    TakenAlike more (fields.take tooShort index items) (fields.take tooShort index others)
  /-- What does not count is not written. -/
  terse : ∀ value, ∀ entry ∈ fields.write value, ∃ slot ∈ slots, slot.name = entry.1 ∧
    entry.2 ∉ slot.blanks ∧ ¬ slot.layout.HoldsBlank entry.2

namespace Form

/-- A form reads a payload as it reads one that omits at most one value of it. -/
theorem Follows.decode_alike {form : Form α} {layout : Layout} (follows : form.Follows layout)
    {value other : Json} (alike : layout.Alike value other) :
    form.decode other = form.decode value := by
  rcases alike with rfl | omits
  · rfl
  · exact follows.tolerant value other omits

/-- Where no records lie there is nothing to leave out. -/
theorem Follows.plain (form : Form α) : form.Follows .plain := ⟨nofun, nofun⟩

/-- A value that may be null is read alike however its absences are written. -/
theorem Follows.nullable {form : Form α} {layout : Layout} (follows : form.Follows layout) :
    form.nullable.Follows layout where
  tolerant json other omits := by
    have same := follows.tolerant json other omits
    cases omits <;> exact congrArg (Except.map some) same
  terse value holds := by
    cases value with
    | none => cases holds
    | some chosen => exact follows.terse chosen holds

/-- The items of two lists are read one list after the other. -/
theorem decodeItems_append (form : Form α) (first second : List Json) :
    decodeItems form (first ++ second) =
      (decodeItems form first).bind fun values =>
        (decodeItems form second).map fun others => values ++ others := by
  induction first with
  | nil =>
    have same (read : Except DecodeError (List α)) :
        read = read.map fun others => [] ++ others := by
      cases read <;> rfl
    exact same (decodeItems form second)
  | cons item rest ih =>
    simp only [List.cons_append, decodeItems, ih]
    cases form.decode item with
    | error cause => rfl
    | ok value => cases decodeItems form rest <;> cases decodeItems form second <;> rfl

/-- A list is read alike however the absences in its items are written. -/
theorem Follows.list {form : Form α} {layout : Layout} (follows : form.Follows layout) :
    form.list.Follows (.list layout) where
  tolerant json other omits := by
    cases omits with
    | inItem deep =>
      simp only [Form.list, decodeItems_append, decodeItems, follows.tolerant _ _ deep]
  terse values holds := by
    cases holds with
    | inItem stands deep =>
      obtain ⟨value, -, rfl⟩ := List.mem_map.mp stands
      exact follows.terse value deep

end Form

namespace Fields

variable {name : String} {form : Form α} {layout : Layout} {blanks : List Json}

/-- The check of one field does not see what is left out of its value. -/
theorem checkOne_alike (follows : form.Follows layout) {key : String} {value other : Json}
    (alike : name = key → layout.Alike value other) :
    checkOne name form key other = checkOne name form key value := by
  by_cases own : key = name
  · simp only [checkOne, own, ↓reduceIte]
    rw [follows.decode_alike (alike own.symm)]
  · simp only [checkOne, own, ↓reduceIte]

/-- An item is taken alike before and after something is left out of it. -/
theorem takenAlike_item (follows : form.Follows layout) {more : List Slot} {value other : Json}
    {rest left : List Json} (alike : layout.Alike value other) (along : Along more rest left) :
    TakenAlike more ((form.decode value).map fun taken => (taken, rest))
      ((form.decode other).map fun taken => (taken, left)) := by
  rw [follows.decode_alike alike]
  cases form.decode value with
  | error cause => exact .failed cause
  | ok taken => exact .taken taken along

/-- A field that has to be there cannot be left out. -/
theorem follows_required (name : String) (follows : form.Follows layout) :
    (required name form).Follows [.fixed name layout] where
  check key value other alike :=
    checkOne_alike follows (alike (.fixed name layout) List.mem_cons_self)
  blank key value blank :=
    if_neg fun own =>
      absurd (blank (.fixed name layout) List.mem_cons_self own.symm) List.not_mem_nil
  read entries others alike := by
    have field : (Slot.fixed name layout).Alike (Json.entry? name entries)
        (Json.entry? name others) := alike _ List.mem_cons_self
    simp only [required]
    generalize Json.entry? name entries = found at field
    generalize Json.entry? name others = left at field
    cases field with
    | same => rfl
    | deep omits => exact follows.tolerant _ _ omits
    | gone blank => exact absurd blank List.not_mem_nil
  take more tooShort index items others along := by
    rcases along.uncons with ⟨rfl, rfl⟩ | ⟨value, other, rest, left, rfl, rfl, alike, tail⟩
    · exact .failed _
    · exact takenAlike_item follows alike tail
  terse value entry member := by
    obtain rfl := List.mem_singleton.mp member
    exact ⟨_, List.mem_cons_self, rfl, List.not_mem_nil, follows.terse value⟩

/-- A field with a usual value can be left out if its blanks read as that value, and no other value
is written as one of them. -/
theorem follows_usual (name : String) {usualValue : α} {omitted : α → Bool}
    (follows : form.Follows layout)
    (common : ∀ blank ∈ blanks, form.decode blank = .ok usualValue)
    (kept : ∀ value, omitted value = false → form.encode value ∉ blanks) :
    (usual name form usualValue omitted).Follows [⟨name, blanks, layout⟩] where
  check key value other alike :=
    checkOne_alike follows (alike ⟨name, blanks, layout⟩ List.mem_cons_self)
  blank key value blank := by
    by_cases own : key = name
    · have stands := blank ⟨name, blanks, layout⟩ List.mem_cons_self own.symm
      simp only [usual, checkOne, own, ↓reduceIte, common value stands]
      rfl
    · exact if_neg own
  read entries others alike := by
    have field := alike ⟨name, blanks, layout⟩ List.mem_cons_self
    simp only [usual]
    generalize Json.entry? name entries = found at field
    generalize Json.entry? name others = left at field
    cases field with
    | same => rfl
    | deep omits => exact follows.tolerant _ _ omits
    | gone blank => exact (common _ blank).symm
  take more tooShort index items others along := by
    rcases along.uncons with ⟨rfl, rfl⟩ | ⟨value, other, rest, left, rfl, rfl, alike, tail⟩
    · exact .taken usualValue (.same more [])
    · exact takenAlike_item follows alike tail
  terse value entry member := by
    simp only [usual] at member
    split at member
    · cases member
    · rename_i chosen
      obtain rfl := List.mem_singleton.mp member
      exact ⟨_, List.mem_cons_self, rfl, kept value (Bool.eq_false_iff.mpr chosen),
        follows.terse value⟩

/-- A field with a default has no blanks. -/
theorem follows_defaulted (name : String) {usualValue : α} (follows : form.Follows layout) :
    (defaulted name form usualValue).Follows [.fixed name layout] :=
  follows_usual name follows nofun fun _ _ => List.not_mem_nil

/-- An optional field is left out for null, if its form never writes null. -/
theorem follows_optional (name : String) (solid : form.Solid) (follows : form.Follows layout) :
    (optional name form).Follows [.optional name layout] := by
  apply follows_usual name follows.nullable
  · intro blank member
    obtain rfl := List.mem_singleton.mp member
    rfl
  · intro value chosen member
    cases value with
    | none => cases chosen
    | some value => exact solid value (List.mem_singleton.mp member)

/-- A field that may be missing from an object only is read alike for null and for nothing. -/
theorem follows_optionalInObject (name : String) (solid : form.Solid)
    (follows : form.Follows layout) :
    (optionalInObject name form).Follows [.optional name layout] :=
  have same := follows_optional name solid follows
  { check := same.check
    blank := same.blank
    read := same.read
    terse := same.terse
    take := by
      intro more tooShort index items others along
      rcases along.uncons with ⟨rfl, rfl⟩ | ⟨value, other, rest, left, rfl, rfl, alike, tail⟩
      · exact .failed _
      · exact takenAlike_item follows.nullable alike tail }

variable {fields : Fields α} {slots : List Slot}

/-- Fields followed by others have the slots of both. -/
theorem Follows.both {second : Fields β} {moreSlots : List Slot} (follows : fields.Follows slots)
    (followsSecond : second.Follows moreSlots) :
    (fields.both second).Follows (slots ++ moreSlots) where
  check key value other alike := by
    simp only [Fields.both]
    rw [follows.check key value other fun slot own => alike slot (List.mem_append_left _ own),
      followsSecond.check key value other fun slot own => alike slot (List.mem_append_right _ own)]
  blank key value blank := by
    simp only [Fields.both]
    rw [follows.blank key value fun slot own => blank slot (List.mem_append_left _ own),
      followsSecond.blank key value fun slot own => blank slot (List.mem_append_right _ own)]
    rfl
  read entries others alike := by
    simp only [Fields.both]
    rw [follows.read entries others fun slot own => alike slot (List.mem_append_left _ own),
      followsSecond.read entries others fun slot own => alike slot (List.mem_append_right _ own)]
  take more tooShort index items others along := by
    rw [List.append_assoc] at along
    have first := follows.take (moreSlots ++ more) tooShort index items others along
    simp only [Fields.both]
    generalize fields.take tooShort index items = taken at first
    generalize fields.take tooShort index others = left at first
    cases first with
    | failed cause => exact .failed cause
    | @taken value rest remains tail =>
      -- the items that are left over still lie along the slots of the second fields
      have next := followsSecond.take more tooShort (index + fields.names.length) rest remains tail
      simp only [bind, Except.bind]
      generalize second.take tooShort (index + fields.names.length) rest = taken at next
      generalize second.take tooShort (index + fields.names.length) remains = left at next
      cases next with
      | failed cause => exact .failed cause
      | taken other tail => exact .taken (value, other) tail
  terse value entry member := by
    rcases List.mem_append.mp member with own | own
    · obtain ⟨slot, inside, rest⟩ := follows.terse value.1 entry own
      exact ⟨slot, List.mem_append_left _ inside, rest⟩
    · obtain ⟨slot, inside, rest⟩ := followsSecond.terse value.2 entry own
      exact ⟨slot, List.mem_append_right _ inside, rest⟩

/-- Fields of another type have the same slots. -/
theorem Follows.as {build : α → β} {parts : β → α} (follows : fields.Follows slots) :
    (fields.as build parts).Follows slots where
  check := follows.check
  blank := follows.blank
  read entries others alike := congrArg (Except.map build) (follows.read entries others alike)
  take more tooShort index items others along := by
    have first := follows.take more tooShort index items others along
    simp only [Fields.as]
    generalize fields.take tooShort index items = taken at first
    generalize fields.take tooShort index others = left at first
    cases first with
    | failed cause => exact .failed cause
    | taken value tail => exact .taken (build value) tail
  terse value := follows.terse (parts value)

/-- The entries of two lists are checked one list after the other. -/
theorem checkAll_append (fields : Fields α) (first second : List (String × Json)) :
    fields.checkAll (first ++ second) =
      (fields.checkAll first).bind fun _ => fields.checkAll second := by
  induction first with
  | nil => rfl
  | cons entry rest ih =>
    simp only [List.cons_append, checkAll, ih]
    cases fields.check entry.1 entry.2 <;> rfl

/-- The slot of a name is the only one. -/
theorem slot_unique (distinct : (slots.map Slot.name).Nodup) {slot other : Slot}
    (field : slot ∈ slots) (otherField : other ∈ slots) (same : other.name = slot.name) :
    other = slot :=
  List.inj_on_of_nodup_map distinct otherField field same

/-- The entries of an object are read alike when a blank entry is left out. -/
theorem Follows.ofEntries_drop (follows : fields.Follows slots)
    (distinct : (slots.map Slot.name).Nodup) {slot : Slot} {value : Json}
    {before after : List (String × Json)} (field : slot ∈ slots) (blank : value ∈ slot.blanks)
    (alone : slot.name ∉ (before ++ after).map Prod.fst) :
    fields.ofEntries (before ++ after) =
      fields.ofEntries (before ++ (slot.name, value) :: after) := by
  have passes : fields.check slot.name value = .ok () := by
    apply follows.blank
    intro other inside same
    rw [slot_unique distinct field inside same]
    exact blank
  have checked : fields.checkAll (before ++ after) =
      fields.checkAll (before ++ (slot.name, value) :: after) := by
    simp only [checkAll_append, checkAll, passes]
    rfl
  have restored : fields.read (before ++ after) =
      fields.read (before ++ (slot.name, value) :: after) := by
    apply follows.read
    intro other inside
    by_cases same : other.name = slot.name
    · obtain rfl := slot_unique distinct field inside same
      have missing := Json.entry?_eq_none_iff.mpr alone
      rw [Json.entry?_append] at missing
      obtain ⟨first, -⟩ := Option.or_eq_none_iff.mp missing
      rw [Json.entry?_append, Json.entry?_append, missing, first, Json.entry?_cons, if_pos rfl]
      exact .gone blank
    · rw [Json.entry?_append, Json.entry?_append, Json.entry?_cons, if_neg (Ne.symm same)]
      exact .same _
  simp only [ofEntries, checked, restored]

/-- The entries of an object are read alike when something is left out of one of them. -/
theorem Follows.ofEntries_inEntry (follows : fields.Follows slots)
    (distinct : (slots.map Slot.name).Nodup) {slot : Slot} {value other : Json}
    (before after : List (String × Json)) (field : slot ∈ slots)
    (omits : slot.layout.Omits value other) :
    fields.ofEntries (before ++ (slot.name, other) :: after) =
      fields.ofEntries (before ++ (slot.name, value) :: after) := by
  have passes : fields.check slot.name other = fields.check slot.name value := by
    apply follows.check
    intro found inside same
    rw [slot_unique distinct field inside same]
    exact .inr omits
  have checked : fields.checkAll (before ++ (slot.name, other) :: after) =
      fields.checkAll (before ++ (slot.name, value) :: after) := by
    simp only [checkAll_append, checkAll, passes]
  have restored : fields.read (before ++ (slot.name, other) :: after) =
      fields.read (before ++ (slot.name, value) :: after) := by
    apply follows.read
    intro found inside
    rw [Json.entry?_append, Json.entry?_append, Json.entry?_cons, Json.entry?_cons]
    by_cases same : found.name = slot.name
    · obtain rfl := slot_unique distinct field inside same
      rw [if_pos rfl, if_pos rfl]
      -- an earlier entry under the same name hides the one that has changed
      cases Json.entry? found.name before with
      | none => exact .deep omits
      | some earlier => exact .same _
    · rw [if_neg (Ne.symm same), if_neg (Ne.symm same)]
      exact .same _
  simp only [ofEntries, checked, restored]

/-- A record that is written as a list is read alike when something is left out of a field. -/
theorem Follows.ofItems_alike (follows : fields.Follows slots) (record : String)
    {items others : List Json} (along : Along slots items others)
    (long : items.length = others.length) :
    fields.ofItems record others = fields.ofItems record items := by
  have taken := follows.take [] (fun index => .tooShort index record fields.names.length) 0
    items others (by rwa [List.append_nil])
  simp only [ofItems]
  generalize fields.take (fun index => .tooShort index record fields.names.length) 0 items = first
    at taken
  generalize fields.take (fun index => .tooShort index record fields.names.length) 0 others = second
    at taken
  cases taken with
  | failed cause => rfl
  | taken value tail =>
    cases tail
    rw [long]

/-- An object with the entries that are written for a value, and others under foreign keys, holds
nothing that stands for an absence. -/
theorem Follows.not_holdsBlank (follows : fields.Follows slots)
    (distinct : (slots.map Slot.name).Nodup) (value : α) {entries : List (String × Json)}
    (known : ∀ entry ∈ entries, entry ∈ fields.write value ∨ entry.1 ∉ slots.map Slot.name) :
    ¬ (Layout.record slots).HoldsBlank (.obj entries) := by
  have written {slot : Slot} {found : Json} (field : slot ∈ slots)
      (stands : (slot.name, found) ∈ entries) :
      found ∉ slot.blanks ∧ ¬ slot.layout.HoldsBlank found := by
    rcases known _ stands with own | foreign
    · obtain ⟨other, inside, same, fine⟩ := follows.terse value _ own
      rwa [slot_unique distinct field inside same] at fine
    · exact absurd (List.mem_map_of_mem field) foreign
  intro holds
  cases holds with
  | entry field stands blank => exact (written field stands).1 blank
  | inEntry field stands deep => exact (written field stands).2 deep

end Fields

/-- A record follows the layout of its fields, if they have different names. -/
theorem Form.follows_record (name : String) {fields : Fields α} {slots : List Slot}
    (distinct : (slots.map Slot.name).Nodup) (follows : fields.Follows slots) :
    (Form.record name fields).Follows (.record slots) where
  tolerant json other omits := by
    cases omits with
    | drop field blank alone => exact follows.ofEntries_drop distinct field blank alone
    | inEntry field deep => exact follows.ofEntries_inEntry distinct _ _ field deep
    | inPlace place deep =>
      exact follows.ofItems_alike name (.of_place _ place deep) (by simp)
  terse value :=
    follows.not_holdsBlank distinct value fun _ member => .inl (Json.mem_arrange member)

end LanguageClient
