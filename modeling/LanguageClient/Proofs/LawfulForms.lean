import LanguageClient.Proofs.Entries
import LanguageClient.Wire.Record

/-!
# Forms that read back what they write

A value is restored by a form if it is read back from what is written for it. A record restores its
value if its fields restore their parts and have different names, in whatever order the entries are
arranged. The same holds when entries under other keys stand among them (`ofEntries_arrange`).
-/

namespace LanguageClient

variable {α β : Type}

namespace Form

/-- What is written for a value is read back as that value. -/
def LawfulAt (form : Form α) (value : α) : Prop := form.decode (form.encode value) = .ok value

/-- Null is not written. -/
def Solid (form : Form α) : Prop := ∀ value, form.encode value ≠ .null

/-- Any value is read back as it was. -/
theorem lawful_json : json.Lawful := fun _ => rfl

/-- A text is read back as it was. -/
theorem lawful_text : text.Lawful := fun _ => rfl

/-- A truth value is read back as it was. -/
theorem lawful_truth : truth.Lawful := fun _ => rfl

/-- A text is not written as null. -/
theorem solid_text : text.Solid := fun _ => nofun

/-- A truth value is not written as null. -/
theorem solid_truth : truth.Solid := fun _ => nofun

/-- A number of two bytes is not written as null. -/
theorem solid_word16 : word16.Solid := fun _ => nofun

/-- A list is not written as null. -/
theorem solid_list (form : Form α) : form.list.Solid := fun _ => nofun

/-- A record is not written as null. -/
theorem solid_record (name : String) (fields : Fields α) : (record name fields).Solid :=
  fun _ => nofun

/-- A natural number below the bound is taken. -/
theorem wholeBetween_nat {n : Nat} {high : Int} (type : String) (small : n < high) :
    wholeBetween 0 high type (.int n) = .ok n :=
  if_pos ⟨Int.natCast_nonneg n, small⟩

/-- A value is restored if it is written as a number below a bound and read from that number. -/
theorem lawfulAt_number {form : Form α} {value : α} {high : Int} {type : String}
    {ofNat : Nat → α} (n : Nat) (written : form.encode value = .int n)
    (read : ∀ number, form.decode number =
      (wholeBetween 0 high type number).map fun whole => ofNat whole.toNat)
    (small : n < high) (same : ofNat n = value) : form.LawfulAt value := by
  rw [LawfulAt, written, read, wholeBetween_nat type small]
  exact congrArg Except.ok same

/-- A number of two bytes is read back as it was. -/
theorem lawful_word16 : word16.Lawful := fun value =>
  lawfulAt_number value.toNat rfl (fun _ => rfl) (Int.ofNat_lt.mpr value.toNat_lt)
    UInt16.ofNat_toNat

/-- A number of four bytes is read back as it was. -/
theorem lawful_word32 : word32.Lawful := fun value =>
  lawfulAt_number value.toNat rfl (fun _ => rfl) (Int.ofNat_lt.mpr value.toNat_lt)
    UInt32.ofNat_toNat

/-- A number of eight bytes is read back as it was. -/
theorem lawful_word64 : word64.Lawful := fun value =>
  lawfulAt_number value.toNat rfl (fun _ => rfl) (Int.ofNat_lt.mpr value.toNat_lt)
    UInt64.ofNat_toNat

/-- A URL is restored if its text reads as that URL. -/
theorem lawfulAt_url {value : Url} (settled : Url.read value.render = .ok value) :
    url.LawfulAt value := by
  simp only [LawfulAt, url, settled]
  rfl

/-- A list is restored if its items are. -/
theorem lawfulAt_list {form : Form α} {values : List α}
    (lawful : ∀ value ∈ values, form.LawfulAt value) : form.list.LawfulAt values := by
  induction values with
  | nil => rfl
  | cons value rest ih =>
    have first : form.decode (form.encode value) = .ok value := lawful value List.mem_cons_self
    have others : decodeItems form (rest.map form.encode) = .ok rest :=
      ih fun later member => lawful later (List.mem_cons_of_mem _ member)
    simp only [LawfulAt, list, List.map_cons, decodeItems, first, others]
    rfl

/-- A list is read back as it was if its items are. -/
theorem lawful_list {form : Form α} (lawful : form.Lawful) : form.list.Lawful :=
  fun _ => lawfulAt_list fun value _ => lawful value

/-- None is restored, and a value is if it is not written as null. -/
theorem lawfulAt_nullable {form : Form α} (solid : form.Solid) {value : Option α}
    (lawful : ∀ chosen, value = some chosen → form.LawfulAt chosen) :
    form.nullable.LawfulAt value := by
  cases value with
  | none => rfl
  | some chosen =>
    have restored : form.decode (form.encode chosen) = .ok chosen := lawful chosen rfl
    simp only [LawfulAt, nullable]
    split
    · rename_i written
      exact absurd written (solid chosen)
    · rw [restored]
      rfl

end Form

namespace Fields

/-- Fields look at the entries under their own names only, and write no others. -/
structure Tidy (fields : Fields α) : Prop where
  /-- Entries under other names pass. -/
  foreign : ∀ key value, key ∉ fields.names → fields.check key value = .ok ()
  /-- Every name is written at most once, in the order of the names. -/
  written : ∀ value, ((fields.write value).map Prod.fst).Sublist fields.names
  /-- What is read depends on what stands under the names. -/
  read_congr : ∀ entries others,
    (∀ name ∈ fields.names, Json.entry? name entries = Json.entry? name others) →
      fields.read entries = fields.read others

/-- Fields with different names read a value back from what is written for it. -/
structure LawfulAt (fields : Fields α) (value : α) : Prop extends fields.Tidy where
  /-- Every entry that is written passes. -/
  checked : fields.names.Nodup → ∀ entry ∈ fields.write value, fields.check entry.1 entry.2 = .ok ()
  /-- The value is read. -/
  restored : fields.names.Nodup → fields.read (fields.write value) = .ok value

/-- An entry that can be read passes the check of its own name. -/
theorem checkOne_self {name : String} {form : Form α} {value : Json} {read : α}
    (good : form.decode value = .ok read) : checkOne name form name value = .ok () := by
  rw [checkOne, if_pos rfl, good]
  rfl

/-- A field that has to be there is tidy. -/
theorem tidy_required (name : String) (form : Form α) : (required name form).Tidy where
  foreign key value other := if_neg fun same => other (List.mem_singleton.mpr same)
  written value := .refl _
  read_congr entries others same := by
    simp only [required, same name List.mem_cons_self]

/-- A field with a usual value is tidy. -/
theorem tidy_usual (name : String) (form : Form α) (value : α) (omitted : α → Bool) :
    (usual name form value omitted).Tidy where
  foreign key value other := if_neg fun same => other (List.mem_singleton.mpr same)
  written chosen := by
    simp only [usual]
    split
    · exact List.nil_sublist _
    · exact .refl _
  read_congr entries others same := by
    simp only [usual, same name List.mem_cons_self]

/-- A field that has to be there is lawful if its form is. -/
theorem lawfulAt_required {name : String} {form : Form α} {value : α}
    (lawful : form.LawfulAt value) : (required name form).LawfulAt value where
  toTidy := tidy_required name form
  checked _ := List.forall_mem_singleton.mpr (checkOne_self lawful)
  restored _ := by
    simp only [required, Json.entry?, ↓reduceIte]
    exact lawful

/-- A field that may be omitted is lawful if only its usual value is, and all others are restored
by its form. -/
theorem lawfulAt_usual {name : String} {form : Form α} {usualValue value : α}
    {omitted : α → Bool} (common : omitted value = true → value = usualValue)
    (lawful : omitted value = false → form.LawfulAt value) :
    (usual name form usualValue omitted).LawfulAt value where
  toTidy := tidy_usual name form usualValue omitted
  checked _ := by
    simp only [usual]
    split
    · nofun
    · rename_i kept
      exact List.forall_mem_singleton.mpr (checkOne_self (lawful (Bool.eq_false_iff.mpr kept)))
  restored _ := by
    cases chosen : omitted value with
    | true =>
      simp only [usual, chosen, ↓reduceIte, Json.entry?]
      exact congrArg Except.ok (common chosen).symm
    | false =>
      simp only [usual, chosen, Bool.false_eq_true, ↓reduceIte, Json.entry?]
      exact lawful chosen

/-- A field with a default is read back as it was if its value is. -/
theorem lawfulAt_defaulted {name : String} {form : Form α} {usualValue value : α}
    (lawful : form.LawfulAt value) : (defaulted name form usualValue).LawfulAt value :=
  lawfulAt_usual nofun fun _ => lawful

/-- An optional field is lawful if its form is and never writes null. -/
theorem lawfulAt_optional {name : String} {form : Form α} (solid : form.Solid) {value : Option α}
    (lawful : ∀ chosen, value = some chosen → form.LawfulAt chosen) :
    (optional name form).LawfulAt value :=
  lawfulAt_usual Option.isNone_iff_eq_none.mp fun _ => Form.lawfulAt_nullable solid lawful

/-- What a list may leave out does not matter to what is written. -/
theorem lawfulAt_optionalInObject {name : String} {form : Form α} (solid : form.Solid)
    {value : Option α} (lawful : ∀ chosen, value = some chosen → form.LawfulAt chosen) :
    (optionalInObject name form).LawfulAt value :=
  have same : (optional name form).LawfulAt value := lawfulAt_optional solid lawful
  ⟨⟨same.foreign, same.written, same.read_congr⟩, same.checked, same.restored⟩

/-- Under a foreign name nothing is written. -/
theorem Tidy.entry?_write_eq_none {fields : Fields α} (tidy : fields.Tidy) (value : α)
    {name : String} (foreign : name ∉ fields.names) :
    Json.entry? name (fields.write value) = none :=
  Json.entry?_eq_none_iff.mpr fun member => foreign ((tidy.written value).subset member)

/-- Tidy fields stay tidy one after the other. -/
theorem Tidy.both {first : Fields α} {second : Fields β} (tidy : first.Tidy)
    (tidySecond : second.Tidy) : (first.both second).Tidy where
  foreign key value other := by
    obtain ⟨notFirst, notSecond⟩ := not_or.mp fun either => other (List.mem_append.mpr either)
    simp only [Fields.both, tidy.foreign key value notFirst, tidySecond.foreign key value notSecond]
    rfl
  written value := by
    simp only [Fields.both, List.map_append]
    exact (tidy.written value.1).append (tidySecond.written value.2)
  read_congr entries others same := by
    simp only [Fields.both]
    rw [tidy.read_congr entries others fun name own => same name (List.mem_append_left _ own),
      tidySecond.read_congr entries others fun name own => same name (List.mem_append_right _ own)]

/-- Fields followed by others are lawful if both are. -/
theorem LawfulAt.both {first : Fields α} {second : Fields β} {value : α × β}
    (lawful : first.LawfulAt value.1) (lawfulSecond : second.LawfulAt value.2) :
    (first.both second).LawfulAt value where
  toTidy := lawful.toTidy.both lawfulSecond.toTidy
  checked distinct entry member := by
    obtain ⟨once, onceSecond, apart⟩ := List.nodup_append.mp distinct
    simp only [Fields.both]
    rcases List.mem_append.mp member with own | own
    · have name := (lawful.written value.1).subset (List.mem_map_of_mem own)
      rw [lawful.checked once entry own,
        lawfulSecond.foreign _ _ fun other => apart _ name _ other rfl]
      rfl
    · have name := (lawfulSecond.written value.2).subset (List.mem_map_of_mem own)
      rw [lawful.foreign _ _ fun other => apart _ other _ name rfl,
        lawfulSecond.checked onceSecond entry own]
      rfl
  restored distinct := by
    obtain ⟨once, onceSecond, apart⟩ := List.nodup_append.mp distinct
    -- the names are apart, so neither half finds what the other one has written
    have here : first.read (first.write value.1 ++ second.write value.2) = .ok value.1 := by
      rw [← lawful.restored once]
      apply lawful.read_congr
      intro name own
      have other : name ∉ second.names := fun other => apart _ own _ other rfl
      rw [Json.entry?_append, lawfulSecond.entry?_write_eq_none _ other, Option.or_none]
    have there : second.read (first.write value.1 ++ second.write value.2) = .ok value.2 := by
      rw [← lawfulSecond.restored onceSecond]
      apply lawfulSecond.read_congr
      intro name own
      have other : name ∉ first.names := fun other => apart _ other _ own rfl
      rw [Json.entry?_append, lawful.entry?_write_eq_none _ other, Option.none_or]
    simp only [Fields.both, here, there]
    rfl

/-- Fields of another type are lawful if a value is built again from its parts. -/
theorem LawfulAt.as {build : α → β} {parts : β → α} {fields : Fields α} {value : β}
    (lawful : fields.LawfulAt (parts value)) (rebuilt : build (parts value) = value) :
    (fields.as build parts).LawfulAt value where
  foreign := lawful.foreign
  written value := lawful.written (parts value)
  read_congr entries others same := congrArg (Except.map build)
    (lawful.read_congr entries others same)
  checked := lawful.checked
  restored distinct := by
    simp only [Fields.as, lawful.restored distinct]
    exact congrArg Except.ok rebuilt

variable {fields : Fields α} {value : α} {others : List (String × Json)}

/-- Entries pass if each of them does. -/
theorem checkAll_of_forall {entries : List (String × Json)}
    (good : ∀ entry ∈ entries, fields.check entry.1 entry.2 = .ok ()) :
    fields.checkAll entries = .ok () := by
  induction entries with
  | nil => rfl
  | cons entry rest ih =>
    rw [List.forall_mem_cons] at good
    simp only [checkAll, good.1, ih good.2]
    rfl

/-- What is written for a value has different keys, together with entries under other keys. -/
theorem Tidy.nodup_keys (tidy : fields.Tidy) (distinct : fields.names.Nodup) (value : α)
    (once : (others.map Prod.fst).Nodup) (apart : ∀ entry ∈ others, entry.1 ∉ fields.names) :
    ((fields.write value ++ others).map Prod.fst).Nodup := by
  rw [List.map_append]
  refine List.nodup_append.mpr ⟨distinct.sublist (tidy.written value), once, ?_⟩
  intro key own other member same
  obtain ⟨entry, inside, rfl⟩ := List.mem_map.mp member
  exact apart entry inside (same ▸ (tidy.written value).subset own)

/-- A value is read back from the entries that were written for it and arranged, also when entries
under other keys stand among them. -/
theorem LawfulAt.ofEntries_arrange (lawful : fields.LawfulAt value)
    (distinct : fields.names.Nodup) (once : (others.map Prod.fst).Nodup)
    (apart : ∀ entry ∈ others, entry.1 ∉ fields.names) :
    fields.ofEntries (Json.arrange (fields.write value ++ others)) = .ok value := by
  have keys := lawful.nodup_keys distinct value once apart
  have same := Json.arrange_perm keys
  have checked : fields.checkAll (Json.arrange (fields.write value ++ others)) = .ok () := by
    apply checkAll_of_forall
    intro entry member
    rcases List.mem_append.mp (same.mem_iff.mp member) with own | other
    · exact lawful.checked distinct entry own
    · exact lawful.foreign _ _ (apart entry other)
  have restored : fields.read (Json.arrange (fields.write value ++ others)) = .ok value := by
    rw [← lawful.restored distinct]
    apply lawful.read_congr
    intro name own
    have missing : Json.entry? name others = none := by
      refine Json.entry?_eq_none_iff.mpr fun member => ?_
      obtain ⟨entry, inside, rfl⟩ := List.mem_map.mp member
      exact apart entry inside own
    rw [← Json.entry?_perm keys same.symm, Json.entry?_append, missing, Option.or_none]
  simp only [ofEntries, checked, restored]
  rfl

end Fields

/-- A record restores a value if its fields have different names and restore it. -/
theorem Form.lawfulAt_record {name : String} {fields : Fields α} {value : α}
    (distinct : fields.names.Nodup) (lawful : fields.LawfulAt value) :
    (Form.record name fields).LawfulAt value := by
  have restored : fields.ofEntries (Json.arrange (fields.write value ++ [])) = .ok value :=
    lawful.ofEntries_arrange distinct .nil nofun
  rw [List.append_nil] at restored
  exact restored

end LanguageClient
