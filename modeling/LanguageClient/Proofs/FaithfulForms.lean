import LanguageClient.Proofs.SoundPayloads

/-!
# Forms that write what they have read

A form is faithful if what it reads is written just as it was. Fields are faithful if they write,
for what they have read from an object, the entries under their names that are not null. So a debug
configuration is written as the object that it was read from, without the keys that stood for
nothing (`encode_of_decode`).
-/

namespace LanguageClient

variable {α β : Type}

namespace Json

/-- The value under a key, unless it is null. -/
def given? (entries : List (String × Json)) (key : String) : Option Json :=
  entry? key entries |>.filter fun value => !value.isNull

/-- The entries under some keys that are not null, in the order of the keys. -/
def given (keys : List String) (entries : List (String × Json)) : List (String × Json) :=
  keys.filterMap fun key => (given? entries key).map fun value => (key, value)

/-- Only null is null. -/
theorem isNull_iff (value : Json) : value.isNull = true ↔ value = .null := by
  cases value <;> simp [isNull]

/-- A value is given if it stands first under the key and is not null. -/
theorem given?_eq_some_iff {entries : List (String × Json)} {key : String} {value : Json} :
    given? entries key = some value ↔ entry? key entries = some value ∧ value ≠ .null := by
  simp [given?, Option.filter_eq_some_iff, ← isNull_iff]

/-- No value is given if none stands under the key, or null does. -/
theorem given?_eq_none_iff {entries : List (String × Json)} {key : String} :
    given? entries key = none ↔ ∀ value, entry? key entries = some value → value = .null := by
  simp [given?, Option.filter_eq_none_iff, isNull_iff]

/-- Where keys are different, what is given under some keys is what stands there without being
null. -/
theorem mem_given_iff {keys : List String} {entries : List (String × Json)}
    (distinct : (entries.map Prod.fst).Nodup) (entry : String × Json) :
    entry ∈ given keys entries ↔ entry ∈ entries ∧ entry.1 ∈ keys ∧ entry.2 ≠ .null := by
  obtain ⟨key, value⟩ := entry
  rw [given, List.mem_filterMap]
  constructor
  · rintro ⟨own, member, found⟩
    obtain ⟨held, here, same⟩ := Option.map_eq_some_iff.mp found
    obtain ⟨rfl, rfl⟩ := Prod.mk.inj same
    obtain ⟨stands, solid⟩ := given?_eq_some_iff.mp here
    exact ⟨mem_of_found stands, member, solid⟩
  · rintro ⟨stands, member, solid⟩
    have found := (entry?_eq_some_iff distinct).mpr stands
    exact ⟨key, member, Option.map_eq_some_iff.mpr
      ⟨value, given?_eq_some_iff.mpr ⟨found, solid⟩, rfl⟩⟩

/-- Entries in order are determined by which they are. -/
theorem Ordered.eq_of_mem_iff {entries others : List (String × Json)} (ordered : Ordered entries)
    (other : Ordered others) (same : ∀ entry, entry ∈ entries ↔ entry ∈ others) :
    entries = others := by
  have once : entries.Nodup := ordered.nodup_keys.of_map
  have onceToo : others.Nodup := other.nodup_keys.of_map
  exact ordered.eq_of_perm other ((List.perm_ext_iff_of_nodup once onceToo).mpr same)

end Json

namespace Form

/-- What is read is written as it was. -/
def Faithful (form : Form α) : Prop :=
  ∀ json value, form.decode json = .ok value → form.encode value = json

/-- A text is written as it was read. -/
theorem faithful_text : text.Faithful := by
  intro json value decoded
  cases json with
  | str written => exact congrArg Json.str (Except.ok.inj decoded).symm
  | _ => cases decoded

/-- A truth value is written as it was read. -/
theorem faithful_truth : truth.Faithful := by
  intro json value decoded
  cases json with
  | bool written => exact congrArg Json.bool (Except.ok.inj decoded).symm
  | _ => cases decoded

/-- A number of two bytes is written as it was read. -/
theorem faithful_word16 : word16.Faithful := by
  intro json value decoded
  obtain ⟨held, read, rfl⟩ := ok_of_map decoded
  cases json with
  | int number =>
    obtain ⟨⟨low, high⟩, same⟩ | ⟨-, refused⟩ := ite_eq_iff.mp read
    · obtain rfl := Except.ok.inj same
      have small : number.toNat < 65536 := by omega
      have back : (UInt16.ofNat number.toNat).toNat = number.toNat :=
        UInt16.toNat_ofNat_of_lt small
      have whole : ((UInt16.ofNat number.toNat).toNat : Int) = number := by
        rw [back, Int.toNat_of_nonneg low]
      exact congrArg Json.int whole
    · cases refused
  | _ => cases read

/-- What is not null is read as it would be if null were not allowed. -/
theorem nullable_of_ne_null (form : Form α) {json : Json} (solid : json ≠ .null) :
    form.nullable.decode json = (form.decode json).map some := by
  cases json with
  | null => exact absurd rfl solid
  | _ => rfl

end Form

namespace Fields

/-- For what is read from an object the entries are written that it holds under the names of the
fields without being null. -/
def Faithful (fields : Fields α) : Prop :=
  ∀ entries value, fields.read entries = .ok value →
    fields.write value = Json.given fields.names entries

/-- What an optional field reads is none if there is nothing but null. -/
theorem read_optional {name : String} {form : Form α} {entries : List (String × Json)}
    {value : Option α} (read : (optional name form).read entries = .ok value) :
    (Json.given? entries name).isNone = value.isNone ∧
      ∀ json, Json.given? entries name = some json →
        ∃ chosen, value = some chosen ∧ form.decode json = .ok chosen := by
  simp only [optional, usual] at read
  cases found : Json.entry? name entries with
  | none =>
    rw [found] at read
    cases read
    simp [Json.given?, found]
  | some json =>
    simp only [found] at read
    by_cases blank : json = .null
    · subst blank
      cases read
      simp [Json.given?, found, Json.isNull]
    · have given : Json.given? entries name = some json :=
        Json.given?_eq_some_iff.mpr ⟨found, blank⟩
      rw [form.nullable_of_ne_null blank] at read
      obtain ⟨inner, decoded, rfl⟩ := ok_of_map read
      rw [given]
      refine ⟨rfl, ?_⟩
      intro other same
      obtain rfl := Option.some.inj same
      exact ⟨inner, rfl, decoded⟩

/-- An optional field is faithful if its form is. -/
theorem faithful_optional (name : String) {form : Form α} (faithful : form.Faithful) :
    (optional name form).Faithful := by
  intro entries value read
  obtain ⟨blank, chosen⟩ := read_optional read
  have names : (optional name form).names = [name] := rfl
  rw [names, Json.given, List.filterMap_cons, List.filterMap_nil]
  cases given : Json.given? entries name with
  | none =>
    rw [given] at blank
    obtain rfl := Option.isNone_iff_eq_none.mp blank.symm
    rfl
  | some json =>
    obtain ⟨inner, rfl, decoded⟩ := chosen json given
    exact congrArg (fun json => [(name, json)]) (faithful json inner decoded)

/-- Fields followed by others read what both do. -/
theorem read_both {first : Fields α} {second : Fields β} {entries : List (String × Json)}
    {values : α × β} (read : (first.both second).read entries = .ok values) :
    first.read entries = .ok values.1 ∧ second.read entries = .ok values.2 := by
  obtain ⟨value, here, next⟩ := ok_of_bind read
  obtain ⟨other, there, last⟩ := ok_of_bind next
  cases last
  exact ⟨here, there⟩

/-- Fields followed by others are faithful if both are. -/
theorem Faithful.both {first : Fields α} {second : Fields β} (faithful : first.Faithful)
    (faithfulSecond : second.Faithful) : (first.both second).Faithful := by
  intro entries values read
  obtain ⟨here, there⟩ := read_both read
  calc first.write values.1 ++ second.write values.2
      = Json.given first.names entries ++ Json.given second.names entries := by
        rw [faithful entries _ here, faithfulSecond entries _ there]
    _ = Json.given (first.names ++ second.names) entries := List.filterMap_append.symm

/-- Fields of another type are faithful if a built value has the parts that it was built from. -/
theorem Faithful.as {build : α → β} {parts : β → α} {fields : Fields α}
    (faithful : fields.Faithful) (parted : ∀ value, parts (build value) = value) :
    (fields.as build parts).Faithful := by
  intro entries value read
  obtain ⟨part, found, rfl⟩ := ok_of_map read
  calc fields.write (parts (build part)) = fields.write part := by rw [parted]
    _ = Json.given fields.names entries := faithful entries part found

end Fields

namespace Debug.Configuration

/-- The fields of a configuration are written as they were read. -/
theorem faithful_fields : fields.Faithful :=
  .as ((Fields.faithful_optional _ Form.faithful_text).both <|
    (Fields.faithful_optional _ Form.faithful_text).both <|
    (Fields.faithful_optional _ Form.faithful_text).both <|
    (Fields.faithful_optional _ Form.faithful_truth).both <|
    (Fields.faithful_optional _ Form.faithful_word16).both <|
    (Fields.faithful_optional _ Form.faithful_text).both <|
    (Fields.faithful_optional _ Form.faithful_text).both <|
    Fields.faithful_optional _ Form.faithful_text) fun _ => rfl

/-- The keys with a meaning. -/
def knownKeys : List String :=
  ["type", "name", "request", "noDebug", "debugServer", "mainClass", "testClass", "hostName"]

/-- Entries without the keys with a meaning that stand for nothing. -/
def keptOf (entries : List (String × Json)) : List (String × Json) :=
  entries.filter fun entry => ¬ (entry.1 ∈ knownKeys ∧ entry.2 = .null)

/-- A configuration is written as the object that it was read from, but for keys with a meaning
that are null: what stands under all other keys is kept as it is. -/
theorem encode_of_decode {entries : List (String × Json)} (ordered : Json.Ordered entries)
    {configuration : Configuration} (decoded : form.decode (.obj entries) = .ok configuration) :
    form.encode configuration = .obj (keptOf entries) := by
  obtain ⟨known, checked, last⟩ := ok_of_bind decoded
  obtain ⟨-, -, read⟩ := ok_of_bind checked
  have own : fields.write configuration = Json.given knownKeys entries := by
    cases last
    exact faithful_fields entries known read
  have others : configuration.others = entries.filter isOther := by
    cases last
    rfl
  have sound := sound_of_decode ordered decoded
  have keys := (lawfulAt_fields configuration).toTidy.nodup_keys (by decide) configuration
    sound.ordered.nodup_keys sound.apart
  have same (entry : String × Json) :
      entry ∈ Json.arrange (fields.write configuration ++ configuration.others) ↔
        entry ∈ keptOf entries := by
    rw [(Json.arrange_perm keys).mem_iff, own, others, List.mem_append,
      Json.mem_given_iff ordered.nodup_keys, List.mem_filter, isOther_iff, keptOf, List.mem_filter]
    have named : fields.names = knownKeys := rfl
    rw [named, decide_eq_true_eq]
    by_cases known : entry.1 ∈ knownKeys <;> simp [known]
  exact congrArg Json.obj ((Json.ordered_arrange _).eq_of_mem_iff (ordered.filter _) same)

end Debug.Configuration

end LanguageClient
