import LanguageClient.Proofs.PayloadForms

/-!
# Payloads with conditions

A debug configuration is restored if its other keys stand in order and are not among those with a
meaning, and settings are if a text spells their directory. Whatever is read meets these conditions.
-/

namespace LanguageClient

variable {α β ε : Type}

/-- Two steps that succeed have succeeded one by one. -/
theorem ok_of_bind {x : Except ε α} {f : α → Except ε β} {b : β} (done : (x >>= f) = .ok b) :
    ∃ a, x = .ok a ∧ f a = .ok b := by
  cases x with
  | error cause => cases done
  | ok a => exact ⟨a, rfl, done⟩

/-- What is made of a result is made of a success. -/
theorem ok_of_map {x : Except ε α} {f : α → β} {b : β} (done : x.map f = .ok b) :
    ∃ a, x = .ok a ∧ f a = b := by
  cases x with
  | error cause => cases done
  | ok a => exact ⟨a, rfl, Except.ok.inj done⟩

/-! ### What is read -/

/-- Whatever a form reads has a property. -/
def Form.Yields (form : Form α) (holds : α → Prop) : Prop :=
  ∀ json value, form.decode json = .ok value → holds value

/-- Whatever is read from the entries of an object, or taken from a list, has a property. -/
structure Fields.Yields (fields : Fields α) (holds : α → Prop) : Prop where
  /-- What is read from entries has it. -/
  read : ∀ entries value, fields.read entries = .ok value → holds value
  /-- What is taken from a list has it. -/
  take : ∀ tooShort index items value rest,
    fields.take tooShort index items = .ok (value, rest) → holds value

namespace Fields

/-- Whatever fields read has the property that everything has. -/
theorem Yields.trivial (fields : Fields α) : fields.Yields fun _ => True :=
  ⟨fun _ _ _ => True.intro, fun _ _ _ _ _ _ => True.intro⟩

/-- A field with a default yields what its form does, or the default. -/
theorem yields_defaulted {name : String} {form : Form α} {usualValue : α} {holds : α → Prop}
    (yields : form.Yields holds) (common : holds usualValue) :
    (defaulted name form usualValue).Yields holds where
  read entries value read := by
    simp only [defaulted, usual] at read
    split at read
    · exact yields _ _ read
    · cases read
      exact common
  take tooShort index items value rest taken := by
    cases items with
    | nil =>
      cases taken
      exact common
    | cons item items =>
      obtain ⟨found, decoded, same⟩ := ok_of_map taken
      cases same
      exact yields item _ decoded

/-- Fields followed by others yield what both do. -/
theorem Yields.both {first : Fields α} {second : Fields β} {holds : α → Prop}
    {holdsSecond : β → Prop} (yields : first.Yields holds)
    (yieldsSecond : second.Yields holdsSecond) :
    (first.both second).Yields fun values => holds values.1 ∧ holdsSecond values.2 where
  read entries values read := by
    obtain ⟨value, here, next⟩ := ok_of_bind read
    obtain ⟨other, there, last⟩ := ok_of_bind next
    cases last
    exact ⟨yields.read _ _ here, yieldsSecond.read _ _ there⟩
  take tooShort index items values rest taken := by
    obtain ⟨⟨value, remains⟩, here, next⟩ := ok_of_bind taken
    obtain ⟨⟨other, left⟩, there, last⟩ := ok_of_bind next
    cases last
    exact ⟨yields.take _ _ _ _ _ here, yieldsSecond.take _ _ _ _ _ there⟩

/-- Fields of another type yield what is built from parts with a property. -/
theorem Yields.as {fields : Fields α} {holds : α → Prop} {holdsBuilt : β → Prop} {build : α → β}
    {parts : β → α} (yields : fields.Yields holds)
    (built : ∀ value, holds value → holdsBuilt (build value)) :
    (fields.as build parts).Yields holdsBuilt where
  read entries value read := by
    obtain ⟨part, found, rfl⟩ := ok_of_map read
    exact built part (yields.read _ _ found)
  take tooShort index items value rest taken := by
    obtain ⟨⟨part, remains⟩, found, same⟩ := ok_of_map taken
    cases same
    exact built part (yields.take _ _ _ _ _ found)

/-- What is read from all entries of an object is what its fields yield. -/
theorem Yields.ofEntries {fields : Fields α} {holds : α → Prop} (yields : fields.Yields holds)
    {entries : List (String × Json)} {value : α} (read : fields.ofEntries entries = .ok value) :
    holds value := by
  obtain ⟨-, -, found⟩ := ok_of_bind read
  exact yields.read _ _ found

/-- A record yields what its fields do. -/
theorem Yields.record {fields : Fields α} {holds : α → Prop} (yields : fields.Yields holds)
    (name : String) : (Form.record name fields).Yields holds := by
  intro json value decoded
  cases json with
  | obj entries => exact yields.ofEntries decoded
  | arr items =>
    obtain ⟨⟨found, rest⟩, taken, last⟩ := ok_of_bind decoded
    cases rest with
    | nil =>
      cases last
      exact yields.take _ _ _ _ _ taken
    | cons item rest => cases last
  | _ => cases decoded

end Fields

/-! ### Settings -/

/-- A text spells a path. -/
def Path.Spelled (path : Path) : Prop := ∃ text, path = Path.ofString text

/-- Every path that is read was spelled as a text. -/
theorem Form.yields_path : Form.path.Yields Path.Spelled := by
  intro json path decoded
  cases json with
  | str text =>
    cases decoded
    exact ⟨text, rfl⟩
  | _ => cases decoded

namespace ServerSettings

/-- The layout of the server's settings. -/
def layout : Layout := .record [.fixed "command" .plain, .fixed "args" .plain]

/-- No value of the server's settings stands for an absence. -/
theorem follows : form.Follows layout :=
  Form.follows_record _ (by decide) <| .as <|
    (Fields.follows_text _).both <| Fields.follows_defaulted _ (.plain _)

/-- The server's settings are read back as they were. -/
theorem lawful : form.Lawful := fun _ =>
  Form.lawfulAt_record (by decide) <| .as ((Fields.lawfulAt_text _ _).both <|
    Fields.lawfulAt_defaulted (Form.lawful_list Form.lawful_text _)) rfl

end ServerSettings

namespace Settings

/-- The layout of the settings. -/
def layout : Layout :=
  .record [.fixed "server" ServerSettings.layout, .fixed "treeViews" .plain,
    .fixed "extensionRoot" .plain, .fixed "initTimeoutSecs" .plain,
    .fixed "requestTimeoutSecs" .plain]

/-- No value of the settings stands for an absence. -/
theorem follows : form.Follows layout :=
  Form.follows_record _ (by decide) <| .as <|
    (Fields.follows_defaulted _ ServerSettings.follows).both <|
    (Fields.follows_defaulted _ (.plain _)).both <|
    (Fields.follows_defaulted _ (.plain _)).both <|
    (Fields.follows_defaulted _ (.plain _)).both <| Fields.follows_defaulted _ (.plain _)

/-- Settings are restored if a text spells their directory. -/
theorem lawfulAt {settings : Settings} (spelled : settings.extensionRoot.Spelled) :
    form.LawfulAt settings := by
  have directory : Form.path.LawfulAt settings.extensionRoot := by
    obtain ⟨text, same⟩ := spelled
    rw [same]
    exact Form.lawfulAt_path text
  exact Form.lawfulAt_record (by decide) <| .as
    ((Fields.lawfulAt_defaulted (ServerSettings.lawful _)).both <|
      (Fields.lawfulAt_defaulted (Form.lawful_list Form.lawful_text _)).both <|
      (Fields.lawfulAt_defaulted directory).both <|
      (Fields.lawfulAt_defaulted (Form.lawful_word64 _)).both <|
      Fields.lawfulAt_defaulted (Form.lawful_word64 _)) rfl

/-- A text spells the directory of settings that were read. -/
theorem yields_spelled : form.Yields fun settings => settings.extensionRoot.Spelled := by
  apply Fields.Yields.record
  refine Fields.Yields.as ((Fields.Yields.trivial _).both <| (Fields.Yields.trivial _).both <|
    (Fields.yields_defaulted Form.yields_path ⟨".", rfl⟩).both <|
    (Fields.Yields.trivial _).both (Fields.Yields.trivial _)) ?_
  rintro parts ⟨-, -, spelled, -⟩
  exact spelled

end Settings

/-! ### Debug configurations -/

namespace Debug.Configuration

/-- The other keys of a configuration stand in order and are not among those with a meaning. -/
structure Sound (configuration : Configuration) : Prop where
  /-- The other entries stand in order. -/
  ordered : Json.Ordered configuration.others
  /-- None of them has a known name. -/
  apart : ∀ entry ∈ configuration.others, entry.1 ∉ fields.names

/-- The slots of the keys with a meaning. -/
def slots : List Slot :=
  [.optional "type" .plain, .optional "name" .plain, .optional "request" .plain,
    .optional "noDebug" .plain, .optional "debugServer" .plain, .optional "mainClass" .plain,
    .optional "testClass" .plain, .optional "hostName" .plain]

/-- The layout of a configuration. -/
def layout : Layout := .record slots

/-- The fields of a configuration are read alike however their absences are written. -/
theorem follows_fields : fields.Follows slots :=
  .as <|
    (Fields.follows_optionalText _).both <| (Fields.follows_optionalText _).both <|
    (Fields.follows_optionalText _).both <|
    (Fields.follows_optional _ Form.solid_truth (.plain _)).both <|
    (Fields.follows_optional _ Form.solid_word16 (.plain _)).both <|
    (Fields.follows_optionalText _).both <| (Fields.follows_optionalText _).both <|
    Fields.follows_optionalText _

/-- The keys with a meaning are restored. -/
theorem lawfulAt_fields (configuration : Configuration) :
    fields.LawfulAt { configuration with others := [] } :=
  .as ((Fields.lawfulAt_optionalText _ _).both <| (Fields.lawfulAt_optionalText _ _).both <|
    (Fields.lawfulAt_optionalText _ _).both <|
    (Fields.lawfulAt_optional Form.solid_truth fun value _ => Form.lawful_truth value).both <|
    (Fields.lawfulAt_optional Form.solid_word16 fun value _ => Form.lawful_word16 value).both <|
    (Fields.lawfulAt_optionalText _ _).both <| (Fields.lawfulAt_optionalText _ _).both <|
    Fields.lawfulAt_optionalText _ _) rfl

/-- Whether an entry stands under none of the keys with a meaning. -/
def isOther (entry : String × Json) : Bool := !fields.names.contains entry.1

/-- An entry is another one if its key is none of the known names. -/
theorem isOther_iff (entry : String × Json) : isOther entry = true ↔ entry.1 ∉ fields.names := by
  simp [isOther]

/-- The other keys are found among all entries, however these are arranged. -/
theorem filter_arrange {configuration : Configuration} (sound : configuration.Sound) :
    (Json.arrange (fields.write configuration ++ configuration.others)).filter isOther =
      configuration.others := by
  have tidy := (lawfulAt_fields configuration).toTidy
  have keys := tidy.nodup_keys (by decide) configuration sound.ordered.nodup_keys sound.apart
  have ordered : Json.Ordered
      ((Json.arrange (fields.write configuration ++ configuration.others)).filter isOther) :=
    (Json.ordered_arrange _).filter _
  have known : (fields.write configuration).filter isOther = [] := by
    apply List.filter_eq_nil_iff.mpr
    intro entry member
    rw [isOther_iff, not_not]
    exact (tidy.written configuration).subset (List.mem_map_of_mem member)
  have others : configuration.others.filter isOther = configuration.others :=
    List.filter_eq_self.mpr fun entry member => (isOther_iff entry).mpr (sound.apart entry member)
  -- both stand in order, so they only have to hold the same entries
  refine ordered.eq_of_perm sound.ordered ?_
  calc (Json.arrange (fields.write configuration ++ configuration.others)).filter isOther
      |>.Perm ((fields.write configuration ++ configuration.others).filter isOther) :=
        (Json.arrange_perm keys).filter _
    _ = configuration.others := by rw [List.filter_append, known, others, List.nil_append]

/-- A configuration is restored if its other keys stand in order and have no meaning. -/
theorem lawfulAt {configuration : Configuration} (sound : configuration.Sound) :
    form.LawfulAt configuration := by
  have known : fields.ofEntries
      (Json.arrange (fields.write configuration ++ configuration.others)) =
        .ok { configuration with others := [] } :=
    (lawfulAt_fields configuration).ofEntries_arrange (by decide) sound.ordered.nodup_keys
      sound.apart
  have others := filter_arrange sound
  simp only [Form.LawfulAt, form, Json.object, known]
  exact congrArg (fun others => Except.ok { configuration with others := others }) others

/-- The other keys of a configuration that was read stand in order and have no meaning. -/
theorem sound_of_decode {entries : List (String × Json)} (ordered : Json.Ordered entries)
    {configuration : Configuration} (decoded : form.decode (.obj entries) = .ok configuration) :
    configuration.Sound := by
  obtain ⟨known, -, last⟩ := ok_of_bind decoded
  cases last
  refine ⟨ordered.filter _, ?_⟩
  intro entry member
  exact (isOther_iff entry).mp (List.mem_filter.mp member).2

/-- An entry under a known key is none of the others. -/
theorem not_isOther_slot {slot : Slot} (field : slot ∈ slots) (value : Json) :
    ¬ isOther (slot.name, value) = true := by
  have named : slot.name ∈ fields.names := List.mem_map_of_mem (f := Slot.name) field
  rw [isOther_iff, not_not]
  exact named

/-- A configuration depends on what its known entries mean and on the others as they stand. -/
theorem decode_congr {entries others : List (String × Json)}
    (known : fields.ofEntries entries = fields.ofEntries others)
    (rest : entries.filter isOther = others.filter isOther) :
    form.decode (.obj entries) = form.decode (.obj others) := by
  have decode (entries : List (String × Json)) : form.decode (.obj entries) =
      (fields.ofEntries entries).bind fun known =>
        .ok { known with others := entries.filter isOther } := rfl
  rw [decode, decode, known, rest]

/-- What is left out of a configuration stands under none of its other keys. -/
theorem tolerant (json other : Json) (omits : layout.Omits json other) :
    form.decode other = form.decode json := by
  cases omits with
  | @drop _ slot value before after field blank alone =>
    apply decode_congr
    · exact follows_fields.ofEntries_drop (by decide) field blank alone
    · rw [List.filter_append, List.filter_append,
        List.filter_cons_of_neg (not_isOther_slot field value)]
  | @inEntry _ slot value other before after field deep =>
    apply decode_congr
    · exact follows_fields.ofEntries_inEntry (by decide) before after field deep
    · rw [List.filter_append, List.filter_append,
        List.filter_cons_of_neg (not_isOther_slot field value),
        List.filter_cons_of_neg (not_isOther_slot field other)]
  | inPlace place deep =>
    -- no field of a configuration holds a record that could lose something
    have bare : ∀ slot ∈ slots, slot.layout = .plain := by
      simp [slots, Slot.optional]
    rw [bare _ (List.mem_of_getElem? place)] at deep
    cases deep

/-- A configuration does not write the keys that it does not have. -/
theorem terse {configuration : Configuration} (sound : configuration.Sound) :
    ¬ layout.HoldsBlank (form.encode configuration) := by
  apply follows_fields.not_holdsBlank (by decide) configuration
  intro entry member
  rcases List.mem_append.mp (Json.mem_arrange member) with own | other
  · exact .inl own
  · exact .inr (sound.apart entry other)

end Debug.Configuration

end LanguageClient
