import LanguageClient.Proofs.RecordReaders
import LanguageClient.Proofs.Utf8
import LanguageClient.Settings.File
import Mathlib.Data.List.Pairwise

/-!
# Settings are the defaults with what the file says laid over them

A file that is an object is read field by field, whatever the order of its keys, the blanks between
them and the values of keys that mean nothing: a field whose key stands in it once is what its value
stands for, and a field whose key is missing has its default. A key that is repeated, or whose value
stands for nothing that is wanted there, makes the whole file unreadable.
-/

namespace LanguageClient.Settings

open Json

/-! ## The values of a key -/

/-- The values that stand in an object under a key. -/
def values (members : List (Literal × Term)) (key : String) : List Term :=
  members.filterMap fun (name, term) => if name.text = some key then some term else none

/-- Whether all keys of an object are texts. -/
def Named (members : List (Literal × Term)) : Prop :=
  ∀ member ∈ members, member.1.text.isSome = true

instance (members : List (Literal × Term)) : Decidable (Named members) :=
  inferInstanceAs (Decidable (∀ member ∈ members, _))

/-- A first member with the key comes first among its values. -/
theorem values_cons_of_eq {key : String} {name : Literal} (same : name.text = some key)
    (term : Term) (members : List (Literal × Term)) :
    values ((name, term) :: members) key = term :: values members key := by
  simp [values, same]

/-- A first member with another key is not among the values. -/
theorem values_cons_of_ne {key : String} {name : Literal} (other : name.text ≠ some key)
    (term : Term) (members : List (Literal × Term)) :
    values ((name, term) :: members) key = values members key := by
  simp [values, other]

/-- What a key stands for that is given once at most: nothing, or the meaning of its value. -/
def single {α : Type} (meaning : Term → Option α) : List Term → Option (Option α)
  | [] => some none
  | [term] => (meaning term).map some
  | _ :: _ :: _ => none

/-! ## What a draft absorbs -/

variable {σ : Type}

/-- What a field of a draft holds after the values of its key, if they can be absorbed. -/
def Field.filledBy (field : Field σ) (draft : σ) : List Term → Option (Option field.Value)
  | [] => some (field.part draft)
  | [term] => if (field.part draft).isSome then none else (field.meaning term).map some
  | _ :: _ :: _ => none

/-- A field is filled by one of its values, and can then take no other. -/
theorem Field.filledBy_cons (field : Field σ) {draft : σ} {term : Term} {value : field.Value}
    (empty : (field.part draft).isSome = false) (means : field.meaning term = some value)
    (terms : List Term) :
    field.filledBy draft (term :: terms) = field.filledBy (field.set draft value) terms := by
  rcases terms with _ | ⟨second, _ | ⟨third, terms⟩⟩
  · simp [filledBy, empty, means, field.part_set]
  · simp [filledBy, field.part_set]
  · rfl

/-- What fills a field depends on its own part of the draft only. -/
theorem Field.filledBy_congr (field : Field σ) {draft draft' : σ}
    (same : field.part draft' = field.part draft) (terms : List Term) :
    field.filledBy draft' terms = field.filledBy draft terms := by
  rcases terms with _ | ⟨first, _ | ⟨second, terms⟩⟩ <;> simp [filledBy, same]

/-- A blank field is filled by a single value that means something for it. -/
theorem Field.filledBy_blank (field : Field σ) {draft : σ} (blank : field.part draft = none)
    (terms : List Term) : field.filledBy draft terms = single field.meaning terms := by
  rcases terms with _ | ⟨first, _ | ⟨second, terms⟩⟩ <;> simp [filledBy, single, blank]

namespace Sheet

variable (sheet : Sheet σ) {draft draft' : σ} {members : List (Literal × Term)}

/-- Different fields of a sheet are apart. -/
theorem apart_of_mem {field other : Field σ} (mem : field ∈ sheet.fields)
    (mem' : other ∈ sheet.fields) (ne : field ≠ other) : field.Apart other := by
  have symmetric : Std.Symm (Field.Apart (σ := σ)) :=
    ⟨fun first second apart => ⟨apart.1.symm, apart.2.2, apart.2.1⟩⟩
  exact sheet.apart.forall mem mem' ne

/-- The field for a key is one of the sheet and has the key. -/
theorem field?_some {key : String} {field : Field σ} (found : sheet.field? key = some field) :
    field ∈ sheet.fields ∧ field.key = key :=
  ⟨List.mem_of_find?_eq_some found, by simpa using List.find?_some found⟩

/-- A key without a field is that of none. -/
theorem field?_none {key : String} (missing : sheet.field? key = none) {field : Field σ}
    (mem : field ∈ sheet.fields) : field.key ≠ key := by
  simpa using List.find?_eq_none.mp missing field mem

/-- What the members of an object do to a field, they do one by one. -/
theorem filledBy_absorbMember {member : Literal × Term}
    (taken : sheet.absorbMember draft member = some draft') {field : Field σ}
    (mem : field ∈ sheet.fields) (members : List (Literal × Term)) :
    field.filledBy draft (values (member :: members) field.key) =
      field.filledBy draft' (values members field.key) := by
  obtain ⟨name, term⟩ := member
  obtain ⟨key, named, taken⟩ := Option.bind_eq_some_iff.mp taken
  cases found : sheet.field? key with
  | none =>
    have other := (sheet.field?_none found mem).symm
    rw [found] at taken
    obtain rfl : draft = draft' := by simpa using taken
    rw [values_cons_of_ne (by simp [named, other])]
  | some target =>
    obtain ⟨isField, same⟩ := sheet.field?_some found
    rw [found] at taken
    have empty : (target.part draft).isSome = false := by
      by_contra filled
      simp [filled] at taken
    obtain ⟨value, means, rfl⟩ : ∃ value, target.meaning term = some value ∧
        target.set draft value = draft' := by simpa [empty] using taken
    by_cases itself : target = field
    · subst itself
      rw [values_cons_of_eq (named.trans (congrArg some same.symm)),
        target.filledBy_cons empty means]
    · have apart := sheet.apart_of_mem isField mem itself
      have other : name.text ≠ some field.key := by simp [named, ← same, apart.1]
      rw [values_cons_of_ne other]
      exact (field.filledBy_congr (apart.2.2 draft value) _).symm

/-- A member that is not absorbed has no text for a key, or its field can take no value. -/
theorem absorbMember_none {member : Literal × Term}
    (refused : sheet.absorbMember draft member = none) :
    member.1.text = none ∨ ∃ field ∈ sheet.fields, ∀ members,
      field.filledBy draft (values (member :: members) field.key) = none := by
  obtain ⟨name, term⟩ := member
  cases named : name.text with
  | none => exact .inl rfl
  | some key =>
    rw [absorbMember, named, Option.bind_some] at refused
    cases found : sheet.field? key with
    | none =>
      rw [found] at refused
      cases refused
    | some field =>
      obtain ⟨isField, same⟩ := sheet.field?_some found
      rw [found] at refused
      refine .inr ⟨field, isField, fun members => ?_⟩
      rw [values_cons_of_eq (named.trans (congrArg some same.symm))]
      rcases values members field.key with _ | ⟨second, more⟩
      · simpa [Field.filledBy] using refused
      · rfl

/-- A draft that absorbs the members of an object has every field as their values fill it. -/
theorem absorb_some (taken : sheet.absorb draft members = some draft') :
    Named members ∧ ∀ field ∈ sheet.fields,
      field.filledBy draft (values members field.key) = some (field.part draft') := by
  induction members generalizing draft with
  | nil =>
    obtain rfl : draft = draft' := by simpa [absorb] using taken
    exact ⟨by simp [Named], fun field mem => rfl⟩
  | cons member members ih =>
    obtain ⟨next, one, others⟩ : ∃ next, sheet.absorbMember draft member = some next ∧
        sheet.absorb next members = some draft' := by
      simpa [absorb, Option.bind_eq_some_iff] using taken
    obtain ⟨named, filled⟩ := ih others
    obtain ⟨key, isKey, -⟩ := Option.bind_eq_some_iff.mp one
    refine ⟨List.forall_mem_cons.mpr ⟨by simp [isKey], named⟩, fun field mem => ?_⟩
    rw [sheet.filledBy_absorbMember one mem, filled field mem]

/-- A draft that does not absorb the members of an object meets a key that is no text, or has a
field that their values cannot fill. -/
theorem absorb_none (refused : sheet.absorb draft members = none) :
    ¬ Named members ∨ ∃ field ∈ sheet.fields,
      field.filledBy draft (values members field.key) = none := by
  induction members generalizing draft with
  | nil => simp [absorb] at refused
  | cons member members ih =>
    cases one : sheet.absorbMember draft member with
    | none =>
      obtain noText | ⟨field, mem, unfilled⟩ := sheet.absorbMember_none one
      · refine .inl fun named => ?_
        have := named member List.mem_cons_self
        simp [noText] at this
      · exact .inr ⟨field, mem, unfilled members⟩
    | some next =>
      have others : sheet.absorb next members = none := by simpa [absorb, one] using refused
      obtain unnamed | ⟨field, mem, unfilled⟩ := ih others
      · exact .inl fun named => unnamed fun other mem => named other (List.mem_cons_of_mem _ mem)
      · refine .inr ⟨field, mem, ?_⟩
        rw [sheet.filledBy_absorbMember one mem, unfilled]

/-- What a blank draft absorbs: all keys are texts, and each field holds what its key stands for. -/
theorem absorb_blank_some (blank : ∀ field ∈ sheet.fields, field.part draft = none)
    (taken : sheet.absorb draft members = some draft') :
    Named members ∧ ∀ field ∈ sheet.fields,
      single field.meaning (values members field.key) = some (field.part draft') := by
  obtain ⟨named, filled⟩ := sheet.absorb_some taken
  refine ⟨named, fun field mem => ?_⟩
  rw [← field.filledBy_blank (blank field mem), filled field mem]

/-- What a blank draft does not absorb: a key is no text, or one that has a field is repeated or
has a value that stands for nothing. -/
theorem absorb_blank_none (blank : ∀ field ∈ sheet.fields, field.part draft = none)
    (refused : sheet.absorb draft members = none) :
    ¬ Named members ∨ ∃ field ∈ sheet.fields,
      single field.meaning (values members field.key) = none := by
  obtain unnamed | ⟨field, mem, unfilled⟩ := sheet.absorb_none refused
  · exact .inl unnamed
  · exact .inr ⟨field, mem, by rw [← field.filledBy_blank (blank field mem), unfilled]⟩

end Sheet

/-! ## The settings of the server -/

/-- The program, as a field of the server's settings. -/
def commandField : Field ServerDraft where
  key := "command"
  part := ServerDraft.command
  set draft value := { draft with command := some value }
  scan := scanTextValue
  meaning := textOf
  part_set _ _ := rfl
  reads := reads_text

/-- The arguments of the program, as a field of the server's settings. -/
def argumentsField : Field ServerDraft where
  key := "args"
  part := ServerDraft.arguments
  set draft value := { draft with arguments := some value }
  scan := scanTexts
  meaning := textsOf
  part_set _ _ := rfl
  reads := reads_texts

/-- The fields of the server's settings. -/
def serverSheet : Sheet ServerDraft where
  fields := [commandField, argumentsField]
  apart := by simp [Field.Apart, commandField, argumentsField]

/-- The server's settings that a value stands for. The program has to be given, and without its
arguments it has none. A list gives the program and then the arguments. -/
def serverOf : Term → Option ServerSettings
  | .object members =>
    if Named members then do
      let command ← single textOf (values members "command")
      let arguments ← single textsOf (values members "args")
      command.map fun command => ⟨command, arguments.getD []⟩
    else none
  | .list [command] => (textOf command).map fun command => ⟨command, []⟩
  | .list [command, arguments] => do
    let command ← textOf command
    let arguments ← textsOf arguments
    some ⟨command, arguments⟩
  | _ => none

/-- The server's settings of a draft; the program has to be there. -/
def ServerDraft.finish (draft : ServerDraft) : Except Fault ServerSettings :=
  match draft.command with
  | some command => .ok ⟨command, draft.arguments.getD []⟩
  | none => .error .unsuitable

/-- At first no field of the server's settings has a value. -/
theorem serverSheet_blank : ∀ field ∈ serverSheet.fields, field.part ⟨none, none⟩ = none := by
  simp [serverSheet, commandField, argumentsField]

/-- What the server's settings mean is read off the members of an object. -/
theorem serverOf_object (members : List (Literal × Term)) :
    (serverSheet.absorb ⟨none, none⟩ members).bind (fun draft => draft.finish.toOption) =
      serverOf (.object members) := by
  rw [serverOf]
  cases absorbed : serverSheet.absorb ⟨none, none⟩ members with
  | none =>
    obtain unnamed | ⟨field, mem, unread⟩ :=
      serverSheet.absorb_blank_none serverSheet_blank absorbed
    · rw [if_neg unnamed]
      rfl
    · obtain rfl | rfl : field = commandField ∨ field = argumentsField := by
        simpa [serverSheet] using mem
      · have command : single textOf (values members "command") = none := unread
        simp [command]
      · have arguments : single textsOf (values members "args") = none := unread
        simp [arguments]
  | some draft =>
    obtain ⟨named, read⟩ := serverSheet.absorb_blank_some serverSheet_blank absorbed
    have command : single textOf (values members "command") = some draft.command :=
      read commandField (by simp [serverSheet])
    have arguments : single textsOf (values members "args") = some draft.arguments :=
      read argumentsField (by simp [serverSheet])
    rw [if_pos named, command, arguments, Option.bind_some, ServerDraft.finish]
    cases draft.command <;> rfl

/-- The sheet of the server's settings gives them their meaning. -/
theorem meaning_serverSheet (term : Term) :
    serverSheet.meaning ⟨none, none⟩ (fun draft => draft.finish.toOption) term = serverOf term := by
  cases term with
  | object members => exact serverOf_object members
  | list items =>
    rcases items with _ | ⟨command, _ | ⟨arguments, _ | ⟨more, items⟩⟩⟩
    · rfl
    · cases text : textOf command <;>
        simp [Sheet.meaning, Sheet.place, serverSheet, commandField, serverOf, ServerDraft.finish,
          text]
    · cases text : textOf command <;> cases texts : textsOf arguments <;>
        simp [Sheet.meaning, Sheet.place, serverSheet, commandField, argumentsField, serverOf,
          ServerDraft.finish, text, texts]
    · cases text : textOf command <;>
        simp [Sheet.meaning, Sheet.place, serverSheet, commandField, serverOf, text]
  | _ => rfl

/-- The server's settings are taken for what they mean. -/
theorem reads_server : Reads scanServer serverOf := by
  have reads := serverSheet.reads_record ⟨none, none⟩ ServerDraft.finish
  rwa [funext meaning_serverSheet] at reads

/-! ## The settings -/

/-- The path that a value stands for. -/
def pathOf (term : Term) : Option Path := (textOf term).map Path.ofString

/-- The server's settings, as a field of the settings. -/
def serverField : Field Draft where
  key := "server"
  part := Draft.server
  set draft value := { draft with server := some value }
  scan := scanServer
  meaning := serverOf
  part_set _ _ := rfl
  reads := reads_server

/-- The identifiers of the trees, as a field of the settings. -/
def treeViewsField : Field Draft where
  key := "treeViews"
  part := Draft.treeViews
  set draft value := { draft with treeViews := some value }
  scan := scanTexts
  meaning := textsOf
  part_set _ _ := rfl
  reads := reads_texts

/-- The directory of the resources, as a field of the settings. -/
def extensionRootField : Field Draft where
  key := "extensionRoot"
  part := Draft.extensionRoot
  set draft value := { draft with extensionRoot := some value }
  scan := scanTextValue
  meaning := textOf
  part_set _ _ := rfl
  reads := reads_text

/-- The time for the introduction, as a field of the settings. -/
def initTimeoutField : Field Draft where
  key := "initTimeoutSecs"
  part := Draft.initTimeout
  set draft value := { draft with initTimeout := some value }
  scan := scanWord64
  meaning := word64Of
  part_set _ _ := rfl
  reads := reads_word64

/-- The time for any other answer, as a field of the settings. -/
def requestTimeoutField : Field Draft where
  key := "requestTimeoutSecs"
  part := Draft.requestTimeout
  set draft value := { draft with requestTimeout := some value }
  scan := scanWord64
  meaning := word64Of
  part_set _ _ := rfl
  reads := reads_word64

/-- The fields of the settings. -/
def settingsSheet : Sheet Draft where
  fields := [serverField, treeViewsField, extensionRootField, initTimeoutField,
    requestTimeoutField]
  apart := by
    simp [Field.Apart, serverField, treeViewsField, extensionRootField, initTimeoutField,
      requestTimeoutField]

/-- The draft of settings of which nothing has been read. -/
def Draft.blank : Draft := ⟨none, none, none, none, none⟩

/-- At first no field of the settings has a value. -/
theorem settingsSheet_blank :
    ∀ field ∈ settingsSheet.fields, field.part Draft.blank = none := by
  simp [settingsSheet, Draft.blank, serverField, treeViewsField, extensionRootField,
    initTimeoutField, requestTimeoutField]

/-- A key with a meaning. -/
inductive Key
  /-- How the server is started. -/
  | server
  /-- The identifiers of the trees. -/
  | treeViews
  /-- The directory that holds the resources of the client. -/
  | extensionRoot
  /-- How many seconds the server has for its introduction. -/
  | initTimeout
  /-- How many seconds the server has for any other answer. -/
  | requestTimeout
deriving DecidableEq

namespace Key

/-- A key as it is written. -/
def name : Key → String
  | server => "server"
  | treeViews => "treeViews"
  | extensionRoot => "extensionRoot"
  | initTimeout => "initTimeoutSecs"
  | requestTimeout => "requestTimeoutSecs"

/-- Whether a value stands for something that is wanted under a key. -/
def decodes : Key → Term → Bool
  | server, term => (serverOf term).isSome
  | treeViews, term => (textsOf term).isSome
  | extensionRoot, term => (pathOf term).isSome
  | initTimeout, term | requestTimeout, term => (word64Of term).isSome

end Key

/-- Whether an object has texts for keys, each key with a meaning once at most, and under each of
them a value that is wanted there. -/
structure Readable (members : List (Literal × Term)) : Prop where
  /-- All keys are texts. -/
  named : Named members
  /-- No key with a meaning is repeated. -/
  once : ∀ key : Key, (values members key.name).length ≤ 1
  /-- The values of keys with a meaning decode. -/
  decodes : ∀ key : Key, ∀ term ∈ values members key.name, key.decodes term = true

/-- What a setting is if its key has certain values: its default if there are none, and what the
value stands for if there is one. -/
inductive Overlaid {α : Type} (meaning : Term → Option α) (standard : α) : List Term → α → Prop
  /-- The key is missing. -/
  | absent : Overlaid meaning standard [] standard
  /-- The key is there. -/
  | present {term : Term} {value : α} (means : meaning term = some value) :
    Overlaid meaning standard [term] value

/-- Whether settings are the defaults with the members of an object laid over them. -/
structure Overlays (members : List (Literal × Term)) (settings : Settings) : Prop where
  /-- How the server is started. -/
  server : Overlaid serverOf standard.server (values members "server") settings.server
  /-- The identifiers of the trees. -/
  treeViews : Overlaid textsOf standard.treeViews (values members "treeViews") settings.treeViews
  /-- The directory that holds the resources of the client. -/
  extensionRoot :
    Overlaid pathOf standard.extensionRoot (values members "extensionRoot") settings.extensionRoot
  /-- How many seconds the server has for its introduction. -/
  initTimeout :
    Overlaid word64Of standard.initTimeout (values members "initTimeoutSecs") settings.initTimeout
  /-- How many seconds the server has for any other answer. -/
  requestTimeout :
    Overlaid word64Of standard.requestTimeout (values members "requestTimeoutSecs")
      settings.requestTimeout

/-- Whether a text is an object with certain members, between any blanks. -/
def IsObject (text : List Char) (members : List (Literal × Term)) : Prop :=
  ∃ before object after, text = before ++ (object ++ after) ∧ IsBlanks before ∧ IsBlanks after ∧
    Spells (.value (.object members)) object

/-- A single value is wanted at most, and one that means something. -/
theorem single_isSome_iff {α : Type} (meaning : Term → Option α) (terms : List Term) :
    (single meaning terms).isSome = true ↔
      terms.length ≤ 1 ∧ ∀ term ∈ terms, (meaning term).isSome = true := by
  rcases terms with _ | ⟨first, _ | ⟨second, terms⟩⟩ <;> simp [single]

/-- What is made of a meaning is made of that of a single value. -/
theorem single_map {α β : Type} (meaning : Term → Option α) (f : α → β) (terms : List Term) :
    single (fun term => (meaning term).map f) terms =
      (single meaning terms).map fun value => value.map f := by
  rcases terms with _ | ⟨first, _ | ⟨second, terms⟩⟩ <;> simp [single, Function.comp_def]

/-- A value that was read replaces the standard one, which stays where none was. -/
theorem overlaid_getD {α : Type} {meaning : Term → Option α} {terms : List Term}
    {value : Option α} (read : single meaning terms = some value) (standard : α) :
    Overlaid meaning standard terms (value.getD standard) := by
  rcases terms with _ | ⟨term, _ | ⟨second, terms⟩⟩
  · obtain rfl : none = value := Option.some.inj read
    exact .absent
  · obtain ⟨given, means, rfl⟩ := Option.map_eq_some_iff.mp read
    exact .present means
  · cases read

/-- The values of a key leave no choice for a setting. -/
theorem Overlaid.unique {α : Type} {meaning : Term → Option α} {standard value value' : α}
    {terms : List Term} (overlaid : Overlaid meaning standard terms value)
    (overlaid' : Overlaid meaning standard terms value') : value' = value := by
  cases overlaid with
  | absent =>
    cases overlaid'
    rfl
  | present means =>
    cases overlaid' with
    | present means' => exact Option.some.inj (means'.symm.trans means)

/-- The members of an object leave no choice for the settings. -/
theorem Overlays.unique {members : List (Literal × Term)} {settings settings' : Settings}
    (overlays : Overlays members settings) (overlays' : Overlays members settings') :
    settings' = settings := by
  obtain ⟨server, treeViews, extensionRoot, initTimeout, requestTimeout⟩ := settings
  obtain ⟨server', treeViews', extensionRoot', initTimeout', requestTimeout'⟩ := settings'
  obtain rfl : server' = server := overlays.server.unique overlays'.server
  obtain rfl : treeViews' = treeViews := overlays.treeViews.unique overlays'.treeViews
  obtain rfl : extensionRoot' = extensionRoot :=
    overlays.extensionRoot.unique overlays'.extensionRoot
  obtain rfl : initTimeout' = initTimeout := overlays.initTimeout.unique overlays'.initTimeout
  obtain rfl : requestTimeout' = requestTimeout :=
    overlays.requestTimeout.unique overlays'.requestTimeout
  rfl

/-- The field of a key. -/
def Key.field : Key → Field Draft
  | server => serverField
  | treeViews => treeViewsField
  | extensionRoot => extensionRootField
  | initTimeout => initTimeoutField
  | requestTimeout => requestTimeoutField

/-- Every key has a field in the sheet of the settings. -/
theorem Key.field_mem (key : Key) : key.field ∈ settingsSheet.fields := by
  cases key <;> simp [field, settingsSheet]

/-- Every field in the sheet of the settings is that of a key. -/
theorem Key.exists_field {field : Field Draft} (mem : field ∈ settingsSheet.fields) :
    ∃ key : Key, key.field = field := by
  simp only [settingsSheet, List.mem_cons, List.not_mem_nil, or_false] at mem
  obtain rfl | rfl | rfl | rfl | rfl := mem
  · exact ⟨server, rfl⟩
  · exact ⟨treeViews, rfl⟩
  · exact ⟨extensionRoot, rfl⟩
  · exact ⟨initTimeout, rfl⟩
  · exact ⟨requestTimeout, rfl⟩

/-- The field of a key has its name. -/
theorem Key.key_field (key : Key) : key.field.key = key.name := by
  cases key <;> rfl

/-- A key takes the values that mean something for its field. -/
theorem Key.decodes_eq (key : Key) (term : Term) :
    key.decodes term = (key.field.meaning term).isSome := by
  cases key with
  | extensionRoot => exact Option.isSome_map
  | _ => rfl

/-- An object is readable if each key with a meaning can be taken by its field. -/
theorem readable_iff (members : List (Literal × Term)) :
    Readable members ↔ Named members ∧ ∀ field ∈ settingsSheet.fields,
      (single field.meaning (values members field.key)).isSome = true := by
  constructor
  · rintro ⟨named, once, decodes⟩
    refine ⟨named, fun field mem => ?_⟩
    obtain ⟨key, rfl⟩ := Key.exists_field mem
    rw [single_isSome_iff, key.key_field]
    exact ⟨once key, fun term mem => key.decodes_eq term ▸ decodes key term mem⟩
  · rintro ⟨named, taken⟩
    have each (key : Key) := (single_isSome_iff _ _).mp (taken key.field key.field_mem)
    simp only [Key.key_field, ← Key.decodes_eq] at each
    exact ⟨named, fun key => (each key).1, fun key => (each key).2⟩

/-- Settings are read from an object by what its members mean. -/
theorem read_object {text : List Char} {members : List (Literal × Term)}
    (object : IsObject text members) :
    (read text).toOption = (settingsSheet.absorb .blank members).map Draft.finish := by
  obtain ⟨before, object, after, rfl, isBefore, isAfter, spelled⟩ := object
  have scanned : (scan (before ++ (object ++ after))).toOption = _ :=
    settingsSheet.reads_record .blank (fun draft => .ok draft.finish) spelled isBefore
      (endsNumber_blanks isAfter)
  have none_left : skipBlanks after = [] := by
    rw [← List.append_nil after, skipBlanks_append isAfter]
    rfl
  rw [read, toOption_bind, scanned, Sheet.meaning]
  cases settingsSheet.absorb .blank members with
  | none => rfl
  | some draft => simp [none_left]

/-- Settings that are read from an object are the defaults with the object laid over them. -/
theorem overlays_finish {members : List (Literal × Term)} {draft : Draft}
    (absorbed : settingsSheet.absorb .blank members = some draft) :
    Overlays members draft.finish := by
  obtain ⟨-, read⟩ := settingsSheet.absorb_blank_some settingsSheet_blank absorbed
  have path : single pathOf (values members "extensionRoot") =
      some (draft.extensionRoot.map Path.ofString) :=
    (single_map textOf Path.ofString _).trans
      (congrArg _ (read _ Key.extensionRoot.field_mem))
  exact ⟨overlaid_getD (read _ Key.server.field_mem) _,
    overlaid_getD (read _ Key.treeViews.field_mem) _, overlaid_getD path _,
    overlaid_getD (read _ Key.initTimeout.field_mem) _,
    overlaid_getD (read _ Key.requestTimeout.field_mem) _⟩

/-- The settings of an object that is readable are the defaults with the object laid over them, and
an object that is not readable is not read. -/
theorem read_overlays {text : List Char} {members : List (Literal × Term)}
    (object : IsObject text members) :
    (Readable members → ∃ settings, read text = .ok settings ∧ Overlays members settings) ∧
      (¬ Readable members → ∃ fault, read text = .error fault) := by
  have result := read_object object
  cases absorbed : settingsSheet.absorb .blank members with
  | none =>
    have unreadable : ¬ Readable members := by
      rw [readable_iff]
      rintro ⟨named, taken⟩
      obtain unnamed | ⟨field, mem, unread⟩ :=
        settingsSheet.absorb_blank_none settingsSheet_blank absorbed
      · exact unnamed named
      · simpa [unread] using taken field mem
    refine ⟨fun readable => absurd readable unreadable, fun _ => ?_⟩
    cases failed : read text with
    | error fault => exact ⟨fault, rfl⟩
    | ok settings => simp [failed, absorbed] at result
  | some draft =>
    have readable : Readable members := by
      obtain ⟨named, read⟩ := settingsSheet.absorb_blank_some settingsSheet_blank absorbed
      exact (readable_iff members).mpr ⟨named, fun field mem => by simp [read field mem]⟩
    refine ⟨fun _ => ⟨draft.finish, ?_, overlays_finish absorbed⟩, absurd readable⟩
    cases done : read text with
    | error fault => simp [done, absorbed] at result
    | ok settings => simpa [done, absorbed] using result

/-! ## Loading -/

/-- A file that can be read is there. -/
theorem exists_of_readText {disk : Disk} {path : Path} {text : String}
    (readable : disk.readText path = .ok text) : disk.exists? path = true := by
  rw [Disk.readText, Disk.read] at readable
  rw [Disk.exists?]
  rcases followed : disk.followShort true path with fault | ⟨place, node⟩ | place
  · rw [followed] at readable
    cases readable
  · rfl
  · rw [followed] at readable
    cases readable

/-- Loading a file gives what its text says. -/
theorem load_eq {disk : Disk} {path : Path} {text : String}
    (readable : disk.readText path = .ok text) :
    load disk path = (read text.toList).mapError fun fault =>
      ⟨"failed to parse " ++ path.display ++ " - invalid JSON", some (.text fault)⟩ := by
  rw [load, exists_of_readText readable, readable]
  rfl

/-- A settings file that is an object is loaded as those settings which are the defaults with the
object laid over them, if it is readable at all. -/
theorem load_ok_iff {disk : Disk} {path : Path} {text : String}
    {members : List (Literal × Term)} (readable : disk.readText path = .ok text)
    (object : IsObject text.toList members) (settings : Settings) :
    load disk path = .ok settings ↔ Readable members ∧ Overlays members settings := by
  obtain ⟨succeeds, fails⟩ := read_overlays object
  rw [load_eq readable]
  constructor
  · intro loaded
    by_cases sound : Readable members
    · obtain ⟨settings', done, overlays⟩ := succeeds sound
      rw [done] at loaded
      obtain rfl : settings' = settings := Except.ok.inj loaded
      exact ⟨sound, overlays⟩
    · obtain ⟨fault, failed⟩ := fails sound
      rw [failed] at loaded
      cases loaded
  · rintro ⟨sound, overlays⟩
    obtain ⟨settings', done, overlays'⟩ := succeeds sound
    rw [done, overlays.unique overlays']
    rfl

/-- A settings file that is an object is loaded if and only if it is readable. -/
theorem exists_load_iff {disk : Disk} {path : Path} {text : String}
    {members : List (Literal × Term)} (readable : disk.readText path = .ok text)
    (object : IsObject text.toList members) :
    (∃ settings, load disk path = .ok settings) ↔ Readable members := by
  constructor
  · rintro ⟨settings, loaded⟩
    exact ((load_ok_iff readable object settings).mp loaded).1
  · intro sound
    obtain ⟨settings, -, overlays⟩ := (read_overlays object).1 sound
    exact ⟨settings, (load_ok_iff readable object settings).mpr ⟨sound, overlays⟩⟩

/-- A settings file that is an object is laid over the defaults field by field, or is not loaded at
all. -/
theorem load_overlays {disk : Disk} {path : Path} {text : String}
    {members : List (Literal × Term)} (readable : disk.readText path = .ok text)
    (object : IsObject text.toList members) :
    (Readable members →
        ∃ settings, load disk path = .ok settings ∧ Overlays members settings) ∧
      (¬ Readable members → ∃ fault, load disk path = .error
        ⟨"failed to parse " ++ path.display ++ " - invalid JSON", some (.text fault)⟩) := by
  obtain ⟨succeeds, fails⟩ := read_overlays object
  rw [load_eq readable]
  constructor
  · intro sound
    obtain ⟨settings, done, overlays⟩ := succeeds sound
    exact ⟨settings, by rw [done]; rfl, overlays⟩
  · intro unsound
    obtain ⟨fault, failed⟩ := fails unsound
    exact ⟨fault, by rw [failed]; rfl⟩

/-- A disk whose working directory holds a settings file with a certain text. -/
def diskWith (text : String) : Disk :=
  (Disk.bare []).install (Path.ofString fileName) (.file (Utf8.ofString text))

/-- The text of the file is read from the disk that has it. -/
theorem readText_diskWith (text : String) :
    (diskWith text).readText (Path.ofString fileName) = .ok text := by
  have bytes : (diskWith text).read (Path.ofString fileName) = .ok (Utf8.ofString text) := rfl
  rw [Disk.readText, bytes, ok_bind, Utf8.toString?_ofString]
  rfl

/-- The key of the server's settings. -/
def serverKey : Literal := .verbatim ['s', 'e', 'r', 'v', 'e', 'r'] (by simp)

/-- The key of the program in the server's settings. -/
def commandKey : Literal := .verbatim ['c', 'o', 'm', 'm', 'a', 'n', 'd'] (by simp)

/-- A value that names a program. -/
def oneProgram : Term := .text (.verbatim ['x'] (by simp))

/-- The server's settings in a file that names the program alone. -/
def sparseServer : Term := .object [(commandKey, oneProgram)]

/-- The members of that file, with one that means nothing. -/
def sparseMembers : List (Literal × Term) :=
  [(.verbatim ['m', 'o', 'd', 'e'] (by simp), .list [.object []]), (serverKey, sparseServer)]

/-- A text of that file. -/
def sparseText : String :=
  "\x7b \"mode\": [\x7b\x7d],\n  \"server\": \x7b\"command\": \"x\"\x7d \x7d"

/-- The text with few keys spells its members. -/
theorem isObject_sparse : IsObject sparseText.toList sparseMembers := by
  have none : IsBlanks [] := isBlanks_nil
  have space : IsBlanks [' '] := by simp [IsBlanks, isBlank]
  have line : IsBlanks ['\n', ' ', ' '] := by simp [IsBlanks, isBlank]
  have mode : Spells (.value (.list [.object []])) _ :=
    .list (.item (.first none) (.object (.noMembers none)) (.noItems none))
  have server : Spells (.value sparseServer) _ :=
    .object <| .member (.first none) none space (.text _) (.noMembers none)
  exact ⟨[], _, [], rfl, none, none, .object <| .member (.first space) none space mode <|
    .member (.later none line) none space server (.noMembers space)⟩

/-- A file that names the program alone is loaded, without arguments for it. -/
theorem load_overlays_sparse :
    (diskWith sparseText).readText (Path.ofString fileName) = .ok sparseText ∧
      IsObject sparseText.toList sparseMembers ∧ Readable sparseMembers ∧
      ∃ settings, load (diskWith sparseText) (Path.ofString fileName) = .ok settings ∧
        Overlays sparseMembers settings ∧ settings.server = ⟨"x", []⟩ := by
  have readable : Readable sparseMembers :=
    ⟨by decide, fun key => by cases key <;> decide, fun key => by cases key <;> decide⟩
  obtain ⟨settings, done, overlays⟩ :=
    (load_overlays (readText_diskWith sparseText) isObject_sparse).1 readable
  refine ⟨readText_diskWith sparseText, isObject_sparse, readable, settings, done, overlays, ?_⟩
  have server : Overlaid serverOf standard.server [sparseServer] settings.server := overlays.server
  cases server with
  | present means => exact (Option.some.inj means).symm

end LanguageClient.Settings
