import LanguageClient.Proofs.SettingsOverlay
import Mathlib.Data.List.Basic

/-!
# Settings files from which keys are deleted

Any keys with a meaning may be deleted from a settings file, those of the settings themselves and
those of the server's settings inside. What is left of a file that loads does load, and says of
every key that was kept what it said before, unless the server's settings are kept as an object
without the program: that object has no default for the program, so the whole file is unreadable.
-/

namespace LanguageClient.Settings

open Json

/-- A key with a meaning in the server's settings. -/
inductive ServerKey
  /-- The program. -/
  | command
  /-- The arguments of the program. -/
  | arguments
deriving DecidableEq

/-- A key of the server's settings as it is written. -/
def ServerKey.name : ServerKey → String
  | command => "command"
  | arguments => "args"

/-- The members of an object without those that have one of some keys. -/
def without (names : List String) (members : List (Literal × Term)) : List (Literal × Term) :=
  members.filter fun member => !member.1.text.any (names.contains ·)

/-- Keys that are deleted from a settings file. -/
structure Deletion where
  /-- Those of the settings. -/
  keys : List Key
  /-- Those of the server's settings. -/
  serverKeys : List ServerKey

namespace Deletion

variable (deletion : Deletion)

/-- The server's settings after a deletion; only an object has keys. -/
def inServer : Term → Term
  | .object members => .object (without (deletion.serverKeys.map ServerKey.name) members)
  | term => term

/-- A member of a settings file after a deletion that keeps it. -/
def inMember (member : Literal × Term) : Literal × Term :=
  (member.1,
    if member.1.text = some Key.server.name then deletion.inServer member.2 else member.2)

/-- The members of a settings file after a deletion. -/
def members (members : List (Literal × Term)) : List (Literal × Term) :=
  (without (deletion.keys.map Key.name) members).map deletion.inMember

/-- Whether a deletion keeps the server's settings as an object and takes the program from it. -/
def TakesProgram (members : List (Literal × Term)) : Prop :=
  .server ∉ deletion.keys ∧ .command ∈ deletion.serverKeys ∧
    ∃ inside, values members Key.server.name = [.object inside]

/-- Whether settings say of every key that a deletion has kept what they said before. -/
structure Keeps (settings settings' : Settings) : Prop where
  /-- The program of the server. -/
  command : .server ∉ deletion.keys → .command ∉ deletion.serverKeys →
    settings'.server.command = settings.server.command
  /-- The arguments of the program. -/
  arguments : .server ∉ deletion.keys → .arguments ∉ deletion.serverKeys →
    settings'.server.arguments = settings.server.arguments
  /-- The identifiers of the trees. -/
  treeViews : .treeViews ∉ deletion.keys → settings'.treeViews = settings.treeViews
  /-- The directory that holds the resources of the client. -/
  extensionRoot :
    .extensionRoot ∉ deletion.keys → settings'.extensionRoot = settings.extensionRoot
  /-- How many seconds the server has for its introduction. -/
  initTimeout : .initTimeout ∉ deletion.keys → settings'.initTimeout = settings.initTimeout
  /-- How many seconds the server has for any other answer. -/
  requestTimeout :
    .requestTimeout ∉ deletion.keys → settings'.requestTimeout = settings.requestTimeout

end Deletion

/-! ## The values that are left -/

variable {members : List (Literal × Term)}

/-- Where members are left out, the keys are still texts. -/
theorem named_without (named : Named members) (names : List String) :
    Named (without names members) :=
  fun member mem => named member (List.mem_filter.mp mem).1

/-- The values of a key that is taken from an object are gone, those of any other key stay. -/
theorem values_without (names : List String) (members : List (Literal × Term)) (key : String) :
    values (without names members) key = if key ∈ names then [] else values members key := by
  rw [values, without, List.filterMap_filter]
  split
  · rename_i deleted
    rw [List.filterMap_eq_nil_iff]
    rintro member -
    by_cases same : member.1.text = some key <;> simp [same, deleted]
  · rename_i kept
    rw [values]
    congr 1
    funext member
    by_cases same : member.1.text = some key <;> simp [same, kept]

/-- Different keys are written differently. -/
theorem Key.name_injective : Function.Injective Key.name := by
  intro key key' same
  cases key <;> cases key' <;> first | rfl | exact absurd same (by decide)

/-- Different keys of the server's settings are written differently. -/
theorem ServerKey.name_injective : Function.Injective ServerKey.name := by
  intro key key' same
  cases key <;> cases key' <;> first | rfl | exact absurd same (by decide)

/-- An object stands for the server's settings that its program and its arguments make. -/
theorem serverOf_object_some_iff {inside : List (Literal × Term)} {server : ServerSettings} :
    serverOf (.object inside) = some server ↔
      Named inside ∧ single textOf (values inside "command") = some (some server.command) ∧
        ∃ arguments, single textsOf (values inside "args") = some arguments ∧
          server.arguments = arguments.getD [] := by
  rw [serverOf]
  split
  · rename_i named
    cases single textOf (values inside "command") with
    | none => simp
    | some command =>
      cases single textsOf (values inside "args") with
      | none => simp
      | some arguments =>
        obtain ⟨program, list⟩ := server
        cases command <;> simp [named, eq_comm]
  · rename_i unnamed
    simp [unnamed]

/-- A value that stands once at most is the only one. -/
theorem eq_singleton {terms : List Term} {term : Term} (once : terms.length ≤ 1)
    (mem : term ∈ terms) : terms = [term] := by
  obtain ⟨only, rfl⟩ :=
    List.length_eq_one_iff.mp (Nat.le_antisymm once (List.length_pos_of_mem mem))
  rw [List.mem_singleton.mp mem]

namespace Deletion

variable (deletion : Deletion)

/-- Where keys are deleted, the keys that are left are still texts. -/
theorem named_members (named : Named members) : Named (deletion.members members) := by
  intro member mem
  obtain ⟨kept, isKept, rfl⟩ := List.mem_map.mp mem
  exact named_without named _ kept isKept

/-- A deletion inside the server's settings changes the values of their key only. -/
theorem values_map_inMember (members : List (Literal × Term)) (key : Key) :
    values (members.map deletion.inMember) key.name =
      if key = .server then (values members key.name).map deletion.inServer
      else values members key.name := by
  rw [values, values, List.filterMap_map]
  split
  · rename_i isServer
    subst isServer
    rw [List.map_filterMap]
    congr 1
    funext member
    by_cases same : member.1.text = some Key.server.name <;> simp [inMember, same]
  · rename_i other
    congr 1
    funext member
    by_cases same : member.1.text = some key.name
    · have differs : key.name ≠ Key.server.name := fun equal => other (Key.name_injective equal)
      simp [inMember, same, differs]
    · simp [inMember, same]

/-- What a deletion leaves of the values of a key. -/
theorem values_members (members : List (Literal × Term)) (key : Key) :
    values (deletion.members members) key.name =
      if key ∈ deletion.keys then []
      else if key = .server then (values members key.name).map deletion.inServer
      else values members key.name := by
  have mem : key.name ∈ deletion.keys.map Key.name ↔ key ∈ deletion.keys :=
    List.mem_map_of_injective Key.name_injective
  rw [Deletion.members, values_map_inMember, values_without]
  simp only [mem]
  split <;> split <;> rfl

/-- Server's settings that are an object without the program stand for nothing; without the
arguments, they have none. -/
theorem serverOf_inServer_object {inside : List (Literal × Term)} {server : ServerSettings}
    (means : serverOf (.object inside) = some server) :
    serverOf (deletion.inServer (.object inside)) =
      if .command ∈ deletion.serverKeys then none
      else some
        ⟨server.command, if .arguments ∈ deletion.serverKeys then [] else server.arguments⟩ := by
  obtain ⟨named, command, arguments, given, list⟩ := serverOf_object_some_iff.mp means
  have left (key : ServerKey) :
      values (without (deletion.serverKeys.map ServerKey.name) inside) key.name =
        if key ∈ deletion.serverKeys then [] else values inside key.name := by
    rw [values_without]
    simp only [List.mem_map_of_injective ServerKey.name_injective]
  have commandLeft := left .command
  have argumentsLeft := left .arguments
  simp only [ServerKey.name] at commandLeft argumentsLeft
  split
  · rename_i taken
    rw [inServer, Option.eq_none_iff_forall_ne_some]
    intro other same
    have missing := (serverOf_object_some_iff.mp same).2.1
    rw [commandLeft, if_pos taken] at missing
    cases missing
  · rename_i kept
    rw [inServer, serverOf_object_some_iff, commandLeft, if_neg kept, argumentsLeft]
    refine ⟨named_without named _, command, ?_⟩
    split
    · exact ⟨none, rfl, rfl⟩
    · exact ⟨arguments, given, list⟩

/-- After a deletion the server's settings stand for something, unless they are an object that has
lost the program. -/
theorem isSome_serverOf_inServer {term : Term} (means : (serverOf term).isSome = true) :
    (serverOf (deletion.inServer term)).isSome = true ↔
      ¬ (.command ∈ deletion.serverKeys ∧ ∃ inside, term = .object inside) := by
  obtain ⟨server, means⟩ := Option.isSome_iff_exists.mp means
  cases term with
  | object inside =>
    rw [deletion.serverOf_inServer_object means]
    split <;> simp_all
  | _ => simp [inServer, means]

/-- What is left of the server's settings says of the keys that are left what they said before. -/
theorem keeps_inServer {term : Term} {server server' : ServerSettings}
    (means : serverOf term = some server)
    (means' : serverOf (deletion.inServer term) = some server') :
    (.command ∉ deletion.serverKeys → server'.command = server.command) ∧
      (.arguments ∉ deletion.serverKeys → server'.arguments = server.arguments) := by
  cases term with
  | object inside =>
    rw [deletion.serverOf_inServer_object means] at means'
    split at means'
    · cases means'
    · obtain rfl := Option.some.inj means'
      exact ⟨fun _ => rfl, fun kept => if_neg kept⟩
  | _ =>
    obtain rfl : server = server' := Option.some.inj (means.symm.trans means')
    exact ⟨fun _ => rfl, fun _ => rfl⟩

/-- What a deletion leaves of a readable file is readable, unless it takes the program from the
server's settings. -/
theorem readable_members_iff (readable : Readable members) :
    Readable (deletion.members members) ↔ ¬ deletion.TakesProgram members := by
  have values_eq := deletion.values_members members
  constructor
  · rintro readable' ⟨kept, taken, inside, isObject⟩
    have left : values (deletion.members members) Key.server.name =
        [deletion.inServer (.object inside)] := by
      rw [values_eq, if_neg kept, if_pos rfl, isObject]
      rfl
    have means := readable.decodes .server (.object inside) (by simp [isObject])
    have means' := readable'.decodes .server _ (by rw [left]; exact List.mem_singleton_self _)
    exact (deletion.isSome_serverOf_inServer means).mp means' ⟨taken, inside, rfl⟩
  · intro intact
    refine ⟨deletion.named_members readable.named, fun key => ?_, fun key => ?_⟩
    · rw [values_eq]
      split
      · exact Nat.zero_le _
      · split
        · rw [List.length_map]
          exact readable.once key
        · exact readable.once key
    · rw [values_eq]
      split
      · simp
      · rename_i kept
        split
        · rename_i isServer
          subst isServer
          intro left mem
          obtain ⟨term, isValue, rfl⟩ := List.mem_map.mp mem
          refine (deletion.isSome_serverOf_inServer (readable.decodes .server term isValue)).mpr ?_
          rintro ⟨taken, inside, rfl⟩
          exact intact ⟨kept, taken, inside, eq_singleton (readable.once .server) isValue⟩
        · exact readable.decodes key

/-- A setting whose key is kept, and is not that of the server's settings, stays what it was. -/
theorem keeps_setting {α : Type} {meaning : Term → Option α} {standard value value' : α}
    {key : Key} (kept : key ∉ deletion.keys) (other : key ≠ .server)
    (before : Overlaid meaning standard (values members key.name) value)
    (after : Overlaid meaning standard (values (deletion.members members) key.name) value') :
    value' = value := by
  rw [values_members, if_neg kept, if_neg other] at after
  exact before.unique after

/-- What is left of the server's settings, where they are kept, says of the keys that are left what
they said before. -/
theorem keeps_server {settings settings' : Settings} (overlays : Overlays members settings)
    (overlays' : Overlays (deletion.members members) settings') (kept : .server ∉ deletion.keys) :
    (.command ∉ deletion.serverKeys → settings'.server.command = settings.server.command) ∧
      (.arguments ∉ deletion.serverKeys →
        settings'.server.arguments = settings.server.arguments) := by
  have left : values (deletion.members members) "server" =
      (values members "server").map deletion.inServer := by
    have left := deletion.values_members members .server
    rwa [if_neg kept, if_pos rfl] at left
  have before := overlays.server
  have after := overlays'.server
  rw [left] at after
  generalize values members "server" = terms, settings.server = server,
    settings'.server = server' at before after ⊢
  cases before with
  | absent =>
    have same := Overlaid.absent.unique after
    exact ⟨fun _ => congrArg _ same, fun _ => congrArg _ same⟩
  | present means =>
    cases after with
    | present means' => exact deletion.keeps_inServer means means'

/-- Settings that are read after a deletion say of every key that was kept what they said before. -/
theorem keeps_of_overlays {settings settings' : Settings} (overlays : Overlays members settings)
    (overlays' : Overlays (deletion.members members) settings') :
    deletion.Keeps settings settings' := by
  refine ⟨fun kept => (deletion.keeps_server overlays overlays' kept).1,
    fun kept => (deletion.keeps_server overlays overlays' kept).2, fun kept => ?_, fun kept => ?_,
    fun kept => ?_, fun kept => ?_⟩
  · exact deletion.keeps_setting kept (by decide) overlays.treeViews overlays'.treeViews
  · exact deletion.keeps_setting kept (by decide) overlays.extensionRoot overlays'.extensionRoot
  · exact deletion.keeps_setting kept (by decide) overlays.initTimeout overlays'.initTimeout
  · exact deletion.keeps_setting kept (by decide) overlays.requestTimeout overlays'.requestTimeout

/-! ## Loading what a deletion leaves -/

/-- What a deletion leaves of a file that loads does load, unless the server's settings have lost
the program; and whatever it is loaded as, it says of every key that was kept what it said before.
-/
theorem deleted_loads_iff {disk disk' : Disk} {path path' : Path} {text text' : String}
    {settings : Settings} (readable : disk.readText path = .ok text)
    (object : IsObject text.toList members) (loaded : load disk path = .ok settings)
    (readable' : disk'.readText path' = .ok text')
    (object' : IsObject text'.toList (deletion.members members)) :
    ((∃ settings', load disk' path' = .ok settings') ↔ ¬ deletion.TakesProgram members) ∧
      ∀ settings', load disk' path' = .ok settings' → deletion.Keeps settings settings' := by
  obtain ⟨sound, overlays⟩ := (load_ok_iff readable object settings).mp loaded
  constructor
  · rw [exists_load_iff readable' object', deletion.readable_members_iff sound]
  · intro settings' loaded'
    exact deletion.keeps_of_overlays overlays
      ((load_ok_iff readable' object' settings').mp loaded').2

/-- The key of the arguments in the server's settings. -/
def argumentsKey : Literal := .verbatim ['a', 'r', 'g', 's'] (by simp)

/-- A list of one argument. -/
def oneArgument : Term := .list [.text (.verbatim ['y'] (by simp))]

/-- The members of a file that names the program and its arguments. -/
def serverMembers : List (Literal × Term) :=
  [(serverKey, .object [(commandKey, oneProgram), (argumentsKey, oneArgument)])]

/-- A text of that file. -/
def serverText : String :=
  "\x7b\"server\":\x7b\"command\":\"x\",\"args\":[\"y\"]\x7d\x7d"

/-- The text with the server's settings spells its members. -/
theorem isObject_server : IsObject serverText.toList serverMembers := by
  have none : IsBlanks [] := isBlanks_nil
  have list : Spells (.value oneArgument) _ :=
    .list (.item (.first none) (.text _) (.noItems none))
  exact ⟨[], _, [], rfl, none, none, .object <| .member (.first none) none none
    (.object <| .member (.first none) none none (.text _) <|
      .member (.later none none) none none list (.noMembers none)) (.noMembers none)⟩

/-- The file with the server's settings loads. -/
theorem load_server : load (diskWith serverText) (Path.ofString fileName) =
    .ok { standard with server := ⟨"x", ["y"]⟩ } := by
  refine (load_ok_iff (readText_diskWith serverText) isObject_server _).mpr ⟨?_, ?_⟩
  · exact ⟨by decide, fun key => by cases key <;> decide, fun key => by cases key <;> decide⟩
  · exact ⟨.present rfl, .absent, .absent, .absent, .absent⟩

/-- A text of the same file without the arguments. -/
def programText : String := "\x7b\"server\":\x7b\"command\":\"x\"\x7d\x7d"

/-- The text without arguments spells what is left of the members. -/
theorem isObject_program :
    IsObject programText.toList (Deletion.members ⟨[], [.arguments]⟩ serverMembers) := by
  have none : IsBlanks [] := isBlanks_nil
  exact ⟨[], _, [], rfl, none, none, .object <| .member (.first none) none none
    (.object <| .member (.first none) none none (.text _) (.noMembers none)) (.noMembers none)⟩

/-- A text of the same file without the program. -/
def argumentsText : String := "\x7b\"server\":\x7b\"args\":[\"y\"]\x7d\x7d"

/-- The text without a program spells what is left of the members. -/
theorem isObject_arguments :
    IsObject argumentsText.toList (Deletion.members ⟨[], [.command]⟩ serverMembers) := by
  have none : IsBlanks [] := isBlanks_nil
  have list : Spells (.value oneArgument) _ :=
    .list (.item (.first none) (.text _) (.noItems none))
  exact ⟨[], _, [], rfl, none, none, .object <| .member (.first none) none none
    (.object <| .member (.first none) none none list (.noMembers none)) (.noMembers none)⟩

/-- The file still loads without its arguments. -/
theorem deleted_loads_iff_arguments :
    ∃ settings', load (diskWith programText) (Path.ofString fileName) = .ok settings' ∧
      Deletion.Keeps ⟨[], [.arguments]⟩ { standard with server := ⟨"x", ["y"]⟩ } settings' := by
  obtain ⟨loads, keeps⟩ := deleted_loads_iff ⟨[], [.arguments]⟩ (readText_diskWith serverText)
    isObject_server load_server (readText_diskWith programText) isObject_program
  obtain ⟨settings', loaded⟩ := loads.mpr fun taken => absurd taken.2.1 (by decide)
  exact ⟨settings', loaded, keeps settings' loaded⟩

/-- The file does not load without its program. -/
theorem deleted_program_unread :
    load (diskWith serverText) (Path.ofString fileName) =
        .ok { standard with server := ⟨"x", ["y"]⟩ } ∧
      IsObject serverText.toList serverMembers ∧
      IsObject argumentsText.toList (Deletion.members ⟨[], [.command]⟩ serverMembers) ∧
      load (diskWith argumentsText) (Path.ofString fileName) =
        .error ⟨"failed to parse .rclang.json - invalid JSON", some (.text .unsuitable)⟩ := by
  refine ⟨load_server, isObject_server, isObject_arguments, ?_⟩
  have failed : read argumentsText.toList = .error .unsuitable := rfl
  have shown : (Path.ofString fileName).display = ".rclang.json" := Utf8.display_ofString fileName
  rw [load_eq (readText_diskWith argumentsText), failed, shown]
  rfl

end Deletion

end LanguageClient.Settings
