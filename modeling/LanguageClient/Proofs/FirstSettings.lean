import LanguageClient.Proofs.NewFiles
import LanguageClient.Settings.File
import Mathlib.Data.List.Basic

/-!
# A first settings file

A first settings file is written under another name, and what stands under that name then takes
the place of the settings file. The text goes through a link that stands there, but the rename
moves the link itself. `Installed` is what a successful configuration has done; from it
`configure_delivers_iff` says when the settings file can be read, nothing else has changed and the
directory counts as configured from then on (`Delivered`).
-/

namespace LanguageClient.Settings

open Disk

/-- The settings file of a directory. -/
def fileIn (directory : Path) : Path := directory.join (Path.ofString fileName)

/-- The file of a directory under which its settings are written at first. -/
def temporaryIn (directory : Path) : Path := directory.join (Path.ofString temporaryName)

/-- The place of the settings file in a directory. -/
def settingsPlace (place : Place) : Place := place ++ [Utf8.ofString fileName]

/-- The place of the other name in a directory. -/
def temporaryPlace (place : Place) : Place := place ++ [Utf8.ofString temporaryName]

/-- The bytes of a first settings file. -/
def starterBytes : List UInt8 := Utf8.ofString starterText

/-- What is said of a directory that has a settings file. -/
def alreadyConfigured (directory : Path) : FileFailure :=
  ⟨"rclang-client is already configured in " ++ (fileIn directory).display
    ++ "\n\nTo reconfigure, remove the file, then run:\n  rclang-client config", none⟩

/-- The name of the settings file is one step of a path. -/
theorem isComponent_fileName : Path.IsComponent (Utf8.ofString fileName) :=
  ⟨by decide, by decide⟩

/-- The name of the temporary file is one step of a path. -/
theorem isComponent_temporaryName : Path.IsComponent (Utf8.ofString temporaryName) :=
  ⟨by decide, by decide⟩

/-- The name of the settings file names an entry. -/
theorem isName_fileName : IsName (Utf8.ofString fileName) := ⟨by decide, by decide, by decide⟩

/-- The name of the temporary file names an entry. -/
theorem isName_temporaryName : IsName (Utf8.ofString temporaryName) :=
  ⟨by decide, by decide, by decide⟩

variable {disk after : Disk} {directory : Path} {place : Place} {trail rest : List Place}
  {arrival : Arrival} {node : Node}

/-- The two files stand in different places. -/
theorem settingsPlace_ne_temporaryPlace : settingsPlace place ≠ temporaryPlace place := by
  intro same
  have names := List.append_cancel_left same
  exact absurd names (by decide)

/-- What is followed in a directory to its settings file. -/
theorem followShort_fileIn {followLast : Bool} :
    disk.followShort followLast (fileIn directory) = .ok arrival ↔
      (fileIn directory).Usable ∧ ∃ place before after,
        before.length + after.length ≤ maximalLinks ∧
        disk.Leads true (disk.into directory) before (.found place .directory) ∧
        disk.Leads followLast ⟨place, [Utf8.ofString fileName]⟩ after arrival :=
  followShort_join_eq_ok_iff isComponent_fileName

/-- The walk to the temporary file goes into the directory, and from there one step further. -/
theorem followShort_temporaryIn {followLast : Bool} :
    disk.followShort followLast (temporaryIn directory) = .ok arrival ↔
      (temporaryIn directory).Usable ∧ ∃ place before after,
        before.length + after.length ≤ maximalLinks ∧
        disk.Leads true (disk.into directory) before (.found place .directory) ∧
        disk.Leads followLast ⟨place, [Utf8.ofString temporaryName]⟩ after arrival :=
  followShort_join_eq_ok_iff isComponent_temporaryName

/-- What a successful configuration has done: the text went to where the other name leads, and what
stands under the other name was put in the place of the settings file, unless the two are names of
one file. -/
structure Installed (disk after : Disk) (directory : Path) (place : Place)
    (trail rest : List Place) (arrival : Arrival) (node : Node) : Prop where
  /-- The path of the settings file can be given to the system. -/
  usable : (fileIn directory).Usable
  /-- So can that of the temporary file. -/
  usableToo : (temporaryIn directory).Usable
  /-- No more links are followed than the system follows. -/
  few : trail.length + rest.length ≤ maximalLinks
  /-- The directory is reached. -/
  leads : disk.Leads true (disk.into directory) trail (.found place .directory)
  /-- From there the other name leads to where the text is written. -/
  wrote : disk.Leads true ⟨place, [Utf8.ofString temporaryName]⟩ rest arrival
  /-- The system lets the text be written there. -/
  writable : arrival.Writable
  /-- There were no settings before. -/
  absent : disk.exists? (fileIn directory) = false
  /-- What stands under the other name once the text is written. -/
  source : (disk.store arrival starterBytes).node? (temporaryPlace place) = some node
  /-- That is moved under the name of the settings file. -/
  renamed : after =
    if (disk.store arrival starterBytes).number? (temporaryPlace place) =
        (disk.store arrival starterBytes).number? (settingsPlace place) then
      disk.store arrival starterBytes
    else (disk.store arrival starterBytes).moved (temporaryPlace place) (settingsPlace place)

/-- A configuration in its steps. -/
theorem configure_eq (disk : Disk) (directory : Path) : configure disk directory =
    if disk.exists? (fileIn directory) then (disk, .error (alreadyConfigured directory))
    else
      match disk.write (temporaryIn directory) starterBytes with
      | (written, .error error) =>
        (written, .error ⟨"failed to write temporary settings file", some (.file error)⟩)
      | (written, .ok ()) =>
        match written.rename (temporaryIn directory) (fileIn directory) with
        | .error error =>
          (written, .error ⟨"failed to rename temporary settings file", some (.file error)⟩)
        | .ok renamed => (renamed, .ok (fileIn directory)) := rfl

/-- The name of the settings file leads to what stands there, if that is no link to be followed. -/
theorem leads_settingsPlace {followLast : Bool} (inside : disk.Inside place)
    (unlinked : followLast = true →
      ∀ target, disk.node? (settingsPlace place) ≠ some (.link target)) :
    disk.Leads followLast ⟨place, [Utf8.ofString fileName]⟩ []
      (disk.standing (settingsPlace place)) :=
  leads_entry inside isName_fileName unlinked

/-- The other name leads to what stands there, if that is no link to be followed. -/
theorem leads_temporaryPlace {followLast : Bool} (inside : disk.Inside place)
    (unlinked : followLast = true →
      ∀ target, disk.node? (temporaryPlace place) ≠ some (.link target)) :
    disk.Leads followLast ⟨place, [Utf8.ofString temporaryName]⟩ []
      (disk.standing (temporaryPlace place)) :=
  leads_entry inside isName_temporaryName unlinked

/-- A settings file that leads to something exists. -/
theorem exists?_fileIn {back : List Place} {there : Place} (usable : (fileIn directory).Usable)
    (leads : disk.Leads true (disk.into directory) trail (.found place .directory))
    (entry : disk.Leads true ⟨place, [Utf8.ofString fileName]⟩ back (.found there node))
    (few : trail.length + back.length ≤ maximalLinks) : disk.exists? (fileIn directory) = true :=
  exists?_iff.mpr
    ⟨there, node, followShort_fileIn.mpr ⟨usable, place, trail, back, few, leads, entry⟩⟩

/-- Where no settings file exists there is nothing under its name, or a link. -/
theorem link_of_absent (usable : (fileIn directory).Usable)
    (leads : disk.Leads true (disk.into directory) trail (.found place .directory))
    (inside : disk.Inside place) (few : trail.length ≤ maximalLinks)
    (absent : disk.exists? (fileIn directory) = false)
    (here : disk.node? (settingsPlace place) = some node) : ∃ target, node = .link target := by
  cases node with
  | link target => exact ⟨target, rfl⟩
  | _ =>
    have unlinked (target : Path) : disk.node? (settingsPlace place) ≠ some (.link target) := by
      intro link
      cases here.symm.trans link
    have entry : disk.Leads true _ _ _ := leads_settingsPlace inside fun _ => unlinked
    rw [standing_of_node? here] at entry
    have present := exists?_fileIn usable leads entry few
    exact absurd (absent.symm.trans present) Bool.false_ne_true

section Written

variable (leads : disk.Leads true (disk.into directory) trail (.found place .directory))
  (wrote : disk.Leads true ⟨place, [Utf8.ofString temporaryName]⟩ rest arrival)
  (writable : arrival.Writable)
include leads wrote writable

/-- Once the text is written the directory is found as before. -/
theorem leads_written : (disk.store arrival starterBytes).Leads true
    (disk.into directory) trail (.found place .directory) := by
  obtain ⟨here, passes⟩ := leads.passes
  have keeps := wrote.keeps_store writable starterBytes fun _ => passes.link_of_mem
  refine leads.kept keeps ?_
  rw [Arrival.place, here]
  exact keeps.directories place here

omit leads in
/-- The text was written under the other name, or that name is a link. -/
theorem source_cases : (arrival = disk.standing (temporaryPlace place) ∧ rest = [] ∧
      (disk.store arrival starterBytes).node? (temporaryPlace place) =
        some (arrival.rewritten starterBytes)) ∨
    ∃ target, disk.node? (temporaryPlace place) = some (.link target) ∧
      (disk.store arrival starterBytes).node? (temporaryPlace place) = some (.link target) := by
  have below := wrote.place_ne_root writable
  by_cases linked : ∃ target, disk.node? (temporaryPlace place) = some (.link target)
  · right
    obtain ⟨target, link⟩ := linked
    refine ⟨target, link, ?_⟩
    rw [node?_store below, if_neg, link]
    intro shares
    rw [node?_of_shares below shares, wrote.node?] at link
    exact writable.ne_link target link
  · left
    have entry : disk.Leads true _ _ _ := leads_temporaryPlace wrote.inside
      fun _ target link => linked ⟨target, link⟩
    obtain ⟨rfl, rfl⟩ := wrote.unique entry
    refine ⟨rfl, rfl, ?_⟩
    rw [node?_store below, if_pos (.inl (place_standing _ _))]

omit leads in
/-- What stands under the other name once the text is written can be moved. -/
theorem source_movable : ∃ node,
    (disk.store arrival starterBytes).node? (temporaryPlace place) = some node ∧
      node ≠ .directory := by
  rcases source_cases wrote writable with ⟨-, -, file⟩ | ⟨target, -, link⟩
  · exact ⟨_, file, (arrival.isFile_rewritten _).ne_directory⟩
  · exact ⟨_, link, nofun⟩

/-- No directory has the name of the settings file once the text is written. -/
theorem settings_ne_directory (usable : (fileIn directory).Usable)
    (few : trail.length ≤ maximalLinks) (absent : disk.exists? (fileIn directory) = false) :
    (disk.store arrival starterBytes).node? (settingsPlace place) ≠ some .directory := by
  rw [node?_store (wrote.place_ne_root writable)]
  split
  · exact fun same => (arrival.isFile_rewritten _).ne_directory (Option.some.inj same)
  · intro directory
    obtain ⟨target, link⟩ := link_of_absent usable leads wrote.inside few absent directory
    cases link

/-- If the rename succeeds, what stands under the other name has taken the place of the settings
file. -/
theorem installed_of_rename (few : trail.length + rest.length ≤ maximalLinks)
    (usable : (temporaryIn directory).Usable) (absent : disk.exists? (fileIn directory) = false)
    (renames : (disk.store arrival starterBytes).rename (temporaryIn directory)
      (fileIn directory) = .ok after) :
    ∃ node, Installed disk after directory place trail rest arrival node := by
  have there := leads_written leads wrote writable
  have keeps : disk.Keeps (disk.store arrival starterBytes) [] :=
    wrote.keeps_store writable starterBytes nofun
  have inside := keeps.inside wrote.inside
  have short : trail.length + ([] : List Place).length ≤ maximalLinks := by simp; omega
  obtain ⟨node, source, movable⟩ := source_movable wrote writable
  have came : (disk.store arrival starterBytes).followShort false (temporaryIn directory) =
      .ok (.found (temporaryPlace place) node) := by
    refine followShort_temporaryIn.mpr ⟨usable, place, trail, [], short, there, ?_⟩
    rw [← standing_of_node? source]
    exact leads_temporaryPlace inside nofun
  have usableToo : (fileIn directory).Usable := by
    refine Classical.byContradiction fun unusable => ?_
    cases failed : (disk.store arrival starterBytes).followShort false (fileIn directory) with
    | error cause =>
      obtain ⟨cause, fails⟩ := rename_of_error failed
      cases fails.symm.trans renames
    | ok arrival => exact unusable (followShort_fileIn.mp failed).1
  have cameToo : (disk.store arrival starterBytes).followShort false (fileIn directory) =
      .ok ((disk.store arrival starterBytes).standing (settingsPlace place)) :=
    followShort_fileIn.mpr ⟨usableToo, place, trail, [], short, there,
      leads_settingsPlace inside nofun⟩
  have free := settings_ne_directory leads wrote writable usableToo (by omega) absent
  have moves := rename_of_found came movable cameToo (by rwa [node?_standing])
  rw [renames, place_standing] at moves
  cases asked : (disk.store arrival starterBytes).refuses
      (.move (temporaryPlace place) (settingsPlace place)) with
  | some refusal =>
    rw [asked] at moves
    cases moves
  | none =>
    rw [asked] at moves
    exact ⟨node, usableToo, usable, few, leads, wrote, writable, absent, source,
      Except.ok.inj moves⟩

end Written

/-- A configuration fails and changes nothing, or fails and has written the text or a part of it
under the other name, or puts the settings file in its place. -/
theorem configure_cases (disk : Disk) (directory : Path) :
    (∃ failure, configure disk directory = (disk, .error failure)) ∨
    (disk.exists? (fileIn directory) = false ∧ ∃ arrival kept failure,
      disk.followShort true (temporaryIn directory) = .ok arrival ∧ disk.Opens arrival ∧
      kept <+: starterBytes ∧
        configure disk directory = (disk.store arrival kept, .error failure)) ∨
    ∃ after place trail rest arrival node,
      configure disk directory = (after, .ok (fileIn directory)) ∧
      Installed disk after directory place trail rest arrival node := by
  by_cases present : disk.exists? (fileIn directory) = true
  · left
    exact ⟨_, by rw [configure_eq, if_pos present]⟩
  have absent : disk.exists? (fileIn directory) = false := by simpa using present
  by_cases opened : ∃ arrival, disk.followShort true (temporaryIn directory) = .ok arrival ∧
      disk.Opens arrival
  case neg =>
    obtain ⟨cause, blocked⟩ := write_of_not_opens
      (fun arrival came opens => opened ⟨arrival, came, opens⟩) starterBytes
    left
    exact ⟨_, by rw [configure_eq, if_neg present, blocked]⟩
  obtain ⟨arrival, came, opens⟩ := opened
  have writes := write_of_opens came opens starterBytes
  have part := disk.fitting_prefix arrival.place starterBytes
  right
  by_cases fits : disk.fits arrival.place starterBytes = true
  case neg =>
    left
    rw [if_neg fits] at writes
    exact ⟨absent, arrival, _, _, came, opens, part, by rw [configure_eq, if_neg present, writes]⟩
  · rw [if_pos fits, fitting_eq_iff.mpr fits] at writes
    cases renames : (disk.store arrival starterBytes).rename (temporaryIn directory)
        (fileIn directory) with
    | error cause =>
      left
      refine ⟨absent, arrival, starterBytes,
        ⟨"failed to rename temporary settings file", some (.file cause)⟩, came, opens,
        List.prefix_rfl, ?_⟩
      rw [configure_eq, if_neg present, writes]
      simp only [renames]
    | ok renamed =>
      right
      obtain ⟨usable, place, trail, rest, few, leads, wrote⟩ := followShort_temporaryIn.mp came
      obtain ⟨node, installed⟩ :=
        installed_of_rename leads wrote opens.writable few usable absent renames
      refine ⟨renamed, place, trail, rest, arrival, node, ?_, installed⟩
      rw [configure_eq, if_neg present, writes]
      simp only [renames]

/-- What a first settings file is expected to be: it can be read and holds the defaults, the other
name is gone and nothing else has changed, and the directory counts as configured, however it is
spelled, as long as that takes no more links. -/
structure Delivered (disk after : Disk) (directory : Path) (place : Place) (trail : List Place) :
    Prop where
  /-- The settings file holds the standard settings byte by byte. -/
  readable : after.read (fileIn directory) = .ok starterBytes
  /-- It holds them as a text. -/
  text : after.readText (fileIn directory) = .ok starterText
  /-- They load. -/
  loaded : load after (fileIn directory) = .ok standard
  /-- Nothing is left under the other name. -/
  gone : after.node? (temporaryPlace place) = none
  /-- All other entries of directories are as they were. -/
  others : ∀ other, other ≠ settingsPlace place → other ≠ temporaryPlace place →
    after.node? other = disk.node? other
  /-- Settings are not written a second time. -/
  again : configure after directory = (after, .error (alreadyConfigured directory))
  /-- The settings of other directories are as they were. -/
  elsewhere : ∀ other back, (fileIn other).Usable → back.length ≤ trail.length →
    after.Leads true (after.into other) back (.found place .directory) →
    configure after other = (after, .error (alreadyConfigured other))

/-- Whether a text that is written under the other name of a settings file does no harm. -/
inductive Harmless (disk : Disk) (directory : Path) (place : Place) : Prop
  /-- The text is read under that name already. -/
  | same (reads : disk.read (temporaryIn directory) = .ok starterBytes)
  /-- Nothing has the name, or a file that has no other one, and what is written can be read. -/
  | own
    (plain : ∀ node, disk.node? (temporaryPlace place) = some node → ∃ bytes, node = .file bytes)
    (single : ∀ other, disk.Shares (temporaryPlace place) other → temporaryPlace place = other)
    (allowed : disk.refuses (.read (disk.numberFor (temporaryPlace place))) = none)

/-- Whether the text goes to a new file that is looked at on the way to the settings file. -/
def Exposed (disk : Disk) (directory : Path) : Prop :=
  ∃ place, disk.followShort true (temporaryIn directory) = .ok (.missing place) ∧
    disk.LooksAt (fileIn directory) place

namespace Installed

variable (installed : Installed disk after directory place trail rest arrival node)
include installed

/-- The way to the directory takes no more links than a path may. -/
theorem few_links : trail.length ≤ maximalLinks := Nat.le_of_add_right_le installed.few

/-- Only a link can have had the name of the settings file. -/
theorem link_of_settings {found : Node}
    (here : disk.node? (settingsPlace place) = some found) : ∃ target, found = .link target :=
  link_of_absent installed.usable installed.leads installed.wrote.inside installed.few_links
    installed.absent here

/-- The text was not written to the settings file if something was found there. -/
theorem place_ne_settingsPlace (found : arrival.node? ≠ none) :
    arrival.place ≠ settingsPlace place := by
  intro same
  have here := installed.wrote.node?
  obtain ⟨node, stands⟩ := Option.ne_none_iff_exists'.mp found
  rw [same, stands] at here
  obtain ⟨target, rfl⟩ := installed.link_of_settings here
  exact installed.writable.ne_link target stands

/-- The text was not written over a link. -/
theorem place_ne_of_link {there : Place} {target : Path}
    (link : disk.node? there = some (.link target)) : arrival.place ≠ there := by
  intro same
  have here := installed.wrote.node?
  rw [same, link] at here
  exact installed.writable.ne_link target here.symm

/-- Something was found if the other name is no link to a place where nothing stood. -/
theorem wrote_of_read {there : Place} {found : Node}
    (came : disk.followShort true (temporaryIn directory) = .ok (.found there found)) :
    arrival = .found there found := by
  obtain ⟨-, placeToo, before, back, -, leads, wrote⟩ := followShort_temporaryIn.mp came
  obtain ⟨-, same⟩ := installed.leads.unique leads
  obtain rfl : place = placeToo := congrArg Arrival.place same
  exact (installed.wrote.unique wrote).2

/-- If the text was harmless, it can be read where it was written, and a link under the other name
led to something. -/
theorem reads_of_harmless (harmless : Harmless disk directory place) :
    (∀ target, disk.node? (temporaryPlace place) = some (.link target) → arrival.node? ≠ none) ∧
      (arrival.rewritten starterBytes).bytes? = some starterBytes ∧
      disk.refuses (.read (disk.numberFor arrival.place)) = none := by
  cases harmless with
  | same reads =>
    obtain ⟨there, found, came, holds, readable⟩ := read_eq_ok_iff.mp reads
    obtain rfl := installed.wrote_of_read came
    have below := installed.wrote.place_ne_root installed.writable
    refine ⟨fun _ _ => nofun, ?_, (readable_iff below installed.wrote.node?).mp readable⟩
    rw [rewritten_of_bytes? holds, holds]
  | own plain single allowed =>
    have unlinked (target : Path) : disk.node? (temporaryPlace place) ≠ some (.link target) := by
      intro link
      obtain ⟨bytes, impossible⟩ := plain _ link
      cases impossible
    refine ⟨fun target link => absurd link (unlinked target), ?_⟩
    obtain ⟨rfl, -, -⟩ | ⟨target, link, -⟩ := source_cases installed.wrote installed.writable
    · rw [place_standing]
      refine ⟨?_, allowed⟩
      unfold standing
      cases here : disk.node? (temporaryPlace place) with
      | none => rfl
      | some found =>
        obtain ⟨bytes, rfl⟩ := plain found here
        rfl
    · exact absurd link (unlinked target)

/-- The text is under the name of the settings file only if it was written there. -/
theorem place_eq_of_shares (shares : disk.Shares arrival.place (settingsPlace place)) :
    arrival.place = settingsPlace place := by
  have below := installed.wrote.place_ne_root installed.writable
  have here := installed.wrote.node?
  cases stands : arrival.node? with
  | none => exact (shares_iff_of_absent below (here.trans stands) _).mp shares
  | some found =>
    have same := (node?_of_shares below shares).trans (here.trans stands)
    obtain ⟨target, rfl⟩ := installed.link_of_settings same
    exact absurd stands (installed.writable.ne_link target)

/-- If the other name was a link, the text is behind it. -/
theorem wrote_of_link {target : Path}
    (link : disk.node? (temporaryPlace place) = some (.link target)) :
    node = .link target ∧ target.bytes ≠ [] ∧ ∃ inner, rest = temporaryPlace place :: inner ∧
      disk.Leads true ⟨origin place target, target.steps⟩ inner arrival := by
  obtain ⟨filled, inner, whole, leads⟩ :=
    (leads_link_iff installed.wrote.inside isName_temporaryName link).mp installed.wrote
  refine ⟨?_, filled, inner, whole, leads⟩
  rcases source_cases installed.wrote installed.writable with
    ⟨same, -, -⟩ | ⟨other, same, source⟩
  · exact absurd (by rw [same, place_standing]) (installed.place_ne_of_link link)
  · have one : some node = some (.link other) := installed.source.symm.trans source
    have two : some (Node.link other) = some (.link target) := same.symm.trans link
    exact Option.some.inj (one.trans two)

/-- If the two names are of one file, that is a link to a place where nothing stood. -/
theorem not_harmless_of_joined
    (joined : (disk.store arrival starterBytes).number? (temporaryPlace place) =
      (disk.store arrival starterBytes).number? (settingsPlace place)) :
    ¬ Harmless disk directory place := by
  intro harmless
  have below := installed.wrote.place_ne_root installed.writable
  have settings : (disk.store arrival starterBytes).node? (settingsPlace place) = some node := by
    have source := installed.source
    rw [Disk.node?, if_neg (by simp [temporaryPlace])] at source
    rw [Disk.node?, if_neg (by simp [settingsPlace]), ← joined, source]
  rw [node?_store below] at settings
  rcases source_cases installed.wrote installed.writable with
    ⟨same, -, source⟩ | ⟨target, link, -⟩
  · obtain rfl := Option.some.inj (installed.source.symm.trans source)
    have apart : arrival.place ≠ settingsPlace place := by
      rw [same, place_standing]
      exact settingsPlace_ne_temporaryPlace.symm
    rw [if_neg fun shares => apart (installed.place_eq_of_shares shares)] at settings
    obtain ⟨target, impossible⟩ := installed.link_of_settings settings
    exact (arrival.isFile_rewritten starterBytes).ne_link target impossible
  · obtain ⟨rfl, filled, inner, rfl, leads⟩ := installed.wrote_of_link link
    split at settings
    · exact (arrival.isFile_rewritten starterBytes).ne_link target (Option.some.inj settings)
    -- The settings file was a link like the other name, and that led to something.
    have entry := (leads_link_iff installed.wrote.inside isName_fileName settings).mpr
      ⟨filled, inner, rfl, leads⟩
    have found := (installed.reads_of_harmless harmless).1 target link
    cases arrival with
    | missing there => exact found rfl
    | found there file =>
      have present := exists?_fileIn installed.usable installed.leads entry
        (by simpa using installed.few)
      exact absurd (installed.absent.symm.trans present) Bool.false_ne_true

/-- The other name leads to no directory, so no path to a directory leads through it. -/
theorem temporary_not_mem {first : Waypoint} {front : List Place} {there : Place}
    (leads : disk.Leads true first front (.found there .directory)) :
    temporaryPlace place ∉ front := by
  intro member
  have blocked (there : Place) (back : List Place)
      (entry : disk.Leads true ⟨place, [Utf8.ofString temporaryName]⟩ back
        (.found there .directory)) : False := by
    obtain ⟨-, same⟩ := installed.wrote.unique entry
    exact installed.writable.ne_directory (by rw [same]; rfl)
  obtain ⟨back, -, entry | ⟨above, entry⟩⟩ := leads.entry_of_mem member
  · exact blocked _ back entry
  · exact blocked _ back entry

/-- Nor does the way on which the text was written lead through the other name again. -/
theorem temporary_not_again {first : Waypoint} {inner : List Place}
    (leads : disk.Leads true first inner arrival) (shorter : inner.length < rest.length) :
    temporaryPlace place ∉ inner := by
  intro member
  obtain ⟨back, few, entry | ⟨above, entry⟩⟩ := leads.entry_of_mem member
  · obtain ⟨same, -⟩ := installed.wrote.unique entry
    rw [same] at shorter
    exact absurd few (Nat.not_le.mpr shorter)
  · obtain ⟨-, same⟩ := installed.wrote.unique entry
    exact installed.writable.ne_directory (by rw [same]; rfl)

/-- Nor does it lead through the settings file, if something was found at its end: that would have
shown that the file exists. -/
theorem settings_not_again {first : Waypoint} {inner : List Place}
    (found : arrival.node? ≠ none) (leads : disk.Leads true first inner arrival)
    (few : trail.length + inner.length ≤ maximalLinks) : settingsPlace place ∉ inner := by
  intro member
  cases arrival with
  | missing there => exact found rfl
  | found there file =>
    have present : disk.exists? (fileIn directory) = true := by
      obtain ⟨back, fewer, entry | ⟨above, entry⟩⟩ := leads.entry_of_mem member
      · exact exists?_fileIn installed.usable installed.leads entry (by omega)
      · exact exists?_fileIn installed.usable installed.leads entry (by omega)
    exact absurd (installed.absent.symm.trans present) Bool.false_ne_true

section Moved

variable (moved : after =
  (disk.store arrival starterBytes).moved (temporaryPlace place) (settingsPlace place))
include moved

omit installed in
/-- Paths are looked for from where they were. -/
theorem into_after (other : Path) : after.into other = disk.into other := by
  rw [moved]
  rfl

/-- What stands where after the configuration. -/
theorem node?_after (other : Place) : after.node? other =
    if settingsPlace place = other then some node
    else if temporaryPlace place = other then none
    else if disk.Shares arrival.place other then some (arrival.rewritten starterBytes)
    else disk.node? other := by
  have below := installed.wrote.place_ne_root installed.writable
  rw [moved, node?_moved (by simp [temporaryPlace]) (by simp [settingsPlace]) installed.source,
    node?_store below]

/-- The number that the text has after the configuration. -/
theorem number?_after {there : Place}
    (ends : there = arrival.place ∧ there ≠ settingsPlace place ∧ there ≠ temporaryPlace place ∨
      there = settingsPlace place ∧ arrival.place = temporaryPlace place) :
    after.number? there = some (disk.numberFor arrival.place) := by
  have below := installed.wrote.place_ne_root installed.writable
  obtain ⟨number, numbered, -⟩ :=
    (node?_eq_some_iff (by simp [temporaryPlace])).mp installed.source
  rw [moved, number?_moved numbered (by simp [settingsPlace])]
  rcases ends with ⟨rfl, notSettings, notTemporary⟩ | ⟨rfl, here⟩
  · rw [if_neg notSettings.symm, if_neg notTemporary.symm, number?_store below, if_pos rfl]
  · rw [if_pos rfl, ← numbered, number?_store below, if_pos here]

/-- The directories are as they were, and so are the links that lead through neither name. -/
theorem keeps {other : List Place}
    (linked : ∀ place ∈ other, ∃ target, disk.node? place = some (.link target))
    (apart : settingsPlace place ∉ other) (apartToo : temporaryPlace place ∉ other) :
    disk.Keeps after other := by
  have below := installed.wrote.place_ne_root installed.writable
  have here := installed.wrote.node?
  refine ⟨?_, ?_, by rw [moved]; rfl⟩
  · intro standing directory
    rw [installed.node?_after moved, if_neg, if_neg, if_neg]
    · exact directory
    · intro shares
      rw [node?_of_shares below shares, here] at directory
      exact installed.writable.ne_directory directory
    · rintro rfl
      rcases source_cases installed.wrote installed.writable with ⟨same, -, -⟩ | ⟨target, link, -⟩
      · exact installed.writable.ne_directory (by rw [same, node?_standing, directory])
      · cases link.symm.trans directory
    · rintro rfl
      obtain ⟨target, link⟩ := installed.link_of_settings directory
      cases link
  · intro standing member
    rw [installed.node?_after moved, if_neg, if_neg, if_neg]
    · intro shares
      obtain ⟨target, link⟩ := linked _ member
      rw [node?_of_shares below shares, here] at link
      exact installed.writable.ne_link target link
    · rintro rfl
      exact apartToo member
    · rintro rfl
      exact apart member

/-- The directory is found as before if its path does not lead through the settings file. -/
theorem leads_after (apart : settingsPlace place ∉ trail) :
    after.Leads true (after.into directory) trail (.found place .directory) := by
  obtain ⟨here, passes⟩ := installed.leads.passes
  have keeps := installed.keeps moved (fun _ => passes.link_of_mem) apart
    (installed.temporary_not_mem installed.leads)
  rw [into_after moved]
  refine installed.leads.kept keeps ?_
  rw [Arrival.place, here]
  exact keeps.directories place here

/-- Names can be looked for in the directory as before. -/
theorem inside_after : after.Inside place := by
  have keeps : disk.Keeps after [] :=
    installed.keeps moved nofun List.not_mem_nil List.not_mem_nil
  exact keeps.inside installed.wrote.inside

/-- The settings file leads to the text, through as many links as the other name did, unless that
was a link to a place where nothing stood. -/
theorem leads_to_text
    (found : ∀ target, disk.node? (temporaryPlace place) = some (.link target) →
      arrival.node? ≠ none) :
    ∃ there back, back.length = rest.length ∧
      after.Leads true ⟨place, [Utf8.ofString fileName]⟩ back
        (.found there (arrival.rewritten starterBytes)) ∧
      after.number? there = some (disk.numberFor arrival.place) := by
  have inside := installed.inside_after moved
  have settings : after.node? (settingsPlace place) = some node := by
    rw [installed.node?_after moved, if_pos rfl]
  rcases source_cases installed.wrote installed.writable with
    ⟨same, rfl, source⟩ | ⟨target, link, -⟩
  · have here : arrival.place = temporaryPlace place := by rw [same, place_standing]
    obtain rfl := Option.some.inj (installed.source.symm.trans source)
    refine ⟨settingsPlace place, [], rfl, ?_, installed.number?_after moved (.inr ⟨rfl, here⟩)⟩
    have unlinked (target : Path) : after.node? (settingsPlace place) ≠ some (.link target) := by
      intro link
      have impossible := Option.some.inj (settings.symm.trans link)
      exact (arrival.isFile_rewritten starterBytes).ne_link target impossible
    have entry : after.Leads true _ _ _ := leads_settingsPlace inside fun _ => unlinked
    rwa [standing_of_node? settings] at entry
  · obtain ⟨rfl, filled, inner, rfl, leads⟩ := installed.wrote_of_link link
    have stands := found target link
    have few := installed.few
    rw [List.length_cons] at few
    have apart := installed.settings_not_again stands leads (by omega)
    have apartToo := installed.temporary_not_again leads (by simp)
    have notSettings := installed.place_ne_settingsPlace stands
    have notTemporary := installed.place_ne_of_link link
    have there : after.node? arrival.place = some (arrival.rewritten starterBytes) := by
      rw [installed.node?_after moved, if_neg notSettings.symm, if_neg notTemporary.symm,
        if_pos (.inl rfl)]
    have linked (standing : Place) (member : standing ∈ inner) :
        ∃ target, disk.node? standing = some (.link target) := by
      obtain ⟨last, passes, -⟩ := leads
      exact passes.link_of_mem member
    refine ⟨arrival.place, settingsPlace place :: inner, rfl, ?_,
      installed.number?_after moved (.inl ⟨rfl, notSettings, notTemporary⟩)⟩
    exact (leads_link_iff inside isName_fileName settings).mpr ⟨filled, inner, rfl,
      leads.rewritten (installed.keeps moved linked apart apartToo)
        installed.writable.ne_directory there (arrival.isFile_rewritten starterBytes)⟩

/-- Every path to the directory with no more links finds in the settings file what was written, if
the system lets that be read. -/
theorem read_after_iff {bytes : List UInt8}
    (found : ∀ target, disk.node? (temporaryPlace place) = some (.link target) →
      arrival.node? ≠ none)
    {other : Path} {back : List Place} (usable : (fileIn other).Usable)
    (few : back.length ≤ trail.length)
    (leads : after.Leads true (after.into other) back (.found place .directory)) :
    after.read (fileIn other) = .ok bytes ↔
      (arrival.rewritten starterBytes).bytes? = some bytes ∧
        disk.refuses (.read (disk.numberFor arrival.place)) = none := by
  obtain ⟨there, further, same, entry, numbered⟩ := installed.leads_to_text moved found
  have links := installed.few
  have came : after.followShort true (fileIn other) =
      .ok (.found there (arrival.rewritten starterBytes)) :=
    followShort_fileIn.mpr ⟨usable, place, back, further, by omega, leads, entry⟩
  have refuses : after.refuses = disk.refuses := by rw [moved]; rfl
  rw [read_eq_ok_iff, came, ← refuses]
  constructor
  · rintro ⟨_, _, ⟨⟩, holds, readable⟩
    exact ⟨holds, readable _ numbered⟩
  · rintro ⟨holds, allowed⟩
    refine ⟨_, _, rfl, holds, ?_⟩
    intro number own
    cases numbered.symm.trans own
    exact allowed

end Moved

end Installed

/-- A text that was read from a settings file shows that the directory is configured. -/
theorem configure_of_read {bytes : List UInt8} (reads : disk.read (fileIn directory) = .ok bytes) :
    configure disk directory = (disk, .error (alreadyConfigured directory)) := by
  obtain ⟨there, found, came, -⟩ := read_eq_ok_iff.mp reads
  rw [configure_eq, if_pos (exists?_iff.mpr ⟨_, _, came⟩)]

/-- The first settings file holds the defaults. -/
theorem read_starterText : read starterText.toList = .ok standard := by
  decide +kernel

/-- Settings that are read from a first settings file are the defaults. -/
theorem load_of_read (reads : disk.read (fileIn directory) = .ok starterBytes) :
    load disk (fileIn directory) = .ok standard := by
  obtain ⟨there, found, came, -⟩ := read_eq_ok_iff.mp reads
  have present : disk.exists? (fileIn directory) = true := exists?_iff.mpr ⟨_, _, came⟩
  unfold load
  rw [present, readText_of_read reads]
  simp only [read_starterText, Bool.not_true, Bool.false_eq_true, if_false]
  rfl

namespace Installed

variable (installed : Installed disk after directory place trail rest arrival node)
  (moved : after =
    (disk.store arrival starterBytes).moved (temporaryPlace place) (settingsPlace place))
include installed moved

/-- A harmless configuration does what it should, unless the path of the directory leads through
the settings file. -/
theorem delivered (harmless : Harmless disk directory place)
    (apart : settingsPlace place ∉ trail) : Delivered disk after directory place trail := by
  obtain ⟨found, holds, allowed⟩ := installed.reads_of_harmless harmless
  have reads (other : Path) (back : List Place) (usable : (fileIn other).Usable)
      (few : back.length ≤ trail.length)
      (leads : after.Leads true (after.into other) back (.found place .directory)) :
      after.read (fileIn other) = .ok starterBytes :=
    (installed.read_after_iff moved found usable few leads).mpr ⟨holds, allowed⟩
  have here := reads directory trail installed.usable (Nat.le_refl _)
    (installed.leads_after moved apart)
  refine ⟨here, readText_of_read here, load_of_read here, ?_, ?_, configure_of_read here, ?_⟩
  · rw [installed.node?_after moved, if_neg settingsPlace_ne_temporaryPlace, if_pos rfl]
  · intro other notSettings notTemporary
    rw [installed.node?_after moved, if_neg (Ne.symm notSettings), if_neg (Ne.symm notTemporary)]
    split
    case isFalse => rfl
    rename_i shares
    have below := installed.wrote.place_ne_root installed.writable
    cases harmless with
    | same text =>
      obtain ⟨there, file, came, whole, -⟩ := read_eq_ok_iff.mp text
      obtain rfl := installed.wrote_of_read came
      rw [node?_of_shares below shares, installed.wrote.node?, rewritten_of_bytes? whole]
      rfl
    | own plain single =>
      rcases source_cases installed.wrote installed.writable with
        ⟨same, -, -⟩ | ⟨target, link, -⟩
      · rw [same, place_standing] at shares
        exact absurd (single other shares).symm notTemporary
      · obtain ⟨bytes, impossible⟩ := plain _ link
        cases impossible
  · intro other back usable few leads
    exact configure_of_read (reads other back usable few leads)

/-- If the settings file can be read, the path of the directory does not lead through it. -/
theorem apart_of_readable {bytes : List UInt8}
    (found : ∀ target, disk.node? (temporaryPlace place) = some (.link target) →
      arrival.node? ≠ none)
    (readable : after.read (fileIn directory) = .ok bytes) : settingsPlace place ∉ trail := by
  intro member
  obtain ⟨-, passes⟩ := installed.leads.passes
  -- Up to the link the path leads as before; behind it, it needs a directory.
  obtain ⟨before, above, step, left, whole, fresh, comes, among⟩ := passes.before_link member
  obtain ⟨rfl, same⟩ := List.append_inj' whole rfl
  obtain rfl : Utf8.ofString fileName = step := List.head_eq_of_cons_eq same
  have notTemporary : temporaryPlace place ∉ before :=
    fun passed => installed.temporary_not_mem installed.leads (among passed)
  have comesAfter := comes.kept
    (installed.keeps moved (fun _ => comes.link_of_mem) fresh notTemporary)
  rw [← into_after moved directory] at comesAfter
  obtain ⟨there, file, came, -⟩ := read_eq_ok_iff.mp readable
  obtain ⟨-, placeToo, whole, rest, -, leads, entry⟩ := followShort_fileIn.mp came
  obtain ⟨back, rfl, onwards⟩ := comesAfter.leads_rest leads
  obtain ⟨text, links, -, written, -⟩ := installed.leads_to_text moved found
  have isFile := arrival.isFile_rewritten starterBytes
  have other (above : Place) (front : List Place)
      (directory : after.Leads true ⟨place, [Utf8.ofString fileName]⟩ front
        (.found above .directory)) : False := by
    obtain ⟨-, same⟩ := directory.unique written
    exact isFile.ne_directory (congrArg Arrival.node? same.symm |> Option.some.inj)
  by_cases last : left = []
  · subst last
    exact other _ _ onwards
  · obtain ⟨above, front, -, directory⟩ := onwards.front last
    exact other _ _ directory

/-- A link that was to become the settings file did not lead to that file: the file would lead to
itself. -/
theorem not_looped {bytes : List UInt8} (readable : after.read (fileIn directory) = .ok bytes)
    {target : Path} (link : disk.node? (temporaryPlace place) = some (.link target))
    (absent : arrival.node? = none) : arrival.place ≠ settingsPlace place := by
  intro looped
  have there := installed.wrote.node?
  have free : disk.node? (settingsPlace place) = none := by rw [← looped, there, absent]
  have unlinked {first second : Waypoint} {links : List Place}
      (passes : disk.Passes true first links second) : settingsPlace place ∉ links := by
    intro member
    obtain ⟨target, link⟩ := passes.link_of_mem member
    cases free.symm.trans link
  obtain ⟨rfl, filled, inner, rfl, leads⟩ := installed.wrote_of_link link
  have apartToo := installed.temporary_not_again leads (by simp)
  obtain ⟨last, passes, stops⟩ := leads
  -- The way ends at the missing settings file, so it ends where the settings file is looked for.
  obtain rfl : last = ⟨place, [Utf8.ofString fileName]⟩ := by
    cases stops with
    | missing above step inside isName absent =>
      obtain ⟨rfl, same⟩ := List.append_inj' looped rfl
      rw [same]
    | _ => cases absent
  have passesAfter := passes.kept
    (installed.keeps moved (fun _ => passes.link_of_mem) (unlinked passes) apartToo)
  have settings : after.node? (settingsPlace place) = some (.link target) := by
    rw [installed.node?_after moved, if_pos rfl]
  have moves : after.Moves true _ _ _ := Moves.link place (Utf8.ofString fileName) [] target
    (installed.inside_after moved) isName_fileName settings (fun _ => rfl) filled
  rw [List.append_nil] at moves
  have loop := Passes.move moves passesAfter
  obtain ⟨there, file, came, -⟩ := read_eq_ok_iff.mp readable
  obtain ⟨-, placeToo, before, back, -, leads, entry⟩ := followShort_fileIn.mp came
  have outer := installed.leads_after moved (unlinked installed.leads.passes.2)
  obtain ⟨-, same⟩ := outer.unique leads
  obtain rfl : place = placeToo := congrArg Arrival.place same
  obtain ⟨again, rfl, entryAgain⟩ := loop.leads_rest entry
  obtain ⟨same, -⟩ := entry.unique entryAgain
  have lengths := congrArg List.length same
  simp only [List.length_append, List.length_singleton] at lengths
  omega

omit moved in
/-- If the text stood already where it was written, and can be read there, it is read under the
other name. -/
theorem read_of_stands {found : Node} (stands : arrival.node? = some found)
    (text : found.bytes? = some starterBytes)
    (allowed : disk.refuses (.read (disk.numberFor arrival.place)) = none) :
    disk.read (temporaryIn directory) = .ok starterBytes := by
  have here := installed.wrote.node?
  have below := installed.wrote.place_ne_root installed.writable
  have came : disk.followShort true (temporaryIn directory) = .ok arrival :=
    followShort_temporaryIn.mpr
      ⟨installed.usableToo, place, trail, rest, installed.few, installed.leads, installed.wrote⟩
  cases arrival with
  | missing there => cases stands
  | found there node =>
    cases stands
    exact read_eq_ok_iff.mpr ⟨there, _, came, text, (readable_iff below here).mpr allowed⟩

omit moved in
/-- A text that can be read where it was written, and that has changed nothing under a third name,
was harmless. -/
theorem harmless_of_unchanged
    (found : ∀ target, disk.node? (temporaryPlace place) = some (.link target) →
      arrival.node? ≠ none)
    (unchanged : ∀ other, disk.Shares arrival.place other → other ≠ settingsPlace place →
      other ≠ temporaryPlace place → arrival.node? = some (arrival.rewritten starterBytes))
    (holds : (arrival.rewritten starterBytes).bytes? = some starterBytes)
    (allowed : disk.refuses (.read (disk.numberFor arrival.place)) = none) :
    Harmless disk directory place := by
  have here := installed.wrote.node?
  by_cases text : ∃ found, arrival.node? = some found ∧ found.bytes? = some starterBytes
  · obtain ⟨found, stands, text⟩ := text
    exact .same (installed.read_of_stands stands text allowed)
  have changed : arrival.node? ≠ some (arrival.rewritten starterBytes) :=
    fun same => text ⟨_, same, holds⟩
  rcases source_cases installed.wrote installed.writable with ⟨same, -, -⟩ | ⟨target, link, -⟩
  · have there : arrival.place = temporaryPlace place := by rw [same, place_standing]
    rw [there] at here allowed unchanged
    refine .own ?_ ?_ allowed
    · intro standing stands
      have written := here.symm.trans stands
      cases arrival with
      | missing there => cases written
      | found there own =>
        obtain rfl : own = standing := Option.some.inj written
        cases own with
        | file bytes => exact ⟨bytes, rfl⟩
        | device bytes => exact absurd rfl changed
        | directory => exact absurd rfl installed.writable.ne_directory
        | link target => exact absurd rfl (installed.writable.ne_link target)
    · intro other shares
      refine Classical.byContradiction fun apart => ?_
      refine changed (unchanged other shares ?_ (Ne.symm apart))
      rintro rfl
      rw [← there] at shares
      exact settingsPlace_ne_temporaryPlace
        ((installed.place_eq_of_shares shares).symm.trans there)
  · have notSettings := installed.place_ne_settingsPlace (found target link)
    exact absurd (unchanged _ (.inl rfl) notSettings (installed.place_ne_of_link link)) changed

/-- If nothing but the two names has changed and the settings file can be read, the configuration
was harmless, and the path of the directory does not lead through the settings file. -/
theorem harmless_of_delivered (delivered : Delivered disk after directory place trail) :
    settingsPlace place ∉ trail ∧ Harmless disk directory place := by
  have here := installed.wrote.node?
  have below := installed.wrote.place_ne_root installed.writable
  have unchanged (other : Place) (shares : disk.Shares arrival.place other)
      (notSettings : other ≠ settingsPlace place) (notTemporary : other ≠ temporaryPlace place) :
      arrival.node? = some (arrival.rewritten starterBytes) := by
    have kept := delivered.others other notSettings notTemporary
    rw [installed.node?_after moved, if_neg notSettings.symm, if_neg notTemporary.symm,
      if_pos shares, node?_of_shares below shares, here] at kept
    exact kept.symm
  have found (target : Path) (link : disk.node? (temporaryPlace place) = some (.link target)) :
      arrival.node? ≠ none := by
    intro absent
    have notSettings := installed.not_looped moved delivered.readable link absent
    have kept := unchanged _ (.inl rfl) notSettings (installed.place_ne_of_link link)
    cases absent.symm.trans kept
  have apart := installed.apart_of_readable moved found delivered.readable
  obtain ⟨holds, allowed⟩ := (installed.read_after_iff moved found installed.usable
    (Nat.le_refl _) (installed.leads_after moved apart)).mp delivered.readable
  exact ⟨apart, installed.harmless_of_unchanged found unchanged holds allowed⟩

end Installed

/-- A configuration that succeeds delivers the settings file if and only if it was harmless, and the
path of the directory does not lead through the name of the settings file. -/
theorem Installed.delivered_iff
    (installed : Installed disk after directory place trail rest arrival node) :
    Delivered disk after directory place trail ↔
      settingsPlace place ∉ trail ∧ Harmless disk directory place := by
  by_cases joined : (disk.store arrival starterBytes).number? (temporaryPlace place) =
      (disk.store arrival starterBytes).number? (settingsPlace place)
  · -- The rename has left both names where they were.
    have same := installed.renamed
    rw [if_pos joined] at same
    refine iff_of_false ?_ fun both => installed.not_harmless_of_joined joined both.2
    intro delivered
    have gone := delivered.gone
    rw [same, installed.source] at gone
    cases gone
  · have moved := installed.renamed
    rw [if_neg joined] at moved
    constructor
    · exact installed.harmless_of_delivered moved
    · rintro ⟨apart, harmless⟩
      exact installed.delivered moved harmless apart

/-- A configuration that fails has not changed what is read of the settings file, and what is loaded
from it, unless the text went to a new file that is looked at on the way to it. -/
theorem read_of_failed {kept : List UInt8} (absent : disk.exists? (fileIn directory) = false)
    (came : disk.followShort true (temporaryIn directory) = .ok arrival)
    (opens : disk.Opens arrival) :
    ((disk.store arrival kept).read (fileIn directory) = disk.read (fileIn directory) ↔
      ¬ Exposed disk directory) ∧
    (¬ Exposed disk directory →
      load (disk.store arrival kept) (fileIn directory) = load disk (fileIn directory)) := by
  have exposed : Exposed disk directory ↔
      arrival.node? = none ∧ disk.LooksAt (fileIn directory) arrival.place := by
    unfold Exposed
    rw [came]
    constructor
    · rintro ⟨there, ⟨⟩, looks⟩
      exact ⟨rfl, looks⟩
    · rintro ⟨new, looks⟩
      cases arrival with
      | missing there => exact ⟨there, rfl, looks⟩
      | found => cases new
  rw [exposed]
  have reads :
      (disk.store arrival kept).read (fileIn directory) = disk.read (fileIn directory) ↔ _ :=
    read_store_eq_iff came opens.writable absent
  refine ⟨reads, fun unseen => ?_⟩
  have same : (disk.store arrival kept).followShort true (fileIn directory) = _ :=
    followShort_store_of_absent came opens.writable absent unseen
  unfold load readText exists?
  rw [same, reads.mpr unseen]

/-- A first settings file is delivered as promised if and only if the path of its directory does
not lead through the name of the settings file, and the text does no harm under the other name. A
configuration that fails changes nothing, or leaves the text or a part of it where the other name
leads; then the settings file gives what it gave before if and only if that is no new file which is
looked at on the way to it. -/
theorem configure_delivers_iff (disk : Disk) (directory : Path) :
    (∀ after path, configure disk directory = (after, .ok path) →
      path = fileIn directory ∧ ∃ place trail, trail.length ≤ maximalLinks ∧
        disk.Leads true (disk.into directory) trail (.found place .directory) ∧
        (Delivered disk after directory place trail ↔
          settingsPlace place ∉ trail ∧ Harmless disk directory place)) ∧
    ∀ after failure, configure disk directory = (after, .error failure) →
      after = disk ∨ (∃ arrival kept,
        disk.followShort true (temporaryIn directory) = .ok arrival ∧ disk.Opens arrival ∧
        kept <+: starterBytes ∧ after = disk.store arrival kept) ∧
      (after.read (fileIn directory) = disk.read (fileIn directory) ↔
        ¬ Exposed disk directory) ∧
      (¬ Exposed disk directory →
        load after (fileIn directory) = load disk (fileIn directory)) := by
  rcases configure_cases disk directory with ⟨failure, fails⟩ |
    ⟨absent, arrival, kept, failure, came, opens, part, fails⟩ |
    ⟨renamed, place, trail, rest, arrival, node, succeeds, installed⟩
  · rw [fails]
    constructor
    · intro after path succeeded
      cases succeeded
    · rintro after _ ⟨⟩
      exact .inl rfl
  · rw [fails]
    constructor
    · intro after path succeeded
      cases succeeded
    · rintro after _ ⟨⟩
      exact .inr ⟨⟨arrival, kept, came, opens, part, rfl⟩, read_of_failed absent came opens⟩
  · rw [succeeds]
    constructor
    · rintro after _ ⟨⟩
      exact ⟨rfl, place, trail, installed.few_links, installed.leads, installed.delivered_iff⟩
    · intro after failure failed
      cases failed

/-- The directory that a program works in. -/
def workspace : Place := [Utf8.ofString "w"]

/-- The path of the directory that a program works in. -/
def currentDirectory : Path := Path.ofString "."

/-- A directory whose settings file is a link to nothing. -/
def dangling : Disk where
  numbers := ⟨[(workspace, 0), (settingsPlace workspace, 1)]⟩
  content
    | 1 => .link (Path.ofString "none")
    | _ => .directory
  workingDirectory := workspace

/-- A link to nothing makes way for the first settings file. -/
theorem configure_delivers_iff_dangling :
    (configure dangling currentDirectory).2 = .ok (fileIn currentDirectory) ∧
      Delivered dangling (configure dangling currentDirectory).1 currentDirectory workspace [] := by
  have succeeds : (configure dangling currentDirectory).2 = .ok (fileIn currentDirectory) := by
    decide +kernel
  have whole : configure dangling currentDirectory =
      ((configure dangling currentDirectory).1, .ok (fileIn currentDirectory)) := by
    rw [← succeeds]
  obtain ⟨-, place, trail, -, leads, delivers⟩ :=
    (configure_delivers_iff dangling currentDirectory).1 _ _ whole
  have here : dangling.Leads true (dangling.into currentDirectory) []
      (.found workspace .directory) :=
    ⟨_, .move (.stay workspace Path.here [] ⟨rfl, rfl⟩ rfl) (.start _), .arrived workspace _ rfl⟩
  obtain ⟨rfl, same⟩ := leads.unique here
  obtain rfl : place = workspace := congrArg Arrival.place same
  have absent : dangling.node? (temporaryPlace workspace) = none := by decide +kernel
  have harmless : Harmless dangling currentDirectory workspace := by
    refine .own ?_ ?_ rfl
    · intro node here
      cases absent.symm.trans here
    · exact fun other => (shares_iff_of_absent (by simp [temporaryPlace]) absent other).mp
  exact ⟨succeeds, delivers.mpr ⟨List.not_mem_nil, harmless⟩⟩

/-- A directory in which the other name is a link to the settings file, which does not exist. -/
def looping : Disk where
  numbers := ⟨[(workspace, 0), (temporaryPlace workspace, 1)]⟩
  content
    | 1 => .link (Path.ofString fileName)
    | _ => .directory
  workingDirectory := workspace

/-- A configuration that succeeds does not always leave a settings file that can be read: the link
under the other name may become a link to itself. Then the directory can be configured again. -/
theorem configure_unreadable :
    (configure looping currentDirectory).2 = .ok (fileIn currentDirectory) ∧
      (configure looping currentDirectory).1.readText (fileIn currentDirectory) =
        .error .tooManyLinks ∧
      (configure (configure looping currentDirectory).1 currentDirectory).2 =
        .ok (fileIn currentDirectory) := by
  decide +kernel

/-- The same directory in a system that refuses to move a file there: the settings file is made
nevertheless. -/
example :
    let closed : Disk := { looping with refuses
      | .move _ _ => some .forbidden
      | _ => none }
    (configure closed currentDirectory).2.toOption = none ∧
      closed.exists? (fileIn currentDirectory) = false ∧
      (configure closed currentDirectory).1.exists? (fileIn currentDirectory) = true := by
  decide +kernel

end LanguageClient.Settings
