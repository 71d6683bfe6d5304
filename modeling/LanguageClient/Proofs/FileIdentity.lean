import LanguageClient.Proofs.PlaceUrls

/-!
# One document for each file

However a path is spelled and whatever links it leads through, its URL is that of a canonical
place: every name on the way there is a directory, and the last one is no link (`Disk.Canonical`).
Two paths that lead somewhere therefore have one URL exactly if they come to one canonical path
(`urlOf_eq_iff_canonical`), and they name one open document exactly then.
-/

namespace LanguageClient

namespace Disk

/-- A place that is spelled by the names of the directories above it and its own. -/
structure Canonical (disk : Disk) (place : Place) : Prop where
  /-- Directories stand above it, in which names can be looked for. -/
  below : ∀ above, above <+: place → above ≠ place → disk.Inside above
  /-- Each of its names can be looked up. -/
  named : ∀ name ∈ place, IsName name
  /-- Each of its names can stand in a path. -/
  spelled : ∀ name ∈ place, Path.IsComponent name
  /-- It is no link. -/
  unlinked : ∀ target, disk.node? place ≠ some (.link target)

/-- No link holds the null byte, as is so on every disk that a system can store. -/
def Storable (disk : Disk) : Prop :=
  ∀ place target, disk.node? place = some (.link target) → 0 ∉ target.bytes

/-- A waypoint that a walk from the root comes to: a directory below directories in which names can
be looked for, with names that keep a property behind it and before it. -/
structure Grounded (disk : Disk) (good : FileName → Prop) (waypoint : Waypoint) : Prop where
  /-- The walk stands in a directory. -/
  directory : disk.node? waypoint.place = some .directory
  /-- All that is above it can be entered. -/
  below : ∀ above, above <+: waypoint.place → above ≠ waypoint.place → disk.Inside above
  /-- Its names are good ones. -/
  named : ∀ name ∈ waypoint.place, IsName name ∧ good name
  /-- The steps to go are good ones. -/
  asked : ∀ step ∈ waypoint.left, good step

section Grounded

variable {disk : Disk} {followLast : Bool} {first second : Waypoint} {links trail : List Place}
  {good : FileName → Prop}

/-- A waypoint on the way down to a grounded one is grounded. -/
theorem Grounded.shorter {place shorter : Place} {left more : List FileName}
    (grounded : disk.Grounded good ⟨place, left⟩) (prior : shorter <+: place)
    (asked : ∀ step ∈ more, good step) : disk.Grounded good ⟨shorter, more⟩ where
  directory := by
    by_cases whole : shorter = place
    · rw [whole]
      exact grounded.directory
    · exact (grounded.below shorter prior whole).directory
  below above higher other := by
    refine grounded.below above (higher.trans prior) ?_
    rintro rfl
    exact other (higher.eq_of_length (Nat.le_antisymm higher.length_le prior.length_le))
  named name member := grounded.named name (prior.subset member)
  asked := asked

/-- The names of what stands in the directory of a grounded waypoint. -/
theorem Grounded.named_below {place : Place} {step : FileName} {left : List FileName}
    (grounded : disk.Grounded good ⟨place, step :: left⟩) (isName : IsName step) :
    ∀ name ∈ place ++ [step], IsName name ∧ good name := by
  intro name member
  rcases List.mem_append.mp member with member | last
  · exact grounded.named name member
  · rw [List.mem_singleton.mp last]
    exact ⟨isName, grounded.asked step List.mem_cons_self⟩

/-- Above what stands in a grounded waypoint there are directories in which names can be looked
for. -/
theorem Grounded.inside_below {place above : Place} {step : FileName} {left : List FileName}
    (grounded : disk.Grounded good ⟨place, left⟩) (inside : disk.Inside place)
    (prior : above <+: place ++ [step]) (other : above ≠ place ++ [step]) : disk.Inside above := by
  rcases List.prefix_concat_iff.mp prior with whole | shorter
  · exact absurd whole other
  · by_cases here : above = place
    · rw [here]
      exact inside
    · exact grounded.below above shorter here

variable (linked : ∀ place target, disk.node? place = some (.link target) →
  ∀ step ∈ target.steps, good step)
include linked

/-- A walk moves from a grounded waypoint to a grounded one. -/
theorem Moves.grounded (moves : disk.Moves followLast first links second)
    (grounded : disk.Grounded good first) : disk.Grounded good second := by
  have rest (place : Place) (step : FileName) (rest : List FileName)
      (here : first = ⟨place, step :: rest⟩) : ∀ later ∈ rest, good later := by
    intro later member
    rw [here] at grounded
    exact grounded.asked later (List.mem_cons_of_mem _ member)
  cases moves with
  | stay place step left => exact grounded.shorter List.prefix_rfl (rest place step left rfl)
  | back place step left =>
    exact grounded.shorter (List.dropLast_prefix place) (rest place step left rfl)
  | enter place step left inside isName below =>
    exact ⟨below, fun _ => grounded.inside_below inside, grounded.named_below isName,
      rest place step left rfl⟩
  | link place step left target _ _ found =>
    have start : origin place target <+: place := by
      unfold origin
      split
      · exact List.nil_prefix
      · exact List.prefix_rfl
    refine grounded.shorter start ?_
    intro later member
    rcases List.mem_append.mp member with member | member
    · exact linked _ _ found later member
    · exact rest place step left rfl later member

/-- A walk from a grounded waypoint passes by grounded ones only. -/
theorem Passes.grounded (passes : disk.Passes followLast first trail second)
    (grounded : disk.Grounded good first) : disk.Grounded good second := by
  induction passes with
  | start => exact grounded
  | move moves rest ih => exact ih (moves.grounded linked grounded)

/-- What a walk through all links finds is no link, and stands below directories in which names can
be looked for. -/
theorem Leads.below {place : Place} {node : Node} (grounded : disk.Grounded good first)
    (leads : disk.Leads true first trail (.found place node)) :
    (∀ above, above <+: place → above ≠ place → disk.Inside above) ∧
      (∀ name ∈ place, IsName name ∧ good name) ∧ disk.node? place = some node ∧
      ∀ target, node ≠ .link target := by
  obtain ⟨last, passes, stops⟩ := leads
  have grounded := passes.grounded linked grounded
  cases stops with
  | arrived place node found =>
    refine ⟨grounded.below, grounded.named, found, ?_⟩
    rintro target rfl
    cases found.symm.trans grounded.directory
  | file place step node inside isName found isFile =>
    exact ⟨fun _ => grounded.inside_below inside, grounded.named_below isName, found,
      isFile.ne_link⟩
  | link _ _ _ _ _ _ kept => cases kept

end Grounded

/-! ## Canonical places -/

variable {disk : Disk} {place : Place} {node : Node}

/-- The names of a canonical place lead from the root to it, through no link. -/
theorem Canonical.leads (canonical : disk.Canonical place) (found : disk.node? place = some node) :
    disk.Leads true ⟨[], place⟩ [] (.found place node) := by
  obtain ⟨below, named, spelled, unlinked⟩ := canonical
  have onwards (above rest : List FileName) (whole : above ++ rest = place) :
      disk.Leads true ⟨above, rest⟩ [] (.found place node) := by
    induction rest generalizing above with
    | nil =>
      rw [List.append_nil] at whole
      subst whole
      exact ⟨_, .start _, .arrived above node found⟩
    | cons step rest ih =>
      have inside : disk.Inside above := by
        apply below above ⟨step :: rest, whole⟩
        intro same
        simp [← whole] at same
      have isName : IsName step := named step (by simp [← whole])
      have next : above ++ [step] ++ rest = place := by simpa using whole
      have enters (directory : disk.node? (above ++ [step]) = some .directory) :
          disk.Leads true ⟨above, step :: rest⟩ [] (.found place node) :=
        Passes.leads (.move (.enter above step rest inside isName directory) (.start _))
          (ih _ next)
      by_cases last : rest = []
      · subst last
        rw [List.append_nil] at next
        subst next
        cases node with
        | directory => exact enters found
        | file bytes => exact ⟨_, .start _, .file above step _ inside isName found rfl⟩
        | device bytes => exact ⟨_, .start _, .file above step _ inside isName found rfl⟩
        | link target => exact absurd found (unlinked target)
      · apply enters
        refine (below _ ⟨rest, next⟩ ?_).directory
        intro same
        have none : above ++ [step] ++ rest = above ++ [step] ++ [] := by
          rw [next, List.append_nil, same]
        exact last (List.append_cancel_left none)
  exact onwards [] place rfl

/-- A path has a canonical place if following it finds something there. -/
theorem canonical_eq_ok_iff {path : Path} :
    disk.canonical path = .ok (place, node) ↔ disk.follow true path = .ok (.found place node) := by
  unfold canonical
  cases followed : disk.follow true path with
  | error cause => simp [bind, Except.bind]
  | ok arrival => cases arrival <;> simp [bind, Except.bind, pure, Except.pure, throw, throwThe,
      MonadExceptOf.throw]

/-- What an absolute path leads to stands at a canonical place, and on a disk that can be stored
no name on the way there holds the null byte. -/
theorem canonical_of_canonical {path : Path} (absolute : path.isAbsolute = true)
    (came : disk.canonical path = .ok (place, node)) :
    disk.Canonical place ∧ disk.node? place = some node ∧
      (disk.Storable → ∀ name ∈ place, 0 ∉ name) := by
  obtain ⟨plain, -, trail, -, leads⟩ := follow_eq_ok_iff.mp (canonical_eq_ok_iff.mp came)
  have begins : disk.setOut path = ⟨[], path.steps⟩ := by rw [setOut, absolute, if_pos rfl]
  rw [begins] at leads
  let good (name : FileName) : Prop := Path.IsComponent name ∧ (disk.Storable → 0 ∉ name)
  have grounded : disk.Grounded good ⟨[], path.steps⟩ := by
    refine ⟨rfl, ?_, by simp, ?_⟩
    · intro above prior other
      exact absurd (List.prefix_nil.mp prior) other
    · intro step asked
      exact ⟨Path.isComponent_of_mem_steps asked, fun _ => Path.plain_of_mem_steps plain asked⟩
  have linked (place : Place) (target : Path) (found : disk.node? place = some (.link target))
      (step : FileName) (asked : step ∈ target.steps) : good step :=
    ⟨Path.isComponent_of_mem_steps asked,
      fun storable => Path.plain_of_mem_steps (storable place target found) asked⟩
  obtain ⟨below, named, found, unlinked⟩ := leads.below linked grounded
  refine ⟨⟨below, ?_, ?_, ?_⟩, found, ?_⟩
  · exact fun name member => (named name member).1
  · exact fun name member => (named name member).2.1
  · intro target link
    exact unlinked target (Option.some.inj (found.symm.trans link))
  · exact fun storable name member => (named name member).2.2 storable

/-- The path of a canonical place leads to it. -/
theorem canonical_path (canonical : disk.Canonical place) (found : disk.node? place = some node)
    (plain : ∀ name ∈ place, 0 ∉ name) : disk.canonical place.path = .ok (place, node) := by
  rw [canonical_eq_ok_iff, follow_eq_ok_iff]
  refine ⟨?_, ?_, [], Nat.zero_le _, ?_⟩
  · cases place with
    | nil => decide
    | cons first rest =>
      show 0 ∉ (first :: rest).flatMap (Path.slash :: ·)
      rw [List.mem_flatMap]
      rintro ⟨name, member, inside⟩
      rcases List.mem_cons.mp inside with slash | inside
      · exact absurd slash (by decide)
      · exact plain name member inside
  · cases place <;> simp [Place.path]
  · have begins : disk.setOut place.path = ⟨[], place⟩ := by
      rw [setOut, place.isAbsolute_path, Place.steps_path canonical.spelled, if_pos rfl]
    rw [begins]
    exact canonical.leads found

/-- The URL of a path is that of its canonical place. -/
theorem urlOf_eq_ok_iff {path : Path} {document : Url} :
    disk.urlOf path = .ok document ↔ ∃ place node,
      disk.canonical (disk.workingDirectory.path.join path) = .ok (place, node) ∧
        document = place.url := by
  unfold urlOf
  cases came : disk.canonical (disk.workingDirectory.path.join path) with
  | error cause => simp
  | ok found =>
    obtain ⟨place, node⟩ := found
    simp only [Except.ok.injEq, Prod.mk.injEq]
    constructor
    · rintro rfl
      exact ⟨place, node, ⟨rfl, rfl⟩, rfl⟩
    · rintro ⟨_, _, ⟨rfl, rfl⟩, rfl⟩
      rfl

end Disk

/-- Seen from a place every path is absolute. -/
theorem Place.isAbsolute_join (place : Place) (path : Path) :
    (place.path.join path).isAbsolute = true := by
  have absolute := place.isAbsolute_path
  unfold Path.join
  split
  · assumption
  · have starts : place.path.bytes.head? = some Path.slash := of_decide_eq_true absolute
    split <;> simp [Path.isAbsolute, List.head?_append, starts]

namespace Server.Session

variable {σ : Type} {transport : Transport σ} {disk : Disk} {path : Path} {document : Url}
  {session after : Session σ}

/-- The document that was opened is in its first version. -/
theorem version?_of_openDocument
    (opens : session.openDocument transport disk path = (after, .ok document)) :
    after.documents.version? document = some 0 := by
  unfold openDocument Documents.openAt at opens
  cases read : Documents.readDocument disk path with
  | error cause => simp [read] at opens
  | ok found =>
    obtain ⟨named, text⟩ := found
    cases told : transport.tell (Documents.openNotice named (languageId path) text)
      session.state with
    | mk state result =>
      cases result with
      | error failure => simp [read, told] at opens
      | ok =>
        simp only [read, told, Prod.mk.injEq, Except.ok.injEq] at opens
        obtain ⟨rfl, rfl⟩ := opens
        simp

/-- A new text takes the document at the path to its next version, if it is open, and leaves all
others as they are. -/
theorem version?_changeDocument (leads : disk.urlOf path = .ok document) (text : String)
    (other : Url) : (session.changeDocument transport disk path text).1.documents.version? other =
      if document = other then (session.documents.version? other).map (· + 1)
      else session.documents.version? other := by
  unfold changeDocument Documents.changeAt
  simp only [leads]
  cases isOpen : session.documents.version? document with
  | none =>
    by_cases same : document = other
    · subst same
      simp [isOpen]
    · simp [same]
  | some version =>
    cases told : transport.tell (Documents.changeNotice document (version + 1) text)
      session.state with
    | mk state result =>
      by_cases same : document = other
      · subst same
        cases result <;> simp [told, isOpen]
      · cases result <;> simp [told, same]

/-- A document that was closed has no version, and all others are as they were. -/
theorem version?_of_closeDocument (leads : disk.urlOf path = .ok document)
    (closes : session.closeDocument transport disk path = (after, .ok ())) (other : Url) :
    after.documents.version? other =
      if document = other then none else session.documents.version? other := by
  unfold closeDocument Documents.closeAt at closes
  cases told : transport.tell (Documents.closeNotice document) session.state with
  | mk state result =>
    cases result with
    | error failure => simp [leads, told] at closes
    | ok =>
      simp only [leads, told, Prod.mk.injEq] at closes
      obtain ⟨rfl, -⟩ := closes
      simp

end Server.Session

namespace Disk

/-- Two paths have one URL exactly if they come to one canonical path: no two names are encoded
alike. The canonical path itself has that URL. A document that was opened through one of the paths
gets a new text, or is closed, through the other one exactly if their canonical path is one. -/
theorem urlOf_eq_iff_canonical {disk : Disk} {path other : Path} {document second : Url}
    (leads : disk.urlOf path = .ok document) (leadsToo : disk.urlOf other = .ok second) :
    ∃ found foundToo,
      disk.canonical (disk.workingDirectory.path.join path) = .ok found ∧
      disk.canonical (disk.workingDirectory.path.join other) = .ok foundToo ∧
      (document = second ↔ found.1.path = foundToo.1.path) ∧
      (document.render = second.render ↔ found.1.path = foundToo.1.path) ∧
      (∀ name renamed : FileName, Percent.encodeBytes Percent.fileName name =
        Percent.encodeBytes Percent.fileName renamed → name = renamed) ∧
      (disk.Storable → disk.urlOf found.1.path = .ok document) ∧
      ∀ {σ : Type} (transport : Server.Transport σ) (session opened : Server.Session σ),
        session.openDocument transport disk path = (opened, .ok document) →
        (∀ text, (opened.changeDocument transport disk other text).1.documents.version? document =
          if found.1.path = foundToo.1.path then some 1 else some 0) ∧
        ∀ closed, opened.closeDocument transport disk other = (closed, .ok ()) →
          closed.documents.version? document =
            if found.1.path = foundToo.1.path then none else some 0 := by
  obtain ⟨place, node, came, rfl⟩ := urlOf_eq_ok_iff.mp leads
  obtain ⟨placeToo, nodeToo, cameToo, rfl⟩ := urlOf_eq_ok_iff.mp leadsToo
  obtain ⟨canonical, found, plain⟩ :=
    canonical_of_canonical (disk.workingDirectory.isAbsolute_join path) came
  obtain ⟨canonicalToo, -, -⟩ :=
    canonical_of_canonical (disk.workingDirectory.isAbsolute_join other) cameToo
  have places := Place.path_inj canonical.spelled canonicalToo.spelled
  have urls : place.url = placeToo.url ↔ place.path = placeToo.path :=
    (Place.url_inj canonical.spelled canonicalToo.spelled).trans places.symm
  refine ⟨(place, node), (placeToo, nodeToo), came, cameToo, urls, ?_, fun _ _ =>
    Percent.encodeBytes_inj, ?_, ?_⟩
  · rw [← urls]
    constructor
    · intro same
      have target : Server.DocumentCall.target? ⟨disk, path, .opening⟩ = some place.url :=
        Server.DocumentCall.target?_eq_some_iff.mpr leads
      have targetToo : Server.DocumentCall.target? ⟨disk, other, .opening⟩ = some placeToo.url :=
        Server.DocumentCall.target?_eq_some_iff.mpr leadsToo
      exact Server.target?_inj target targetToo same
    · intro same
      rw [same]
  · intro storable
    have again := canonical_path canonical found (plain storable)
    have absolute : disk.workingDirectory.path.join place.path = place.path := by
      rw [Path.join, place.isAbsolute_path, if_pos rfl]
    exact urlOf_eq_ok_iff.mpr ⟨place, node, by rw [absolute, again], rfl⟩
  · intro σ transport session opened opens
    have first := Server.Session.version?_of_openDocument opens
    have documents : placeToo.url = place.url ↔ place.path = placeToo.path :=
      eq_comm.trans urls
    constructor
    · intro text
      rw [Server.Session.version?_changeDocument leadsToo, first]
      simp only [documents]
      rfl
    · intro closed closes
      rw [Server.Session.version?_of_closeDocument leadsToo closes, first]
      simp only [documents]

/-- A directory with a file whose name has to be encoded, and a link to it. -/
def linked : Disk where
  numbers := ⟨[([Utf8.ofString "d"], 0), ([Utf8.ofString "d", Utf8.ofString "50%"], 1),
    ([Utf8.ofString "d", Utf8.ofString "link"], 2)]⟩
  content
    | 0 => .directory
    | 1 => .file []
    | _ => .link (Path.ofString "../d//50%")
  workingDirectory := [Utf8.ofString "d"]

/-- The URL of the file. -/
def linkedUrl : Url := ⟨"file", some ⟨"", none, .name "", none⟩, "/d/50%25", none, none⟩

/-- Through the link and under its own name the file has one URL and one canonical path. -/
theorem urlOf_eq_iff_canonical_linked :
    linked.urlOf (Path.ofString "link") = .ok linkedUrl ∧
      linked.urlOf (Path.ofString "/d/./50%") = .ok linkedUrl ∧
      ∃ found foundToo,
        linked.canonical (linked.workingDirectory.path.join (Path.ofString "link")) = .ok found ∧
        linked.canonical (linked.workingDirectory.path.join (Path.ofString "/d/./50%")) =
          .ok foundToo ∧
        found.1.path = foundToo.1.path := by
  have leads : linked.urlOf (Path.ofString "link") = .ok linkedUrl := by decide +kernel
  have leadsToo : linked.urlOf (Path.ofString "/d/./50%") = .ok linkedUrl := by decide +kernel
  obtain ⟨found, foundToo, came, cameToo, same, -⟩ := urlOf_eq_iff_canonical leads leadsToo
  exact ⟨leads, leadsToo, found, foundToo, came, cameToo, same.mp rfl⟩

end Disk

end LanguageClient
