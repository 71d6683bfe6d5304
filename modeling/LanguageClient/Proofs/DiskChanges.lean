import LanguageClient.Proofs.Utf8
import LanguageClient.Proofs.Walks

/-!
# Files after a change

A walk looks at directories, at the links of its trail and at what stands at its end. So it leads
where it did on every later disk that keeps these (`Leads.kept`), and to what was written where
bytes were written at its end (`Leads.rewritten`). A write changes a file under all its names
(`node?_set`), and only if the system lets the file be opened (`write_of_opens`); what was written
through a path is what is read through it, if the system lets it be read (`read_store_eq_ok_iff`).
-/

namespace LanguageClient

/-- What is written is a file or a device. -/
theorem Node.isFile_rewritten (node : Node) (bytes : List UInt8) :
    (node.rewritten bytes).IsFile := by
  cases node <;> rfl

namespace Disk

/-- What stands where a walk comes to. -/
def Arrival.node? : Arrival → Option Node
  | .found _ node => some node
  | .missing _ => none

/-- What is written where a walk comes to is a file or a device. -/
theorem Arrival.isFile_rewritten (arrival : Arrival) (bytes : List UInt8) :
    (arrival.rewritten bytes).IsFile := by
  cases arrival with
  | found place node => exact node.isFile_rewritten bytes
  | missing place => rfl

/-- Whether nothing but a file or a device stands where a walk comes to. -/
def Arrival.Writable (arrival : Arrival) : Prop := ∀ node, arrival.node? = some node → node.IsFile

/-- Whether the system lets a file be written where a walk comes to. -/
inductive Opens (disk : Disk) : Arrival → Prop
  /-- A file or a device may be written. -/
  | found (place : Place) (node : Node) (isFile : node.IsFile)
    (allowed : disk.refuses (.write (disk.numberFor place)) = none) : Opens disk (.found place node)
  /-- A file may be made. -/
  | missing (place : Place) (allowed : disk.refuses (.make place) = none) :
    Opens disk (.missing place)

/-- Whether the system lets what stands at a place be read. -/
def Readable (disk : Disk) (place : Place) : Prop :=
  ∀ number, disk.number? place = some number → disk.refuses (.read number) = none

/-- Whether one place is another one, or what stands at the other one has the number that a file
has which is written at the first. -/
def Shares (disk : Disk) (place other : Place) : Prop :=
  place = other ∨ disk.number? other = some (disk.numberFor place)

instance (disk : Disk) (place other : Place) : Decidable (disk.Shares place other) :=
  inferInstanceAs (Decidable (_ ∨ _))

variable {disk later : Disk} {followLast : Bool} {first second : Waypoint}
  {links trail : List Place} {arrival : Arrival} {place : Place} {path : Path} {bytes : List UInt8}

/-- What stands at a place stands there. -/
@[simp]
theorem place_standing (disk : Disk) (place : Place) : (disk.standing place).place = place := by
  unfold standing
  split <;> rfl

/-- What stands at a place is what was put there. -/
@[simp]
theorem node?_standing (disk : Disk) (place : Place) :
    (disk.standing place).node? = disk.node? place := by
  unfold standing
  split <;> simp_all [Arrival.node?]

/-- What stands at a place is found there. -/
theorem standing_of_node? {node : Node} (here : disk.node? place = some node) :
    disk.standing place = .found place node := by
  rw [standing, here]

/-- Where a file can be written stands no directory. -/
theorem Arrival.Writable.ne_directory (writable : arrival.Writable) :
    arrival.node? ≠ some .directory :=
  fun directory => (writable _ directory).ne_directory rfl

/-- Where a file can be written stands no link. -/
theorem Arrival.Writable.ne_link (writable : arrival.Writable) (target : Path) :
    arrival.node? ≠ some (.link target) :=
  fun link => (writable _ link).ne_link target rfl

/-- Where the system lets a file be written stands nothing else. -/
theorem Opens.writable (opens : disk.Opens arrival) : arrival.Writable := by
  intro node here
  cases opens with
  | found place other isFile => exact Option.some.inj here ▸ isFile
  | missing => cases here

/-- A file is opened for writing exactly where the system lets it be written. -/
theorem openAt_eq_ok_iff : disk.openAt arrival = .ok () ↔ disk.Opens arrival := by
  constructor
  · intro opened
    cases arrival with
    | missing place => exact .missing place (allow_eq_ok_iff.mp opened)
    | found place node =>
      cases node with
      | directory => cases opened
      | link target => cases opened
      | file bytes => exact .found place _ rfl (allow_eq_ok_iff.mp opened)
      | device bytes => exact .found place _ rfl (allow_eq_ok_iff.mp opened)
  · intro opens
    cases opens with
    | missing place allowed => exact allow_eq_ok_iff.mpr allowed
    | found place node isFile allowed =>
      cases node with
      | directory => exact absurd rfl isFile.ne_directory
      | link target => exact absurd rfl (isFile.ne_link target)
      | file bytes => exact allow_eq_ok_iff.mpr allowed
      | device bytes => exact allow_eq_ok_iff.mpr allowed

/-- The system lets a place be read if it refuses nothing to its number. -/
theorem allowRead_eq_ok_iff : disk.allowRead place = .ok () ↔ disk.Readable place := by
  unfold allowRead Readable
  cases disk.number? place with
  | none => simp
  | some number => simp [allow_eq_ok_iff]

/-- A walk that stops has found what stands there. -/
theorem Stops.node? (stops : disk.Stops followLast first arrival) :
    disk.node? arrival.place = arrival.node? := by
  cases stops <;> assumption

/-- A walk leads to what stands there. -/
theorem Leads.node? (leads : disk.Leads followLast first trail arrival) :
    disk.node? arrival.place = arrival.node? := by
  obtain ⟨last, -, stops⟩ := leads
  exact stops.node?

/-- Every place on a trail holds a link. -/
theorem Passes.link_of_mem (passes : disk.Passes followLast first trail second)
    (member : place ∈ trail) : ∃ target, disk.node? place = some (.link target) := by
  induction passes with
  | start => cases member
  | move moves rest ih =>
    rcases List.mem_append.mp member with now | later
    · cases moves with
      | link above step left target inside isName found =>
        rw [List.mem_singleton.mp now]
        exact ⟨target, found⟩
      | _ => cases now
    · exact ih later

/-- A walk comes to each link of its trail for a first time. -/
theorem Passes.before_link (passes : disk.Passes followLast first trail second)
    (member : place ∈ trail) : ∃ before above step left, place = above ++ [step] ∧
      place ∉ before ∧ disk.Passes followLast first before ⟨above, step :: left⟩ ∧
      before ⊆ trail := by
  induction passes with
  | start => cases member
  | @move first second third links trail moves rest ih =>
    by_cases now : place ∈ links
    · cases moves with
      | link above step left target inside isName found =>
        exact ⟨[], above, step, left, List.mem_singleton.mp now, List.not_mem_nil, .start _,
          List.nil_subset _⟩
      | _ => cases now
    · have later := (List.mem_append.mp member).resolve_left now
      obtain ⟨before, above, step, left, whole, fresh, passes, among⟩ := ih later
      refine ⟨links ++ before, above, step, left, whole, ?_, .move moves passes, ?_⟩
      · simp [now, fresh]
      · exact List.append_subset.mpr
          ⟨List.subset_append_left _ _, List.Subset.trans among (List.subset_append_right _ _)⟩

/-- A walk that leads through a link in a directory comes to where the name of the link leads, or
the name leads to a directory on its way. -/
theorem Leads.entry_of_mem {name : FileName} (leads : disk.Leads true first trail arrival)
    (member : place ++ [name] ∈ trail) :
    ∃ back, back.length ≤ trail.length ∧ (disk.Leads true ⟨place, [name]⟩ back arrival ∨
      ∃ there, disk.Leads true ⟨place, [name]⟩ back (.found there .directory)) := by
  have ⟨last, passes, stops⟩ := leads
  obtain ⟨before, above, step, left, whole, -, comes, -⟩ := passes.before_link member
  obtain ⟨rfl, same⟩ := List.append_inj' whole rfl
  obtain rfl : name = step := List.head_eq_of_cons_eq same
  obtain ⟨back, rfl, onwards⟩ := comes.leads_rest leads
  have fewer : back.length ≤ (before ++ back).length := by simp
  by_cases last : left = []
  · subst last
    exact ⟨back, fewer, .inl onwards⟩
  · obtain ⟨there, front, few, leads⟩ := onwards.front last
    exact ⟨front, Nat.le_trans few fewer, .inr ⟨there, leads⟩⟩

/-! ## Later disks -/

/-- A later disk on which all directories and the links of a trail are as they were. -/
structure Keeps (disk later : Disk) (trail : List Place) : Prop where
  /-- Directories are kept. -/
  directories : ∀ place, disk.node? place = some .directory →
    later.node? place = some .directory
  /-- So are the links of the trail. -/
  links : ∀ place ∈ trail, later.node? place = disk.node? place
  /-- The system refuses what it refused before. -/
  refuses : later.refuses = disk.refuses

/-- Names can be looked for in the directories that are kept. -/
theorem Keeps.inside (keeps : disk.Keeps later trail) (inside : disk.Inside place) :
    later.Inside place :=
  ⟨keeps.directories place inside.directory, by rw [keeps.refuses, inside.allowed]⟩

/-- What is kept for a trail is kept for a part of it. -/
theorem Keeps.subset {part : List Place} (keeps : disk.Keeps later trail) (among : part ⊆ trail) :
    disk.Keeps later part :=
  ⟨keeps.directories, fun place member => keeps.links place (among member), keeps.refuses⟩

/-- A move is made again where its directories and links are kept. -/
theorem Moves.kept (keeps : disk.Keeps later links)
    (moves : disk.Moves followLast first links second) :
    later.Moves followLast first links second := by
  cases moves with
  | stay place step rest inside dot => exact .stay place step rest (keeps.inside inside) dot
  | back place step rest inside dots => exact .back place step rest (keeps.inside inside) dots
  | enter place step rest inside isName below =>
    exact .enter place step rest (keeps.inside inside) isName (keeps.directories _ below)
  | link place step rest target inside isName found through filled =>
    have same := keeps.links _ (List.mem_singleton_self _)
    exact .link place step rest target (keeps.inside inside) isName (same.trans found) through
      filled

/-- A walk passes by the same waypoints where its directories and links are kept. -/
theorem Passes.kept (keeps : disk.Keeps later trail)
    (passes : disk.Passes followLast first trail second) :
    later.Passes followLast first trail second := by
  induction passes with
  | start => exact .start _
  | move moves rest ih =>
    exact .move (moves.kept (keeps.subset (List.subset_append_left _ _)))
      (ih (keeps.subset (List.subset_append_right _ _)))

/-- A walk leads where it did if the directories, its links and its end are as they were. -/
theorem Leads.kept (leads : disk.Leads followLast first trail arrival)
    (keeps : disk.Keeps later trail)
    (same : later.node? arrival.place = disk.node? arrival.place) :
    later.Leads followLast first trail arrival := by
  obtain ⟨last, passes, stops⟩ := leads
  refine ⟨last, passes.kept keeps, ?_⟩
  cases stops with
  | arrived place node found => exact .arrived place node (same.trans found)
  | file place step node inside isName found isFile =>
    exact .file place step node (keeps.inside inside) isName (same.trans found) isFile
  | link place step target inside isName found kept =>
    exact .link place step target (keeps.inside inside) isName (same.trans found) kept
  | missing place step inside isName absent =>
    exact .missing place step (keeps.inside inside) isName (same.trans absent)

/-- A walk leads to the file that was put where it ended. -/
theorem Leads.rewritten {node : Node} (leads : disk.Leads followLast first trail arrival)
    (keeps : disk.Keeps later trail) (noDirectory : arrival.node? ≠ some .directory)
    (there : later.node? arrival.place = some node) (isFile : node.IsFile) :
    later.Leads followLast first trail (.found arrival.place node) := by
  obtain ⟨last, passes, stops⟩ := leads
  refine ⟨last, passes.kept keeps, ?_⟩
  cases stops with
  | arrived place _ found => exact .arrived place _ there
  | file place step _ inside isName =>
    exact .file place step node (keeps.inside inside) isName there isFile
  | link place step _ inside isName =>
    exact .file place step node (keeps.inside inside) isName there isFile
  | missing place step inside isName =>
    exact .file place step node (keeps.inside inside) isName there isFile

/-! ## What an operation does -/

/-- The root is a directory. -/
@[simp]
theorem node?_root (disk : Disk) : disk.node? [] = some .directory := rfl

/-- A number that nothing has yet is the number of no place. -/
theorem number?_ne_fresh (disk : Disk) (place : Place) : disk.number? place ≠ some disk.fresh := by
  intro numbered
  have listed : disk.fresh ∈ disk.numbers.entries.map Prod.snd :=
    List.mem_map_of_mem (mem_of_number? numbered)
  exact Nat.not_succ_le_self _ ((le_foldl_max _ 0).2 _ listed)

/-- A place where nothing stands below the root has no number. -/
theorem number?_eq_none_iff (below : place ≠ []) :
    disk.number? place = none ↔ disk.node? place = none := by
  unfold node?
  rw [if_neg (by simpa using below), Option.map_eq_none_iff]

/-- A place where nothing stands shares it with no other one. -/
theorem shares_iff_of_absent (below : place ≠ []) (absent : disk.node? place = none)
    (other : Place) : disk.Shares place other ↔ place = other := by
  unfold Shares numberFor
  rw [(number?_eq_none_iff below).mpr absent]
  exact or_iff_left (disk.number?_ne_fresh other)

/-- What stands at one place stands at every other one that shares it. -/
theorem node?_of_shares {other : Place} (below : place ≠ []) (shares : disk.Shares place other) :
    disk.node? other = disk.node? place := by
  rcases shares with rfl | numbered
  · rfl
  · unfold numberFor at numbered
    cases own : disk.number? place with
    | none =>
      rw [own] at numbered
      exact absurd numbered (disk.number?_ne_fresh other)
    | some number =>
      rw [own] at numbered
      have named : other ≠ [] := by
        rintro rfl
        cases numbered
      simp [node?, below, named, own, numbered]

/-- The number of a place once something is put at another one. -/
theorem number?_set {node : Node} (below : place ≠ []) (other : Place) :
    (disk.set place node).number? other =
      if place = other then some (disk.numberFor place) else disk.number? other := by
  cases other with
  | nil => simp [below, number?]
  | cons name rest => exact Table.get?_insert _ _ _ _

/-- What is put at a place stands wherever else has its number. -/
theorem node?_set {node : Node} (below : place ≠ []) (other : Place) :
    (disk.set place node).node? other =
      if disk.Shares place other then some node else disk.node? other := by
  have content (number : Nat) : (disk.set place node).content number =
      if number = disk.numberFor place then node else disk.content number := rfl
  by_cases root : other = []
  · subst root
    simp [below, Shares, number?]
  have named (disk : Disk) : disk.node? other = (disk.number? other).map disk.content := by
    rw [node?, if_neg (by simpa using root)]
  rw [named, named, number?_set below]
  by_cases here : place = other
  · rw [if_pos here, if_pos (.inl here), Option.map_some, content, if_pos rfl]
  rw [if_neg here]
  cases numbered : disk.number? other with
  | none => simp [Shares, here, numbered]
  | some number =>
    by_cases same : number = disk.numberFor place
    · simp [Shares, numbered, content, same]
    · simp [Shares, here, numbered, content, same]

/-- Where a file can be written is not the root. -/
theorem Leads.place_ne_root (leads : disk.Leads followLast first trail arrival)
    (writable : arrival.Writable) : arrival.place ≠ [] := by
  have here := leads.node?
  intro root
  rw [root, node?_root] at here
  exact writable.ne_directory here.symm

/-- What is written where a walk ends stands at every place that shares the end. -/
theorem node?_store (below : arrival.place ≠ []) (bytes : List UInt8) (other : Place) :
    (disk.store arrival bytes).node? other =
      if disk.Shares arrival.place other then some (arrival.rewritten bytes)
      else disk.node? other :=
  node?_set below other

/-- The number of a place once a file is written where a walk ends. -/
theorem number?_store (below : arrival.place ≠ []) (bytes : List UInt8) (other : Place) :
    (disk.store arrival bytes).number? other =
      if arrival.place = other then some (disk.numberFor arrival.place) else disk.number? other :=
  number?_set below other

/-- A file that is written where a walk ends keeps all directories, and the links of every walk. -/
theorem Leads.keeps_store (leads : disk.Leads followLast first trail arrival)
    (writable : arrival.Writable) (bytes : List UInt8) {other : List Place}
    (linked : ∀ place ∈ other, ∃ target, disk.node? place = some (.link target)) :
    disk.Keeps (disk.store arrival bytes) other := by
  have here := leads.node?
  have below := leads.place_ne_root writable
  refine ⟨?_, ?_, rfl⟩
  · intro place directory
    rw [node?_store below, if_neg]
    · exact directory
    · intro shares
      rw [node?_of_shares below shares, here] at directory
      exact writable.ne_directory directory
  · intro place member
    rw [node?_store below, if_neg]
    intro shares
    obtain ⟨target, link⟩ := linked _ member
    rw [node?_of_shares below shares, here] at link
    exact writable.ne_link target link

/-- A path that leads to what was written leads to it afterwards. -/
theorem followShort_store (came : disk.followShort true path = .ok arrival)
    (writable : arrival.Writable) (bytes : List UInt8) :
    (disk.store arrival bytes).followShort true path =
      .ok (.found arrival.place (arrival.rewritten bytes)) := by
  obtain ⟨usable, trail, few, leads⟩ := followShort_eq_ok_iff.mp came
  have linked (place : Place) (member : place ∈ trail) :
      ∃ target, disk.node? place = some (.link target) := by
    obtain ⟨last, passes, -⟩ := leads
    exact passes.link_of_mem member
  have written : (disk.store arrival bytes).node? arrival.place =
      some (arrival.rewritten bytes) := by
    rw [node?_store (leads.place_ne_root writable), if_pos (.inl rfl)]
  exact followShort_eq_ok_iff.mpr ⟨usable, trail, few, leads.rewritten
    (leads.keeps_store writable bytes linked) writable.ne_directory written
    (arrival.isFile_rewritten bytes)⟩

/-- What is written to a file, or where nothing stood, stands there. -/
theorem rewritten_of_plain
    (plain : ∀ own, arrival.node? ≠ some (.device own)) (bytes : List UInt8) :
    arrival.rewritten bytes = .file bytes := by
  cases arrival with
  | missing place => rfl
  | found place node =>
    cases node with
    | device own => exact absurd rfl (plain own)
    | _ => rfl

/-- What is written to a device leaves it as it is. -/
theorem rewritten_of_device {own : List UInt8} (device : arrival.node? = some (.device own))
    (bytes : List UInt8) : arrival.rewritten bytes = .device own := by
  cases arrival with
  | missing place => cases device
  | found place node =>
    cases device
    rfl

/-- What is read at a place is not changed if it is written there. -/
theorem rewritten_of_bytes? {node : Node} {there : Place} (holds : node.bytes? = some bytes) :
    (Arrival.found there node).rewritten bytes = node := by
  cases node with
  | file own => exact congrArg Node.file (Option.some.inj holds).symm
  | device own => rfl
  | directory => cases holds
  | link target => cases holds

/-- What stands at a place can be read if the system lets what has its number be read. -/
theorem readable_iff {node : Node} (below : place ≠ []) (here : disk.node? place = some node) :
    disk.Readable place ↔ disk.refuses (.read (disk.numberFor place)) = none := by
  obtain ⟨number, numbered, -⟩ := (node?_eq_some_iff below).mp here
  have own : disk.numberFor place = number := by
    rw [numberFor, numbered]
    rfl
  rw [own]
  constructor
  · exact fun readable => readable number numbered
  · intro allowed other same
    cases numbered.symm.trans same
    exact allowed

/-- A path that cannot be handed to an operation fails alike on every disk. -/
theorem followShort_of_not_usable (unusable : ¬ path.Usable) (disk later : Disk) :
    later.followShort followLast path = disk.followShort followLast path := by
  unfold followShort follow
  by_cases null : 0 ∈ path.bytes
  · simp [null]
  by_cases long : maximalPath ≤ path.bytes.length
  · simp [long, null]
  have empty : path.bytes = [] := by
    refine Classical.byContradiction fun filled => unusable ⟨filled, Nat.lt_of_not_le long, null⟩
  simp [empty]

/-- A path leads to something exactly if following it finds something. -/
theorem exists?_iff : disk.exists? path = true ↔
    ∃ place node, disk.followShort true path = .ok (.found place node) := by
  unfold exists?
  cases came : disk.followShort true path with
  | error cause => simp
  | ok arrival => cases arrival <;> simp

/-- Bytes are read through a path if it leads to what holds them, and the system lets them be
read. -/
theorem read_eq_ok_iff : disk.read path = .ok bytes ↔ ∃ place node,
    disk.followShort true path = .ok (.found place node) ∧ node.bytes? = some bytes ∧
      disk.Readable place := by
  constructor
  · intro reads
    unfold read at reads
    cases came : disk.followShort true path with
    | error cause =>
      rw [came] at reads
      cases reads
    | ok arrival =>
      rw [came] at reads
      cases arrival with
      | missing place => cases reads
      | found place node =>
        cases allowed : disk.allowRead place with
        | error cause => simp [bind, Except.bind, allowed] at reads
        | ok =>
          refine ⟨place, node, rfl, ?_, allowRead_eq_ok_iff.mp allowed⟩
          simp only [bind, Except.bind, allowed] at reads
          cases node <;> cases reads <;> rfl
  · rintro ⟨place, node, came, holds, readable⟩
    have allowed := allowRead_eq_ok_iff.mpr readable
    unfold read
    rw [came]
    simp only [bind, Except.bind, allowed]
    cases node <;> cases holds <;> rfl

/-- What was written through a path is read through it, if the system lets it be read. -/
theorem read_store_eq_ok_iff {kept : List UInt8}
    (came : disk.followShort true path = .ok arrival) (writable : arrival.Writable) :
    (disk.store arrival kept).read path = .ok bytes ↔
      (arrival.rewritten kept).bytes? = some bytes ∧
        disk.refuses (.read (disk.numberFor arrival.place)) = none := by
  obtain ⟨-, trail, -, leads⟩ := followShort_eq_ok_iff.mp came
  have numbered : (disk.store arrival kept).number? arrival.place =
      some (disk.numberFor arrival.place) := by
    rw [number?_store (leads.place_ne_root writable), if_pos rfl]
  rw [read_eq_ok_iff, followShort_store came writable]
  constructor
  · rintro ⟨place, node, same, holds, readable⟩
    cases same
    exact ⟨holds, readable _ numbered⟩
  · rintro ⟨holds, allowed⟩
    refine ⟨_, _, rfl, holds, ?_⟩
    intro number own
    cases numbered.symm.trans own
    exact allowed

/-- A file is written where its path leads if the system opens that for writing, as far as there is
room. -/
theorem write_of_opens (came : disk.followShort true path = .ok arrival)
    (opens : disk.Opens arrival) (bytes : List UInt8) :
    disk.write path bytes = (disk.store arrival (disk.fitting arrival.place bytes),
      if disk.fits arrival.place bytes then .ok () else .error (.refused .full)) := by
  simp only [write, came, openAt_eq_ok_iff.mpr opens]

/-- A path that leads to nothing that can be opened for writing is not written. -/
theorem write_of_not_opens
    (closed : ∀ arrival, disk.followShort true path = .ok arrival → ¬ disk.Opens arrival)
    (bytes : List UInt8) : ∃ cause, disk.write path bytes = (disk, .error cause) := by
  unfold write
  cases came : disk.followShort true path with
  | error cause => exact ⟨cause, rfl⟩
  | ok arrival =>
    have blocked := closed arrival came
    cases opened : disk.openAt arrival with
    | error cause => exact ⟨cause, by simp only [opened]⟩
    | ok => exact absurd (openAt_eq_ok_iff.mp opened) blocked

/-- What there is room for is all, or a part from the beginning. -/
theorem fitting_prefix (disk : Disk) (place : Place) (bytes : List UInt8) :
    disk.fitting place bytes <+: bytes := by
  unfold fitting
  split
  · exact List.prefix_rfl
  · exact List.take_prefix _ _

/-- What there is room for is not cut short. -/
theorem fitting_eq_iff : disk.fitting place bytes = bytes ↔ disk.fits place bytes = true := by
  unfold fitting fits
  cases disk.room (disk.numberFor place) with
  | none => simp
  | some most =>
    rw [decide_eq_true_iff]
    constructor
    · intro whole
      rw [← whole]
      exact List.length_take_le most bytes
    · exact List.take_of_length_le

/-- Bytes that make up a text are read as that text. -/
theorem readText_of_read {text : String} (reads : disk.read path = .ok (Utf8.ofString text)) :
    disk.readText path = .ok text := by
  simp [readText, reads, Utf8.toString?_ofString, bind, Except.bind, pure, Except.pure]

/-- The number of a place once what stood at one place was put at another one. -/
theorem number?_moved {old new : Place} {number : Nat} (numbered : disk.number? old = some number)
    (named : new ≠ []) (other : Place) : (disk.moved old new).number? other =
      if new = other then some number else if old = other then none else disk.number? other := by
  have own : disk.numberFor old = number := by rw [numberFor, numbered]; rfl
  by_cases root : other = []
  · subst root
    simp [number?, named]
  · have placed (disk : Disk) : disk.number? other = disk.numbers.get? other := by
      rw [number?, if_neg (by simpa using root)]
    rw [placed, placed, moved, own, Table.get?_insert, Table.get?_erase]

/-- What stands at a place once what stood at one place was put at another one. -/
theorem node?_moved {old new : Place} {node : Node} (below : old ≠ []) (named : new ≠ [])
    (here : disk.node? old = some node) (other : Place) : (disk.moved old new).node? other =
      if new = other then some node else if old = other then none else disk.node? other := by
  obtain ⟨number, numbered, holds⟩ := (node?_eq_some_iff below).mp here
  by_cases root : other = []
  · subst root
    simp [below, named]
  · have placed (disk : Disk) : disk.node? other = (disk.number? other).map disk.content := by
      rw [node?, if_neg (by simpa using root)]
    have content : (disk.moved old new).content = disk.content := rfl
    rw [placed, placed, number?_moved numbered named, content, apply_ite (Option.map _),
      apply_ite (Option.map _), Option.map_some, Option.map_none, holds]

/-- A rename puts a file or a link at another place, if the system allows it and the two names are
not of one file. -/
theorem rename_of_found {source target : Path} {old : Place} {node : Node}
    (came : disk.followShort false source = .ok (.found old node)) (movable : node ≠ .directory)
    (cameToo : disk.followShort false target = .ok arrival)
    (free : arrival.node? ≠ some .directory) :
    disk.rename source target =
      match disk.refuses (.move old arrival.place) with
      | some refusal => .error (.refused refusal)
      | none =>
        .ok (if disk.number? old = disk.number? arrival.place then disk
          else disk.moved old arrival.place) := by
  have asks : disk.rename source target = (do
      disk.allow (.move old arrival.place)
      if disk.number? old = disk.number? arrival.place then return disk
      else return disk.moved old arrival.place) := by
    unfold rename
    rw [came, cameToo]
    cases arrival with
    | missing new => cases node <;> first | exact absurd rfl movable | rfl
    | found new other =>
      have unlisted : other ≠ .directory := fun same => free (congrArg some same)
      cases node <;> cases other <;>
        first | exact absurd rfl movable | exact absurd rfl unlisted | rfl
  rw [asks, allow]
  cases disk.refuses (.move old arrival.place) with
  | some refusal => rfl
  | none =>
    simp only [bind, Except.bind]
    split <;> rfl

/-- A rename to a path that cannot be followed fails. -/
theorem rename_of_error {source target : Path} {cause : FileError}
    (failed : disk.followShort false target = .error cause) :
    ∃ cause, disk.rename source target = .error cause := by
  unfold rename
  rw [failed]
  cases disk.followShort false source with
  | error cause => exact ⟨cause, rfl⟩
  | ok arrival => exact ⟨cause, rfl⟩

end Disk

end LanguageClient
