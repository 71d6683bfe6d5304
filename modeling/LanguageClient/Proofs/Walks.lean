import LanguageClient.Files.Disk

/-!
# Walks along paths

A path is followed in moves: into a directory, back to the one above, or on to what a link holds.
`Disk.Leads` says where the moves end, with the trail of the links on the way, and
`follow_eq_ok_iff` that this is what following a path comes to. A walk looks only at directories,
at the links of its trail and at what stands at its end, so it is the same on every disk that
agrees about these.
-/

namespace LanguageClient

namespace Path

/-- Whether a path can be handed to an operation on files. -/
structure Usable (path : Path) : Prop where
  /-- It is not empty. -/
  filled : path.bytes ≠ []
  /-- It is short enough. -/
  short : path.bytes.length < Disk.maximalPath
  /-- It holds no zero byte. -/
  plain : 0 ∉ path.bytes

/-- The components of a path, without what stands between two slashes. -/
def names (path : Path) : List FileName := path.pieces.filter (· ≠ [])

/-- Whether a list of bytes can stand between two slashes of a path. -/
structure IsComponent (name : FileName) : Prop where
  /-- It is not empty. -/
  filled : name ≠ []
  /-- It holds no slash. -/
  whole : slash ∉ name

/-- What ends in a name does not end in a slash. -/
theorem IsComponent.getLast?_append {name : FileName} (isComponent : IsComponent name)
    (front : List UInt8) : (front ++ name).getLast? ≠ some slash := by
  have closing := List.getLast?_eq_some_getLast isComponent.filled
  have other : name.getLast isComponent.filled ≠ slash :=
    fun same => isComponent.whole (same ▸ List.getLast_mem isComponent.filled)
  rw [List.getLast?_append, closing]
  simpa using other

/-- A step of a path does not begin with a slash. -/
theorem IsComponent.head?_ne {name : FileName} (isComponent : IsComponent name) :
    name.head? ≠ some slash :=
  fun first => isComponent.whole (List.mem_of_head? first)

/-- The steps of a path that does not end in a slash are its names. -/
theorem steps_eq_names {path : Path} (unfinished : path.bytes.getLast? ≠ some slash) :
    path.steps = path.names := by
  unfold steps
  exact if_neg fun both => unfinished both.2

section Join

variable (directory : Path) {name : FileName} (isComponent : IsComponent name)
include isComponent

/-- What is joined to a path, whether or not a slash ends it. -/
theorem join_bytes :
    (directory.bytes = [] ∧ (directory.join ⟨name⟩).bytes = name) ∨
      ∃ before, (directory.bytes = before ∨ directory.bytes = before ++ [slash]) ∧
        directory.bytes ≠ [] ∧ (directory.join ⟨name⟩).bytes = before ++ slash :: name := by
  have relative : (Path.mk name).isAbsolute = false := decide_eq_false isComponent.head?_ne
  unfold join
  rw [relative, if_neg Bool.false_ne_true]
  by_cases empty : directory.bytes = []
  · left
    simp [empty]
  · right
    by_cases ended : directory.bytes.getLast? = some slash
    · obtain ⟨before, whole⟩ := List.getLast?_eq_some_iff.mp ended
      refine ⟨before, .inr whole, empty, ?_⟩
      rw [if_pos (.inr ended), whole, List.append_assoc]
      rfl
    · refine ⟨directory.bytes, .inl rfl, empty, ?_⟩
      rw [if_neg (by simp [empty, ended])]

/-- The path of a name in a directory holds the names of the directory and that name. -/
theorem names_join : (directory.join ⟨name⟩).names = directory.names ++ [name] := by
  have filled := isComponent.filled
  have single : name.splitOn slash = [name] := List.splitOn_eq_singleton isComponent.whole
  have nothing : ([] : FileName).splitOn slash = [[]] := List.splitOn_nil slash
  unfold names pieces
  rcases directory.join_bytes isComponent with ⟨empty, joined⟩ | ⟨before, whole, -, joined⟩
  · rw [joined, single, empty, nothing]
    simp [filled]
  · rw [joined, List.splitOn_append_cons_self, single]
    rcases whole with whole | whole
    · simp [whole, filled]
    · rw [whole, List.splitOn_append_cons_self, nothing]
      simp [filled]

/-- A name that is joined to a path is its last step. -/
theorem steps_join : (directory.join ⟨name⟩).steps = directory.names ++ [name] := by
  rw [← names_join directory isComponent]
  apply steps_eq_names
  rcases directory.join_bytes isComponent with ⟨-, joined⟩ | ⟨before, -, -, joined⟩
  · rw [joined]
    exact isComponent.getLast?_append []
  · rw [joined, ← List.singleton_append, ← List.append_assoc]
    exact isComponent.getLast?_append _

/-- A path stays absolute or relative when a name is joined to it. -/
theorem isAbsolute_join : (directory.join ⟨name⟩).isAbsolute = directory.isAbsolute := by
  unfold isAbsolute
  rcases directory.join_bytes isComponent with ⟨empty, joined⟩ | ⟨before, whole, filled, joined⟩
  · rw [joined, empty]
    exact decide_eq_false isComponent.head?_ne
  · rw [joined]
    cases before with
    | nil =>
      rcases whole with whole | whole
      · exact absurd whole filled
      · simp [whole]
    | cons byte rest =>
      rcases whole with whole | whole <;> simp [whole]

end Join

end Path

namespace Node

/-- Whether a node is a file or a device. -/
def IsFile (node : Node) : Prop := node.bytes?.isSome = true

/-- A file is no directory. -/
theorem IsFile.ne_directory {node : Node} (isFile : node.IsFile) : node ≠ .directory := by
  rintro rfl
  cases isFile

/-- A file is no link. -/
theorem IsFile.ne_link {node : Node} (isFile : node.IsFile) (target : Path) :
    node ≠ .link target := by
  rintro rfl
  cases isFile

end Node

namespace Disk

/-- A place on the way of a walk, and the steps that are left from there. -/
structure Waypoint where
  /-- The place. -/
  place : Place
  /-- The steps that are left. -/
  left : List FileName

/-- Whether a step names an entry of a directory. -/
structure IsName (step : FileName) : Prop where
  /-- It does not stay. -/
  ne_here : step ≠ Path.here
  /-- It does not go up. -/
  ne_above : step ≠ Path.above
  /-- It is short enough. -/
  short : step.length ≤ maximalName

/-- A directory in which names can be looked for. -/
structure Inside (disk : Disk) (place : Place) : Prop where
  /-- A directory stands there. -/
  directory : disk.node? place = some .directory
  /-- The system lets it be entered. -/
  allowed : disk.refuses (.enter place) = none

/-- The system lets the program look for a name. -/
theorem Inside.allow {disk : Disk} {place : Place} (inside : disk.Inside place) :
    disk.allow (.enter place) = .ok () := by
  rw [Disk.allow, inside.allowed]

/-- Where the path that a link in a directory holds starts. -/
def origin (directory : Place) (target : Path) : Place :=
  if target.isAbsolute then [] else directory

/-- A walk makes one move, and leads through the links that are given. -/
inductive Moves (disk : Disk) (followLast : Bool) : Waypoint → List Place → Waypoint → Prop
  /-- It stays where it is. -/
  | stay (place : Place) (step : FileName) (rest : List FileName)
    (inside : disk.Inside place) (dot : step = Path.here) :
    Moves disk followLast ⟨place, step :: rest⟩ [] ⟨place, rest⟩
  /-- It goes back to the directory above. -/
  | back (place : Place) (step : FileName) (rest : List FileName)
    (inside : disk.Inside place) (dots : step = Path.above) :
    Moves disk followLast ⟨place, step :: rest⟩ [] ⟨place.dropLast, rest⟩
  /-- It enters a directory. -/
  | enter (place : Place) (step : FileName) (rest : List FileName)
    (inside : disk.Inside place) (isName : IsName step)
    (below : disk.node? (place ++ [step]) = some .directory) :
    Moves disk followLast ⟨place, step :: rest⟩ [] ⟨place ++ [step], rest⟩
  /-- It follows a link. -/
  | link (place : Place) (step : FileName) (rest : List FileName) (target : Path)
    (inside : disk.Inside place) (isName : IsName step)
    (found : disk.node? (place ++ [step]) = some (.link target))
    (through : rest = [] → followLast = true) (filled : target.bytes ≠ []) :
    Moves disk followLast ⟨place, step :: rest⟩ [place ++ [step]]
      ⟨origin place target, target.steps ++ rest⟩

/-- A walk comes to its end. -/
inductive Stops (disk : Disk) (followLast : Bool) : Waypoint → Arrival → Prop
  /-- No step is left. -/
  | arrived (place : Place) (node : Node) (found : disk.node? place = some node) :
    Stops disk followLast ⟨place, []⟩ (.found place node)
  /-- The last step names a file or a device. -/
  | file (place : Place) (step : FileName) (node : Node)
    (inside : disk.Inside place) (isName : IsName step)
    (found : disk.node? (place ++ [step]) = some node) (isFile : node.IsFile) :
    Stops disk followLast ⟨place, [step]⟩ (.found (place ++ [step]) node)
  /-- The last step names a link that is not followed. -/
  | link (place : Place) (step : FileName) (target : Path)
    (inside : disk.Inside place) (isName : IsName step)
    (found : disk.node? (place ++ [step]) = some (.link target)) (kept : followLast = false) :
    Stops disk followLast ⟨place, [step]⟩ (.found (place ++ [step]) (.link target))
  /-- The last step names nothing. -/
  | missing (place : Place) (step : FileName)
    (inside : disk.Inside place) (isName : IsName step)
    (absent : disk.node? (place ++ [step]) = none) :
    Stops disk followLast ⟨place, [step]⟩ (.missing (place ++ [step]))

/-- A walk comes from one waypoint to another one along a trail of links. -/
inductive Passes (disk : Disk) (followLast : Bool) : Waypoint → List Place → Waypoint → Prop
  /-- It has not moved yet. -/
  | start (waypoint : Waypoint) : Passes disk followLast waypoint [] waypoint
  /-- It has made a move. -/
  | move {first second third : Waypoint} {links trail : List Place}
    (moves : Moves disk followLast first links second)
    (rest : Passes disk followLast second trail third) :
    Passes disk followLast first (links ++ trail) third

/-- A walk leads along a trail of links to its end. -/
def Leads (disk : Disk) (followLast : Bool) (first : Waypoint) (trail : List Place)
    (arrival : Arrival) : Prop :=
  ∃ last, disk.Passes followLast first trail last ∧ disk.Stops followLast last arrival

variable {disk : Disk} {followLast : Bool} {first second third : Waypoint}
  {trail trailToo : List Place} {arrival other : Arrival}

/-! ## One way to go -/

/-- From a waypoint there is one move at most. -/
theorem Moves.unique {links linksToo : List Place}
    (moves : disk.Moves followLast first links second)
    (movesToo : disk.Moves followLast first linksToo third) :
    links = linksToo ∧ second = third := by
  cases moves with
  | stay place step rest inside dot =>
    cases movesToo with
    | stay => exact ⟨rfl, rfl⟩
    | back _ _ _ _ dots => exact absurd (dot.symm.trans dots) (by decide)
    | enter _ _ _ _ isName => exact absurd dot isName.ne_here
    | link _ _ _ _ _ isName => exact absurd dot isName.ne_here
  | back place step rest inside dots =>
    cases movesToo with
    | stay _ _ _ _ dot => exact absurd (dot.symm.trans dots) (by decide)
    | back => exact ⟨rfl, rfl⟩
    | enter _ _ _ _ isName => exact absurd dots isName.ne_above
    | link _ _ _ _ _ isName => exact absurd dots isName.ne_above
  | enter place step rest inside isName below =>
    cases movesToo with
    | stay _ _ _ _ dot => exact absurd dot isName.ne_here
    | back _ _ _ _ dots => exact absurd dots isName.ne_above
    | enter => exact ⟨rfl, rfl⟩
    | link _ _ _ _ _ _ found => cases below.symm.trans found
  | link place step rest target inside isName found =>
    cases movesToo with
    | stay _ _ _ _ dot => exact absurd dot isName.ne_here
    | back _ _ _ _ dots => exact absurd dots isName.ne_above
    | enter _ _ _ _ _ below => cases below.symm.trans found
    | link _ _ _ other _ _ foundToo =>
      cases found.symm.trans foundToo
      exact ⟨rfl, rfl⟩

/-- A walk that is at its end makes no move. -/
theorem Stops.not_moves {links : List Place} (stops : disk.Stops followLast first arrival) :
    ¬ disk.Moves followLast first links second := by
  intro moves
  cases stops with
  | arrived => cases moves
  | file place step node inside isName found isFile =>
    cases moves with
    | stay _ _ _ _ dot => exact isName.ne_here dot
    | back _ _ _ _ dots => exact isName.ne_above dots
    | enter _ _ _ _ _ below =>
      exact isFile.ne_directory (Option.some.inj (found.symm.trans below))
    | link _ _ _ target _ _ link =>
      exact isFile.ne_link target (Option.some.inj (found.symm.trans link))
  | link place step target inside isName found kept =>
    cases moves with
    | stay _ _ _ _ dot => exact isName.ne_here dot
    | back _ _ _ _ dots => exact isName.ne_above dots
    | enter _ _ _ _ _ below => cases below.symm.trans found
    | link _ _ _ _ _ _ _ through => cases kept.symm.trans (through rfl)
  | missing place step inside isName absent =>
    cases moves with
    | stay _ _ _ _ dot => exact isName.ne_here dot
    | back _ _ _ _ dots => exact isName.ne_above dots
    | enter _ _ _ _ _ below => cases below.symm.trans absent
    | link _ _ _ _ _ _ link => cases link.symm.trans absent

/-- At a waypoint a walk comes to one end at most. -/
theorem Stops.unique (stops : disk.Stops followLast first arrival)
    (stopsToo : disk.Stops followLast first other) : arrival = other := by
  cases stops <;> cases stopsToo <;> grind

/-- Two trails can be passed one after the other. -/
theorem Passes.trans (passes : disk.Passes followLast first trail second)
    (passesToo : disk.Passes followLast second trailToo third) :
    disk.Passes followLast first (trail ++ trailToo) third := by
  induction passes with
  | start => exact passesToo
  | move moves rest ih =>
    rw [List.append_assoc]
    exact .move moves (ih passesToo)

/-- A walk that leads to an end does so from every waypoint before. -/
theorem Passes.leads (passes : disk.Passes followLast first trail second)
    (leads : disk.Leads followLast second trailToo arrival) :
    disk.Leads followLast first (trail ++ trailToo) arrival := by
  obtain ⟨last, further, stops⟩ := leads
  exact ⟨last, passes.trans further, stops⟩

/-- A walk that comes to an end comes there by way of every waypoint that it passes. -/
theorem Passes.leads_rest (passes : disk.Passes followLast first trail second)
    (leads : disk.Leads followLast first trailToo arrival) :
    ∃ rest, trailToo = trail ++ rest ∧ disk.Leads followLast second rest arrival := by
  induction passes generalizing trailToo with
  | start => exact ⟨trailToo, rfl, leads⟩
  | move moves rest ih =>
    obtain ⟨last, passes, stops⟩ := leads
    cases passes with
    | start => exact absurd moves stops.not_moves
    | move movesToo restToo =>
      obtain ⟨rfl, rfl⟩ := moves.unique movesToo
      obtain ⟨others, rfl, leads⟩ := ih ⟨last, restToo, stops⟩
      exact ⟨others, by rw [List.append_assoc], leads⟩

/-- A walk comes to one end, along one trail. -/
theorem Leads.unique (leads : disk.Leads followLast first trail arrival)
    (leadsToo : disk.Leads followLast first trailToo other) :
    trail = trailToo ∧ arrival = other := by
  obtain ⟨last, passes, stops⟩ := leads
  obtain ⟨rest, rfl, final, further, stopsToo⟩ := passes.leads_rest leadsToo
  cases further with
  | start => exact ⟨by simp, stops.unique stopsToo⟩
  | move moves => exact absurd moves stops.not_moves

/-! ## One path behind another -/

/-- A waypoint from which there are more steps to go. -/
def Waypoint.andThen (waypoint : Waypoint) (more : List FileName) : Waypoint :=
  ⟨waypoint.place, waypoint.left ++ more⟩

/-- With more steps to go a walk moves as if it went to the end of those that it has. -/
theorem Moves.andThen {more : List FileName} (further : more ≠ [])
    (moves : disk.Moves true first trail second) :
    disk.Moves followLast (first.andThen more) trail (second.andThen more) := by
  cases moves with
  | stay place step rest inside dot => exact .stay place step _ inside dot
  | back place step rest inside dots => exact .back place step _ inside dots
  | enter place step rest inside isName below => exact .enter place step _ inside isName below
  | link place step rest target inside isName found through filled =>
    have goesOn : rest ++ more = [] → followLast = true := fun none =>
      absurd (List.append_eq_nil_iff.mp none).2 further
    have moves : disk.Moves followLast _ _ _ := Moves.link place step _ target inside isName found
      goesOn filled
    rwa [← List.append_assoc] at moves

/-- A trail can be passed with more steps to go behind it. -/
theorem Passes.andThen {more : List FileName} (further : more ≠ [])
    (passes : disk.Passes true first trail second) :
    disk.Passes followLast (first.andThen more) trail (second.andThen more) := by
  induction passes with
  | start waypoint => exact .start _
  | move moves rest ih => exact .move (moves.andThen further) ih

/-- A walk that comes to a directory has no step left. -/
theorem Leads.passes {place : Place}
    (leads : disk.Leads followLast first trail (.found place .directory)) :
    disk.node? place = some .directory ∧ disk.Passes followLast first trail ⟨place, []⟩ := by
  obtain ⟨last, passes, stops⟩ := leads
  cases stops with
  | arrived place node found => exact ⟨found, passes⟩
  | file _ _ _ _ _ _ isFile => exact absurd rfl isFile.ne_directory

/-- A walk that has a step to go stands in a directory in which names can be looked for. -/
theorem Leads.inside {place : Place} {step : FileName} {rest : List FileName}
    (leads : disk.Leads followLast ⟨place, step :: rest⟩ trail arrival) : disk.Inside place := by
  obtain ⟨last, passes, stops⟩ := leads
  cases passes with
  | start =>
    cases stops with
    | file _ _ _ inside => exact inside
    | link _ _ _ inside => exact inside
    | missing _ _ inside => exact inside
  | move moves =>
    cases moves with
    | stay _ _ _ inside => exact inside
    | back _ _ _ inside => exact inside
    | enter _ _ _ inside => exact inside
    | link _ _ _ _ inside => exact inside

/-- A move that has more steps behind it is a move without them. -/
theorem Moves.of_andThen {more : List FileName} {links : List Place} (steps : first.left ≠ [])
    (moves : disk.Moves followLast (first.andThen more) links second) :
    ∃ next : Waypoint, second = next.andThen more ∧ disk.Moves true first links next := by
  obtain ⟨place, _ | ⟨step, rest⟩⟩ := first
  · exact absurd rfl steps
  cases moves with
  | stay _ _ _ inside dot => exact ⟨⟨_, rest⟩, rfl, .stay place step rest inside dot⟩
  | back _ _ _ inside dots => exact ⟨⟨_, rest⟩, rfl, .back place step rest inside dots⟩
  | enter _ _ _ inside isName below =>
    exact ⟨⟨_, rest⟩, rfl, .enter place step rest inside isName below⟩
  | link _ _ _ target inside isName found through filled =>
    refine ⟨⟨_, target.steps ++ rest⟩, ?_,
      .link place step rest target inside isName found (fun _ => rfl) filled⟩
    exact congrArg (Waypoint.mk _) (List.append_assoc _ _ _).symm

/-- A walk does not end while there are more steps behind its own. -/
theorem Stops.left_eq_nil {more : List FileName} (further : more ≠ [])
    (stops : disk.Stops followLast (first.andThen more) arrival) : first.left = [] := by
  obtain ⟨place, _ | ⟨step, rest⟩⟩ := first
  · rfl
  · generalize whole : (Waypoint.mk place (step :: rest)).andThen more = last at stops
    have behind : last.left = step :: (rest ++ more) := by rw [← whole]; rfl
    have none : rest ++ more = [] := by
      cases stops with
      | arrived => cases behind
      | file => exact (List.cons.inj behind).2.symm
      | link => exact (List.cons.inj behind).2.symm
      | missing => exact (List.cons.inj behind).2.symm
    exact absurd (List.append_eq_nil_iff.mp none).2 further

/-- A path leads where its last steps lead from the directory that its first steps lead to. -/
theorem leads_andThen_iff {more : List FileName} (further : more ≠ []) :
    disk.Leads followLast (first.andThen more) trail arrival ↔
      ∃ place before after, trail = before ++ after ∧
        disk.Leads true first before (.found place .directory) ∧
        disk.Leads followLast ⟨place, more⟩ after arrival := by
  constructor
  · rintro ⟨last, passes, stops⟩
    -- Where no step of the first path is left, a directory is reached and the rest is behind it.
    have divided (trail : List Place) (first : Waypoint) (done : first.left = [])
        (leads : disk.Leads followLast (first.andThen more) trail arrival) :
        ∃ place before after, trail = before ++ after ∧
          disk.Leads true first before (.found place .directory) ∧
          disk.Leads followLast ⟨place, more⟩ after arrival := by
      obtain ⟨place, left⟩ := first
      obtain rfl : left = [] := done
      obtain ⟨step, others, rfl⟩ := List.exists_cons_of_ne_nil further
      exact ⟨place, [], trail, rfl, ⟨_, .start _, .arrived place _ leads.inside.directory⟩, leads⟩
    generalize whole : first.andThen more = begins at passes
    induction passes generalizing first with
    | start waypoint =>
      subst whole
      exact divided [] first (stops.left_eq_nil further) ⟨_, .start _, stops⟩
    | move moves rest ih =>
      subst whole
      by_cases done : first.left = []
      · exact divided _ first done ⟨_, .move moves rest, stops⟩
      · obtain ⟨next, rfl, movesHere⟩ := moves.of_andThen done
        obtain ⟨place, before, after, rfl, ⟨there, passes, stopsHere⟩, back⟩ := ih stops rfl
        exact ⟨place, _ ++ before, after, (List.append_assoc _ _ _).symm,
          ⟨there, .move movesHere passes, stopsHere⟩, back⟩
  · rintro ⟨place, before, after, rfl, front, back⟩
    exact (front.passes.2.andThen further).leads back

/-! ## Following a path -/

/-- An access is allowed exactly if the system does not refuse it. -/
theorem allow_eq_ok_iff {access : Access} :
    disk.allow access = .ok () ↔ disk.refuses access = none := by
  unfold allow
  cases disk.refuses access <;> simp

/-- A move of a walk is a round of following its steps. -/
theorem walk_moves (fuel links : Nat) (moves : disk.Moves followLast first trail second) :
    disk.walk followLast (fuel + 1) (links + trail.length) first.place first.left =
      disk.walk followLast fuel links second.place second.left := by
  cases moves with
  | stay place step rest inside dot =>
    simp only [walk, inside.directory, inside.allow, if_pos dot, List.length_nil, Nat.add_zero]
  | back place step rest inside dots =>
    have other : step ≠ Path.here := by
      rw [dots]
      decide
    simp only [walk, inside.directory, inside.allow, if_neg other, if_pos dots, List.length_nil,
      Nat.add_zero]
  | enter place step rest inside isName below =>
    simp only [walk, inside.directory, inside.allow, if_neg isName.ne_here, if_neg isName.ne_above,
      if_neg (Nat.not_lt.mpr isName.short), below, List.length_nil, Nat.add_zero]
  | link place step rest target inside isName found through filled =>
    have follows : (rest.isEmpty && !followLast) = false := by
      cases rest with
      | nil => simp [through rfl]
      | cons => rfl
    have holds : target.bytes.isEmpty = false := by simpa using filled
    simp only [walk, inside.directory, inside.allow, if_neg isName.ne_here, if_neg isName.ne_above,
      if_neg (Nat.not_lt.mpr isName.short), found, follows, holds, Bool.false_eq_true, ↓reduceIte,
      List.length_singleton]
    rfl

/-- At the end of a walk following its steps comes to an end. -/
theorem walk_stops (fuel links : Nat) (stops : disk.Stops followLast first arrival) :
    disk.walk followLast (fuel + first.left.length + 1) links first.place first.left =
      .ok arrival := by
  have named {place : Place} {step : FileName} (inside : disk.Inside place)
      (isName : IsName step) :=
    And.intro inside.directory (And.intro inside.allow (And.intro isName.ne_here
      (And.intro isName.ne_above (Nat.not_lt.mpr isName.short))))
  cases stops with
  | arrived place node found => simp only [walk, found]
  | file place step node inside isName found isFile =>
    obtain ⟨directory, allow, notHere, notAbove, short⟩ := named inside isName
    cases node with
    | directory => exact absurd rfl isFile.ne_directory
    | link target => exact absurd rfl (isFile.ne_link target)
    | _ => simp [walk, directory, allow, notHere, notAbove, short, found]
  | link place step target inside isName found kept =>
    obtain ⟨directory, allow, notHere, notAbove, short⟩ := named inside isName
    simp [walk, directory, allow, notHere, notAbove, short, found, kept]
  | missing place step inside isName absent =>
    obtain ⟨directory, allow, notHere, notAbove, short⟩ := named inside isName
    simp [walk, directory, allow, notHere, notAbove, short, absent]

/-- Steps are followed in a directory in which names can be looked for. -/
theorem inside_of_walk {fuel links : Nat} {place : Place} {step : FileName} {rest : List FileName}
    (came : disk.walk followLast (fuel + 1) links place (step :: rest) = .ok arrival) :
    disk.Inside place := by
  cases here : disk.node? place with
  | none => simp [walk, here] at came
  | some node =>
    cases node with
    | directory =>
      cases allowed : disk.allow (.enter place) with
      | error cause => simp [walk, here, allowed] at came
      | ok => exact ⟨here, allow_eq_ok_iff.mp allowed⟩
    | _ => simp [walk, here] at came

/-- A step that leads to a file is the last one. -/
theorem rest_eq_nil_of_walk {fuel links : Nat} {place : Place} {rest : List FileName} {node : Node}
    (here : disk.node? place = some node) (isFile : node.IsFile)
    (came : disk.walk followLast fuel links place rest = .ok arrival) :
    rest = [] ∧ arrival = .found place node := by
  cases fuel with
  | zero => cases came
  | succ fuel =>
    cases rest with
    | nil =>
      simp only [walk, here] at came
      exact ⟨rfl, (Except.ok.inj came).symm⟩
    | cons step rest =>
      have directory := (inside_of_walk came).directory
      exact absurd (Option.some.inj (here.symm.trans directory)) isFile.ne_directory

/-- Steps that can be followed through a link move on to what it holds, or are at their end. -/
theorem link_moves_or_stops {step : FileName} {rest : List FileName} {target : Path}
    {fuel links : Nat} (inside : disk.Inside place) (isName : IsName step)
    (link : disk.node? (place ++ [step]) = some (.link target))
    (came : disk.walk followLast (fuel + 1) links place (step :: rest) = .ok arrival) :
    disk.Stops followLast ⟨place, step :: rest⟩ arrival ∨
      ∃ trail second, disk.Moves followLast ⟨place, step :: rest⟩ trail second ∧
        trail.length ≤ links := by
  simp only [walk, inside.directory, inside.allow, if_neg isName.ne_here, if_neg isName.ne_above,
    if_neg (Nat.not_lt.mpr isName.short), link] at came
  by_cases kept : rest = [] ∧ followLast = false
  · obtain ⟨rfl, rfl⟩ := kept
    cases came
    exact .inl (.link place step target inside isName link rfl)
  have through : rest = [] → followLast = true := by
    intro last
    simpa [last] using kept
  have follows : (rest.isEmpty && !followLast) = false := by
    cases rest with
    | nil => simp [through rfl]
    | cons => rfl
  rw [follows, if_neg Bool.false_ne_true] at came
  cases links with
  | zero => cases came
  | succ links =>
    by_cases filled : target.bytes = []
    · simp [filled] at came
    · exact .inr ⟨[_], _, .link place step rest target inside isName link through filled,
        Nat.le_add_left 1 links⟩

/-- Steps that can be followed begin with a move or are at their end. -/
theorem moves_or_stops {fuel links : Nat}
    (came : disk.walk followLast (fuel + 1) links first.place first.left = .ok arrival) :
    disk.Stops followLast first arrival ∨
      ∃ trail second, disk.Moves followLast first trail second ∧ trail.length ≤ links := by
  obtain ⟨place, _ | ⟨step, rest⟩⟩ := first
  · cases found : disk.node? place with
    | none => simp [walk, found] at came
    | some node =>
      simp only [walk, found] at came
      cases came
      exact .inl (.arrived place node found)
  have inside := inside_of_walk came
  by_cases dot : step = Path.here
  · exact .inr ⟨[], _, .stay place step rest inside dot, Nat.zero_le _⟩
  by_cases dots : step = Path.above
  · exact .inr ⟨[], _, .back place step rest inside dots, Nat.zero_le _⟩
  by_cases long : maximalName < step.length
  · simp [walk, inside.directory, inside.allow, dot, dots, long] at came
  have isName : IsName step := ⟨dot, dots, Nat.le_of_not_lt long⟩
  cases below : disk.node? (place ++ [step]) with
  | none =>
    simp only [walk, inside.directory, inside.allow, if_neg dot, if_neg dots, if_neg long,
      below] at came
    cases rest with
    | nil =>
      cases came
      exact .inl (.missing place step inside isName below)
    | cons => cases came
  | some node =>
    have ends (isFile : node.IsFile)
        (came : disk.walk followLast fuel links (place ++ [step]) rest = .ok arrival) :
        disk.Stops followLast ⟨place, step :: rest⟩ arrival := by
      obtain ⟨rfl, rfl⟩ := rest_eq_nil_of_walk below isFile came
      exact .file place step node inside isName below isFile
    cases node with
    | directory => exact .inr ⟨[], _, .enter place step rest inside isName below, Nat.zero_le _⟩
    | link target => exact link_moves_or_stops inside isName below came
    | file bytes | device bytes =>
      simp only [walk, inside.directory, inside.allow, if_neg dot, if_neg dots, if_neg long,
        below] at came
      exact .inl (ends rfl came)

/-- What a walk comes to is where it leads, along no more links than it may follow. -/
theorem leads_of_walk {fuel links : Nat}
    (came : disk.walk followLast fuel links first.place first.left = .ok arrival) :
    ∃ trail, trail.length ≤ links ∧ disk.Leads followLast first trail arrival := by
  induction fuel generalizing links first with
  | zero => cases came
  | succ fuel ih =>
    rcases moves_or_stops came with stops | ⟨passed, second, moves, few⟩
    · exact ⟨[], Nat.zero_le _, first, .start first, stops⟩
    · obtain ⟨left, rfl⟩ := Nat.exists_eq_add_of_le' few
      rw [walk_moves fuel left moves] at came
      obtain ⟨trail, fewToo, last, passes, stops⟩ := ih came
      refine ⟨passed ++ trail, ?_, last, .move moves passes, stops⟩
      rw [List.length_append]
      omega

/-- No number in a list is greater than the greatest. -/
theorem le_foldl_max (numbers : List Nat) (least : Nat) :
    least ≤ numbers.foldl max least ∧ ∀ number ∈ numbers, number ≤ numbers.foldl max least := by
  induction numbers generalizing least with
  | nil => simp
  | cons number rest ih =>
    obtain ⟨above, others⟩ := ih (max least number)
    simp only [List.foldl_cons, List.forall_mem_cons]
    exact ⟨Nat.le_trans (Nat.le_max_left _ _) above, Nat.le_trans (Nat.le_max_right _ _) above,
      others⟩

/-- What stands at a place below the root has a number. -/
theorem node?_eq_some_iff {place : Place} {node : Node} (below : place ≠ []) :
    disk.node? place = some node ↔
      ∃ number, disk.number? place = some number ∧ disk.content number = node := by
  unfold node?
  rw [if_neg (by simpa using below), Option.map_eq_some_iff]

/-- A number of a place is listed. -/
theorem mem_of_number? {place : Place} {number : Nat}
    (numbered : disk.number? place = some number) :
    (place, number) ∈ disk.numbers.entries := by
  unfold number? at numbered
  split at numbered
  · cases numbered
  · exact Table.mem_of_find numbered

/-- No link holds more steps than the longest. -/
theorem length_le_longestLink (place : Place) (target : Path)
    (found : disk.node? place = some (.link target)) : target.steps.length ≤ disk.longestLink := by
  have below : place ≠ [] := by
    rintro rfl
    cases found
  obtain ⟨number, numbered, holds⟩ := (node?_eq_some_iff below).mp found
  refine (le_foldl_max _ 0).2 _ (List.mem_map.mpr ⟨_, mem_of_number? numbered, ?_⟩)
  simp only [holds]

/-- The fuel of a walk allows for the steps of forty links, however many steps they hold. -/
theorem lt_walkFuel (disk : Disk) (steps : List FileName) {links : Nat}
    (few : links ≤ maximalLinks) :
    steps.length + links * disk.longestLink + 1 < disk.walkFuel steps := by
  have allowed : links * disk.longestLink ≤ maximalLinks * (disk.longestLink + 1) :=
    Nat.mul_le_mul few (Nat.le_succ _)
  exact Nat.lt_succ_of_le (Nat.succ_le_succ (Nat.add_le_add_left allowed _))

/-- A move uses up a step, and every link on it brings in steps of its own. -/
theorem Moves.left_lt (moves : disk.Moves followLast first trail second) :
    second.left.length < first.left.length + trail.length * disk.longestLink := by
  cases moves with
  | link place step rest target inside isName found =>
    have own := length_le_longestLink _ _ found
    simp only [List.length_append, List.length_cons, List.length_nil]
    omega
  | _ => simp

/-- A walk that is given enough rounds, one for each step of the path and of every link, goes on
from each waypoint that it passes, with rounds for the steps that are left there. -/
theorem Passes.walk_eq {links fuel : Nat} (passes : disk.Passes followLast first trail second)
    (few : trail.length ≤ links)
    (enough : first.left.length + trail.length * disk.longestLink < fuel) :
    ∃ rounds further, second.left.length ≤ rounds ∧
      disk.walk followLast fuel links first.place first.left =
        disk.walk followLast (rounds + 1) further second.place second.left := by
  induction passes generalizing links fuel with
  | start waypoint =>
    simp only [List.length_nil, Nat.zero_mul, Nat.add_zero] at enough
    obtain ⟨more, rfl⟩ := Nat.exists_eq_add_of_lt enough
    exact ⟨_, links, Nat.le_add_right _ more, rfl⟩
  | move moves rest ih =>
    have fewer := moves.left_lt
    rw [List.length_append] at few enough
    rw [Nat.add_mul] at enough
    obtain ⟨rounds, rfl⟩ := Nat.exists_eq_succ_of_ne_zero (Nat.ne_zero_of_lt enough)
    obtain ⟨left, rfl⟩ := Nat.exists_eq_add_of_le' (Nat.le_of_add_right_le few)
    rw [walk_moves rounds left moves]
    refine ih ?_ ?_ <;> omega

/-- A walk that leads somewhere comes there if it may follow its links and is given enough
rounds. -/
theorem walk_of_leads {links fuel : Nat} (leads : disk.Leads followLast first trail arrival)
    (few : trail.length ≤ links)
    (enough : first.left.length + trail.length * disk.longestLink < fuel) :
    disk.walk followLast fuel links first.place first.left = .ok arrival := by
  obtain ⟨last, passes, stops⟩ := leads
  obtain ⟨rounds, further, left, same⟩ := passes.walk_eq few enough
  obtain ⟨more, rfl⟩ := Nat.exists_eq_add_of_le' left
  rw [same]
  exact walk_stops more further stops

/-- Where a path sets out from. -/
def setOut (disk : Disk) (path : Path) : Waypoint :=
  ⟨if path.isAbsolute then [] else disk.workingDirectory, path.steps⟩

/-- Following a path comes to where a walk from its beginning leads, along forty links at most. -/
theorem follow_eq_ok_iff {path : Path} :
    disk.follow followLast path = .ok arrival ↔ 0 ∉ path.bytes ∧ path.bytes ≠ [] ∧
      ∃ trail, trail.length ≤ maximalLinks ∧
        disk.Leads followLast (disk.setOut path) trail arrival := by
  unfold follow
  by_cases null : 0 ∈ path.bytes
  · simp [null]
  by_cases empty : path.bytes = []
  · simp [empty]
  simp only [null, empty, List.contains_eq_mem, List.isEmpty_iff, decide_false, Bool.false_eq_true,
    ↓reduceIte, not_false_eq_true, true_and, ne_eq]
  constructor
  · intro came
    have walked : disk.walk followLast (disk.walkFuel path.steps) maximalLinks
        (disk.setOut path).place (disk.setOut path).left = .ok arrival := came
    exact leads_of_walk walked
  · rintro ⟨trail, few, leads⟩
    exact walk_of_leads leads few (Nat.lt_of_succ_lt (disk.lt_walkFuel _ few))

/-- A path that can be handed to an operation on files is followed from its beginning. -/
theorem followShort_of_usable {path : Path} (usable : path.Usable) :
    disk.followShort followLast path = disk.walk followLast (disk.walkFuel path.steps) maximalLinks
      (disk.setOut path).place (disk.setOut path).left := by
  obtain ⟨filled, short, plain⟩ := usable
  unfold followShort follow
  rw [if_neg fun long => Nat.not_lt.mpr long.1 short]
  simp only [List.contains_eq_mem, plain, decide_false, Bool.false_eq_true, if_false,
    List.isEmpty_iff, filled]
  rfl

/-- An operation on files follows a path if it can be handed to it. -/
theorem followShort_eq_ok_iff {path : Path} :
    disk.followShort followLast path = .ok arrival ↔ path.Usable ∧
      ∃ trail, trail.length ≤ maximalLinks ∧
        disk.Leads followLast (disk.setOut path) trail arrival := by
  unfold followShort
  by_cases long : maximalPath ≤ path.bytes.length ∧ (!path.bytes.contains 0) = true
  · rw [if_pos long]
    refine iff_of_false nofun ?_
    rintro ⟨usable, -⟩
    exact Nat.not_lt.mpr long.1 usable.short
  · rw [if_neg long, follow_eq_ok_iff]
    constructor
    · rintro ⟨plain, filled, leads⟩
      have short : path.bytes.length < maximalPath := by
        apply Nat.lt_of_not_le
        intro tooLong
        exact long ⟨tooLong, by simpa using plain⟩
      exact ⟨⟨filled, short, plain⟩, leads⟩
    · rintro ⟨usable, leads⟩
      exact ⟨usable.plain, usable.filled, leads⟩

/-! ## Paths in a directory -/

/-- Where the names in a directory are looked for. -/
def into (disk : Disk) (directory : Path) : Waypoint :=
  ⟨if directory.isAbsolute then [] else disk.workingDirectory, directory.names⟩

/-- A name in a directory is looked for where the path of the directory leads. -/
theorem setOut_join (disk : Disk) (directory : Path) {name : FileName}
    (isComponent : Path.IsComponent name) :
    disk.setOut (directory.join ⟨name⟩) = (disk.into directory).andThen [name] := by
  unfold setOut into Waypoint.andThen
  rw [directory.isAbsolute_join isComponent, directory.steps_join isComponent]

/-- A name in a directory is followed to where it leads from the place of the directory. -/
theorem followShort_join_eq_ok_iff {directory : Path} {name : FileName}
    (isComponent : Path.IsComponent name) :
    disk.followShort followLast (directory.join ⟨name⟩) = .ok arrival ↔
      (directory.join ⟨name⟩).Usable ∧ ∃ place before after,
        before.length + after.length ≤ maximalLinks ∧
        disk.Leads true (disk.into directory) before (.found place .directory) ∧
        disk.Leads followLast ⟨place, [name]⟩ after arrival := by
  rw [followShort_eq_ok_iff, setOut_join disk directory isComponent]
  refine and_congr_right fun _ => ?_
  constructor
  · rintro ⟨trail, few, leads⟩
    obtain ⟨place, before, after, rfl, there, further⟩ :=
      (leads_andThen_iff (List.cons_ne_nil name [])).mp leads
    exact ⟨place, before, after, List.length_append ▸ few, there, further⟩
  · rintro ⟨place, before, after, few, there, further⟩
    exact ⟨before ++ after, List.length_append ▸ few,
      (leads_andThen_iff (List.cons_ne_nil name [])).mpr
        ⟨place, before, after, rfl, there, further⟩⟩

/-! ## One name in a directory -/

/-- What stands at a place. -/
def standing (disk : Disk) (place : Place) : Arrival :=
  match disk.node? place with
  | some node => .found place node
  | none => .missing place

section Entry

variable {place : Place} {name : FileName} (inside : disk.Inside place)
  (isName : IsName name)
include inside isName

/-- A name that is not followed leads to what stands there. -/
theorem leads_entry
    (unlinked : followLast = true → ∀ target, disk.node? (place ++ [name]) ≠ some (.link target)) :
    disk.Leads followLast ⟨place, [name]⟩ [] (disk.standing (place ++ [name])) := by
  unfold standing
  cases found : disk.node? (place ++ [name]) with
  | none => exact ⟨_, .start _, .missing place name inside isName found⟩
  | some node =>
    cases node with
    | file bytes => exact ⟨_, .start _, .file place name _ inside isName found rfl⟩
    | device bytes => exact ⟨_, .start _, .file place name _ inside isName found rfl⟩
    | directory =>
      have enters : disk.Moves followLast _ _ _ := Moves.enter place name [] inside isName found
      exact ⟨_, .move enters (.start _), .arrived _ _ found⟩
    | link target =>
      have kept : followLast = false := by
        cases followLast with
        | false => rfl
        | true => exact absurd found (unlinked rfl target)
      exact ⟨_, .start _, .link place name target inside isName found kept⟩

/-- A link leads to where the path that it holds leads. -/
theorem leads_link_iff {target : Path}
    (found : disk.node? (place ++ [name]) = some (.link target)) :
    disk.Leads true ⟨place, [name]⟩ trail arrival ↔ target.bytes ≠ [] ∧ ∃ rest,
      trail = (place ++ [name]) :: rest ∧
        disk.Leads true ⟨origin place target, target.steps⟩ rest arrival := by
  constructor
  · rintro ⟨last, passes, stops⟩
    cases passes with
    | start =>
      cases stops with
      | file _ _ _ _ _ other isFile =>
        exact absurd (Option.some.inj (other.symm.trans found)) (isFile.ne_link target)
      | link _ _ _ _ _ _ kept => cases kept
      | missing _ _ _ _ absent => cases found.symm.trans absent
    | move moves rest =>
      cases moves with
      | stay _ _ _ _ dot => exact absurd dot isName.ne_here
      | back _ _ _ _ dots => exact absurd dots isName.ne_above
      | enter _ _ _ _ _ below => cases found.symm.trans below
      | link _ _ _ _ _ _ link through filled =>
        cases found.symm.trans link
        rw [List.append_nil] at rest
        exact ⟨filled, _, rfl, last, rest, stops⟩
  · rintro ⟨filled, rest, rfl, leads⟩
    have moves := Moves.link place name [] target inside isName found (fun _ => rfl) filled
    rw [List.append_nil] at moves
    exact (Passes.move moves (.start _)).leads leads

end Entry

/-- Where a name has to be a directory, it leads to one. -/
theorem Leads.front {place : Place} {step : FileName} {left : List FileName} (further : left ≠ [])
    (leads : disk.Leads followLast ⟨place, step :: left⟩ trail arrival) :
    ∃ there front, front.length ≤ trail.length ∧
      disk.Leads true ⟨place, [step]⟩ front (.found there .directory) := by
  have onwards : disk.Leads followLast ((Waypoint.mk place [step]).andThen left) trail arrival :=
    leads
  obtain ⟨there, front, rest, rfl, first, -⟩ := (leads_andThen_iff further).mp onwards
  exact ⟨there, front, by simp, first⟩

end Disk

end LanguageClient
