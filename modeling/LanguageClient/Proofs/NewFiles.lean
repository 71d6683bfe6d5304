import LanguageClient.Proofs.DiskChanges

/-!
# Files that were not there before

Writing a file changes nothing for a path that leads to no file, unless the file is new and
following the path comes to look at its place (`Sees`, `LooksAt`). Then it does change something:
the path led to nothing, and now it leads to the file or fails at it. `read_store_eq_iff` says
both.
-/

namespace LanguageClient.Disk

/-- Whether a walk that has come to a waypoint stands at a place, or looks there next. -/
def Waypoint.Sees (waypoint : Waypoint) (place : Place) : Prop :=
  waypoint.place = place ∨
    ∃ step rest, waypoint.left = step :: rest ∧ waypoint.place ++ [step] = place

/-- Whether following a path comes to look at a place. -/
def LooksAt (disk : Disk) (path : Path) (place : Place) : Prop :=
  path.Usable ∧ ∃ trail waypoint, trail.length ≤ maximalLinks ∧
    disk.Passes true (disk.setOut path) trail waypoint ∧ waypoint.Sees place

/-- Whether a later disk has the same at a place, or has another file where a file was. -/
inductive Alike (disk later : Disk) (place : Place) : Prop
  /-- The same stands there. -/
  | same (kept : later.node? place = disk.node? place)
  /-- A file stands there on both. -/
  | files (first second : Node) (here : disk.node? place = some first) (isFile : first.IsFile)
    (hereToo : later.node? place = some second) (isFileToo : second.IsFile)

variable {disk later : Disk} {followLast : Bool} {first : Waypoint} {trail : List Place}
  {arrival : Arrival} {place : Place} {path : Path} {bytes : List UInt8}

/-- A walk that has a step to go fails where no directory stands. -/
theorem walk_outside {node : Node} (here : disk.node? place = some node) (other : node ≠ .directory)
    (fuel links : Nat) (step : FileName) (rest : List FileName) :
    disk.walk followLast (fuel + 1) links place (step :: rest) = .error .notDirectory := by
  cases node with
  | directory => exact absurd rfl other
  | file bytes => simp only [walk, here]
  | device bytes => simp only [walk, here]
  | link target => simp only [walk, here]

/-- A walk in a directory whose next step names a file finds the file, or fails at it. -/
theorem walk_file {node : Node} {step : FileName} (inside : disk.Inside place)
    (isName : IsName step) (here : disk.node? (place ++ [step]) = some node) (isFile : node.IsFile)
    (fuel links : Nat) (rest : List FileName) :
    disk.walk followLast (fuel + 2) links place (step :: rest) =
      if rest = [] then .ok (.found (place ++ [step]) node) else .error .notDirectory := by
  have enters : disk.walk followLast (fuel + 2) links place (step :: rest) =
      disk.walk followLast (fuel + 1) links (place ++ [step]) rest := by
    rw [walk]
    simp only [inside.directory, inside.allow, if_neg isName.ne_here, if_neg isName.ne_above,
      if_neg (Nat.not_lt.mpr isName.short), here]
    cases node with
    | directory => exact absurd rfl isFile.ne_directory
    | link target => exact absurd rfl (isFile.ne_link target)
    | file bytes => rfl
    | device bytes => rfl
  rw [enters]
  cases rest with
  | nil => simp only [walk, here, if_true]
  | cons next others => rw [walk_outside here isFile.ne_directory, if_neg (List.cons_ne_nil _ _)]

/-- A walk in a directory whose next step names nothing ends there, or fails. -/
theorem walk_absent {step : FileName} (inside : disk.Inside place) (isName : IsName step)
    (absent : disk.node? (place ++ [step]) = none) (fuel links : Nat) (rest : List FileName) :
    disk.walk followLast (fuel + 1) links place (step :: rest) =
      if rest = [] then .ok (.missing (place ++ [step])) else .error .notFound := by
  rw [walk]
  simp only [inside.directory, inside.allow, if_neg isName.ne_here, if_neg isName.ne_above,
    if_neg (Nat.not_lt.mpr isName.short), absent, List.isEmpty_iff]

/-- A walk in a directory whose next step names a link that it does not follow ends there, or
fails. -/
theorem walk_link {step : FileName} {rest : List FileName} {target : Path} {links : Nat}
    (inside : disk.Inside place) (isName : IsName step)
    (link : disk.node? (place ++ [step]) = some (.link target))
    (stuck : (rest = [] → followLast = true) → target.bytes ≠ [] → links = 0) (fuel : Nat) :
    disk.walk followLast (fuel + 1) links place (step :: rest) =
      if rest.isEmpty && !followLast then .ok (.found (place ++ [step]) (.link target))
      else if links = 0 then .error .tooManyLinks else .error .notFound := by
  rw [walk]
  simp only [inside.directory, inside.allow, if_neg isName.ne_here, if_neg isName.ne_above,
    if_neg (Nat.not_lt.mpr isName.short), link]
  by_cases kept : (rest.isEmpty && !followLast) = true
  · rw [if_pos kept, if_pos kept]
  rw [if_neg kept, if_neg kept]
  cases links with
  | zero => rfl
  | succ links =>
    have followed : rest = [] → followLast = true := by
      rintro rfl
      simpa using kept
    have empty : target.bytes = [] :=
      Classical.byContradiction fun filled => Nat.succ_ne_zero links (stuck followed filled)
    simp [empty]

section
variable {links : Nat}

/-- A walk in a directory that cannot move on by the name before it comes to the same on a disk that
is alike under that name, unless it finds a file. -/
theorem walk_stuck_name {step : FileName} {rest : List FileName} (inside : disk.Inside place)
    (insideToo : later.Inside place) (isName : IsName step)
    (alike : disk.Alike later (place ++ [step]))
    (stuck : ∀ trail second, disk.Moves followLast ⟨place, step :: rest⟩ trail second →
      links < trail.length) (fuel fuelToo : Nat) :
    later.walk followLast (fuelToo + 2) links place (step :: rest) =
        disk.walk followLast (fuel + 2) links place (step :: rest) ∨
      ∃ there node, node.IsFile ∧ disk.walk followLast (fuel + 2) links place (step :: rest) =
        .ok (.found there node) := by
  cases alike with
  | files node other here isFile hereToo isFileToo =>
    rw [walk_file inside isName here isFile, walk_file insideToo isName hereToo isFileToo]
    by_cases last : rest = []
    · rw [if_pos last, if_pos last]
      exact .inr ⟨_, node, isFile, rfl⟩
    · rw [if_neg last, if_neg last]
      exact .inl rfl
  | same kept =>
    left
    cases here : disk.node? (place ++ [step]) with
    | none =>
      rw [walk_absent inside isName here, walk_absent insideToo isName (kept.trans here)]
    | some node =>
      have hereToo := kept.trans here
      cases node with
      | file bytes => rw [walk_file inside isName here rfl, walk_file insideToo isName hereToo rfl]
      | device bytes =>
        rw [walk_file inside isName here rfl, walk_file insideToo isName hereToo rfl]
      | directory =>
        exact absurd (stuck _ _ (.enter place step rest inside isName here)) (Nat.not_lt_zero _)
      | link target =>
        have blocked (followed : rest = [] → followLast = true) (filled : target.bytes ≠ []) :
            links = 0 := by
          have few := stuck _ _
            (.link place step rest target inside isName here followed filled)
          exact Nat.lt_one_iff.mp few
        rw [walk_link inside isName here blocked, walk_link insideToo isName hereToo blocked]

/-- Where a walk cannot move on, it comes to the same on a disk that is alike there, unless it finds
a file. -/
theorem walk_stuck (alike : ∀ place, first.Sees place → disk.Alike later place)
    (refuses : later.refuses = disk.refuses)
    (stuck : ∀ trail second, disk.Moves followLast first trail second → links < trail.length)
    (fuel fuelToo : Nat) :
    later.walk followLast (fuelToo + 2) links first.place first.left =
        disk.walk followLast (fuel + 2) links first.place first.left ∨
      ∃ place node, node.IsFile ∧
        disk.walk followLast (fuel + 2) links first.place first.left = .ok (.found place node) := by
  obtain ⟨place, left⟩ := first
  have blocked {second : Waypoint} : ¬ disk.Moves followLast ⟨place, left⟩ [] second :=
    fun moves => Nat.not_lt_zero _ (stuck _ _ moves)
  have allow : later.allow (.enter place) = disk.allow (.enter place) := by
    rw [Disk.allow, Disk.allow, refuses]
  cases alike place (.inl rfl) with
  | files node other here isFile hereToo isFileToo =>
    cases left with
    | nil => exact .inr ⟨place, node, isFile, by simp only [walk, here]⟩
    | cons step rest =>
      left
      rw [walk_outside here isFile.ne_directory, walk_outside hereToo isFileToo.ne_directory]
  | same kept =>
    cases left with
    | nil => exact .inl (by simp only [walk, kept])
    | cons step rest =>
      cases here : disk.node? place with
      | none => exact .inl (by simp only [walk, kept, here])
      | some node =>
        by_cases other : node ≠ .directory
        · left
          rw [walk_outside here other, walk_outside (kept.trans here) other]
        obtain rfl : node = .directory := Classical.not_not.mp other
        cases allowed : disk.allow (.enter place) with
        | error cause => exact .inl (by simp only [walk, kept, here, allow, allowed])
        | ok =>
          have inside : disk.Inside place := ⟨here, allow_eq_ok_iff.mp allowed⟩
          have insideToo : later.Inside place := ⟨kept.trans here, refuses ▸ inside.allowed⟩
          by_cases dot : step = Path.here
          · exact absurd (.stay place step rest inside dot) blocked
          by_cases dots : step = Path.above
          · exact absurd (.back place step rest inside dots) blocked
          by_cases long : maximalName < step.length
          · left
            simp only [walk, inside.directory, inside.allow, insideToo.directory, insideToo.allow,
              if_neg dot, if_neg dots, if_pos long]
          exact walk_stuck_name inside insideToo ⟨dot, dots, Nat.le_of_not_lt long⟩
            (alike _ (.inr ⟨step, rest, rfl, rfl⟩)) stuck fuel fuelToo

end

/-- A walk comes to the same on a later disk that is alike wherever it looks, unless it finds a
file. -/
theorem walk_alike {links fuel fuelToo : Nat}
    (keeps : ∀ trail waypoint, trail.length ≤ links →
      disk.Passes followLast first trail waypoint →
      disk.Keeps later trail ∧ ∀ place, waypoint.Sees place → disk.Alike later place)
    (enough : first.left.length + links * disk.longestLink + 1 < fuel)
    (enoughToo : first.left.length + links * later.longestLink + 1 < fuelToo) :
    later.walk followLast fuelToo links first.place first.left =
        disk.walk followLast fuel links first.place first.left ∨
      ∃ place node, node.IsFile ∧
        disk.walk followLast fuel links first.place first.left = .ok (.found place node) := by
  induction fuel generalizing links fuelToo first with
  | zero => exact absurd enough (Nat.not_lt_zero _)
  | succ fuel ih =>
    obtain ⟨fuelToo, rfl⟩ := Nat.exists_eq_succ_of_ne_zero (Nat.ne_zero_of_lt enoughToo)
    by_cases goes : ∃ trail second, disk.Moves followLast first trail second ∧ trail.length ≤ links
    · obtain ⟨trail, second, moves, few⟩ := goes
      have here := keeps trail second few (by simpa using Passes.move moves (.start second))
      have movesToo := moves.kept here.1
      have fewer := moves.left_lt
      have fewerToo := movesToo.left_lt
      obtain ⟨left, rfl⟩ := Nat.exists_eq_add_of_le' few
      rw [walk_moves fuel left moves, walk_moves fuelToo left movesToo]
      rw [Nat.add_mul] at enough enoughToo
      refine ih ?_ (by omega) (by omega)
      intro further waypoint short passes
      obtain ⟨keeps, alike⟩ := keeps (trail ++ further) waypoint
        (by rw [List.length_append]; omega) (.move moves passes)
      exact ⟨keeps.subset (List.subset_append_right _ _), alike⟩
    · have here := keeps [] first (Nat.zero_le _) (.start first)
      obtain ⟨fuel, rfl⟩ := Nat.exists_eq_succ_of_ne_zero (show fuel ≠ 0 by omega)
      obtain ⟨fuelToo, rfl⟩ := Nat.exists_eq_succ_of_ne_zero (show fuelToo ≠ 0 by omega)
      refine walk_stuck here.2 here.1.refuses ?_ fuel fuelToo
      intro trail second moves
      exact Nat.lt_of_not_le fun few => goes ⟨trail, second, moves, few⟩

/-- What a path that leads to no file comes to is the same on a later disk that is alike wherever
following the path looks. -/
theorem followShort_alike (absent : disk.exists? path = false)
    (started : later.setOut path = disk.setOut path)
    (keeps : ∀ trail, (∀ place ∈ trail, ∃ target, disk.node? place = some (.link target)) →
      disk.Keeps later trail)
    (alike : ∀ place, disk.LooksAt path place → disk.Alike later place) :
    later.followShort true path = disk.followShort true path := by
  by_cases usable : path.Usable
  case neg => exact followShort_of_not_usable usable disk later
  have came : disk.followShort true path = _ := followShort_of_usable usable
  have cameToo : later.followShort true path = _ := followShort_of_usable usable
  rw [started] at cameToo
  have along : later.followShort true path = disk.followShort true path ∨
      ∃ place node, node.IsFile ∧ disk.followShort true path = .ok (.found place node) := by
    rw [came, cameToo]
    refine walk_alike ?_ (disk.lt_walkFuel path.steps (Nat.le_refl _))
      (later.lt_walkFuel path.steps (Nat.le_refl _))
    intro trail waypoint few passes
    exact ⟨keeps trail fun _ => passes.link_of_mem,
      fun place sees => alike place ⟨usable, trail, waypoint, few, passes, sees⟩⟩
  rcases along with same | ⟨place, node, -, found⟩
  · exact same
  · exact absurd (absent.symm.trans (exists?_iff.mpr ⟨place, node, found⟩)) Bool.false_ne_true

/-- A file that is written where something stands changes no place but by what it holds. -/
theorem alike_store (here : disk.node? arrival.place = arrival.node?) (below : arrival.place ≠ [])
    (writable : arrival.Writable) (apart : arrival.node? ≠ none ∨ arrival.place ≠ place) :
    disk.Alike (disk.store arrival bytes) place := by
  have written : (disk.store arrival bytes).node? place = _ := node?_store below bytes place
  by_cases shares : disk.Shares arrival.place place
  · rw [if_pos shares] at written
    have same := (node?_of_shares below shares).trans here
    cases stands : arrival.node? with
    | some node =>
      exact .files node _ (same.trans stands) (writable node stands) written
        (arrival.isFile_rewritten bytes)
    | none =>
      have other := apart.resolve_left (not_not_intro stands)
      exact absurd ((shares_iff_of_absent below (here.trans stands) place).mp shares) other
  · rw [if_neg shares] at written
    exact .same written

/-- Where nothing is found there is a directory with a name that is free. -/
theorem Leads.missing (made : disk.Leads followLast first trail (.missing place)) :
    ∃ above step, place = above ++ [step] ∧ disk.Inside above ∧ IsName step ∧
      disk.node? place = none := by
  obtain ⟨last, -, stops⟩ := made
  cases stops with
  | missing above step inside isName absent => exact ⟨above, step, rfl, inside, isName, absent⟩

/-- A path that comes to look at a place where a file can be made leads to nothing. -/
theorem followShort_of_looksAt (looks : disk.LooksAt path place)
    (made : disk.Leads followLast first trail (.missing place)) :
    disk.followShort true path = .ok (.missing place) ∨
      disk.followShort true path = .error .notFound := by
  obtain ⟨usable, links, ⟨stands, left⟩, few, passes, sees⟩ := looks
  obtain ⟨above, name, rfl, inside, isName, absent⟩ := made.missing
  obtain ⟨rounds, further, -, same⟩ := passes.walk_eq few
    (Nat.lt_of_succ_lt (disk.lt_walkFuel path.steps few))
  rw [followShort_of_usable usable, same]
  rcases sees with rfl | ⟨step, rest, rfl, whole⟩
  · right
    cases left <;> simp only [walk, absent]
  · obtain ⟨rfl, one⟩ := List.append_inj' whole rfl
    obtain rfl : step = name := List.head_eq_of_cons_eq one
    simp only [walk_absent inside isName absent]
    split
    · exact .inl rfl
    · exact .inr rfl

/-- Once a file is there, such a path leads to it or fails at it. -/
theorem followShort_of_looksAt_made {node : Node} (looks : disk.LooksAt path place)
    (made : disk.Leads followLast first trail (.missing place))
    (started : later.setOut path = disk.setOut path)
    (keeps : ∀ trail, (∀ place ∈ trail, ∃ target, disk.node? place = some (.link target)) →
      disk.Keeps later trail)
    (there : later.node? place = some node) (isFile : node.IsFile) :
    later.followShort true path = .ok (.found place node) ∨
      later.followShort true path = .error .notDirectory := by
  obtain ⟨usable, links, ⟨stands, left⟩, few, passes, sees⟩ := looks
  obtain ⟨above, name, rfl, inside, isName, -⟩ := made.missing
  have keeps := keeps links fun _ => passes.link_of_mem
  obtain ⟨rounds, further, many, same⟩ := (passes.kept keeps).walk_eq few
    (Nat.lt_of_succ_lt (later.lt_walkFuel path.steps few))
  rw [followShort_of_usable usable, started, same]
  rcases sees with rfl | ⟨step, rest, rfl, whole⟩
  · cases left with
    | nil => exact .inl (by simp only [walk, there])
    | cons step rest => exact .inr (walk_outside there isFile.ne_directory _ _ _ _)
  · obtain ⟨rfl, one⟩ := List.append_inj' whole rfl
    obtain rfl : step = name := List.head_eq_of_cons_eq one
    obtain ⟨rounds, rfl⟩ := Nat.exists_eq_succ_of_ne_zero (Nat.ne_zero_of_lt many)
    simp only [walk_file (keeps.inside inside) isName there isFile]
    split
    · exact .inl rfl
    · exact .inr rfl

/-- A refusal to read is no missing file. -/
theorem allowRead_ne_notFound (disk : Disk) (place : Place) :
    disk.allowRead place ≠ .error .notFound := by
  unfold allowRead allow
  split
  · nofun
  · split <;> nofun

/-- A path that leads to a file, or fails at one, is not read like one that leads to nothing. -/
theorem read_ne_notFound {node : Node} (isFile : node.IsFile)
    (came : disk.followShort true path = .ok (.found place node) ∨
      disk.followShort true path = .error .notDirectory) : disk.read path ≠ .error .notFound := by
  unfold read
  rcases came with found | failed
  · rw [found]
    cases allowed : disk.allowRead place with
    | error cause =>
      simp only [bind, Except.bind, allowed]
      rintro ⟨⟩
      exact disk.allowRead_ne_notFound place allowed
    | ok =>
      simp only [bind, Except.bind, allowed]
      cases node with
      | file bytes => nofun
      | device bytes => nofun
      | directory => exact absurd rfl isFile.ne_directory
      | link target => exact absurd rfl (isFile.ne_link target)
  · rw [failed]
    nofun

/-- Where a path leads to nothing, what is read of it depends on where it fails only. -/
theorem read_of_absent (absent : disk.exists? path = false)
    (same : later.followShort true path = disk.followShort true path) :
    later.read path = disk.read path := by
  unfold read
  rw [same]
  cases came : disk.followShort true path with
  | error cause => rfl
  | ok arrival =>
    cases arrival with
    | missing place => rfl
    | found place node =>
      exact absurd (absent.symm.trans (exists?_iff.mpr ⟨place, node, came⟩)) Bool.false_ne_true

section Stored

variable {made : Path} (came : disk.followShort true made = .ok arrival)
  (writable : arrival.Writable) (absent : disk.exists? path = false)
include came writable absent

/-- A path that leads to nothing is followed as before once a file is written, unless the file is
new and following the path comes to look at its place. -/
theorem followShort_store_of_absent
    (unseen : ¬ (arrival.node? = none ∧ disk.LooksAt path arrival.place)) :
    (disk.store arrival bytes).followShort true path = disk.followShort true path := by
  obtain ⟨-, trail, -, leads⟩ := followShort_eq_ok_iff.mp came
  refine followShort_alike absent rfl (fun _ => leads.keeps_store writable bytes) ?_
  intro place looks
  refine alike_store leads.node? (leads.place_ne_root writable) writable ?_
  by_cases new : arrival.node? = none
  · exact .inr fun here => unseen ⟨new, here ▸ looks⟩
  · exact .inl new

/-- Writing a file changes what is read of a path that led to nothing exactly if the file is new and
following the path comes to look at its place. -/
theorem read_store_eq_iff : (disk.store arrival bytes).read path = disk.read path ↔
    ¬ (arrival.node? = none ∧ disk.LooksAt path arrival.place) := by
  constructor
  · rintro same ⟨new, looks⟩
    obtain ⟨-, trail, -, leads⟩ := followShort_eq_ok_iff.mp came
    have below := leads.place_ne_root writable
    cases arrival with
    | found place node => cases new
    | missing place =>
      have there : (disk.store (.missing place) bytes).node? place = some (.file bytes) := by
        rw [node?_store below, if_pos (.inl rfl)]
        rfl
      have nothing : disk.read path = .error .notFound := by
        unfold read
        rcases followShort_of_looksAt looks leads with missing | failed
        · rw [missing]
          rfl
        · rw [failed]
          rfl
      rw [nothing] at same
      have isFile : (Node.file bytes).IsFile := rfl
      have leadsThere : (disk.store (.missing place) bytes).followShort true path =
          .ok (.found place (.file bytes)) ∨ _ :=
        followShort_of_looksAt_made looks leads rfl (fun _ => leads.keeps_store writable bytes)
          there isFile
      exact read_ne_notFound isFile leadsThere same
  · intro unseen
    exact read_of_absent absent (followShort_store_of_absent came writable absent unseen)

end Stored

end LanguageClient.Disk
