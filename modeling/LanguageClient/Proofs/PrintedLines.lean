import LanguageClient.Proofs.SoundPayloads
import LanguageClient.CommandLine.Stage
import Mathlib.Data.List.Nodup
import Mathlib.Logic.Relation

/-!
# Lines of an outline

The list of an outline is scanned anew for every line that is printed, for the lines that stand
directly below it. `Prints` is that scan without a bound on its depth; it ends for every list, since
a line is only looked for one level deeper than the line before it. If the list is a forest,
`render_prints_once` shows in which order its lines are printed: each of them once, directly after
its parent and all that stands below the siblings before it.
-/

namespace LanguageClient.Tree.Outline

/-- A line with its place in the list. -/
abbrev Entry := OutlineLine × Nat

/-- A line as it is printed. -/
def Entry.text (entry : Entry) : String := indented entry.1.depth entry.1.label

/-! ## The scan -/

/-- What is printed while the rest of a list is scanned for the lines directly below a parent. Each
of them is followed by what is printed while the whole list is scanned for the lines below it. -/
inductive Prints (lines : List OutlineLine) :
    List Entry → Option Nat → Nat → List String → Prop
  /-- Nothing is left to scan. -/
  | done (parent : Option Nat) (depth : Nat) : Prints lines [] parent depth []
  /-- A line that stands elsewhere is passed over. -/
  | pass {entry : Entry} {rest : List Entry} {parent : Option Nat} {depth : Nat}
    {others : List String} (elsewhere : isChild parent depth entry.1 = false)
    (scanned : Prints lines rest parent depth others) :
    Prints lines (entry :: rest) parent depth others
  /-- A line is printed, and then what stands below it. -/
  | print {entry : Entry} {rest : List Entry} {parent : Option Nat} {depth : Nat}
    {inner others : List String} (here : isChild parent depth entry.1 = true)
    (descended : Prints lines lines.zipIdx (some entry.2) (depth + 1) inner)
    (scanned : Prints lines rest parent depth others) :
    Prints lines (entry :: rest) parent depth (indented depth entry.1.label :: inner ++ others)

variable {lines : List OutlineLine}

/-- A scan prints one thing. -/
theorem Prints.unique {rest : List Entry} {parent : Option Nat} {depth : Nat}
    {texts others : List String} (first : Prints lines rest parent depth texts)
    (second : Prints lines rest parent depth others) : texts = others := by
  induction first generalizing others with
  | done =>
    cases second
    rfl
  | pass elsewhere _ ih =>
    cases second with
    | pass _ scanned => exact ih scanned
    | print here => simp [elsewhere] at here
  | print here _ _ below ih =>
    cases second with
    | pass elsewhere => simp [here] at elsewhere
    | print _ descended scanned => rw [below descended, ih scanned]

/-- The lines directly below a parent, in the order of the list. -/
def childrenOf (lines : List OutlineLine) (parent : Option Nat) (depth : Nat) : List Entry :=
  lines.zipIdx.filter fun entry => isChild parent depth entry.1

/-- The lines directly below a parent are printed, each followed by what stands below it. -/
theorem below_succ (fuel : Nat) (parent : Option Nat) (depth : Nat) :
    below lines (fuel + 1) parent depth =
      (childrenOf lines parent depth).flatMap fun entry =>
        indented depth entry.1.label :: below lines fuel (some entry.2) (depth + 1) := by
  rw [below, childrenOf]
  induction lines.zipIdx with
  | nil => rfl
  | cons entry rest ih =>
    rw [List.flatMap_cons, ih, List.filter_cons]
    by_cases child : isChild parent depth entry.1 = true <;> simp [child]

/-- The number of lines at a depth or deeper. -/
def deeper (lines : List OutlineLine) (depth : Nat) : Nat :=
  lines.countP fun line => depth ≤ line.depth

/-- Below the depth of a line there are fewer lines than at its depth. -/
theorem deeper_lt {line : OutlineLine} (member : line ∈ lines) :
    deeper lines (line.depth + 1) < deeper lines line.depth := by
  obtain ⟨front, back, rfl⟩ := List.append_of_mem member
  have fewer (others : List OutlineLine) :
      deeper others (line.depth + 1) ≤ deeper others line.depth :=
    List.countP_mono_left fun other _ below => by simp at below ⊢; omega
  have first := fewer front
  have last := fewer back
  unfold deeper at *
  simp only [List.countP_append, List.countP_cons, decide_eq_true_eq]
  split <;> split <;> omega

/-- There are no more deeper lines than lines. -/
theorem deeper_le_length (lines : List OutlineLine) (depth : Nat) :
    deeper lines depth ≤ lines.length := List.countP_le_length

/-- A line that is found stands at the depth at which it was looked for, if roots are looked for at
depth zero. -/
theorem depth_of_isChild {parent : Option Nat} {depth : Nat} {line : OutlineLine}
    (top : parent = none → depth = 0) (child : isChild parent depth line = true) :
    line.depth = depth := by
  cases parent with
  | none => simpa [isChild, top rfl] using child
  | some place =>
    simp only [isChild, Bool.and_eq_true, decide_eq_true_eq] at child
    exact child.1

/-- The scan with enough fuel is the scan without a bound. -/
theorem prints_below {fuel : Nat} {parent : Option Nat} {depth : Nat}
    (top : parent = none → depth = 0) (enough : deeper lines depth < fuel) :
    Prints lines lines.zipIdx parent depth (below lines fuel parent depth) := by
  induction fuel generalizing parent depth with
  | zero => exact absurd enough (Nat.not_lt_zero _)
  | succ fuel ih =>
    have scan (rest : List Entry) (inside : ∀ entry ∈ rest, entry.1 ∈ lines) :
        Prints lines rest parent depth
          ((rest.filter fun entry => isChild parent depth entry.1).flatMap fun entry =>
            indented depth entry.1.label :: below lines fuel (some entry.2) (depth + 1)) := by
      induction rest with
      | nil => exact .done parent depth
      | cons entry rest scanned =>
        obtain ⟨known, others⟩ := List.forall_mem_cons.mp inside
        rw [List.filter_cons]
        by_cases child : isChild parent depth entry.1 = true
        · have here := depth_of_isChild top child
          have fewer := deeper_lt known
          rw [here] at fewer
          rw [if_pos child]
          exact .print child (ih (by simp) (by omega)) (scanned others)
        · rw [if_neg child]
          exact .pass (by simpa using child) (scanned others)
    rw [below_succ]
    exact scan lines.zipIdx fun entry member => List.fst_mem_of_mem_zipIdx member

/-- What is printed of a list is what the scan for its roots prints. -/
theorem prints_iff (texts : List String) :
    Prints lines lines.zipIdx none 0 texts ↔ texts = render lines := by
  have ends : Prints lines lines.zipIdx none 0 (render lines) :=
    prints_below (fun _ => rfl) (Nat.lt_succ_of_le (deeper_le_length lines 0))
  constructor
  · intro prints
    exact prints.unique ends
  · rintro rfl
    exact ends

/-! ## Forests -/

/-- A line stands directly below another one. -/
def IsParent (upper lower : Entry) : Prop :=
  lower.1.depth = upper.1.depth + 1 ∧ lower.1.parent = upper.2

/-- A line of the list is the given one or stands somewhere below it. -/
def Within (lines : List OutlineLine) : Entry → Entry → Prop :=
  Relation.ReflTransGen fun upper lower => lower ∈ lines.zipIdx ∧ IsParent upper lower

/-- Every line is a root or stands directly below an earlier line. -/
def IsForest (lines : List OutlineLine) : Prop :=
  ∀ entry ∈ lines.zipIdx, entry.1.depth = 0 ∨
    ∃ upper ∈ lines.zipIdx, upper.2 < entry.2 ∧ IsParent upper entry

/-- A line that stands before another one in the list, below the same parent or as a root like
it. -/
def EarlierSibling (lines : List OutlineLine) (sibling entry : Entry) : Prop :=
  sibling ∈ lines.zipIdx ∧ sibling.2 < entry.2 ∧ sibling.1.depth = entry.1.depth ∧
    (entry.1.depth = 0 ∨ sibling.1.parent = entry.1.parent)

instance (upper lower : Entry) : Decidable (IsParent upper lower) :=
  inferInstanceAs (Decidable (_ ∧ _))

instance (lines : List OutlineLine) : Decidable (IsForest lines) :=
  inferInstanceAs (Decidable (∀ entry ∈ lines.zipIdx, _ ∨ _))

/-- In an order of the lines, a line comes after its parent, or first if it is a root, with nothing
between but the siblings before it and all that stands below them. -/
def Follows (lines : List OutlineLine) (order : List Entry) (entry : Entry) : Prop :=
  ∃ before between after, order = before ++ (between ++ entry :: after) ∧
    (entry.1.depth = 0 → before = []) ∧
    (entry.1.depth ≠ 0 → before.getLast?.map Prod.snd = some entry.1.parent) ∧
    ∀ other, other ∈ between ↔
      ∃ sibling, EarlierSibling lines sibling entry ∧ Within lines sibling other

/-- A place holds one line. -/
theorem eq_of_place {first second : Entry} (here : first ∈ lines.zipIdx)
    (there : second ∈ lines.zipIdx) (same : first.2 = second.2) : first = second := by
  rw [List.mem_zipIdx_iff_getElem?] at here there
  rw [same] at here
  exact Prod.ext (Option.some.inj (here.symm.trans there)) same

/-- What stands below a line and is not that line is deeper. -/
theorem Within.eq_or_lt {upper lower : Entry} (within : Within lines upper lower) :
    upper = lower ∨ upper.1.depth < lower.1.depth := by
  induction within with
  | refl => exact .inl rfl
  | tail _ step ih =>
    obtain ⟨-, deep, -⟩ := step
    right
    rcases ih with rfl | above <;> omega

/-- A line stands below one line of each depth. -/
theorem Within.unique {first second lower : Entry} (here : first ∈ lines.zipIdx)
    (there : second ∈ lines.zipIdx) (level : first.1.depth = second.1.depth)
    (one : Within lines first lower) (two : Within lines second lower) : first = second := by
  induction one with
  | refl =>
    rcases two.eq_or_lt with same | below
    · exact same.symm
    · omega
  | @tail upper lower path step ih =>
    obtain ⟨-, deep, place⟩ := step
    have known : upper ∈ lines.zipIdx := by
      rcases path.cases_tail with rfl | ⟨_, -, member, -⟩
      · exact here
      · exact member
    have above : first.1.depth ≤ upper.1.depth := by
      rcases Within.eq_or_lt path with rfl | below <;> omega
    rcases two.cases_tail with rfl | ⟨other, path, -, -, placeToo⟩
    · omega
    · have knownToo : other ∈ lines.zipIdx := by
        rcases path.cases_tail with rfl | ⟨_, -, member, -⟩
        · exact there
        · exact member
      obtain rfl := eq_of_place known knownToo (place.symm.trans placeToo)
      exact ih path

/-! ## The order of a forest -/

/-- The lines below a parent in the order in which they are printed; `fuel` bounds the depth. -/
def entriesBelow (lines : List OutlineLine) : Nat → Option Nat → Nat → List Entry
  | 0, _, _ => []
  | fuel + 1, parent, depth =>
    (childrenOf lines parent depth).flatMap fun entry =>
      entry :: entriesBelow lines fuel (some entry.2) (depth + 1)

/-- A line and all lines below it in the order in which they are printed. -/
def subtree (lines : List OutlineLine) (entry : Entry) : List Entry :=
  entry :: entriesBelow lines (lines.length + 1) (some entry.2) (entry.1.depth + 1)

/-- The roots in the order of the list, each with all lines below it. -/
def order (lines : List OutlineLine) : List Entry :=
  (childrenOf lines none 0).flatMap (subtree lines)

/-- The children of a line are the lines that have it for their parent. -/
theorem mem_childrenOf {upper lower : Entry} :
    lower ∈ childrenOf lines (some upper.2) (upper.1.depth + 1) ↔
      lower ∈ lines.zipIdx ∧ IsParent upper lower := by
  simp [childrenOf, isChild, IsParent]

/-- The children of nothing are the roots. -/
theorem mem_childrenOf_none {entry : Entry} :
    entry ∈ childrenOf lines none 0 ↔ entry ∈ lines.zipIdx ∧ entry.1.depth = 0 := by
  simp [childrenOf, isChild]

/-- The siblings before a line are looked for with it. -/
theorem earlierSibling_iff {upper sibling entry : Entry} (parent : IsParent upper entry) :
    EarlierSibling lines sibling entry ↔
      sibling ∈ childrenOf lines (some upper.2) (upper.1.depth + 1) ∧ sibling.2 < entry.2 := by
  rw [mem_childrenOf, EarlierSibling, IsParent, parent.1, parent.2]
  simp only [Nat.add_one_ne_zero, false_or]
  tauto

/-- The roots before a root are looked for with it. -/
theorem earlierSibling_root_iff {sibling entry : Entry} (top : entry.1.depth = 0) :
    EarlierSibling lines sibling entry ↔
      sibling ∈ childrenOf lines none 0 ∧ sibling.2 < entry.2 := by
  rw [mem_childrenOf_none, EarlierSibling, top]
  simp only [true_or, and_true]
  tauto

/-- Children stand at the depth that is asked for. -/
theorem depth_of_mem_childrenOf {parent : Option Nat} {depth : Nat} {entry : Entry}
    (top : parent = none → depth = 0) (member : entry ∈ childrenOf lines parent depth) :
    entry.1.depth = depth :=
  depth_of_isChild top (List.mem_filter.mp member).2

/-- The lines are printed in that order. -/
theorem below_eq_map (fuel : Nat) {parent : Option Nat} {depth : Nat}
    (top : parent = none → depth = 0) :
    below lines fuel parent depth = (entriesBelow lines fuel parent depth).map Entry.text := by
  induction fuel generalizing parent depth with
  | zero => rfl
  | succ fuel ih =>
    rw [below_succ, entriesBelow, List.map_flatMap]
    apply List.flatMap_congr
    intro entry member
    have here := depth_of_mem_childrenOf top member
    rw [ih (by simp), List.map_cons, Entry.text, here]

/-- More fuel than there are lines to come makes no difference. -/
theorem entriesBelow_congr {fuel other : Nat} {parent : Option Nat} {depth : Nat}
    (top : parent = none → depth = 0) (enough : deeper lines depth < fuel)
    (enoughToo : deeper lines depth < other) :
    entriesBelow lines fuel parent depth = entriesBelow lines other parent depth := by
  induction fuel generalizing other parent depth with
  | zero => exact absurd enough (Nat.not_lt_zero _)
  | succ fuel ih =>
    obtain ⟨other, rfl⟩ : ∃ less, other = less + 1 := ⟨other - 1, by omega⟩
    rw [entriesBelow, entriesBelow]
    apply List.flatMap_congr
    intro entry member
    have here := depth_of_mem_childrenOf top member
    have fewer := deeper_lt (List.fst_mem_of_mem_zipIdx (List.mem_filter.mp member).1)
    rw [here] at fewer
    rw [ih (by simp) (by omega : deeper lines (depth + 1) < fuel)
      (by omega : deeper lines (depth + 1) < other)]

/-- The lines below a parent are its children, each with all that stands below it. -/
theorem entriesBelow_eq {fuel : Nat} {parent : Option Nat} {depth : Nat}
    (top : parent = none → depth = 0) (enough : deeper lines depth < fuel) :
    entriesBelow lines fuel parent depth =
      (childrenOf lines parent depth).flatMap (subtree lines) := by
  have within := deeper_le_length lines (depth + 1)
  obtain ⟨fuel, rfl⟩ : ∃ less, fuel = less + 1 := ⟨fuel - 1, by omega⟩
  rw [entriesBelow]
  apply List.flatMap_congr
  intro entry member
  have here := depth_of_mem_childrenOf top member
  have fewer := deeper_lt (List.fst_mem_of_mem_zipIdx (List.mem_filter.mp member).1)
  rw [here] at fewer
  rw [subtree, here, entriesBelow_congr (by simp) (by omega : deeper lines (depth + 1) < fuel)
    (by omega : deeper lines (depth + 1) < lines.length + 1)]

/-- A subtree is its line, and then the subtrees of its children in order. -/
theorem subtree_eq (entry : Entry) :
    subtree lines entry =
      entry :: (childrenOf lines (some entry.2) (entry.1.depth + 1)).flatMap (subtree lines) := by
  have within := deeper_le_length lines (entry.1.depth + 1)
  rw [subtree, entriesBelow_eq (by simp) (Nat.lt_succ_of_le within)]

/-- What is printed are the texts of the lines in their order. -/
theorem render_eq_map : render lines = (order lines).map Entry.text := by
  have within := deeper_le_length lines 0
  rw [render, below_eq_map _ fun _ => rfl,
    entriesBelow_eq (fun _ => rfl) (Nat.lt_succ_of_le within), order]

/-- What holds of a line when it holds of all lines directly below it, holds of every line. -/
theorem entry_induction (lines : List OutlineLine) {motive : Entry → Prop}
    (step : ∀ entry, (∀ child ∈ lines.zipIdx, IsParent entry child → motive child) → motive entry)
    (entry : Entry) : motive entry := by
  induction left : deeper lines (entry.1.depth + 1) using Nat.strongRecOn generalizing entry with
  | ind left ih =>
    apply step
    intro child member below
    have fewer := deeper_lt (List.fst_mem_of_mem_zipIdx member)
    rw [below.1, left] at fewer
    exact ih _ (below.1 ▸ fewer) child rfl

/-- The lines of a subtree are those that stand within it. -/
theorem mem_subtree {entry other : Entry} :
    other ∈ subtree lines entry ↔ Within lines entry other := by
  constructor
  · induction entry using entry_induction lines with
    | _ entry ih =>
      intro member
      rw [subtree_eq, List.mem_cons, List.mem_flatMap] at member
      rcases member with rfl | ⟨child, direct, inner⟩
      · exact .refl
      · obtain ⟨known, parent⟩ := mem_childrenOf.mp direct
        exact .head ⟨known, parent⟩ (ih child known parent inner)
  · intro within
    induction within using Relation.ReflTransGen.head_induction_on with
    | refl => exact List.mem_cons_self
    | @head upper child direct _ ih =>
      rw [subtree_eq, List.mem_cons, List.mem_flatMap]
      exact .inr ⟨child, mem_childrenOf.mpr direct, ih⟩

/-- The entries of a list have places in order. -/
theorem pairwise_zipIdx (lines : List OutlineLine) :
    lines.zipIdx.Pairwise fun first second => first.2 < second.2 := by
  have places : (lines.zipIdx.map Prod.snd).Pairwise (· < ·) := by
    rw [List.zipIdx_map_snd]
    exact List.pairwise_lt_range'
  exact List.pairwise_map.mp places

/-- No line stands in two places. -/
theorem nodup_zipIdx (lines : List OutlineLine) : lines.zipIdx.Nodup :=
  (pairwise_zipIdx lines).imp fun before => by
    rintro rfl
    exact Nat.lt_irrefl _ before

/-- Subtrees of different lines of a level have no line in common. -/
theorem nodup_flatMap_subtree {parent : Option Nat} {depth : Nat}
    (top : parent = none → depth = 0)
    (each : ∀ entry ∈ childrenOf lines parent depth, (subtree lines entry).Nodup) :
    ((childrenOf lines parent depth).flatMap (subtree lines)).Nodup := by
  rw [List.nodup_flatMap]
  refine ⟨each, ?_⟩
  have different : (childrenOf lines parent depth).Nodup := (nodup_zipIdx lines).filter _
  refine different.imp_of_mem ?_
  intro first second here there apart other inFirst inSecond
  apply apart
  have level := (depth_of_mem_childrenOf top here).trans (depth_of_mem_childrenOf top there).symm
  exact Within.unique (List.mem_filter.mp here).1 (List.mem_filter.mp there).1 level
    (mem_subtree.mp inFirst) (mem_subtree.mp inSecond)

/-- No line occurs twice in a subtree. -/
theorem nodup_subtree (entry : Entry) : (subtree lines entry).Nodup := by
  induction entry using entry_induction lines with
  | _ entry ih =>
    rw [subtree_eq, List.nodup_cons]
    constructor
    · intro again
      obtain ⟨child, direct, inner⟩ := List.mem_flatMap.mp again
      have deep := (mem_childrenOf.mp direct).2.1
      rcases (mem_subtree.mp inner).eq_or_lt with rfl | below <;> omega
    · apply nodup_flatMap_subtree (by simp)
      intro child direct
      obtain ⟨known, parent⟩ := mem_childrenOf.mp direct
      exact ih child known parent

/-- No line is printed twice. -/
theorem nodup_order : (order lines).Nodup :=
  nodup_flatMap_subtree (fun _ => rfl) fun entry _ => nodup_subtree entry

/-- In a forest every line stands within a root. -/
theorem exists_root (forest : IsForest lines) {entry : Entry} (member : entry ∈ lines.zipIdx) :
    ∃ root ∈ childrenOf lines none 0, Within lines root entry := by
  induction place : entry.2 using Nat.strongRecOn generalizing entry with
  | ind place ih =>
    rcases forest entry member with root | ⟨upper, known, earlier, parent⟩
    · exact ⟨entry, mem_childrenOf_none.mpr ⟨member, root⟩, .refl⟩
    · obtain ⟨root, isRoot, within⟩ := ih upper.2 (place ▸ earlier) known rfl
      exact ⟨root, isRoot, within.tail ⟨member, parent⟩⟩

/-- In a forest the order has every line once. -/
theorem order_perm (forest : IsForest lines) : (order lines).Perm lines.zipIdx := by
  rw [List.perm_ext_iff_of_nodup nodup_order (nodup_zipIdx lines)]
  intro entry
  rw [order, List.mem_flatMap]
  constructor
  · rintro ⟨root, isRoot, inner⟩
    rcases (mem_subtree.mp inner).cases_tail with rfl | ⟨_, -, known, -⟩
    · exact (mem_childrenOf_none.mp isRoot).1
    · exact known
  · intro member
    obtain ⟨root, isRoot, within⟩ := exists_root forest member
    exact ⟨root, isRoot, mem_subtree.mpr within⟩

/-- A line below a parent comes after the subtrees of the children before it. -/
theorem split_children {parent : Option Nat} {depth : Nat} {entry : Entry}
    (member : entry ∈ childrenOf lines parent depth) :
    ∃ between rest,
      (childrenOf lines parent depth).flatMap (subtree lines) =
        between ++ (subtree lines entry ++ rest) ∧
      ∀ other, other ∈ between ↔ ∃ sibling,
        (sibling ∈ childrenOf lines parent depth ∧ sibling.2 < entry.2) ∧
          Within lines sibling other := by
  have sorted : (childrenOf lines parent depth).Pairwise fun first second => first.2 < second.2 :=
    (pairwise_zipIdx lines).filter _
  obtain ⟨front, back, whole⟩ := List.append_of_mem member
  rw [whole] at sorted
  obtain ⟨-, later, earlier⟩ := List.pairwise_append.mp sorted
  refine ⟨front.flatMap (subtree lines), back.flatMap (subtree lines), ?_, ?_⟩
  · rw [whole, List.flatMap_append, List.flatMap_cons]
  · intro other
    simp only [List.mem_flatMap, mem_subtree, whole]
    constructor
    · rintro ⟨sibling, first, within⟩
      exact ⟨sibling,
        ⟨List.mem_append_left _ first, earlier _ first _ List.mem_cons_self⟩, within⟩
    · rintro ⟨sibling, ⟨known, before⟩, within⟩
      rcases List.mem_append.mp known with first | last
      · exact ⟨sibling, first, within⟩
      · rcases List.mem_cons.mp last with rfl | last
        · exact absurd before (Nat.lt_irrefl _)
        · have after := (List.pairwise_cons.mp later).1 sibling last
          omega

/-- Within the subtree of another line, a line comes after its parent. -/
theorem follows_subtree {upper entry : Entry} (within : Within lines upper entry)
    (apart : upper ≠ entry) : Follows lines (subtree lines upper) entry := by
  induction within using Relation.ReflTransGen.head_induction_on with
  | refl => exact absurd rfl apart
  | @head upper child direct path ih =>
    obtain ⟨between, rest, whole, inside⟩ := split_children (mem_childrenOf.mpr direct)
    obtain ⟨known, parent⟩ := direct
    by_cases here : child = entry
    · subst here
      have nested : child.1.depth ≠ 0 := by
        rw [parent.1]
        exact Nat.succ_ne_zero _
      refine ⟨[upper], between, _, by rw [subtree_eq, whole, subtree_eq child]; rfl,
        fun root => absurd root nested, fun _ => by simp [parent.2], ?_⟩
      simpa only [earlierSibling_iff parent] using inside
    · obtain ⟨before, inner, after, same, top, last, members⟩ := ih here
      have nested : entry.1.depth ≠ 0 := by
        rcases Within.eq_or_lt path with rfl | below
        · exact absurd rfl here
        · omega
      have filled : before ≠ [] := by
        rintro rfl
        simpa using last nested
      refine ⟨upper :: between ++ before, inner, after ++ rest, ?_, fun root => absurd root nested,
        fun _ => ?_, members⟩
      · rw [subtree_eq, whole, same]
        simp
      · rw [List.getLast?_append_of_ne_nil _ filled, last nested]

/-- In a forest each line comes where it should. -/
theorem follows_order (forest : IsForest lines) {entry : Entry} (member : entry ∈ lines.zipIdx) :
    Follows lines (order lines) entry := by
  obtain ⟨root, isRoot, within⟩ := exists_root forest member
  obtain ⟨between, rest, whole, inside⟩ := split_children isRoot
  obtain ⟨known, level⟩ := mem_childrenOf_none.mp isRoot
  by_cases here : root = entry
  · subst here
    refine ⟨[], between, _, by rw [order, whole, subtree_eq root]; rfl, fun _ => rfl,
      fun nested => absurd level nested, ?_⟩
    simpa only [earlierSibling_root_iff level] using inside
  · obtain ⟨before, inner, after, same, top, last, members⟩ := follows_subtree within here
    have nested : entry.1.depth ≠ 0 := by
      rcases within.eq_or_lt with rfl | below
      · exact absurd rfl here
      · omega
    have filled : before ≠ [] := by
      rintro rfl
      simpa using last nested
    refine ⟨between ++ before, inner, after ++ rest, ?_, fun root => absurd root nested,
      fun _ => ?_, members⟩
    · rw [order, whole, same]
      simp
    · rw [List.getLast?_append_of_ne_nil _ filled, last nested]

/-- For every list of lines the scan for the roots ends, and prints one thing. If the list is a
forest, each line is printed once, indented for its depth: a root after the subtrees of the roots
before it, any other line after its parent and the subtrees of the siblings before it, with nothing
else between. -/
theorem render_prints_once (lines : List OutlineLine) :
    (∀ texts, Prints lines lines.zipIdx none 0 texts ↔ texts = render lines) ∧
      (IsForest lines → ∃ order : List Entry, order.Perm lines.zipIdx ∧
        render lines = order.map Entry.text ∧
        ∀ entry ∈ lines.zipIdx, Follows lines order entry) :=
  ⟨prints_iff, fun forest =>
    ⟨order lines, order_perm forest, render_eq_map, fun _ => follows_order forest⟩⟩

/-- A list in which the lines below two roots stand between each other. -/
def interleaved : List OutlineLine :=
  [⟨0, 0, "a"⟩, ⟨0, 0, "b"⟩, ⟨1, 1, "c"⟩, ⟨0, 1, "d"⟩, ⟨3, 2, "e"⟩, ⟨0, 1, "d"⟩]

/-- Its lines are sorted out. -/
theorem render_prints_once_interleaved :
    IsForest interleaved ∧
      render interleaved = ["a", "  d", "    e", "  d", "b", "  c"] ∧
      ∃ order : List Entry, order.Perm interleaved.zipIdx ∧
        render interleaved = order.map Entry.text := by
  have forest : IsForest interleaved := by decide
  obtain ⟨order, once, printed, -⟩ := (render_prints_once interleaved).2 forest
  exact ⟨forest, by decide, order, once, printed⟩

end LanguageClient.Tree.Outline

/-! ## Outlines that are fetched -/

namespace LanguageClient.CommandLine.Stage

open Server (Transport)
open LanguageClient.Tree (OutlineLine)
open LanguageClient.Tree.Outline (IsForest linesOf nextLevel render)

/-- The nodes of a level are roots, or stand below lines of the list that are one level higher. -/
def Hangs (lines : List OutlineLine) (depth : Nat) (level : List (Nat × String)) : Prop :=
  depth = 0 ∨ ∀ node ∈ level, ∃ upper, lines[node.1]? = some upper ∧ depth = upper.depth + 1

variable {lines : List OutlineLine} {depth : Nat} {level : List (Nat × String)}

/-- A list without a line is a forest. -/
theorem forest_nil : IsForest [] := nofun

/-- A forest grows by a level that hangs from it. -/
theorem forest_append (forest : IsForest lines) (hangs : Hangs lines depth level)
    (views : Tree.Views) (view : String) :
    IsForest (lines ++ linesOf views view depth level) := by
  rintro ⟨line, place⟩ member
  rw [List.mk_mem_zipIdx_iff_getElem?] at member
  have keep {upper : OutlineLine} {above : Nat} (found : lines[above]? = some upper) :
      (upper, above) ∈ (lines ++ linesOf views view depth level).zipIdx := by
    have within := (List.getElem?_eq_some_iff.mp found).1
    rw [List.mk_mem_zipIdx_iff_getElem?, List.getElem?_append_left within, found]
  rcases Nat.lt_or_ge place lines.length with old | new
  · rw [List.getElem?_append_left old, ← List.mk_mem_zipIdx_iff_getElem?] at member
    rcases forest _ member with root | ⟨⟨upper, above⟩, known, earlier, parent⟩
    · exact .inl root
    · exact .inr ⟨_, keep (List.mk_mem_zipIdx_iff_getElem?.mp known), earlier, parent⟩
  · rw [List.getElem?_append_right new] at member
    obtain ⟨node, inside, rfl⟩ := List.mem_map.mp (List.mem_of_getElem? member)
    rcases hangs with top | below
    · exact .inl top
    · obtain ⟨upper, found, deep⟩ := below node inside
      have above := (List.getElem?_eq_some_iff.mp found).1
      exact .inr ⟨_, keep found, Nat.lt_of_lt_of_le above new, deep, rfl⟩

/-- The children of the nodes of a level hang from the lines of the level. -/
theorem hangs_nextLevel (lines : List OutlineLine) (views : Tree.Views) (view : String)
    {children : List (List String)} (each : children.length = level.length) :
    Hangs (lines ++ linesOf views view depth level) (depth + 1)
      (nextLevel lines.length children) := by
  right
  intro node member
  obtain ⟨⟨uris, place⟩, known, inside⟩ := List.mem_flatMap.mp member
  obtain ⟨uri, -, rfl⟩ := List.mem_map.mp inside
  have within := (List.getElem?_eq_some_iff.mp (List.mk_mem_zipIdx_iff_getElem?.mp known)).1
  rw [each] at within
  let upper : OutlineLine :=
    ⟨level[place].1, depth, Tree.Outline.labelOf views view level[place].2⟩
  refine ⟨upper, ?_, rfl⟩
  rw [List.getElem?_append_right (Nat.le_add_right _ _), Nat.add_sub_cancel_left, linesOf,
    List.getElem?_map, List.getElem?_eq_getElem within]
  rfl

variable {σ : Type} {transport : Transport σ} {view : String}

/-- The children of all nodes are fetched, or none. -/
theorem length_fetchAll {uris : List String} {stage later : Stage σ}
    {children : List (List String)}
    (fetched : stage.fetchAll transport view uris = (later, .ok children)) :
    children.length = uris.length := by
  unfold fetchAll at fetched
  split at fetched
  · cases fetched
  · obtain ⟨found, -, rfl⟩ := ok_of_map (congrArg Prod.snd fetched)
    simp

/-- An outline grows into a forest. -/
theorem forest_grow {left : Nat} {stage later : Stage σ} {grown : List OutlineLine}
    (forest : IsForest lines) (hangs : Hangs lines depth level)
    (grows : stage.grow transport view left depth level lines = (later, .ok grown)) :
    IsForest grown := by
  induction left generalizing depth level lines stage with
  | zero =>
    cases level with
    | nil =>
      cases grows
      exact forest
    | cons node rest =>
      cases grows
      exact forest_append forest hangs _ view
  | succ left ih =>
    cases level with
    | nil =>
      cases grows
      exact forest
    | cons node rest =>
      simp only [grow] at grows
      split at grows
      · cases grows
      · rename_i begun children fetched
        have each := length_fetchAll fetched
        rw [List.length_map] at each
        exact ih (forest_append forest hangs _ view) (hangs_nextLevel lines _ view each) grows

/-- What is printed of a tree is a forest, whatever the server answers. -/
theorem forest_outline {stage later : Stage σ} {texts : List String} {levels : Nat}
    (outlines : stage.outline transport view levels = (later, .ok texts)) :
    ∃ lines, IsForest lines ∧ texts = render lines := by
  unfold outline at outlines
  split at outlines
  · rename_i begun roots asked
    obtain ⟨grown, grows, rfl⟩ := ok_of_map (congrArg Prod.snd outlines)
    exact ⟨grown, forest_grow forest_nil (.inl rfl) (Prod.ext rfl grows), rfl⟩
  · cases outlines
  · cases outlines
    exact ⟨[], forest_nil, rfl⟩

end LanguageClient.CommandLine.Stage
