import LanguageClient.Tree.Outline
import Mathlib.Data.List.Basic

/-!
# Outlines are preorders

An outline is collected level by level and printed node by node. `render_grown` shows that what is
printed is the preorder of the tree of the server, cut below some level: a list that holds the
levels one after the other, each node with the place of its parent, is as good as the tree. A node
that the server tells of in several places, or below itself, is printed in each of them.
-/

namespace LanguageClient.Tree

/-- The tree of a server. Nodes may be shared, and a node may stand below itself. -/
structure ServedTree where
  /-- The children of a node, and the roots in place of the children of none. -/
  children : Option String → List TreeNode
  /-- The label of a node. -/
  label : String → String
  /-- A node has the same label wherever it is told of. -/
  labelled : ∀ parent, ∀ node ∈ children parent, ∀ uri, node.uri = some uri → node.label = label uri

namespace ServedTree

variable (tree : ServedTree)

/-- The children that can be named. -/
def uris (parent : Option String) : List String := (tree.children parent).filterMap TreeNode.uri

/-- The lines of some nodes at a depth, each followed by those of the nodes below it, on so many
levels. -/
def preorder : Nat → Nat → List String → List String
  | 0, _, _ => []
  | levels + 1, depth, nodes =>
    nodes.flatMap fun uri =>
      Outline.indented depth (tree.label uri) ::
        preorder levels (depth + 1) (tree.uris (some uri))

/-- The nodes that stand so many levels below some nodes, each as often as it occurs there. -/
def levelBelow (nodes : List String) : Nat → List String
  | 0 => nodes
  | depth + 1 => (levelBelow nodes depth).flatMap fun uri => tree.uris (some uri)

/-- The lines of the nodes of a level. -/
def linesOf (depth : Nat) (level : List (Nat × String)) : List OutlineLine :=
  level.map fun (parent, uri) => ⟨parent, depth, tree.label uri⟩

/-- The level below a level whose lines stand in the list from a place on. -/
def nextLevel (start : Nat) (level : List (Nat × String)) : List (Nat × String) :=
  Outline.nextLevel start (level.map fun entry => tree.uris (some entry.2))

/-- The lines after a level and so many levels below it have been added. -/
def grown : Nat → Nat → List (Nat × String) → List OutlineLine → List OutlineLine
  | 0, depth, level, lines => lines ++ tree.linesOf depth level
  | left + 1, depth, level, lines =>
    grown left (depth + 1) (tree.nextLevel lines.length level) (lines ++ tree.linesOf depth level)

/-- The levels below the children of some nodes are those below the nodes themselves. -/
theorem levelBelow_children (nodes : List String) (depth : Nat) :
    tree.levelBelow (nodes.flatMap fun uri => tree.uris (some uri)) depth =
      tree.levelBelow nodes (depth + 1) := by
  induction depth with
  | zero => rfl
  | succ depth ih =>
    rw [levelBelow, ih]
    rfl

/-- Below no nodes there are none. -/
@[simp]
theorem levelBelow_nil (depth : Nat) : tree.levelBelow [] depth = [] := by
  induction depth with
  | zero => rfl
  | succ depth ih => simp [levelBelow, ih]

/-- The nodes of the next level are the children of the nodes of the level, in order. -/
theorem map_snd_nextLevel (start : Nat) (level : List (Nat × String)) :
    (tree.nextLevel start level).map Prod.snd =
      (level.map Prod.snd).flatMap fun uri => tree.uris (some uri) := by
  have dropped (children : List (List String)) :
      (Outline.nextLevel start children).map Prod.snd = children.flatten := by
    rw [Outline.nextLevel, List.map_flatMap]
    simp only [List.map_map, Function.comp_def, List.map_id_fun', id_eq]
    calc children.zipIdx.flatMap Prod.fst
      _ = (children.zipIdx.map Prod.fst).flatten := List.flatMap_def ..
      _ = children.flatten := by rw [List.zipIdx_map_fst]
  rw [nextLevel, dropped, ← List.flatMap_def, List.flatMap_map]

/-- Below a level that is empty there is nothing. -/
theorem grown_nil (left depth : Nat) (lines : List OutlineLine) :
    tree.grown left depth [] lines = lines := by
  induction left generalizing depth with
  | zero => simp [grown, linesOf]
  | succ left ih => simpa [grown, linesOf, nextLevel, Outline.nextLevel] using ih (depth + 1)

/-- A list grows by the lines of the level and by lines that stand deeper. -/
theorem grown_eq_append (left depth : Nat) (level : List (Nat × String))
    (lines : List OutlineLine) :
    ∃ deeper, tree.grown left depth level lines = lines ++ tree.linesOf depth level ++ deeper ∧
      ∀ line ∈ deeper, depth < line.depth := by
  induction left generalizing depth level lines with
  | zero => exact ⟨[], by simp [grown], by simp⟩
  | succ left ih =>
    obtain ⟨deeper, same, below⟩ := ih (depth + 1) (tree.nextLevel lines.length level)
      (lines ++ tree.linesOf depth level)
    refine ⟨tree.linesOf (depth + 1) (tree.nextLevel lines.length level) ++ deeper, ?_, ?_⟩
    · rw [grown, same, List.append_assoc]
    · intro line member
      rcases List.mem_append.mp member with next | later
      · obtain ⟨entry, -, rfl⟩ := List.mem_map.mp next
        exact Nat.lt_succ_self depth
      · have deep := below line later
        omega

/-- A tree that grows loses no lines. -/
theorem length_le_length_grown (left depth : Nat) (level : List (Nat × String))
    (lines : List OutlineLine) : lines.length ≤ (tree.grown left depth level lines).length := by
  obtain ⟨deeper, same, -⟩ := tree.grown_eq_append left depth level lines
  rw [same, List.append_assoc, List.length_append]
  omega

end ServedTree

namespace Outline

/-- Of what is put out for the entries of a list, only that for one place counts. -/
theorem flatMap_zipIdx_at {α β : Type} (entries : List α) (first place : Nat) (f : α → List β) :
    ((entries.zipIdx first).flatMap fun entry => if entry.2 = place then f entry.1 else []) =
      if first ≤ place then (entries[place - first]?.map f).getD [] else [] := by
  induction entries generalizing first with
  | nil => simp
  | cons entry rest ih =>
    rw [List.zipIdx_cons, List.flatMap_cons, ih]
    by_cases here : first = place
    · subst here
      have past : ¬ first + 1 ≤ first := by omega
      simp [past]
    · by_cases before : first ≤ place
      · have later : first + 1 ≤ place := by omega
        have step : place - first = place - (first + 1) + 1 := by omega
        simp [here, before, later, step]
      · have never : ¬ first + 1 ≤ place := by omega
        simp [here, before, never]

/-- The nodes of the next level that stand below a place are the children of the node at the
place. -/
theorem filter_nextLevel {start place : Nat} {children : List (List String)} {uris : List String}
    (found : children[place]? = some uris) :
    ((nextLevel start children).filter fun entry => entry.1 = start + place).map Prod.snd =
      uris := by
  have each (kids : List String) (index : Nat) :
      ((kids.map fun uri => (start + index, uri)).filter fun entry =>
          entry.1 = start + place).map Prod.snd = if index = place then kids else [] := by
    by_cases here : index = place <;> simp [List.filter_map, Function.comp_def, here]
  rw [nextLevel, List.filter_flatMap, List.map_flatMap]
  simp only [each]
  rw [flatMap_zipIdx_at children 0 place fun kids => kids]
  simp [found]

/-- Below a place there is nothing when no line has the depth. -/
theorem below_eq_nil {lines : List OutlineLine} {depth : Nat}
    (none_there : ∀ line ∈ lines, line.depth ≠ depth) (fuel place : Nat) :
    below lines fuel (some place) depth = [] := by
  cases fuel with
  | zero => rfl
  | succ fuel =>
    rw [below, List.flatMap_eq_nil_iff]
    rintro ⟨line, index⟩ member
    have other := none_there line (List.fst_mem_of_mem_zipIdx member)
    simp [isChild, other]

/-- The roots are found below place zero, where their lines say that they stand. -/
theorem below_none {lines : List OutlineLine}
    (roots : ∀ line ∈ lines, line.depth = 0 → line.parent = 0) (fuel : Nat) :
    below lines fuel none 0 = below lines fuel (some 0) 0 := by
  cases fuel with
  | zero => rfl
  | succ fuel =>
    rw [below, below]
    apply List.flatMap_congr
    rintro ⟨line, place⟩ member
    have parent := roots line (List.fst_mem_of_mem_zipIdx member)
    by_cases top : line.depth = 0
    · simp [isChild, top, parent top]
    · simp [isChild, top]

/-- Only the lines of a level stand below a place of the level before it. -/
theorem below_of_level {lines level deeper : List OutlineLine} {depth : Nat}
    (earlier : ∀ line ∈ lines, line.depth < depth) (here : ∀ line ∈ level, line.depth = depth)
    (later : ∀ line ∈ deeper, depth < line.depth) (fuel parent : Nat) :
    below (lines ++ level ++ deeper) (fuel + 1) (some parent) depth =
      (level.zipIdx lines.length).flatMap fun (line, place) =>
        if line.parent = parent then
          indented depth line.label ::
            below (lines ++ level ++ deeper) fuel (some place) (depth + 1)
        else [] := by
  -- what the loop puts out for the lines of another depth
  have outside (others : List OutlineLine) (first : Nat)
      (apart : ∀ line ∈ others, line.depth ≠ depth) :
      ((others.zipIdx first).flatMap fun (line, place) =>
        if isChild (some parent) depth line then
          indented depth line.label ::
            below (lines ++ level ++ deeper) fuel (some place) (depth + 1)
        else []) = [] := by
    rw [List.flatMap_eq_nil_iff]
    rintro ⟨line, index⟩ member
    have other := apart line (List.fst_mem_of_mem_zipIdx member)
    simp [isChild, other]
  rw [below, List.zipIdx_append, List.zipIdx_append, List.flatMap_append, List.flatMap_append,
    outside lines 0 fun line member => Nat.ne_of_lt (earlier line member),
    outside deeper _ fun line member => (Nat.ne_of_lt (later line member)).symm]
  simp only [Nat.zero_add, List.nil_append, List.append_nil]
  apply List.flatMap_congr
  rintro ⟨line, place⟩ member
  have depthHere := here line (List.fst_mem_of_mem_zipIdx member)
  simp [isChild, depthHere]

end Outline

namespace ServedTree

variable (tree : ServedTree)

/-- The lines of a level have its depth. -/
theorem depth_of_mem_linesOf {depth : Nat} {level : List (Nat × String)} {line : OutlineLine}
    (member : line ∈ tree.linesOf depth level) : line.depth = depth := by
  obtain ⟨entry, -, rfl⟩ := List.mem_map.mp member
  rfl

/-- What is printed below a place, given what is printed below each node of the level. -/
theorem below_level {depth fuel parent : Nat} {level : List (Nat × String)}
    {lines deeper : List OutlineLine} (earlier : ∀ line ∈ lines, line.depth < depth)
    (later : ∀ line ∈ deeper, depth < line.depth) {kids : String → List String}
    (below_each : ∀ place entry, level[place]? = some entry →
      Outline.below (lines ++ tree.linesOf depth level ++ deeper) fuel
        (some (lines.length + place)) (depth + 1) = kids entry.2) :
    Outline.below (lines ++ tree.linesOf depth level ++ deeper) (fuel + 1) (some parent) depth =
      ((level.filter fun entry => entry.1 = parent).map Prod.snd).flatMap fun uri =>
        Outline.indented depth (tree.label uri) :: kids uri := by
  let put (entry : Nat × String) : List String :=
    if entry.1 = parent then Outline.indented depth (tree.label entry.2) :: kids entry.2 else []
  have placed : Outline.below (lines ++ tree.linesOf depth level ++ deeper) (fuel + 1)
      (some parent) depth = (level.zipIdx lines.length).flatMap fun entry => put entry.1 := by
    rw [Outline.below_of_level earlier (fun line => tree.depth_of_mem_linesOf) later]
    conv_lhs =>
      arg 2
      rw [linesOf, List.zipIdx_map]
    rw [List.flatMap_map]
    apply List.flatMap_congr
    rintro ⟨entry, place⟩ member
    obtain ⟨atLeast, found⟩ := List.mk_mem_zipIdx_iff_le_and_getElem?_sub.mp member
    have below_here := below_each (place - lines.length) entry found
    rw [Nat.add_sub_cancel' atLeast] at below_here
    simp only [Prod.map, id_eq, put]
    rw [below_here]
  have picked : level.flatMap put =
      ((level.filter fun entry => entry.1 = parent).map Prod.snd).flatMap fun uri =>
        Outline.indented depth (tree.label uri) :: kids uri := by
    rw [List.flatMap_map]
    clear placed below_each
    induction level with
    | nil => rfl
    | cons entry rest ih =>
      by_cases own : entry.1 = parent <;> simp [put, own, ih]
  calc Outline.below (lines ++ tree.linesOf depth level ++ deeper) (fuel + 1) (some parent) depth
    _ = (level.zipIdx lines.length).flatMap fun entry => put entry.1 := placed
    _ = ((level.zipIdx lines.length).map Prod.fst).flatMap put := (List.flatMap_map ..).symm
    _ = level.flatMap put := by rw [List.zipIdx_map_fst]
    _ = _ := picked

/-- What is printed below a place is the preorder of the nodes of the level that stand below it,
if the list was grown from that level. The fuel suffices: a level that is not empty makes the list
longer by a line at least. -/
theorem below_grown (left depth parent fuel : Nat) (level : List (Nat × String))
    (lines : List OutlineLine) (earlier : ∀ line ∈ lines, line.depth < depth)
    (enough : (tree.grown left depth level lines).length < fuel + lines.length) :
    Outline.below (tree.grown left depth level lines) fuel (some parent) depth =
      tree.preorder (left + 1) depth
        ((level.filter fun entry => entry.1 = parent).map Prod.snd) := by
  induction left generalizing depth parent fuel level lines with
  | zero =>
    have longer := tree.length_le_length_grown 0 depth level lines
    obtain ⟨rest, rfl⟩ : ∃ rest, fuel = rest + 1 := ⟨fuel - 1, by omega⟩
    have flat : tree.grown 0 depth level lines = lines ++ tree.linesOf depth level ++ [] := by
      simp [grown]
    rw [flat]
    apply tree.below_level earlier (by simp)
    intro place entry found
    apply Outline.below_eq_nil
    intro line member
    rw [List.append_nil] at member
    rcases List.mem_append.mp member with before | here
    · have above := earlier line before
      omega
    · have same := tree.depth_of_mem_linesOf here
      omega
  | succ left ih =>
    obtain ⟨deeper, same, later⟩ := tree.grown_eq_append (left + 1) depth level lines
    have longer := tree.length_le_length_grown (left + 1) depth level lines
    obtain ⟨rest, rfl⟩ : ∃ rest, fuel = rest + 1 := ⟨fuel - 1, by omega⟩
    rw [same]
    apply tree.below_level earlier later
    intro place entry found
    rw [← same, grown]
    have nonempty : place < level.length := (List.getElem?_eq_some_iff.mp found).1
    have room : (tree.grown left (depth + 1) (tree.nextLevel lines.length level)
        (lines ++ tree.linesOf depth level)).length <
          rest + (lines ++ tree.linesOf depth level).length := by
      rw [grown] at enough
      simp only [List.length_append, linesOf, List.length_map] at enough ⊢
      omega
    rw [ih (depth + 1) (lines.length + place) rest _ _ ?above room]
    case above =>
      intro line member
      rcases List.mem_append.mp member with before | here
      · have above := earlier line before
        omega
      · have level_depth := tree.depth_of_mem_linesOf here
        omega
    congr 1
    apply Outline.filter_nextLevel
    simp [found]

/-- The outline of the levels of a tree is the preorder of the tree, cut below the last level. -/
theorem render_grown (left : Nat) :
    Outline.render (tree.grown left 0 ((tree.uris none).map fun uri => (0, uri)) []) =
      tree.preorder (left + 1) 0 (tree.uris none) := by
  obtain ⟨deeper, same, later⟩ := tree.grown_eq_append left 0
    ((tree.uris none).map fun uri => (0, uri)) []
  have roots_first : ∀ line ∈ tree.grown left 0 ((tree.uris none).map fun uri => (0, uri)) [],
      line.depth = 0 → line.parent = 0 := by
    intro line member top
    rw [same] at member
    rcases List.mem_append.mp member with root | below
    · obtain ⟨entry, inside, rfl⟩ := List.mem_map.mp root
      obtain ⟨uri, -, rfl⟩ := List.mem_map.mp inside
      rfl
    · have deep := later line below
      omega
  rw [Outline.render, Outline.below_none roots_first,
    tree.below_grown left 0 0 _ _ [] (by simp) (by simp)]
  congr 1
  simp [List.filter_map, Function.comp_def]

end ServedTree

end LanguageClient.Tree
