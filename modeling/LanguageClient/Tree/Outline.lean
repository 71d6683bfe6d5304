import LanguageClient.Tree.Views

/-!
# Outlines

A tree is printed as an outline: every node on a line, below its parent and indented by two
spaces a level. The levels of the tree are known one after the other, so the nodes are listed
level by level first, each with the place of its parent in the list.
-/

namespace LanguageClient.Tree

/-- A node in the list of an outline. -/
structure OutlineLine where
  /-- The place of the parent in the list; a root has place zero here. -/
  parent : Nat
  /-- The number of ancestors. -/
  depth : Nat
  /-- The text of the node. -/
  label : String
deriving Repr, DecidableEq

namespace Outline

/-- Whether a line stands directly below a parent at a depth; roots have no parent. -/
def isChild (parent : Option Nat) (depth : Nat) (line : OutlineLine) : Bool :=
  match parent with
  | none => line.depth = 0
  | some parent => line.depth = depth && line.parent = parent

/-- A label indented for its depth. -/
def indented (depth : Nat) (label : String) : String :=
  String.ofList (List.replicate (2 * depth) ' ') ++ label

/-- The text of all lines below a parent, each followed by the lines below it; `fuel` bounds the
depth of the tree. -/
def below (lines : List OutlineLine) : Nat → Option Nat → Nat → List String
  | 0, _, _ => []
  | fuel + 1, parent, depth =>
    lines.zipIdx.flatMap fun (line, place) =>
      if isChild parent depth line then
        indented depth line.label :: below lines fuel (some place) (depth + 1)
      else []

/-- The outline of a list of nodes. -/
def render (lines : List OutlineLine) : List String := below lines (lines.length + 1) none 0

/-- The text of a node: its label if it is known, else its URI. -/
def labelOf (views : Views) (view uri : String) : String :=
  ((views.node? view uri).map TreeNode.label).getD uri

/-- The lines of a level whose nodes stand below given places. -/
def linesOf (views : Views) (view : String) (depth : Nat) (level : List (Nat × String)) :
    List OutlineLine :=
  level.map fun (parent, uri) => ⟨parent, depth, labelOf views view uri⟩

/-- The next level: the children of the nodes of a level, which stand in the list from a place
on. -/
def nextLevel (start : Nat) (children : List (List String)) : List (Nat × String) :=
  children.zipIdx.flatMap fun (uris, place) => uris.map fun uri => (start + place, uri)

end Outline

end LanguageClient.Tree
