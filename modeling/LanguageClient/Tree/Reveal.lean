import LanguageClient.Editor
import LanguageClient.Tree.Messages

/-!
# Revealing a node

A node is made visible by unfolding its ancestors from the root down and selecting it last.
-/

namespace LanguageClient.Tree

/-- One step of a reveal. -/
inductive RevealStep
  /-- To unfold an ancestor. -/
  | expand (uri : String)
  /-- To select the node. -/
  | select (uri : String)
deriving Repr, DecidableEq

/-- The steps that make a node visible. -/
structure RevealPlan where
  /-- The view. -/
  view : String
  /-- The steps in their order. -/
  steps : List RevealStep
deriving Repr, DecidableEq

namespace RevealPlan

/-- The plan for a chain that starts with the node; there is none for an empty chain. -/
def ofChain? (chain : Chain) : Option RevealPlan :=
  match chain.uris with
  | [] => none
  | target :: ancestors =>
    some ⟨chain.view, ancestors.reverse.map .expand ++ [.select target]⟩

/-- The call of the editor for a step. -/
def call (view : String) : RevealStep → EditorCall
  | .expand uri => .expand view uri
  | .select uri => .select view uri

/-- The calls of the editor for a plan. -/
def calls (plan : RevealPlan) : List EditorCall := plan.steps.map (call plan.view)

end RevealPlan

end LanguageClient.Tree
