import LanguageClient.Message
import LanguageClient.Table
import LanguageClient.Tree.Reveal

/-!
# Tree views

The client keeps, for each of its views, the nodes that the server has told it of, under their
URIs. Of two messages about a node the one that arrives last counts. A view that is disposed is
gone for good: what arrives for it later is dropped.
-/

namespace LanguageClient

namespace Tree

/-- What the user did to the widget of a view. -/
inductive WidgetEvent
  /-- The view was shown or hidden. -/
  | visibility (view : String) (visible : Bool)
  /-- A node was unfolded. -/
  | expanded (view node : String)
  /-- A node was folded. -/
  | collapsed (view node : String)
deriving Repr, DecidableEq

/-- The view whose widget was used. -/
def WidgetEvent.view : WidgetEvent → String
  | .visibility view _ => view
  | .expanded view _ => view
  | .collapsed view _ => view

/-- What the server is told of an event. -/
def WidgetEvent.notice : WidgetEvent → Notice
  | .visibility view visible => .visibility ⟨view, visible⟩
  | .expanded view node => .folding ⟨view, node, false⟩
  | .collapsed view node => .folding ⟨view, node, true⟩

/-- The nodes of a view under their URIs. -/
abbrev Cache := Table String TreeNode

/-- The live views, each with its nodes. -/
structure Views where
  /-- The nodes of each view. -/
  caches : Table String Cache
deriving Repr

/-- A call of the editor, and the views as the editor finds them when it is called. -/
structure Moment where
  /-- The call. -/
  call : EditorCall
  /-- The views at that time. -/
  views : Views

/-- The nodes that have a URI, each with it, in their order. -/
def identified (nodes : List TreeNode) : List (String × TreeNode) :=
  nodes.filterMap fun node => node.uri.map fun uri => (uri, node)

/-- The cache with some nodes under their URIs. -/
def Cache.store (cache : Cache) (nodes : List (String × TreeNode)) : Cache :=
  nodes.foldl (fun cache entry => cache.insert entry.1 entry.2) cache

namespace Views

/-- Views that know no node yet. -/
def start (ids : List String) : Views := ⟨.ofList (ids.map fun id => (id, .empty))⟩

/-- Whether a view is live. -/
def isLive (views : Views) (view : String) : Bool := views.caches.contains view

/-- The live views in the order of their identifiers. -/
def ids (views : Views) : List String := views.caches.keys.mergeSort fun a b => a ≤ b

/-- The nodes of a view; a view that is not live has none. -/
def cache (views : Views) (view : String) : Cache := (views.caches.get? view).getD .empty

/-- What is known of a node. -/
def node? (views : Views) (view node : String) : Option TreeNode := (views.cache view).get? node

/-- How many nodes of a view are known. -/
def nodeCount (views : Views) (view : String) : Nat := (views.cache view).size

/-- The views with some nodes stored in one of them. -/
def store (views : Views) (view : String) (nodes : List (String × TreeNode)) : Views :=
  ⟨views.caches.modify view fun cache => cache.store nodes⟩

/-- Lets pass what concerns a live view only. -/
def requireLive (views : Views) (view : String) : Except TreeError Unit :=
  if views.isLive view then .ok () else .error (.unknownView view)

/-- The question for the children of a node, or for the roots of a view. -/
def askChildren (views : Views) (view : String) (parent : Option String) :
    Except TreeError Request :=
  (views.requireLive view).map fun _ => .children ⟨view, parent⟩

/-- Takes the children that the server told of a view. The answer is their URIs; a node without
one cannot be named later and is left out. -/
def receiveChildren (views : Views) (view : String) :
    Except LspError (List TreeNode) → Views × Except TreeError (List String)
  | .error cause => (views, .error (.lsp cause))
  | .ok nodes =>
    if views.isLive view then
      (views.store view (identified nodes), .ok ((identified nodes).map Prod.fst))
    else (views, .ok [])

/-- The question for the parent of a node. -/
def askParent (views : Views) (view node : String) : Except TreeError Request :=
  (views.requireLive view).map fun _ => .parent ⟨view, node⟩

/-- Takes the parent that the server told of a node. -/
def receiveParent : Except LspError (Option String) → Except TreeError (Option String)
  | .error cause => .error (.lsp cause)
  | .ok parent => .ok parent

/-- Takes the chain that the server told of a place in a document, and reveals its node. A chain
that is empty or belongs to a view that is not live reveals nothing. -/
def receiveReveal (views : Views) :
    Except LspError (Option Chain) → List EditorCall × Except TreeError (Option RevealPlan)
  | .error cause => ([], .error (.lsp cause))
  | .ok none => ([], .ok none)
  | .ok (some chain) =>
    if views.isLive chain.view then
      match RevealPlan.ofChain? chain with
      | some plan => (plan.calls, .ok (some plan))
      | none => ([], .ok none)
    else ([], .ok none)

/-- What the server is told of an event; it never hears of a view that is not live. -/
def notice? (views : Views) (event : WidgetEvent) : Option Notice :=
  if views.isLive event.view then some event.notice else none

/-- Takes one node that the server told of its own accord, and has its widget refreshed: the node
if it has a URI, else the whole view. The node is stored before the editor is called. -/
def takeNode (views : Views) (node : TreeNode) : Views × List Moment :=
  if views.isLive node.view then
    match node.uri with
    | some uri =>
      let stored := views.store node.view [(uri, node)]
      (stored, [⟨.refresh node.view (some uri), stored⟩])
    | none => (views, [⟨.refresh node.view none, views⟩])
  else (views, [])

/-- Takes the nodes that the server told of its own accord, one after the other. -/
def takeNodes : Views → List TreeNode → Views × List Moment
  | views, [] => (views, [])
  | views, node :: rest =>
    let (views, first) := views.takeNode node
    let (views, others) := takeNodes views rest
    (views, first ++ others)

/-- The views after a message about nodes, and the calls of the editor that it causes. -/
def change (views : Views) (nodes : List TreeNode) : Views × List EditorCall :=
  let (views, moments) := views.takeNodes nodes
  (views, moments.map Moment.call)

/-- A message about no nodes changes nothing. -/
@[simp]
theorem change_nil (views : Views) : views.change [] = (views, []) := rfl

/-- A message about nodes is taken node by node. -/
theorem change_cons (views : Views) (node : TreeNode) (rest : List TreeNode) :
    views.change (node :: rest) =
      (((views.takeNode node).1.change rest).1,
        (views.takeNode node).2.map Moment.call ++ ((views.takeNode node).1.change rest).2) := by
  simp [change, takeNodes]

/-- The views without one of them, and whether it was live. -/
def dispose (views : Views) (view : String) : Views × Bool :=
  (⟨views.caches.erase view⟩, views.isLive view)

/-- No views. -/
def empty : Views := ⟨.empty⟩

end Views

end Tree

end LanguageClient
