import LanguageClient.Command

/-!
# Messages about trees

The server owns the contents of the trees. A node is known by the opaque text that the server
gave it, its URI; only the root that a view implies has none.
-/

namespace LanguageClient

/-- Whether a node has children, and how they are shown at first. -/
inductive CollapseState
  /-- There are no children. -/
  | leaf
  /-- There are children that the user unfolds. -/
  | collapsed
  /-- There are children that show at once. -/
  | expanded
deriving Repr, DecidableEq

namespace CollapseState

/-- Whether a node has no children. -/
def isLeaf (state : CollapseState) : Bool := state = .leaf

/-- The name of a state. -/
def name : CollapseState → String
  | leaf => "leaf"
  | collapsed => "collapsed"
  | expanded => "expanded"

/-- A state on the wire. -/
def form : Form CollapseState :=
  .choice [("leaf", leaf), ("collapsed", collapsed), ("expanded", expanded)] name

/-- A state on the wire where null stands for a leaf. -/
def formOrLeaf : Form CollapseState where
  encode := form.encode
  decode value := (form.nullable.decode value).map fun state => state.getD leaf

end CollapseState

/-- A node of a tree. -/
structure TreeNode where
  /-- The view that the node belongs to. -/
  view : String
  /-- The identity of the node; only the root of a view has none. -/
  uri : Option String
  /-- The text that is shown. -/
  label : String
  /-- The command that a click on the node runs. -/
  command : Option Command
  /-- The icon. -/
  icon : Option String
  /-- The text that shows while the pointer rests on the node. -/
  tooltip : Option String
  /-- Whether there are children, and how they are shown at first. -/
  collapse : CollapseState
deriving Repr, DecidableEq

/-- A node on the wire; a leaf is written without its state. -/
def TreeNode.form : Form TreeNode :=
  .record "TreeViewNode" <|
    .as (fun (view, uri, label, command, icon, tooltip, collapse) =>
        ⟨view, uri, label, command, icon, tooltip, collapse⟩)
      (fun n => (n.view, n.uri, n.label, n.command, n.icon, n.tooltip, n.collapse)) <|
    (Fields.required "viewId" .text).both <| (Fields.optional "nodeUri" .text).both <|
    (Fields.required "label" .text).both <| (Fields.optional "command" Command.form).both <|
    (Fields.optional "icon" .text).both <| (Fields.optional "tooltip" .text).both
    (.usual "collapseState" CollapseState.formOrLeaf .leaf CollapseState.isLeaf)

namespace Tree

/-- Asks for the children of a node, or for the roots of a view. -/
structure ChildrenQuery where
  /-- The view. -/
  view : String
  /-- The parent; none asks for the roots. -/
  node : Option String
deriving Repr, DecidableEq

/-- A question for children on the wire. -/
def ChildrenQuery.form : Form ChildrenQuery :=
  .record "TreeViewChildrenParams" <|
    .as (fun (view, node) => ⟨view, node⟩) (fun q => (q.view, q.node)) <|
    (Fields.required "viewId" .text).both (.optional "nodeUri" .text)

/-- The children of a node in the order in which they are shown. -/
def childrenForm : Form (List TreeNode) :=
  .record "TreeViewChildrenResult" (.defaulted "nodes" (.list TreeNode.form) [])

/-- A node of a view. -/
structure NodeName where
  /-- The view. -/
  view : String
  /-- The node. -/
  node : String
deriving Repr, DecidableEq

/-- A question for the parent of a node on the wire. -/
def parentQueryForm : Form NodeName :=
  .record "TreeViewParentParams" <|
    .as (fun (view, node) => ⟨view, node⟩) (fun q => (q.view, q.node)) <|
    (Fields.required "viewId" .text).both (.required "nodeUri" .text)

/-- The parent of a node on the wire; a node at the top has none. -/
def parentForm : Form (Option String) :=
  .record "TreeViewParentResult" (.optional "uri" .text)

/-- A node to reveal, followed by its ancestors up to the root. -/
structure Chain where
  /-- The view. -/
  view : String
  /-- The node and its ancestors. -/
  uris : List String
deriving Repr, DecidableEq

/-- A chain on the wire. -/
def Chain.form : Form Chain :=
  .record "TreeViewRevealResult" <|
    .as (fun (view, uris) => ⟨view, uris⟩) (fun c => (c.view, c.uris)) <|
    (Fields.required "viewId" .text).both (.required "uriChain" (.list .text))

/-- The nodes whose data changed, on the wire. -/
def changeForm : Form (List TreeNode) :=
  .record "TreeViewDidChangeParams" (.defaulted "nodes" (.list TreeNode.form) [])

/-- Tells that a view was shown or hidden. -/
structure Visibility where
  /-- The view. -/
  view : String
  /-- Whether it is shown now. -/
  visible : Bool
deriving Repr, DecidableEq

/-- A change of visibility on the wire. -/
def Visibility.form : Form Visibility :=
  .record "TreeViewVisibilityDidChangeParams" <|
    .as (fun (view, visible) => ⟨view, visible⟩) (fun v => (v.view, v.visible)) <|
    (Fields.required "viewId" .text).both (.required "visible" .truth)

/-- Tells that the user folded or unfolded a node. -/
structure Folding where
  /-- The view. -/
  view : String
  /-- The node. -/
  node : String
  /-- Whether it is folded now. -/
  collapsed : Bool
deriving Repr, DecidableEq

/-- A folding on the wire. -/
def Folding.form : Form Folding :=
  .record "TreeViewNodeCollapseDidChangeParams" <|
    .as (fun (view, node, collapsed) => ⟨view, node, collapsed⟩)
      (fun f => (f.view, f.node, f.collapsed)) <|
    (Fields.required "viewId" .text).both <| (Fields.required "nodeUri" .text).both
    (.required "collapsed" .truth)

end Tree

end LanguageClient
