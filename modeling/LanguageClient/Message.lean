import LanguageClient.Document
import LanguageClient.Preview.Page
import LanguageClient.Tree.Messages

/-!
# Messages between client and server

What the client asks the server, what it tells the server, and what the server tells the client
of its own accord. Every message has a method and a payload.
-/

namespace LanguageClient

/-- A question of the client to the server. -/
inductive Request
  /-- For the children of a node of a tree. -/
  | children (query : Tree.ChildrenQuery)
  /-- For the parent of a node of a tree. -/
  | parent (node : Tree.NodeName)
  /-- For the node of a tree that belongs to a place in a document. -/
  | reveal (position : DocumentPosition)
  /-- For the listing of a document. -/
  | preview (document : Url)
  /-- For the result of a command. -/
  | execute (call : CommandCall)
deriving Repr, DecidableEq

namespace Request

/-- The method of a question for children. -/
def childrenMethod : String := "Rc/treeViewChildren"

/-- The method of a question for a parent. -/
def parentMethod : String := "Rc/treeViewParent"

/-- The method of a question for a node to reveal. -/
def revealMethod : String := "Rc/treeViewReveal"

/-- The method of a question for a listing. -/
def previewMethod : String := "Rc/irPreviewPanelUpdate"

/-- The method of a call of a command. -/
def executeMethod : String := "workspace/executeCommand"

/-- The method of a question. -/
def method : Request → String
  | .children _ => childrenMethod
  | .parent _ => parentMethod
  | .reveal _ => revealMethod
  | .preview _ => previewMethod
  | .execute _ => executeMethod

/-- The payload of a question. -/
def params : Request → Json
  | .children query => Tree.ChildrenQuery.form.encode query
  | .parent node => Tree.parentQueryForm.encode node
  | .reveal position => DocumentPosition.form.encode position
  | .preview document => Preview.queryForm.encode document
  | .execute call => CommandCall.form.encode call

/-- The question with a method and a payload, if the method is one of a question. -/
def read? (method : String) (params : Json) : Option (Except DecodeError Request) :=
  if method = childrenMethod then some ((Tree.ChildrenQuery.form.decode params).map .children)
  else if method = parentMethod then some ((Tree.parentQueryForm.decode params).map .parent)
  else if method = revealMethod then some ((DocumentPosition.form.decode params).map .reveal)
  else if method = previewMethod then some ((Preview.queryForm.decode params).map .preview)
  else if method = executeMethod then some ((CommandCall.form.decode params).map .execute)
  else none

/-- The answer to a question in its normal form, or what is wrong with it. -/
def settle (request : Request) (result : Json) : Except DecodeError Json :=
  let through {α : Type} (form : Form α) := (form.decode result).map form.encode
  match request with
  | .children _ => through Tree.childrenForm
  | .parent _ => through Tree.parentForm
  | .reveal _ => through Tree.Chain.form.nullable
  | .preview _ => through Preview.Listing.form
  | .execute _ => .ok result

end Request

/-- What the client tells the server about the widgets of the trees. -/
inductive Notice
  /-- That a view was shown or hidden. -/
  | visibility (change : Tree.Visibility)
  /-- That a node was folded or unfolded. -/
  | folding (change : Tree.Folding)
deriving Repr, DecidableEq

namespace Notice

/-- The method of a change of visibility. -/
def visibilityMethod : String := "Rc/treeViewVisibilityDidChange"

/-- The method of a folding. -/
def foldingMethod : String := "Rc/treeViewNodeCollapseDidChange"

/-- The method of a notice. -/
def method : Notice → String
  | .visibility _ => visibilityMethod
  | .folding _ => foldingMethod

/-- The payload of a notice. -/
def params : Notice → Json
  | .visibility change => Tree.Visibility.form.encode change
  | .folding change => Tree.Folding.form.encode change

end Notice

/-- What the server tells the client of its own accord. -/
inductive ServerEvent
  /-- That the client should run a command. -/
  | clientCommand (call : CommandCall)
  /-- That nodes of trees changed. -/
  | treeChange (nodes : List TreeNode)
deriving Repr, DecidableEq

namespace ServerEvent

/-- The method of a command for the client. -/
def commandMethod : String := "Rc/executeClientCommand"

/-- The method of a change of trees. -/
def changeMethod : String := "Rc/treeViewDidChange"

/-- The event with a method and a payload, if the method is one of an event. -/
def read? (method : String) (params : Json) : Option (Except DecodeError ServerEvent) :=
  if method = commandMethod then some ((CommandCall.form.decode params).map .clientCommand)
  else if method = changeMethod then some ((Tree.changeForm.decode params).map .treeChange)
  else none

end ServerEvent

end LanguageClient
