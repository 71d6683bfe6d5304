import LanguageClient.Debug.Configuration
import LanguageClient.Document
import LanguageClient.Error

/-!
# The editor

Everything that the client draws or opens belongs to the editor around it. The client learns from
the editor what is shown at the moment, and acts on it by calls; the calls of a run, in order, are
all that the user can see of it.
-/

namespace LanguageClient

/-- The group of panes that a document opens in. -/
inductive ViewColumn
  /-- The group of the active pane. -/
  | active
  /-- A new group beside the active one. -/
  | beside
  /-- A numbered group, counted from one. -/
  | number (index : UInt32)
deriving Repr, DecidableEq

/-- The column as a text. -/
def ViewColumn.text : ViewColumn → String
  | .active => "Active"
  | .beside => "Beside"
  | .number index => "Number(" ++ toString index ++ ")"

/-- A pane that is shown at the moment. -/
structure VisibleEditor where
  /-- The document in the pane. -/
  uri : Url
  /-- The group of the pane, if it has one. -/
  column : Option ViewColumn
deriving Repr, DecidableEq

/-- Whether a pane shows the output of a program rather than a document. -/
def VisibleEditor.isOutput (editor : VisibleEditor) : Bool := editor.uri.scheme = "output"

/-- The side of the status bar on which an item sits. -/
inductive Side
  /-- The left side. -/
  | left
  /-- The right side. -/
  | right
deriving Repr, DecidableEq

/-- A text in the status bar. -/
structure StatusItem where
  /-- The side of the bar. -/
  side : Side
  /-- An item with a higher priority sits further left. -/
  priority : Int
  /-- The text. -/
  text : String
deriving Repr, DecidableEq

/-- The item that the client shows at first. -/
def StatusItem.initial : StatusItem := ⟨.right, 100, "RclangStatusBar"⟩

/-- A panel of the editor that shows a page. -/
structure WebPanel where
  /-- The number of the panel, given by the client. -/
  id : Nat
  /-- The kind of the panel. -/
  viewType : String
  /-- The title. -/
  title : String
  /-- The group of panes that the panel opens in. -/
  column : ViewColumn
  /-- Whether the page may run scripts. -/
  scripts : Bool
  /-- The directories from which the page may load resources. -/
  resourceRoots : List Path
deriving Repr, DecidableEq

/-- What the client asks of the editor. -/
inductive EditorCall
  /-- To ask again for a node of a tree, or for a whole tree. -/
  | refresh (view : String) (node : Option String)
  /-- To unfold a node of a tree. -/
  | expand (view node : String)
  /-- To select a node of a tree. -/
  | select (view node : String)
  /-- To replace the page of a panel. -/
  | render (panel : WebPanel) (html : String)
  /-- To open a document and select a part of it. -/
  | showDocument (uri : Url) (range : TextRange) (column : ViewColumn)
  /-- To tell the user of a failure. -/
  | showError (message : String)
  /-- To show an item in the status bar. -/
  | showStatus (item : StatusItem)
  /-- To start a debug session. -/
  | startDebugging (configuration : Debug.Configuration)
deriving Repr, DecidableEq

/-- What the editor shows at the moment, and how it answers calls that can fail. -/
structure Editor where
  /-- The group of the active pane. -/
  activeColumn : Option ViewColumn
  /-- The document in the active pane. -/
  activeDocument : Option Url
  /-- All panes in their order. -/
  visible : List VisibleEditor
  /-- Whether the editor starts a debug session that it is asked for. -/
  debugging : Except EditorError Bool
  /-- Whether the editor opens a document that it is asked for. -/
  opening : Except EditorError Unit

/-- An editor that shows nothing and does what it is asked for. -/
def Editor.idle : Editor := ⟨none, none, [], .ok true, .ok ()⟩

end LanguageClient
