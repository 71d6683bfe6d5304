import LanguageClient.Editor
import LanguageClient.Message

/-!
# Preview panels

A panel belongs to one document. Each time it is brought up to date the server is asked for the
listing, and the page is replaced as a whole. A panel counts as shown again only after the page
that this needs has come.
-/

namespace LanguageClient.Preview

/-- The kind of the panels. -/
def viewType : String := "IRPreview"

/-- The title of the panels. -/
def title : String := "IRPreview"

/-- The directories from which a page may load resources. -/
def resourceRoots (extensionRoot : Path) : List Path := [extensionRoot.join (Path.ofString "media")]

/-- A preview panel. -/
structure Panel where
  /-- The panel of the editor. -/
  web : WebPanel
  /-- The document. -/
  document : Url
  /-- Whether the panel counts as shown. -/
  visible : Bool
  /-- Whether the panel is closed. -/
  disposed : Bool
deriving Repr, DecidableEq

namespace Panel

/-- A panel in the group of the active pane, or in the first group if no pane is active. -/
def create (editor : Editor) (extensionRoot : Path) (id : Nat) (document : Url) : Panel where
  web := ⟨id, viewType, title, editor.activeColumn.getD (.number 1), true,
    resourceRoots extensionRoot⟩
  document := document
  visible := true
  disposed := false

/-- The question that brings a panel up to date; a closed panel asks nothing. -/
def ask? (panel : Panel) : Option Request :=
  if panel.disposed then none else some (.preview panel.document)

/-- Replaces the page by that of a listing. The answer is the number of its rows. -/
def receive (panel : Panel) : Except LspError Listing → List EditorCall × Except LspError Nat
  | .error cause => ([], .error cause)
  | .ok listing => ([.render panel.web (page (rows listing))], .ok (rows listing).length)

/-- The panel when it is hidden. -/
def hide (panel : Panel) : Panel := { panel with visible := false }

/-- The panel when it counts as shown. -/
def shown (panel : Panel) : Panel := { panel with visible := true }

/-- The panel when it is closed. -/
def dispose (panel : Panel) : Panel := { panel with disposed := true }

/-- The question that a panel asks when the user shows it: none if it counts as shown already or
is closed. -/
def askShown? (panel : Panel) : Option Request := if panel.visible then none else panel.ask?

end Panel

end LanguageClient.Preview
