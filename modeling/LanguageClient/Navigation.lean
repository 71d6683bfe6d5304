import LanguageClient.Command
import LanguageClient.Editor

/-!
# Navigation

The server can ask the client to run a command. The one command that the client knows opens a
document at a place, either in the active pane or in another one.
-/

namespace LanguageClient

namespace Navigation

/-- The command that opens a document. -/
def goToCommand : String := "rclang.goto"

/-- The place that a go-to leads to. -/
structure Target where
  /-- The document. -/
  uri : Url
  /-- The part to select. -/
  range : TextRange
  /-- Whether to leave the active pane as it is. -/
  otherWindow : Bool
deriving Repr, DecidableEq

/-- A target on the wire. -/
def Target.form : Form Target :=
  .record "WindowLocation" <| .as (fun (uri, range, otherWindow) => ⟨uri, range, otherWindow⟩)
    (fun t => (t.uri, t.range, t.otherWindow)) <|
    (Fields.required "uri" .url).both <| (Fields.required "range" TextRange.form).both
    (.defaulted "otherWindow" .truth false)

/-- A command that the server asks for. -/
inductive Request
  /-- To open a document. -/
  | goTo (target : Target)
  /-- A command that the client does not know. -/
  | unrecognized (command : String) (arguments : List Json)
deriving Repr, DecidableEq

/-- What a call of a command asks for. Arguments after the first do not count. -/
def Request.ofCall (call : CommandCall) : Except CommandError Request :=
  if call.command ≠ goToCommand then .ok (.unrecognized call.command call.arguments)
  else
    match call.arguments with
    | [] => .error (.missingArgument call.command)
    | argument :: _ =>
      match Target.form.decode argument with
      | .ok target => .ok (.goTo target)
      | .error cause => .error (.invalidArgument call.command cause.message)

/-- The pane that a target opens in: the active one, or else the last pane that shows a document
and has a column, or else a new one. -/
def column (target : Target) (visible : List VisibleEditor) : ViewColumn :=
  if !target.otherWindow then .active
  else
    let columns := (visible.filter fun editor => !editor.isOutput).filterMap VisibleEditor.column
    columns.getLast?.getD .beside

/-- Opens the document of a target. The answer is the pane if the editor opened the document. -/
def goTo (editor : Editor) (target : Target) :
    List EditorCall × Except EditorError ViewColumn :=
  let column := column target editor.visible
  ([.showDocument target.uri target.range column], editor.opening.map fun _ => column)

/-- Does what the server asks for; unknown commands do nothing. -/
def perform (editor : Editor) : Request → List EditorCall × Except EditorError Unit
  | .goTo target =>
    let (calls, result) := goTo editor target
    (calls, result.map fun _ => ())
  | .unrecognized _ _ => ([], .ok ())

end Navigation

end LanguageClient
