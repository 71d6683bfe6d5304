import LanguageClient.Debug.Adapter

/-!
# Commands of the user

The commands that the user can call in the editor, with the argument that each of them needs.
-/

namespace LanguageClient

/-- A command that the user called. -/
inductive EditorCommand
  /-- To open a preview of a file. -/
  | startPreview (path : Path)
  /-- To debug what is found in a file. -/
  | startDebugSession (discovery : Debug.Discovery)
  /-- To run what is found in a file. -/
  | startRunSession (discovery : Debug.Discovery)
  /-- A command that the client does not know. -/
  | unrecognized (command : String)
deriving Repr, DecidableEq

namespace EditorCommand

/-- The command that opens a preview. -/
def previewCommand : String := "rc.IRPreview.start"

/-- The command that starts a debug session. -/
def debugCommand : String := "StartDebugSession"

/-- The command that starts a run session. -/
def runCommand : String := "StartRunSession"

/-- The file to preview, on the wire. -/
def previewForm : Form Path := .record "PreviewArgument" (.required "path" .path)

/-- The argument that a command needs. -/
def argumentOf {α : Type} (form : Form α) (command : String) :
    Option Json → Except CommandError α
  | none => .error (.missingArgument command)
  | some argument =>
    (form.decode argument).mapError fun cause => .invalidArgument command cause.message

/-- The command with an identifier and an argument. -/
def ofCall (command : String) (argument : Option Json) : Except CommandError EditorCommand :=
  if command = previewCommand then (argumentOf previewForm command argument).map .startPreview
  else if command = debugCommand then
    (argumentOf Debug.Discovery.form command argument).map .startDebugSession
  else if command = runCommand then
    (argumentOf Debug.Discovery.form command argument).map .startRunSession
  else .ok (.unrecognized command)

end EditorCommand

end LanguageClient
