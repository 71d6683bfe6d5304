import LanguageClient.Debug.Adapter
import LanguageClient.Editor
import LanguageClient.Message

/-!
# Starting debug sessions

The server starts a debug adapter and tells where it listens; the editor is then asked to start a
session with that adapter. When no session was started the user is told.
-/

namespace LanguageClient.Debug

/-- The question that starts an adapter for what is found in a file. -/
def startRequest (discovery : Discovery) : Request :=
  .execute (startCall (Discovery.form.encode discovery))

/-- The question that starts an adapter for a configuration. -/
def describeRequest (configuration : Configuration) : Request :=
  .execute (startCall (Configuration.form.encode configuration))

/-- The session that an answer of the server tells of. -/
def receiveSession (reply : Except LspError Json) : Except DebugError (Option Session) :=
  (reply.bind sessionOfReply).mapError .lsp

/-- The configuration for a session at an endpoint. -/
def configurationOf (noDebug : Bool) (name : String) (endpoint : Endpoint) : Configuration :=
  { Configuration.empty with
    kind := some configurationType
    name := some name
    request := some "launch"
    noDebug := some noDebug
    port := some endpoint.port }

/-- Takes the answer of the server and asks the editor to start the session. The answer is whether
a session was started. -/
def receiveStart (editor : Editor) (noDebug : Bool) (reply : Except LspError Json) :
    List EditorCall × Except DebugError Bool :=
  match receiveSession reply with
  | .error cause => ([], .error cause)
  | .ok none => ([], .ok false)
  | .ok (some session) =>
    match Endpoint.ofUri session.uri with
    | .error cause => ([], .error cause)
    | .ok endpoint =>
      ([.startDebugging (configurationOf noDebug session.name endpoint)],
        editor.debugging.mapError .editor)

/-- What the user is told when no session was started. -/
def notStarted (noDebug : Bool) : String :=
  if noDebug then "Run session not started" else "Debug session not started"

/-- Takes the answer of the server as `receiveStart` does, and tells the user if no session was
started, for whatever reason. -/
def receiveStartOrTell (editor : Editor) (noDebug : Bool) (reply : Except LspError Json) :
    List EditorCall × Bool :=
  match receiveStart editor noDebug reply with
  | (calls, .ok true) => (calls, true)
  | (calls, _) => (calls ++ [.showError (notStarted noDebug)], false)

/-- Takes the answer of the server to a question for the adapter of a configuration. -/
def receiveEndpoint (reply : Except LspError Json) : Except DebugError (Option Endpoint) :=
  match receiveSession reply with
  | .error cause => .error cause
  | .ok none => .ok none
  | .ok (some session) => (Endpoint.ofUri session.uri).map some

/-- What is started before the editor launches a configuration: what is found in the active
document, if the configuration has no type. -/
def discoveryFor? (editor : Editor) (configuration : Configuration) : Option Discovery :=
  match configuration.kind with
  | some _ => none
  | none => editor.activeDocument.map fun document => ⟨document.render, .runOrTestFile⟩

end LanguageClient.Debug
