import LanguageClient.Command
import LanguageClient.Error

/-!
# Debug adapters

The server starts a debug adapter when the client calls a command, and answers with a session
whose address says where the adapter listens.
-/

namespace LanguageClient.Debug

/-- The command that starts a debug adapter. -/
def startCommand : String := "debug-adapter-start"

/-- The type of the configurations of this client. -/
def configurationType : String := "rc-lang"

/-- What the user wants to run. -/
inductive RunType
  /-- The entry point of a program. -/
  | run
  /-- A file, or its tests if it is a file of tests. -/
  | runOrTestFile
  /-- The tests of a file. -/
  | testFile
  /-- A whole test target. -/
  | testTarget
deriving Repr, DecidableEq

/-- The name of a run type. -/
def RunType.name : RunType → String
  | run => "run"
  | runOrTestFile => "runOrTestFile"
  | testFile => "testFile"
  | testTarget => "testTarget"

/-- A run type on the wire. -/
def RunType.form : Form RunType :=
  .choice [("run", .run), ("runOrTestFile", .runOrTestFile), ("testFile", .testFile),
    ("testTarget", .testTarget)] RunType.name

/-- A file, and how to run what is found in it. -/
structure Discovery where
  /-- The file, as a path or a URL. -/
  path : String
  /-- How to run it. -/
  runType : RunType
deriving Repr, DecidableEq

/-- A discovery on the wire. -/
def Discovery.form : Form Discovery :=
  .record "DebugDiscoveryParams" <| .as (fun (path, runType) => ⟨path, runType⟩)
    (fun d => (d.path, d.runType)) <|
    (Fields.required "path" .text).both (.required "runType" RunType.form)

/-- A debug adapter that the server started. -/
structure Session where
  /-- The name of the session. -/
  name : String
  /-- The address of the adapter. -/
  uri : String
deriving Repr, DecidableEq

/-- A session on the wire. -/
def Session.form : Form Session :=
  .record "DebugSession" <| .as (fun (name, uri) => ⟨name, uri⟩) (fun s => (s.name, s.uri)) <|
    (Fields.required "name" .text).both (.required "uri" .text)

/-- Where a debug adapter listens. -/
structure Endpoint where
  /-- The host. -/
  host : String
  /-- The port. -/
  port : UInt16
deriving Repr, DecidableEq

/-- The host and the port that an address spells. -/
def Endpoint.ofUri [Idna] (uri : String) : Except DebugError Endpoint := do
  match Url.read uri with
  | .error reason => throw (.invalidAdapterUri (uri ++ ": " ++ reason.message))
  | .ok url =>
    match url.host?, url.port? with
    | none, _ => throw (.invalidAdapterUri (uri ++ ": missing host"))
    | some _, none => throw (.invalidAdapterUri (uri ++ ": missing port"))
    | some host, some port => return ⟨host, UInt16.ofNat port⟩

/-- The call that starts a debug adapter for a payload. -/
def startCall (payload : Json) : CommandCall := .withArgument startCommand payload

/-- The session that a reply to the start command tells of; null tells that none was started. -/
def sessionOfReply : Json → Except LspError (Option Session)
  | .null => .ok none
  | value =>
    match Session.form.decode value with
    | .ok session => .ok (some session)
    | .error cause => .error (.parseError (startCommand ++ ": " ++ cause.message))

end LanguageClient.Debug
