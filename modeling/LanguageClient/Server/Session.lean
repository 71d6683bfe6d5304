import LanguageClient.Server.Capabilities
import LanguageClient.Server.Documents
import LanguageClient.Settings.Basic

/-!
# Sessions with a server

A session begins when the server was started and has introduced itself, and ends when the client
takes its leave. In between the client asks and tells.
-/

namespace LanguageClient.Server

/-- How a session is begun. -/
structure Launch where
  /-- The program that is the server. -/
  command : String
  /-- The arguments of the program. -/
  arguments : List String
  /-- The directory that the session is about. -/
  workspace : Path
  /-- How long the server has for its introduction. -/
  initTimeout : Duration
  /-- How long the server has for any other answer. -/
  requestTimeout : Duration
  /-- The number of the client's process. -/
  processId : Nat

/-- The launch that settings ask for. -/
def Launch.ofSettings (settings : Settings) (workspace : Path) (processId : Nat) : Launch where
  command := settings.server.command
  arguments := settings.server.arguments
  workspace := workspace
  initTimeout := .ofSeconds settings.initTimeout.toNat
  requestTimeout := .ofSeconds settings.requestTimeout.toNat
  processId := processId

/-- The name and the version of the client. -/
def clientName : String := "rclang-client"

/-- The version of the client. -/
def clientVersion : String := "0.1.0"

/-- The name of a workspace: that of its directory, if it is a text. -/
def workspaceName (place : Place) : String :=
  ((place.getLast?.bind Utf8.toString?).getD "rclang")

/-- What the client tells of itself. -/
def introduction (place : Place) (processId : Nat) : Call :=
  let static := Json.object [("dynamicRegistration", .bool false)]
  ⟨"initialize", Json.object [
    ("processId", .nat processId),
    ("rootUri", .null),
    ("capabilities", Json.object [
      ("workspace", Json.object [("didChangeConfiguration", static), ("executeCommand", static)]),
      ("textDocument", Json.object [("synchronization", Json.object [
        ("dynamicRegistration", .bool false), ("willSave", .bool false),
        ("willSaveWaitUntil", .bool false), ("didSave", .bool false)])]),
      ("window", Json.object [("workDoneProgress", .bool true)]),
      ("experimental", Json.object [("treeViewProvider", .bool true)])]),
    ("trace", .str "off"),
    ("workspaceFolders", .arr [Json.object [("uri", Form.url.encode place.url),
      ("name", .str (workspaceName place))]]),
    ("clientInfo", Json.object [("name", .str clientName), ("version", .str clientVersion)])]⟩

/-- A session over a connection in a state. -/
structure Session (σ : Type) where
  /-- The state of the connection. -/
  state : σ
  /-- How long the server has for an answer. -/
  requestTimeout : Duration
  /-- What the server can do. -/
  capabilities : Json
  /-- The open documents. -/
  documents : Documents

namespace Session

variable {σ : Type}

/-- The outcome of a single question. -/
def outcomeOf (answers : List (Nat × Except ExchangeFailure Json)) : Except ExchangeFailure Json :=
  match answers with
  | (_, outcome) :: _ => outcome
  | [] => .error .stopped

/-- Asks a single question and checks the form of its answer. -/
def askOne (transport : Transport σ) (limit : Option Duration) (form : Passive) (call : Call)
    (state : σ) : σ × Except ExchangeFailure Json :=
  let (state, answers) := transport.ask limit [call] state
  (state, (outcomeOf answers).bind fun value => (form value).mapError .unreadable)

/-- The directory of a launch, if it can be one. -/
def workspaceOf (disk : Disk) (launch : Launch) : Except LspError (Place × Node) :=
  (disk.canonical launch.workspace).mapError fun error => .initializationFailed
    ("failed to canonicalize workspace root: " ++ error.message)

/-- The failure to start a server. -/
def notSpawned (command : String) (error : FileError) : LspError :=
  .startFailed ("failed to spawn '" ++ command ++ "': " ++ error.message)

/-- Begins a session: the server is started, introduces itself and is told that it may work. -/
def start (transport : Transport σ) (spawn : Place → String → List String → Except FileError σ)
    (disk : Disk) (launch : Launch) : Option σ × Except LspError (Session σ) :=
  match workspaceOf disk launch with
  | .error cause => (none, .error cause)
  | .ok (place, _) =>
    match spawn place launch.command launch.arguments with
    | .error error => (none, .error (notSpawned launch.command error))
    | .ok state =>
      match askOne transport (some launch.initTimeout) Server.introductionForm
          (Server.introduction place launch.processId) state with
      | (state, .error .timedOut) => (some state, .error (.timeout launch.initTimeout))
      | (state, .error failure) =>
        (some state, .error (.initializationFailed
          ("initialize request failed: " ++ failure.text)))
      | (state, .ok answer) =>
        match transport.tell ⟨"initialized", .obj []⟩ state with
        | (state, .error failure) =>
          (some state, .error (.initializationFailed
            ("initialized notification failed: " ++ failure.text)))
        | (state, .ok ()) =>
          (some state, .ok ⟨state, launch.requestTimeout, (answer.get? "capabilities").getD .null,
            .empty⟩)

/-- The failure of a question. -/
def notAnswered (limit : Duration) (method : String) : ExchangeFailure → LspError
  | .timedOut => .timeout limit
  | failure => .requestFailed (method ++ " failed: " ++ failure.text)

/-- What a question came to, its answer in normal form. -/
def settle (limit : Duration) (request : Request) (outcome : Except ExchangeFailure Json) :
    Except LspError Json :=
  (outcome.bind fun value => (request.settle value).mapError .unreadable).mapError
    (notAnswered limit request.method)

/-- The call that asks a question. -/
def callOf (request : Request) : Call := ⟨request.method, request.params⟩

/-- Asks questions at once. The answers come in the order in which they arrived. -/
def askAll (transport : Transport σ) (requests : List Request) (session : Session σ) :
    Session σ × List (Nat × Except LspError Json) :=
  let (state, answers) :=
    transport.ask (some session.requestTimeout) (requests.map callOf) session.state
  ({ session with state := state }, answers.filterMap fun (place, outcome) =>
    requests[place]?.map fun request => (place, settle session.requestTimeout request outcome))

/-- Asks one question. -/
def ask (transport : Transport σ) (request : Request) (session : Session σ) :
    Session σ × Except LspError Json :=
  match session.askAll transport [request] with
  | (session, (_, outcome) :: _) => (session, outcome)
  | (session, []) => (session, .error (notAnswered session.requestTimeout request.method .stopped))

/-- Tells the server about a widget. -/
def tell (transport : Transport σ) (notice : Notice) (session : Session σ) :
    Session σ × Except LspError Unit :=
  let (state, result) := transport.tell ⟨notice.method, notice.params⟩ session.state
  ({ session with state := state }, result.mapError fun failure =>
    .requestFailed (notice.method ++ " failed: " ++ failure.text))

/-- Opens a document. -/
def openDocument (transport : Transport σ) (disk : Disk) (path : Path) (session : Session σ) :
    Session σ × Except LspError Url :=
  let (documents, state, result) := session.documents.openAt transport disk path session.state
  ({ session with documents := documents, state := state }, result)

/-- Gives a document a new text. -/
def changeDocument (transport : Transport σ) (disk : Disk) (path : Path) (text : String)
    (session : Session σ) : Session σ × Except LspError Unit :=
  let (documents, state, result) :=
    session.documents.changeAt transport disk path text session.state
  ({ session with documents := documents, state := state }, result)

/-- Closes a document. -/
def closeDocument (transport : Transport σ) (disk : Disk) (path : Path) (session : Session σ) :
    Session σ × Except LspError Unit :=
  let (documents, state, result) := session.documents.closeAt transport disk path session.state
  ({ session with documents := documents, state := state }, result)

/-- Takes leave of the server: it is asked to shut down and told to exit once it has. -/
def shutdown (transport : Transport σ) (session : Session σ) :
    Session σ × Except LspError Unit :=
  match askOne transport none .nothing ⟨"shutdown", .null⟩ session.state with
  | (state, .error failure) =>
    ({ session with state := state },
      .error (.requestFailed ("shutdown request failed: " ++ failure.text)))
  | (state, .ok _) =>
    let (state, result) := transport.tell ⟨"exit", .null⟩ state
    ({ session with state := state }, result.mapError fun failure =>
      .requestFailed ("exit notification failed: " ++ failure.text))

end Session

end LanguageClient.Server
