import LanguageClient.Server.Envelope
import LanguageClient.Server.Frame
import LanguageClient.Table

/-!
# Scripted servers

A server that does what is written down for it: for each method a row of actions, one for each
message with that method. It handles one message after the other, and what it reads while it waits
for an answer of the client it handles later.
-/

namespace LanguageClient.Server

/-- Something that the server sends of its own accord. -/
inductive Push
  /-- A notice. -/
  | notice (method : String) (params : Json)
  /-- A question; the server waits for its answer. -/
  | question (method : String) (params : Json)
  /-- Bytes as they are. -/
  | raw (bytes : List UInt8)
deriving Repr

/-- How the server ends the handling of a message. -/
inductive Conclusion
  /-- It exits. -/
  | exit
  /-- It answers. -/
  | answer (outcome : Except Refusal Json)
  /-- It does nothing. -/
  | silence

/-- What the server does about a message. -/
structure Action where
  /-- What it sends first. -/
  before : List Push
  /-- How it ends. -/
  conclusion : Conclusion
  /-- Whether the answer is kept back. -/
  hold : Bool
  /-- Whether the answers that were kept back are sent after this one. -/
  release : Bool

/-- The handling of a message. -/
structure Task where
  /-- The identifier of the message, if it is a question. -/
  id : Option Token
  /-- What is still to be sent. -/
  before : List Push
  /-- What is done about the message. -/
  action : Action
  /-- The method of the question whose answer the server waits for. -/
  awaits : Option String

/-- What the server received. -/
inductive Received
  /-- A question. -/
  | question (method : String) (params : Json)
  /-- A notice. -/
  | notice (method : String) (params : Json)
  /-- The answer to a question of its own with a method. -/
  | answer (method : String) (outcome : Except Refusal Json)

/-- The bytes that carry envelopes. -/
def bytesOf (envelopes : List Envelope) : List UInt8 :=
  envelopes.flatMap fun envelope => Frame.encode envelope.encode.compact

/-- The bytes of something that the server sends of its own accord. -/
def Push.bytes : Push → List UInt8
  | .notice method params => bytesOf [.notice method params]
  | .question method params => bytesOf [.question (.text "server") method params]
  | .raw bytes => bytes

/-- The state of a scripted server. -/
structure ScriptedServer where
  /-- What is written down for each method. -/
  script : Table String (List Action)
  /-- What was received, in order. -/
  received : List Received
  /-- What was read and not handled yet. -/
  backlog : List Envelope
  /-- The answers that are kept back, the last one first. -/
  held : List Envelope
  /-- What the server is doing. -/
  task : Option Task
  /-- Whether the server runs. -/
  alive : Bool

namespace ScriptedServer

/-- A server with a script. -/
def start (script : Table String (List Action)) : ScriptedServer := ⟨script, [], [], [], none, true⟩

/-- The action without anything sent first or kept back. -/
def plainAction (conclusion : Conclusion) : Action := ⟨[], conclusion, false, false⟩

/-- What the server does about a question for which nothing is written down. -/
def usualAnswer : String → Action
  | "initialize" => plainAction (.answer (.ok (.obj [("capabilities", .obj [])])))
  | "shutdown" => plainAction (.answer (.ok .null))
  | _ => plainAction (.answer (.error ⟨-32601, "no scripted reply", none⟩))

/-- What the server does about a notice for which nothing is written down. -/
def usualReaction : String → Action
  | "exit" => plainAction .exit
  | _ => plainAction .silence

/-- Takes the next action for a method from the script. -/
def takeAction (server : ScriptedServer) (method : String) (usual : Action) :
    Action × ScriptedServer :=
  match server.script.get? method with
  | some (action :: rest) => (action, { server with script := server.script.insert method rest })
  | _ => (usual, server)

/-- What is noted of an envelope that was read. -/
def note (server : ScriptedServer) : Envelope → Received
  | .question _ method params => .question method params
  | .notice method params => .notice method params
  | .answer _ outcome => .answer ((server.task.bind Task.awaits).getD "") outcome

/-- Begins to handle a message. -/
def begin (server : ScriptedServer) : Envelope → ScriptedServer
  | .question id method _ =>
    let (action, server) := server.takeAction method (usualAnswer method)
    { server with task := some ⟨some id, action.before, action, none⟩ }
  | .notice method _ =>
    let (action, server) := server.takeAction method (usualReaction method)
    { server with task := some ⟨none, action.before, action, none⟩ }
  | .answer _ _ => server

/-- Ends the handling of a message. The answers that are sent come with it. -/
def conclude (server : ScriptedServer) (task : Task) : ScriptedServer × List Envelope :=
  let server := { server with task := none }
  match task.action.conclusion, task.id with
  | .exit, _ => ({ server with alive := false }, [])
  | .answer outcome, some id =>
    let answer := Envelope.answer id outcome
    if task.action.hold then ({ server with held := answer :: server.held }, [])
    else if task.action.release then ({ server with held := [] }, answer :: server.held)
    else (server, [answer])
  | _, _ => (server, [])

/-- Reads one message. While an answer is awaited other messages are kept for later. -/
def read (server : ScriptedServer) (envelope : Envelope) : ScriptedServer :=
  let noted := { server with received := server.received ++ [server.note envelope] }
  match envelope, server.task with
  | .answer _ _, some task => { noted with task := some { task with awaits := none } }
  | envelope, some _ => { noted with backlog := noted.backlog ++ [envelope] }
  | envelope, none => noted.begin envelope

/-- Does the next thing that needs no message of the client. None if there is no such thing. -/
def advance? (server : ScriptedServer) : Option (ScriptedServer × List UInt8) :=
  if !server.alive then none
  else
    match server.task, server.backlog with
    | some ⟨_, _, _, some _⟩, _ => none
    | some task, _ =>
      match task.before with
      | push :: rest =>
        let awaits := match push with
          | .question method _ => some method
          | _ => none
        some ({ server with task := some { task with before := rest, awaits := awaits } },
          push.bytes)
      | [] =>
        let (server, answers) := server.conclude task
        some (server, bytesOf answers)
    | none, envelope :: rest => some ({ server with backlog := rest }.begin envelope, [])
    | none, [] => none

end ScriptedServer

end LanguageClient.Server
