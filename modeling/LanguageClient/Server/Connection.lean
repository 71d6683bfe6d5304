import LanguageClient.Server.Link
import LanguageClient.Server.Script
import LanguageClient.Server.Transport

/-!
# Connections to scripted servers

The client's end and a scripted server together. Whatever the client sends is handled until the
server waits for more; an answer that has not come by then does not come in time.
-/

namespace LanguageClient.Server

/-- A connection. -/
structure Connection where
  /-- The client's end. -/
  link : Link
  /-- The server. -/
  server : ScriptedServer
  /-- What the client sent and the server has not read. -/
  inbox : List Envelope

namespace Connection

/-- A connection to a server with a script. -/
def start (script : Table String (List Action)) : Connection := ⟨.fresh, .start script, []⟩

/-- Gives bytes of the server to the client. -/
def deliver (connection : Connection) (bytes : List UInt8) : Connection :=
  let (link, replies) := connection.link.feed bytes
  { connection with
    link := if connection.server.alive then link else link.stop
    inbox := connection.inbox ++ replies }

/-- Does the next thing that happens on a connection, if there is one. -/
def step? (connection : Connection) : Option Connection :=
  match connection.server.advance? with
  | some (server, bytes) => some ({ connection with server := server }.deliver bytes)
  | none =>
    match connection.server.alive, connection.inbox with
    | true, envelope :: rest =>
      some { connection with server := connection.server.read envelope, inbox := rest }
    | _, _ => none

/-- Lets happen what happens on a connection, at most a number of things. -/
def run : Nat → Connection → Connection
  | 0, connection => connection
  | steps + 1, connection =>
    match connection.step? with
    | some connection => run steps connection
    | none => connection

/-- How many things can happen because of something that the server sends. -/
def pushWeight : Push → Nat
  | .notice _ _ => 1
  | .question _ _ => 8
  | .raw bytes => 8 * bytes.length + 1

/-- The sum of some numbers. -/
def total (numbers : List Nat) : Nat := numbers.foldr (fun n sum => n + sum) 0

/-- How many things can happen on a connection at most. -/
def weight (connection : Connection) : Nat :=
  let pushes (before : List Push) : Nat := total (before.map pushWeight)
  let script := connection.server.script.entries.map fun entry =>
    total (entry.2.map fun action => pushes action.before)
  let task := connection.server.task.elim 0 fun task => pushes task.before + 8
  total script + task + 8 * (connection.inbox.length + connection.server.backlog.length) + 8

/-- Lets happen what happens on a connection until nothing more does. -/
def settle (connection : Connection) : Connection := run connection.weight connection

/-- Sends an envelope. -/
def send (connection : Connection) (envelope : Envelope) : Connection :=
  { connection with inbox := connection.inbox ++ [envelope] }

/-- Sends a question. The answer is its identifier, if the connection stands. -/
def question (connection : Connection) (call : Call) : Connection × Option Nat :=
  if connection.link.running then
    let id := connection.link.nextId
    let link := { connection.link with
      nextId := id + 1, unanswered := connection.link.unanswered ++ [id] }
    let envelope := Envelope.question (.number (.ofInt id)) call.method call.params
    ({ connection with link := link }.send envelope, some id)
  else (connection, none)

/-- Sends questions one after the other. -/
def questions : Connection → List Call → Connection × List (Option Nat)
  | connection, [] => (connection, [])
  | connection, call :: rest =>
    let (connection, id) := connection.question call
    let (connection, ids) := questions connection rest
    (connection, id :: ids)

/-- Asks questions at once. Nothing is answered within no time at all. -/
def ask (limit : Option Duration) (calls : List Call) (connection : Connection) :
    Connection × List (Nat × Except ExchangeFailure Json) :=
  let (connection, ids) := connection.questions calls
  let connection := connection.settle
  let answers := if limit = some ⟨0⟩ then [] else connection.link.answers
  let arrived := answers.filterMap fun (id, outcome) =>
    (ids.findIdx? (· = some id)).map fun place => (place, outcome.mapError .refused)
  let missing := ids.zipIdx.filterMap fun (id, place) =>
    if arrived.any fun answer => answer.1 = place then none
    else if id.isSome ∧ (connection.link.running ∨ limit = some ⟨0⟩) then
      some (place, .error .timedOut)
    else some (place, .error .stopped)
  ({ connection with link := { connection.link with answers := [] } }, arrived ++ missing)

/-- Sends a notice. -/
def tell (call : Call) (connection : Connection) : Connection × Except ExchangeFailure Unit :=
  if connection.link.running then
    ((connection.send (.notice call.method call.params)).settle, .ok ())
  else (connection, .error .stopped)

/-- Takes the events that came. -/
def takeEvents (connection : Connection) : Connection × List ServerEvent :=
  ({ connection with link := { connection.link with events := [] } }, connection.link.events)

/-- Connections to scripted servers as a transport. -/
def transport : Transport Connection := ⟨ask, tell, takeEvents⟩

/-- Whether an entry of what was received is a question or an answer. -/
def isExchange : Received → Bool
  | .question _ _ | .answer _ _ => true
  | .notice _ _ => false

/-- What the server received up to the last question or answer. -/
def exchanged (connection : Connection) : List Received :=
  (connection.server.received.reverse.dropWhile fun entry => !isExchange entry).reverse

/-- What the server received: all of it if the client took its leave at the end, else up to the
last question or answer. -/
def transcript (connection : Connection) : List Received :=
  match connection.server.received.getLast? with
  | some (.notice "exit" _) => connection.server.received
  | _ => connection.exchanged

end Connection

end LanguageClient.Server
