import LanguageClient.Message
import LanguageClient.Server.Capabilities
import LanguageClient.Server.Frame

/-!
# The client's end of the connection

The client reads frames from the server for as long as they have their proper form. Answers are
kept for those who asked, events for those who act on them, questions of the server are answered
at once. The first thing that cannot be read ends the connection for good.
-/

namespace LanguageClient.Server

/-- Where the events go. -/
inductive EventStream
  /-- Nobody has asked for them yet. -/
  | waiting
  /-- Somebody takes them. -/
  | taken
  /-- Nobody takes them any more. -/
  | dropped
deriving Repr, DecidableEq

/-- The state of the client's end. -/
structure Link where
  /-- Whether the connection stands. -/
  running : Bool
  /-- The identifier of the next question. -/
  nextId : Nat
  /-- The bytes that came and form no whole frame yet. -/
  pending : List UInt8
  /-- The questions that have no answer yet. -/
  unanswered : List Nat
  /-- The answers that came, in order, with the questions that they belong to. -/
  answers : List (Nat × Except Refusal Json)
  /-- The events that came and were not taken yet. -/
  events : List ServerEvent
  /-- Where the events go. -/
  stream : EventStream

namespace Link

/-- A connection on which nothing has happened. -/
def fresh : Link := ⟨true, 0, [], [], [], [], .waiting⟩

/-- The connection after its end. -/
def stop (link : Link) : Link := { link with running := false, pending := [] }

/-- How the client answers a question of the server. -/
def answerTo (method : String) (params : Json) : Except Refusal Json :=
  if method = "window/workDoneProgress/create" then
    match progressAnnouncement params with
    | .ok _ => .ok .null
    | .error cause => .error (.wrongParams cause)
  else .error (.unknownMethod method)

/-- Takes a notice of the server; none if its payload does not have its form. -/
def takeNotice? (link : Link) (method : String) (params : Json) : Option Link :=
  match ServerEvent.read? method params with
  | some (.ok event) =>
    some (if link.stream = .dropped then link else { link with events := link.events ++ [event] })
  | some (.error _) => none
  | none =>
    match passiveNotice? method with
    | some form => if (form params).toBool then some link else none
    | none => some link

/-- Takes an answer; one that nobody waits for does not count. -/
def takeAnswer (link : Link) (id : Token) (outcome : Except Refusal Json) : Link :=
  match id with
  | .number n =>
    let id := n.toInt.toNat
    if 0 ≤ n.toInt ∧ link.unanswered.contains id then
      { link with
        unanswered := link.unanswered.erase id
        answers := link.answers ++ [(id, outcome)] }
    else link
  | .text _ => link

/-- Takes an envelope. The answers to questions of the server go back to it. -/
def take (link : Link) : Envelope → Link × List Envelope
  | .question id method params => (link, [.answer id (answerTo method params)])
  | .answer id outcome => (link.takeAnswer id outcome, [])
  | .notice method params =>
    match link.takeNotice? method params with
    | some link => (link, [])
    | none => (link.stop, [])

/-- Takes all whole frames of the bytes that came; `fuel` bounds their number. -/
def takeFrames : Nat → Link → Link × List Envelope
  | 0, link => (link, [])
  | fuel + 1, link =>
    if !link.running then (link, [])
    else
      match Frame.front link.pending with
      | .incomplete => (link, [])
      | .broken => (link.stop, [])
      | .body body rest =>
        match Frame.envelope? body with
        | none => (link.stop, [])
        | some envelope =>
          let (link, replies) := { link with pending := rest }.take envelope
          let (link, more) := takeFrames fuel link
          (link, replies ++ more)

/-- Takes bytes that came from the server. A connection that has ended takes nothing. -/
def feed (link : Link) (bytes : List UInt8) : Link × List Envelope :=
  if !link.running then (link, [])
  else
    let link := { link with pending := link.pending ++ bytes }
    takeFrames (link.pending.length + 1) link

end Link

end LanguageClient.Server
