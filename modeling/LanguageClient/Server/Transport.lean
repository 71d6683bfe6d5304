import LanguageClient.Duration
import LanguageClient.Message
import LanguageClient.Server.Envelope

/-!
# Transports

What the client needs of a connection: to ask several questions at once, to tell something, and to
take the events that came. Nothing else is known of a connection here, so what is shown of a client
over a transport holds over every connection.
-/

namespace LanguageClient.Server

/-- A method with its payload. -/
structure Call where
  /-- The method. -/
  method : String
  /-- The payload. -/
  params : Json
deriving Repr, DecidableEq

/-- A question or a notice that the client hands to a connection. -/
inductive Handed
  /-- A question. -/
  | question (call : Call)
  /-- A notice. -/
  | notice (call : Call)
deriving Repr, DecidableEq

/-- Why a question has no usable answer, or a notice was not sent. -/
inductive ExchangeFailure
  /-- There was no answer in time. -/
  | timedOut
  /-- The server refused the question. -/
  | refused (refusal : Refusal)
  /-- The answer does not have the form that was wanted. -/
  | unreadable (cause : DecodeError)
  /-- The connection has ended. -/
  | stopped

/-- The failure as a connection tells it. -/
def ExchangeFailure.text : ExchangeFailure → String
  | .timedOut => "Timeout"
  | .refused refusal => refusal.text
  | .unreadable cause =>
    "Deserialize(Error(" ++ Quoted.quote cause.message ++ ", line: 0, column: 0))"
  | .stopped => "ServiceStopped"

/-- A kind of connection, by the state of a connection. -/
structure Transport (σ : Type) where
  /-- Asks questions at once and waits until each is answered or given up. The answers come in the
  order in which they arrived, each with the place of its question. -/
  ask : Option Duration → List Call → σ → σ × List (Nat × Except ExchangeFailure Json)
  /-- Tells something. -/
  tell : Call → σ → σ × Except ExchangeFailure Unit
  /-- Takes all events until the connection ends. -/
  events : σ → σ × List ServerEvent

/-- A transport that notes what is handed to it. -/
def Transport.noting {σ : Type} (transport : Transport σ) : Transport (σ × List Handed) where
  ask limit calls state :=
    let (inner, answers) := transport.ask limit calls state.1
    ((inner, state.2 ++ calls.map .question), answers)
  tell call state :=
    let (inner, result) := transport.tell call state.1
    ((inner, state.2 ++ [.notice call]), result)
  events state :=
    let (inner, events) := transport.events state.1
    ((inner, state.2), events)

end LanguageClient.Server
