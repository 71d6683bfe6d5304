import LanguageClient.Proofs.Shadows

/-!
# Records of what is asked

A transport can keep a record of the questions that go over it and of the answers that come back.
The record is for the onlooker alone: `printTree_recording` shows that a tree is printed in the
same way over the bare transport.
-/

namespace LanguageClient

namespace Server

/-- Questions that were asked at once, and what came of them. -/
structure Exchange where
  /-- The questions. -/
  calls : List Call
  /-- The answers in the order in which they arrived, each with the place of its question. -/
  answers : List (Nat × Except ExchangeFailure Json)

variable {σ : Type} (transport : Transport σ)

/-- A transport that keeps a record of what is asked and of what comes of it. -/
def Transport.recording : Transport (σ × List Exchange) where
  ask limit calls state :=
    let (inner, answers) := transport.ask limit calls state.1
    ((inner, state.2 ++ [⟨calls, answers⟩]), answers)
  tell call state :=
    let (inner, result) := transport.tell call state.1
    ((inner, state.2), result)
  events state :=
    let (inner, events) := transport.events state.1
    ((inner, state.2), events)

/-- A record changes nothing of what a transport does. -/
theorem Transport.shadows_recording : transport.recording.Shadows transport Prod.fst :=
  ⟨fun _ _ _ => rfl, fun _ _ => rfl, fun _ => rfl⟩

/-- The session without its record. -/
def Session.unrecorded (session : Session (σ × List Exchange)) : Session σ :=
  ⟨session.state.1, session.requestTimeout, session.capabilities, session.documents⟩

end Server

namespace CommandLine

open Server (Transport Session Exchange)

variable {σ : Type} (transport : Transport σ)

/-- The stage without the record of its session. -/
def Stage.unrecorded (stage : Stage (σ × List Exchange)) : Stage σ :=
  ⟨stage.session.unrecorded, stage.client, stage.terminal⟩

/-- A tree is printed in the same way with and without a record. -/
theorem printTree_recording (view : String) (depth : Nat) (stage : Stage (σ × List Exchange)) :
    printTree transport view depth stage.unrecorded =
      ((printTree transport.recording view depth stage).1.unrecorded,
        (printTree transport.recording view depth stage).2) :=
  printTree_shadow transport.shadows_recording view depth stage

end CommandLine

end LanguageClient
