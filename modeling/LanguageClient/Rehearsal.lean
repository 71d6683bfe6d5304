import LanguageClient.Client

/-!
# Rehearsals

A rehearsal runs operations against a server whose answers are written down beforehand. An answer
may be put off under a tag and given in a later step; the operations that waited for it end then,
in the order in which they began.
-/

namespace LanguageClient

/-- Something that begins operations and ends those that had to wait. -/
structure Machine (σ ι π α : Type) where
  /-- Begins an operation. -/
  issue : Surroundings → ι → σ → Turn σ (Next π α)
  /-- Ends an operation that waited. -/
  arrive : Surroundings → π → Except LspError Json → σ → Turn σ α

/-- The client as a machine. -/
def Client.machine : Machine Client Operation Pending Answer := ⟨Client.issue, Client.arrive⟩

/-- What a single preview panel can be asked to do. -/
inductive Preview.PanelOperation
  /-- To bring its page up to date. -/
  | update
  /-- To take note that it was shown or hidden. -/
  | visible (visible : Bool)
  /-- To close. -/
  | dispose
deriving Repr, DecidableEq

/-- The answer of a panel. -/
inductive Preview.PanelAnswer
  /-- The number of rows of the new page. -/
  | rows (result : Except LspError Nat)
  /-- Whether it could be shown. -/
  | shown (result : Except LspError Unit)
  /-- Nothing. -/
  | nothing

/-- A single panel as a machine. What waits is a page, and the panel counts as shown with it or
not. -/
def Preview.Panel.machine : Machine Panel PanelOperation Bool PanelAnswer where
  issue _ operation panel :=
    match operation with
    | .update =>
      match panel.ask? with
      | none => ⟨panel, [], [], .done (.rows (.ok 0))⟩
      | some request => ⟨panel, [], [], .waits request false⟩
    | .visible false => ⟨panel.hide, [], [], .done (.shown (.ok ()))⟩
    | .visible true =>
      match panel.askShown? with
      | none => ⟨panel.shown, [], [], .done (.shown (.ok ()))⟩
      | some request => ⟨panel, [], [], .waits request true⟩
    | .dispose => ⟨panel.dispose, [], [], .done .nothing⟩
  arrive _ shows reply panel :=
    let listing := Listing.form.ofReply reply
    let (calls, result) := panel.receive listing
    if shows then
      ⟨if listing.toOption.isSome then panel.shown else panel, calls, [],
        .shown (result.map fun _ => ())⟩
    else ⟨panel, calls, [], .rows result⟩

/-- An answer that is written down. -/
inductive ScriptedReply
  /-- The server answers with a value. -/
  | value (value : Json)
  /-- The question fails. -/
  | failure (reason : String)
  /-- The answer is put off. -/
  | later (tag : String)
deriving Repr

/-- An operation that waits in a rehearsal. -/
structure Waiting (π : Type) where
  /-- The name of the operation. -/
  name : String
  /-- What it waits for. -/
  pending : π
  /-- The tag under which its answer was put off. -/
  tag : String
  /-- The answer, once it is given. -/
  reply : Option (Except LspError Json)

/-- A rehearsal between two steps. -/
structure Rehearsal (σ π : Type) where
  /-- The state of the machine. -/
  state : σ
  /-- The operations that wait, in the order in which they began. -/
  waiting : List (Waiting π)

/-- What happened during a step. -/
structure Record (α : Type) where
  /-- The questions. -/
  requests : List Request
  /-- What the server was told. -/
  notices : List Notice
  /-- The calls of the editor. -/
  calls : List EditorCall
  /-- The operations that ended after waiting, with their answers. -/
  finished : List (String × α)

namespace Record

variable {α : Type}

/-- Nothing happened. -/
def empty : Record α := ⟨[], [], [], []⟩

/-- One thing after another. -/
def append (first second : Record α) : Record α :=
  ⟨first.requests ++ second.requests, first.notices ++ second.notices,
    first.calls ++ second.calls, first.finished ++ second.finished⟩

end Record

namespace Rehearsal

variable {σ ι π α : Type}

/-- A rehearsal that begins in a state. -/
def start (state : σ) : Rehearsal σ π := ⟨state, []⟩

/-- Ends the waiting operations whose answer was given, in order; the others go on waiting. -/
def settle (machine : Machine σ ι π α) (world : Surroundings) :
    σ → List (Waiting π) → Rehearsal σ π × Record α
  | state, [] => (⟨state, []⟩, .empty)
  | state, waiting :: rest =>
    match waiting.reply with
    | none =>
      let (after, record) := settle machine world state rest
      (⟨after.state, waiting :: after.waiting⟩, record)
    | some reply =>
      let turn := machine.arrive world waiting.pending reply state
      let (after, record) := settle machine world turn.state rest
      (after, Record.append
        ⟨[], turn.notices, turn.calls, [(waiting.name, turn.outcome)]⟩ record)

/-- Lets the operations end whose answers were given. -/
def poll (machine : Machine σ ι π α) (world : Surroundings) (rehearsal : Rehearsal σ π) :
    Rehearsal σ π × Record α :=
  settle machine world rehearsal.state rehearsal.waiting

/-- Whether an answer is put off under a tag. -/
def isOpen (rehearsal : Rehearsal σ π) (tag : String) : Bool :=
  rehearsal.waiting.any fun waiting => waiting.tag = tag && waiting.reply.isNone

/-- Gives the answer that was put off under a tag. -/
def give (rehearsal : Rehearsal σ π) (tag : String) (reply : Except LspError Json) :
    Rehearsal σ π :=
  { rehearsal with
    waiting := rehearsal.waiting.map fun waiting =>
      if waiting.tag = tag && waiting.reply.isNone then { waiting with reply := some reply }
      else waiting }

/-- The failure of a question whose answer will never be given. -/
def dropped : LspError := .requestFailed "reply dropped"

/-- Runs an operation with the answers that are written down for this step, of which the first
counts. The answer is none while the operation waits. A tag that is used again takes the answer
away from the operation that had it. -/
def act (machine : Machine σ ι π α) (world : Surroundings) (script : List ScriptedReply)
    (name : String) (operation : ι) (rehearsal : Rehearsal σ π) :
    Rehearsal σ π × Record α × Option α :=
  let turn := machine.issue world operation rehearsal.state
  let rehearsal := { rehearsal with state := turn.state }
  match turn.outcome with
  | .done answer => (rehearsal, ⟨[], turn.notices, turn.calls, []⟩, some answer)
  | .waits request pending =>
    let finish (reply : Except LspError Json) :=
      let last := machine.arrive world pending reply rehearsal.state
      ({ rehearsal with state := last.state },
        (⟨[request], turn.notices ++ last.notices, turn.calls ++ last.calls, []⟩ : Record α),
        some last.outcome)
    match script with
    | [] => finish (.error (.requestFailed ("no scripted reply for " ++ request.method)))
    | .value value :: _ => finish (.ok value)
    | .failure reason :: _ => finish (.error (.requestFailed reason))
    | .later tag :: _ =>
      let rehearsal := rehearsal.give tag (.error dropped)
      ({ rehearsal with waiting := rehearsal.waiting ++ [⟨name, pending, tag, none⟩] },
        ⟨[request], turn.notices, turn.calls, []⟩, none)

end Rehearsal

end LanguageClient
