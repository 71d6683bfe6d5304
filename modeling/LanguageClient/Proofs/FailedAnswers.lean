import LanguageClient.Proofs.ClientRun

/-!
# Failed answers

An operation that waits fails when no payload comes, or one that it cannot read. Nothing was
changed for it in advance that would have to be taken back, and nothing is changed then:
`failed_answer_changes_nothing` says what is left of the step in any state of any run.
-/

namespace LanguageClient

/-- An operation fails on a reply, and ends with an answer that says so. A session also fails on an
address of its adapter that is none. -/
inductive Operation.Fails (reply : Except LspError Json) : Operation → Answer → Prop
  /-- The children of a node do not come. -/
  | children {view : String} {parent : Option String} {cause : LspError}
    (unread : Tree.childrenForm.ofReply reply = .error cause) :
    Fails reply (.children view parent) (.uris (.error (.lsp cause)))
  /-- The parent of a node does not come. -/
  | parent {view node : String} {cause : LspError}
    (unread : Tree.parentForm.ofReply reply = .error cause) :
    Fails reply (.parent view node) (.parent (.error (.lsp cause)))
  /-- The node that belongs to a place in a document does not come. -/
  | reveal {position : DocumentPosition} {cause : LspError}
    (unread : Tree.Chain.form.nullable.ofReply reply = .error cause) :
    Fails reply (.reveal position) (.plan (.error (.lsp cause)))
  /-- The listing for a new panel does not come. -/
  | startPreview {path : Path} {cause : LspError}
    (unread : Preview.Listing.form.ofReply reply = .error cause) :
    Fails reply (.command (.startPreview path)) (.ran (.error (.lsp cause)))
  /-- The listing for a panel that is shown again does not come. -/
  | showPreview {id : Nat} {visible : Bool} {cause : LspError}
    (unread : Preview.Listing.form.ofReply reply = .error cause) :
    Fails reply (.showPreview id visible) (.ran (.error (.lsp cause)))
  /-- No session comes for a command that debugs. -/
  | debugCommand {discovery : Debug.Discovery} {cause : DebugError}
    (unread : Debug.receiveEndpoint reply = .error cause) :
    Fails reply (.command (.startDebugSession discovery)) (.ran (.ok ()))
  /-- No session comes for a command that runs. -/
  | runCommand {discovery : Debug.Discovery} {cause : DebugError}
    (unread : Debug.receiveEndpoint reply = .error cause) :
    Fails reply (.command (.startRunSession discovery)) (.ran (.ok ()))
  /-- No session comes. -/
  | start {noDebug : Bool} {discovery : Debug.Discovery} {cause : DebugError}
    (unread : Debug.receiveEndpoint reply = .error cause) :
    Fails reply (.start noDebug discovery) (.started (.error cause))
  /-- No session comes, which the user has to know. -/
  | startOrTell {noDebug : Bool} {discovery : Debug.Discovery} {cause : DebugError}
    (unread : Debug.receiveEndpoint reply = .error cause) :
    Fails reply (.startOrTell noDebug discovery) (.startedOrTold false)
  /-- No session comes for the active document. -/
  | resolve {configuration : Debug.Configuration} {cause : DebugError}
    (unread : Debug.receiveEndpoint reply = .error cause) :
    Fails reply (.resolve configuration) (.configuration configuration)
  /-- No adapter comes for a configuration. -/
  | describe {configuration : Debug.Configuration} {cause : DebugError}
    (unread : Debug.receiveEndpoint reply = .error cause) :
    Fails reply (.describe configuration) (.endpoint (.error cause))

/-- What the user is told when an operation fails with an answer. -/
def Operation.apology : Operation → Answer → List EditorCall
  | .command (.startPreview _), .ran (.error cause) => [Client.previewFailed cause]
  | .command (.startDebugSession _), _ => [.showError (Debug.notStarted false)]
  | .command (.startRunSession _), _ => [.showError (Debug.notStarted true)]
  | .startOrTell noDebug _, _ => [.showError (Debug.notStarted noDebug)]
  | _, _ => []

namespace Debug

variable {reply : Except LspError Json} {cause : DebugError}

/-- Where no adapter is found, the editor is not asked for a session. -/
theorem receiveStart_of_unread (editor : Editor) (noDebug : Bool)
    (unread : receiveEndpoint reply = .error cause) :
    receiveStart editor noDebug reply = ([], .error cause) := by
  unfold receiveEndpoint at unread
  unfold receiveStart
  cases session : receiveSession reply with
  | error refused =>
    rw [session] at unread
    cases unread
    rfl
  | ok found =>
    rw [session] at unread
    cases found with
    | none => cases unread
    | some found =>
      cases address : Endpoint.ofUri found.uri with
      | error wrong =>
        simp only [address, Except.map] at unread
        cases unread
        simp only [address]
      | ok endpoint =>
        simp only [address, Except.map] at unread
        cases unread

/-- A reply that says no adapter is told to the user, and nothing is started. -/
theorem receiveStartOrTell_of_unread (editor : Editor) (noDebug : Bool)
    (unread : receiveEndpoint reply = .error cause) :
    receiveStartOrTell editor noDebug reply = ([.showError (notStarted noDebug)], false) := by
  simp [receiveStartOrTell, receiveStart_of_unread editor noDebug unread]

end Debug

namespace Client

variable {operation : Operation} {request : Request} {pending : Pending}

/-- Every operation that waits fails when the server gives no payload. -/
theorem fails_of_error (awaits : operation.Awaits request pending) (cause : LspError) :
    ∃ answer, operation.Fails (.error cause) answer := by
  cases awaits with
  | children view parent => exact ⟨_, .children rfl⟩
  | parent view node => exact ⟨_, .parent rfl⟩
  | reveal position => exact ⟨_, .reveal rfl⟩
  | firstPage path document id => exact ⟨_, .startPreview rfl⟩
  | page id document => exact ⟨_, .showPreview rfl⟩
  | debugCommand discovery => exact ⟨_, .debugCommand rfl⟩
  | runCommand discovery => exact ⟨_, .runCommand rfl⟩
  | start noDebug discovery => exact ⟨_, .start rfl⟩
  | startOrTell noDebug discovery => exact ⟨_, .startOrTell rfl⟩
  | resolve configuration discovery => exact ⟨_, .resolve rfl⟩
  | describe configuration => exact ⟨_, .describe rfl⟩

/-- An operation that fails on a reply leaves the client as it is, whatever has happened to it in
the meantime, and calls the editor at most to tell the user. -/
theorem arrive_of_fails {reply : Except LspError Json} {answer : Answer}
    (awaits : operation.Awaits request pending) (fails : operation.Fails reply answer)
    (world : Surroundings) (client : Client) :
    client.arrive world pending reply = ⟨client, operation.apology answer, [], answer⟩ := by
  cases fails with
  | children unread | parent unread | reveal unread | describe unread =>
    cases awaits
    simp only [arrive, unread]
    rfl
  | startPreview unread =>
    cases awaits
    simp only [arrive, unread, receiveFirstPage]
    rfl
  | showPreview unread =>
    cases awaits
    simp only [arrive, unread, receivePage]
    rfl
  | debugCommand unread | runCommand unread | startOrTell unread =>
    cases awaits
    simp only [arrive, Debug.receiveStartOrTell_of_unread world.editor _ unread]
    rfl
  | start unread | resolve unread =>
    cases awaits
    simp only [arrive, Debug.receiveStart_of_unread world.editor _ unread]
    rfl

/-- In every run of the client, whatever operation waits fails when the server gives no payload,
and when an operation fails the step closes its question and does nothing else: the views with
their nodes, the panels and their list are what they were just before, the server is neither asked
nor told anything, and the editor is called at most to tell the user of the failure. -/
theorem failed_answer_changes_nothing (settings : Settings) (events : List (Event Operation))
    {number : Nat} {asked : Asked Operation Pending}
    (isOpen : (run settings events).waiting.get? number = some asked) :
    (∀ cause, ∃ answer, asked.operation.Fails (.error cause) answer) ∧
      ∀ world reply answer, asked.operation.Fails reply answer →
        (run settings events).step machine (.arrive world number reply) =
          { state := (run settings events).state
            waiting := (run settings events).waiting.erase number
            log := (run settings events).log ++ [
              { cause := .answered asked.operation number reply
                world := world
                request := none
                notices := []
                calls := asked.operation.apology answer
                answer := some answer }] } := by
  have awaits := awaits_of_honest (honest_run settings events) isOpen
  constructor
  · exact fails_of_error awaits
  · intro world reply answer fails
    exact Run.step_arrive_of_kept machine _ isOpen (arrive_of_fails awaits fails world _)

/-- A session is asked for, and all views are disposed before an answer comes. -/
def disposedWhileStarting : List (Event Operation) := [
  .issue .quiet (.command (.startRunSession ⟨"/demo/a.rx", .run⟩)),
  .issue .quiet .disposeAll]

/-- A payload that is no session has the user told, and the views stay disposed. -/
theorem failed_answer_changes_nothing_undecodable :
    (run .standard disposedWhileStarting).waiting.contains 0 = true ∧
      ∃ later : ClientRun,
        (run .standard disposedWhileStarting).step machine
          (.arrive .quiet 0 (.ok (.str "no session"))) = later ∧
        later.state = (run .standard disposedWhileStarting).state ∧
        later.log.getLast?.map Happening.calls =
          some [.showError "Run session not started"] := by
  have isOpen : (run .standard disposedWhileStarting).waiting.get? 0 =
      some ⟨.command (.startRunSession ⟨"/demo/a.rx", .run⟩),
        Debug.startRequest ⟨"/demo/a.rx", .run⟩, .sessionCommand true⟩ := rfl
  obtain ⟨cause, unread⟩ :
      ∃ cause, Debug.receiveEndpoint (.ok (.str "no session")) = .error cause := ⟨_, rfl⟩
  refine ⟨rfl, _, (failed_answer_changes_nothing .standard disposedWhileStarting isOpen).2
    .quiet _ _ (.runCommand unread), rfl, ?_⟩
  rw [List.getLast?_concat]
  rfl

end Client

end LanguageClient
