import LanguageClient.Proofs.Run

/-!
# Runs of the client

The client is activated with some settings, and any operations, answers and events of the server
follow in any order. For each operation that can wait, `Operation.Awaits` says what it asks and
how it goes on; `awaits_of_honest` shows that nothing else waits in a run.
-/

namespace LanguageClient

/-- A run of the client. -/
abbrev ClientRun := Run Client Operation Pending Answer

/-- Something that happened in a run of the client. -/
abbrev ClientHappening := Happening Operation Answer

/-- Surroundings in which nothing is shown and no file lies. -/
def Surroundings.quiet : Surroundings := ⟨.idle, .bare [], none⟩

/-- The run of a client that is activated with settings, after some events. -/
def Client.run (settings : Settings) (events : List (Event Operation)) : ClientRun :=
  (Run.start (Client.activate settings).1).follow Client.machine events

/-- The question that an operation asks when it has to wait, and what waits then. -/
inductive Operation.Awaits : Operation → Request → Pending → Prop
  /-- Children are awaited for the view that they were asked for. -/
  | children (view : String) (parent : Option String) :
    Awaits (.children view parent) (.children ⟨view, parent⟩) (.children view)
  /-- A parent is awaited. -/
  | parent (view node : String) : Awaits (.parent view node) (.parent ⟨view, node⟩) .parent
  /-- A chain is awaited. -/
  | reveal (position : DocumentPosition) : Awaits (.reveal position) (.reveal position) .reveal
  /-- The listing for a new panel is awaited. -/
  | firstPage (path : Path) (document : Url) (id : Nat) :
    Awaits (.command (.startPreview path)) (.preview document) (.firstPage id)
  /-- The listing for a panel that is shown again is awaited. -/
  | page (id : Nat) (document : Url) :
    Awaits (.showPreview id true) (.preview document) (.page id)
  /-- An adapter is awaited for a command that debugs. -/
  | debugCommand (discovery : Debug.Discovery) :
    Awaits (.command (.startDebugSession discovery)) (Debug.startRequest discovery)
      (.sessionCommand false)
  /-- An adapter is awaited for a command that runs. -/
  | runCommand (discovery : Debug.Discovery) :
    Awaits (.command (.startRunSession discovery)) (Debug.startRequest discovery)
      (.sessionCommand true)
  /-- An adapter is awaited. -/
  | start (noDebug : Bool) (discovery : Debug.Discovery) :
    Awaits (.start noDebug discovery) (Debug.startRequest discovery) (.start noDebug)
  /-- An adapter is awaited, and the user is told if no session starts. -/
  | startOrTell (noDebug : Bool) (discovery : Debug.Discovery) :
    Awaits (.startOrTell noDebug discovery) (Debug.startRequest discovery) (.startOrTell noDebug)
  /-- An adapter is awaited while a configuration is completed. -/
  | resolve (configuration : Debug.Configuration) (discovery : Debug.Discovery) :
    Awaits (.resolve configuration) (Debug.startRequest discovery) (.resolve configuration)
  /-- The adapter of a configuration is awaited. -/
  | describe (configuration : Debug.Configuration) :
    Awaits (.describe configuration) (Debug.describeRequest configuration) .describe

/-- A question for children waits for the children of the view that it names. -/
theorem Operation.awaits_children {view : String} {parent : Option String} {request : Request}
    {pending : Pending} (awaits : (Operation.children view parent).Awaits request pending) :
    request = .children ⟨view, parent⟩ ∧ pending = .children view := by
  cases awaits
  exact ⟨rfl, rfl⟩

namespace Tree.Views

/-- What concerns a view passes only if the view is live. -/
theorem requireLive_map_eq_ok {α : Type} {views : Views} {view : String} {f : Unit → α} {a : α}
    (passed : (views.requireLive view).map f = .ok a) : views.isLive view = true ∧ a = f () := by
  by_cases live : views.isLive view = true
  · simp only [requireLive, live, ↓reduceIte, Except.map] at passed
    cases passed
    exact ⟨live, rfl⟩
  · simp [requireLive, live, Except.map] at passed

end Tree.Views

namespace Client

variable {world : Surroundings} {client : Client} {request : Request} {pending : Pending}

/-- A preview that waits asks for the listing of its document. -/
theorem awaits_startPreview {path : Path}
    (outcome : (client.startPreview world path).outcome = .waits request pending) :
    (Operation.command (.startPreview path)).Awaits request pending := by
  unfold startPreview at outcome
  split at outcome
  · cases outcome
  · cases outcome
    exact .firstPage path _ _

/-- A report on a preview that waits tells that it is shown again. -/
theorem awaits_showPreview {id : Nat} {visible : Bool}
    (outcome : (client.showPreview id visible).outcome = .waits request pending) :
    (Operation.showPreview id visible).Awaits request pending := by
  unfold showPreview at outcome
  split at outcome
  · cases outcome
  · rename_i panel found
    cases visible with
    | false => cases outcome
    | true =>
      simp only [Bool.not_true, Bool.false_eq_true, ↓reduceIte] at outcome
      split at outcome
      · rename_i asked
        cases outcome
        simp only [Preview.Panel.askShown?, Preview.Panel.ask?] at asked
        split at asked <;> try split at asked
        all_goals cases asked
        exact .page id panel.document
      · cases outcome

/-- An operation that waits has asked its own question. -/
theorem awaits_of_issue {operation : Operation}
    (outcome : (client.issue world operation).outcome = .waits request pending) :
    operation.Awaits request pending := by
  cases operation with
  | children view parent =>
    cases asked : client.views.askChildren view parent with
    | error cause =>
      simp only [issue, asked] at outcome
      cases outcome
    | ok question =>
      simp only [issue, asked] at outcome
      obtain ⟨-, rfl⟩ := Tree.Views.requireLive_map_eq_ok asked
      cases outcome
      exact .children view parent
  | parent view node =>
    cases asked : client.views.askParent view node with
    | error cause =>
      simp only [issue, asked] at outcome
      cases outcome
    | ok question =>
      simp only [issue, asked] at outcome
      obtain ⟨-, rfl⟩ := Tree.Views.requireLive_map_eq_ok asked
      cases outcome
      exact .parent view node
  | reveal position =>
    cases outcome
    exact .reveal position
  | widget event =>
    simp only [issue] at outcome
    split at outcome <;> cases outcome
  | dispose view | disposeAll | serverEvents events => cases outcome
  | command command =>
    cases command with
    | startPreview path => exact awaits_startPreview outcome
    | startDebugSession discovery =>
      cases outcome
      exact .debugCommand discovery
    | startRunSession discovery =>
      cases outcome
      exact .runCommand discovery
    | unrecognized name => cases outcome
  | showPreview id visible => exact awaits_showPreview outcome
  | closePreview id | deactivate => cases outcome
  | start noDebug discovery =>
    cases outcome
    exact .start noDebug discovery
  | startOrTell noDebug discovery =>
    cases outcome
    exact .startOrTell noDebug discovery
  | resolve configuration =>
    simp only [issue] at outcome
    split at outcome
    · cases outcome
    · cases outcome
      exact .resolve configuration _
  | describe configuration =>
    simp only [issue] at outcome
    split at outcome
    · cases outcome
    · cases outcome
      exact .describe configuration

/-- What waits in a run that asks its own questions only waits for the answer to its own. -/
theorem awaits_of_honest {run : ClientRun} (honest : run.Honest machine) {number : Nat}
    {asked : Asked Operation Pending} (found : run.waiting.get? number = some asked) :
    asked.operation.Awaits asked.request asked.pending := by
  obtain ⟨world, client, outcome⟩ := honest number asked found
  exact awaits_of_issue outcome

/-- A run of the client asks the questions of its operations and no others. -/
theorem honest_run (settings : Settings) (events : List (Event Operation)) :
    (run settings events).Honest machine :=
  Run.follow_keeps machine _ (Run.honest_step machine) (Run.honest_start machine _) events

end Client

end LanguageClient
