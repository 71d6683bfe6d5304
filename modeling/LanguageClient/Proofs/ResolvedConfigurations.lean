import LanguageClient.Proofs.AdapterQuestions

/-!
# Configurations that are completed

Before the editor launches a configuration the client may complete it. The client hands it back as
it is; if it has no type, a session is started first with what is found in the active document.
`Resolved` says how far this has come in a run. A command that starts a session tells the user when
none was started, for any of the reasons of `NotStarted`. Here the user is told for none of them, so
the promise of the commands is kept only where the session is started
(`resolve_tells_iff_started`).
-/

namespace LanguageClient

/-- What a call of the editor tells the user. -/
def EditorCall.message? : EditorCall → Option String
  | .showError message => some message
  | _ => none

/-- What the user is told in some steps, in order. -/
def messagesIn (steps : List ClientHappening) : List String :=
  (callsIn steps).filterMap EditorCall.message?

namespace Debug

variable {reply : Except LspError Json} {debugging : Except EditorError Bool}

/-! ## Sessions that are not started -/

/-- Why a session was not started: it came to nothing at the server, or at the editor. -/
inductive NotStarted (reply : Except LspError Json) (debugging : Except EditorError Bool) : Prop
  /-- The server did not reply. -/
  | unanswered (cause : LspError) (failed : reply = .error cause)
  /-- The server started no adapter. -/
  | noAdapter (nothing : reply = .ok .null)
  /-- The reply is no session. -/
  | undecodable (value : Json) (replied : reply = .ok value) (solid : value ≠ .null)
    (cause : DecodeError) (refused : Session.form.decode value = .error cause)
  /-- The address of the session leads to no endpoint. -/
  | nowhere (value : Json) (replied : reply = .ok value) (session : Session)
    (decoded : Session.form.decode value = .ok session) (cause : DebugError)
    (refused : Endpoint.ofUri session.uri = .error cause)
  /-- The editor declined the session. -/
  | declined (declined : debugging = .ok false)
  /-- The editor failed to start the session. -/
  | failed (cause : EditorError) (failed : debugging = .error cause)

/-- A reply offers nothing if an adapter or its address is missing. -/
theorem notStarted_of_nothing (nothing : offered? reply = none) : NotStarted reply debugging := by
  cases reply with
  | error cause => exact .unanswered cause rfl
  | ok value =>
    by_cases blank : value = .null
    · exact .noAdapter (congrArg _ blank)
    · cases decoded : Session.form.decode value with
      | error cause => exact .undecodable value rfl blank cause decoded
      | ok session =>
        cases address : Endpoint.ofUri session.uri with
        | error cause => exact .nowhere value rfl session decoded cause address
        | ok endpoint => simp [offered?, decoded, portOf?_eq, address, Except.toOption] at nothing

/-- A session is not started if and only if the reply offers none, or the editor does not start
it. -/
theorem notStarted_iff :
    NotStarted reply debugging ↔ offered? reply = none ∨ debugging ≠ .ok true := by
  constructor
  · intro reason
    cases reason with
    | unanswered cause failed => exact .inl (failed ▸ rfl)
    | noAdapter nothing => exact .inl (nothing ▸ rfl)
    | undecodable value replied solid cause refused =>
      exact .inl (by simp [offered?, replied, refused, Except.toOption])
    | nowhere value replied session decoded cause refused =>
      exact .inl (by simp [offered?, replied, decoded, portOf?_eq, refused, Except.toOption])
    | declined declined => exact .inr (by simp [declined])
    | failed cause failed => exact .inr (by simp [failed])
  · rintro (nothing | refused)
    · exact notStarted_of_nothing nothing
    · rcases debugging with cause | _ | _
      · exact .failed cause rfl
      · exact .declined rfl
      · exact absurd rfl refused

/-- An attempt to start a session succeeds if and only if there is no reason against it. -/
theorem Attempt.notStarted_iff {noDebug : Bool} {taken : List EditorCall × Except DebugError Bool}
    (attempt : Attempt noDebug reply debugging taken) :
    NotStarted reply debugging ↔ taken.2 ≠ .ok true := by
  rw [Debug.notStarted_iff]
  cases attempt with
  | asked name port configuration offered launches =>
    rcases debugging with cause | _ | _ <;> simp [offered, Except.mapError]
  | missing result nothing failed => simp [nothing, failed]

/-- A command tells the user of a session that was not started; what it does besides is what is
done without a command. -/
theorem calls_receiveStartOrTell (noDebug : Bool) (reply : Except LspError Json)
    (editor : Editor) :
    (NotStarted reply editor.debugging →
        (receiveStartOrTell editor noDebug reply).1 =
          (receiveStart editor noDebug reply).1 ++ [.showError (notStarted noDebug)]) ∧
      (¬ NotStarted reply editor.debugging →
        (receiveStartOrTell editor noDebug reply).1 = (receiveStart editor noDebug reply).1) := by
  rw [(attempt_receiveStart noDebug reply editor).notStarted_iff]
  unfold receiveStartOrTell
  rcases receiveStart editor noDebug reply with ⟨calls, cause | _ | _⟩ <;> simp

/-! ## Configurations -/

/-- The payload that has an adapter started for what is found in a document. -/
def discoveryOf (document : Url) : Json :=
  .obj [("path", .str document.render), ("runType", .str "runOrTestFile")]

/-- The question for the active document. -/
theorem message_startRequest (document : Url) :
    ((startRequest ⟨document.render, .runOrTestFile⟩).method,
      (startRequest ⟨document.render, .runOrTestFile⟩).params) =
      startMessage (discoveryOf document) := by
  have written : Discovery.form.encode ⟨document.render, .runOrTestFile⟩ =
      Json.object [("path", .str document.render), ("runType", .str "runOrTestFile")] := rfl
  have behind : ¬ "runType" < "path" := by decide
  have other : "runType" ≠ "path" := by decide
  have sorted : Discovery.form.encode ⟨document.render, .runOrTestFile⟩ =
      discoveryOf document := by
    rw [written]
    simp only [Json.object, Json.arrange, Json.place, List.foldl_cons, List.foldl_nil,
      if_neg behind, if_neg other, discoveryOf]
  rw [← sorted]
  exact message_startCall _

/-- An attempt to start a session tells the user nothing, whatever comes of it. -/
theorem Attempt.silent {noDebug : Bool} {taken : List EditorCall × Except DebugError Bool}
    (attempt : Attempt noDebug reply debugging taken) :
    taken.1.filterMap EditorCall.message? = [] := by
  cases attempt <;> rfl

/-- How far a configuration is completed that was handed to the client, and what was done for
it. -/
inductive Resolved (configuration : Configuration) (number : Nat) (waiting : Bool)
    (steps : List ClientHappening) : Prop
  /-- It has a type, or no document is active: it was handed back at once. -/
  | atOnce (asking : ClientHappening) (only : steps = [asking])
    (skips : configuration.kind ≠ none ∨ asking.world.editor.activeDocument = none)
    (ended : waiting = false) (sent : sentIn steps = []) (calls : callsIn steps = [])
    (answers : answersIn steps = [.configuration configuration])
  /-- It has no type: the server was asked to start an adapter for the active document. -/
  | waits (asking : ClientHappening) (only : steps = [asking])
    (untyped : configuration.kind = none) (document : Url)
    (active : asking.world.editor.activeDocument = some document) (isOpen : waiting = true)
    (sent : sentIn steps = [startMessage (discoveryOf document)]) (calls : callsIn steps = [])
    (answers : answersIn steps = [])
  /-- The server was asked so once; it was handed back after the reply, and the editor was asked
  for the session that the reply offers. -/
  | attempted (asking ending : ClientHappening) (both : steps = [asking, ending])
    (untyped : configuration.kind = none) (document : Url)
    (active : asking.world.editor.activeDocument = some document) (ended : waiting = false)
    (sent : sentIn steps = [startMessage (discoveryOf document)])
    (reply : Except LspError Json)
    (cause : ending.cause = .answered (.resolve configuration) number reply)
    (result : Except DebugError Bool)
    (attempt : Attempt false reply ending.world.editor.debugging (callsIn steps, result))
    (answers : answersIn steps = [.configuration configuration])

variable {configuration : Configuration} {number : Nat} {waiting : Bool}
  {steps : List ClientHappening}

/-- The user is told nothing, whatever comes of the session. -/
theorem Resolved.silent (resolved : Resolved configuration number waiting steps) :
    messagesIn steps = [] := by
  cases resolved with
  | atOnce _ _ _ _ _ calls _ => exact congrArg (List.filterMap EditorCall.message?) calls
  | waits _ _ _ _ _ _ _ calls _ => exact congrArg (List.filterMap EditorCall.message?) calls
  | attempted _ _ _ _ _ _ _ _ _ _ _ attempt _ => exact attempt.silent

end Debug

namespace Client

variable {world : Surroundings} {client : Client} {configuration : Debug.Configuration}

/-- A configuration is handed back at once if it has a type or no document is active. -/
theorem issue_resolve_skips
    (skips : configuration.kind ≠ none ∨ world.editor.activeDocument = none) :
    machine.issue world (.resolve configuration) client =
      client.done [] (.configuration configuration) := by
  have nothing : Debug.discoveryFor? world.editor configuration = none := by
    unfold Debug.discoveryFor?
    cases kind : configuration.kind with
    | some name => rfl
    | none => simpa [kind] using skips
  simp only [machine, issue, nothing]

/-- A configuration without a type waits for the adapter of the active document. -/
theorem issue_resolve_waits (untyped : configuration.kind = none) {document : Url}
    (active : world.editor.activeDocument = some document) :
    machine.issue world (.resolve configuration) client =
      client.waits (Debug.startRequest ⟨document.render, .runOrTestFile⟩)
        (.resolve configuration) := by
  simp only [machine, issue, Debug.discoveryFor?, untyped, active, Option.map_some]

/-- A configuration that is issued is handed back at once or waits. -/
theorem skips_or_waits (world : Surroundings) (configuration : Debug.Configuration) :
    (configuration.kind ≠ none ∨ world.editor.activeDocument = none) ∨
      configuration.kind = none ∧ ∃ document, world.editor.activeDocument = some document := by
  cases configuration.kind <;> cases world.editor.activeDocument <;> simp

/-- The steps of a configuration that is completed. -/
theorem resolved_stepsOf (settings : Settings) (events : List (Event Operation)) {number : Nat}
    (issued : (run settings events).Issued number (.resolve configuration)) :
    Debug.Resolved configuration number ((run settings events).waiting.contains number)
      ((run settings events).stepsOf number) := by
  cases (traced_run settings events).course number _ issued with
  | atOnce world client answer outcome closed steps =>
    rcases skips_or_waits world configuration with skips | ⟨untyped, document, active⟩
    · rw [steps, issue_resolve_skips skips]
      exact .atOnce _ rfl skips (by simp [Table.contains, closed]) rfl rfl rfl
    · rw [issue_resolve_waits untyped active] at outcome
      cases outcome
  | waits world client request pending outcome isOpen steps =>
    rcases skips_or_waits world configuration with skips | ⟨untyped, document, active⟩
    · rw [issue_resolve_skips skips] at outcome
      cases outcome
    · rw [steps, issue_resolve_waits untyped active]
      refine .waits _ rfl untyped document active (by simp [Table.contains, isOpen]) ?_ rfl rfl
      rw [← Debug.message_startRequest]
      rfl
  | answered world worldThen client clientThen request pending reply outcome fit closed steps =>
    rcases skips_or_waits world configuration with skips | ⟨untyped, document, active⟩
    · rw [issue_resolve_skips skips] at outcome
      cases outcome
    · rw [issue_resolve_waits untyped active] at outcome
      obtain ⟨rfl, rfl⟩ := Next.waits.inj outcome
      rw [steps, issue_resolve_waits untyped active]
      have attempt := Debug.attempt_receiveStart false reply worldThen.editor
      refine .attempted _ _ rfl untyped document active (by simp [Table.contains, closed]) ?_
        reply rfl (Debug.receiveStart worldThen.editor false reply).2 ?_ rfl
      · rw [← Debug.message_startRequest]
        rfl
      · simpa [callsIn, Happening.ofArrival, machine, arrive, waits] using attempt

/-- In every run of the client, a configuration that it is to complete is handed back as it is, the
server is asked once to start an adapter, if the configuration has no type and a document is active,
and the user is told nothing. Commands tell the user of every session that is not started, and
besides do the same with a reply; so their promise is kept here only where the session that was
attempted was started. -/
theorem resolve_tells_iff_started (settings : Settings) (events : List (Event Operation)) :
    (∀ number configuration, (run settings events).Issued number (.resolve configuration) →
      Debug.Resolved configuration number ((run settings events).waiting.contains number)
          ((run settings events).stepsOf number) ∧
        messagesIn ((run settings events).stepsOf number) = []) ∧
      (∀ number configuration asking ending reply,
        (run settings events).Issued number (.resolve configuration) →
        (run settings events).stepsOf number = [asking, ending] →
        ending.cause = .answered (.resolve configuration) number reply →
        ((Debug.NotStarted reply ending.world.editor.debugging →
            messagesIn [asking, ending] = ["Debug session not started"]) ↔
          ¬ Debug.NotStarted reply ending.world.editor.debugging)) ∧
      ∀ (world : Surroundings) (client : Client) configuration reply,
        let byCommand := (client.arrive world (.sessionCommand false) reply).calls
        let byConfiguration := (client.arrive world (.resolve configuration) reply).calls
        (Debug.NotStarted reply world.editor.debugging →
          byCommand = byConfiguration ++ [.showError "Debug session not started"]) ∧
        (¬ Debug.NotStarted reply world.editor.debugging → byCommand = byConfiguration) := by
  refine ⟨?_, ?_, ?_⟩
  · intro number configuration issued
    have resolved := resolved_stepsOf settings events issued
    exact ⟨resolved, resolved.silent⟩
  · intro number configuration asking ending reply issued both cause
    have silent := (resolved_stepsOf settings events issued).silent
    rw [both] at silent
    constructor
    · intro told notStarted
      rw [told notStarted] at silent
      cases silent
    · exact fun started notStarted => absurd notStarted started
  · intro world client configuration reply
    exact Debug.calls_receiveStartOrTell false reply world.editor

/-- Surroundings in which a document is active. -/
def editing : Surroundings :=
  { Surroundings.quiet with
    editor := { Editor.idle with
      activeDocument := some ⟨"file", some ⟨"", none, .name "", none⟩, "/a.rc", none, none⟩ } }

/-- A configuration without any key is completed; a view is disposed, and the server fails. -/
def unansweredResolve : List (Event Operation) :=
  [.issue editing (.resolve .empty), .issue .quiet (.dispose "rcAst"),
    .arrive .quiet 0 (.error (.requestFailed "boom"))]

/-- The configuration is handed back and the promise of the commands is broken: a command would
have told the user. -/
theorem resolve_tells_iff_started_unanswered :
    (run .standard unansweredResolve).Issued 0 (.resolve .empty) ∧
      Debug.Resolved .empty 0 false ((run .standard unansweredResolve).stepsOf 0) ∧
      (∃ asking ending, (run .standard unansweredResolve).stepsOf 0 = [asking, ending] ∧
        ¬ (Debug.NotStarted (.error (.requestFailed "boom")) ending.world.editor.debugging →
          messagesIn [asking, ending] = ["Debug session not started"])) ∧
      ∀ client : Client,
        (client.arrive .quiet (.sessionCommand false) (.error (.requestFailed "boom"))).calls =
          [.showError "Debug session not started"] := by
  have issued : (run .standard unansweredResolve).Issued 0 (.resolve .empty) := rfl
  have closed : (run .standard unansweredResolve).waiting.contains 0 = false := rfl
  obtain ⟨resolved, tells, command⟩ := resolve_tells_iff_started .standard unansweredResolve
  have handed := (resolved 0 .empty issued).1
  rw [closed] at handed
  refine ⟨issued, handed, ⟨_, _, rfl, fun promise => ?_⟩, fun client => ?_⟩
  · exact (tells 0 .empty _ _ _ issued rfl rfl).mp promise (.unanswered _ rfl)
  · exact (command .quiet client .empty _).1 (.unanswered _ rfl)

/-- The session for a configuration was not started, and the user was not told. -/
theorem resolve_untold :
    (run .standard unansweredResolve).Issued 0 (.resolve .empty) ∧
      ∃ asking ending, (run .standard unansweredResolve).stepsOf 0 = [asking, ending] ∧
        ending.cause = .answered (.resolve .empty) 0 (.error (.requestFailed "boom")) ∧
        Debug.NotStarted (.error (.requestFailed "boom")) ending.world.editor.debugging ∧
        messagesIn [asking, ending] ≠ ["Debug session not started"] :=
  ⟨rfl, _, _, rfl, rfl, .unanswered _ rfl, nofun⟩

end Client

end LanguageClient
