import LanguageClient.Proofs.LiveViews

/-!
# What the server tells of its own accord

The client acts on what the server tells of its own accord in the order in which it was told. What
cannot be done, because it is no command that the client knows, has no argument that can be read
or belongs to a view that is not live, leaves no trace: `pushes_applied_in_order` compares a run
with the run from which all of it is taken away.
-/

namespace LanguageClient

/-- The target of a call that is accepted: of a go-to whose first argument can be read. -/
def CommandCall.target? (call : CommandCall) : Option Navigation.Target :=
  if call.command = Navigation.goToCommand then
    call.arguments.head?.bind fun argument => (Navigation.Target.form.decode argument).toOption
  else none

namespace ServerEvent

/-- What the editor is called for by an event, while some views are live and some panes shown. -/
def effects (live : List String) (visible : List VisibleEditor) : ServerEvent → List EditorCall
  | .clientCommand call => call.target?.toList.map fun target =>
    .showDocument target.uri target.range (Navigation.column target visible)
  | .treeChange nodes => (nodes.filter fun node => node.view ∈ live).map fun node =>
    .refresh node.view node.uri

/-- What is left of an event without all that comes to nothing: calls that are not accepted,
arguments after the first, and nodes of views that are not live. -/
def sifted? (live : List String) : ServerEvent → Option ServerEvent
  | .clientCommand call =>
    if call.target?.isSome then
      some (.clientCommand { call with arguments := call.arguments.take 1 })
    else none
  | .treeChange nodes => some (.treeChange (nodes.filter fun node => node.view ∈ live))

end ServerEvent

/-! ## What a stream does -/

namespace Tree.Views

variable (views : Views)

/-- A node of a view that is not live changes nothing. -/
theorem takeNode_of_gone {node : TreeNode} (gone : ¬ views.isLive node.view = true) :
    views.takeNode node = (views, []) := by
  simp [takeNode, gone]

/-- A node of a live view has its widget refreshed. -/
theorem calls_takeNode {node : TreeNode} (live : views.isLive node.view = true) :
    (views.takeNode node).2.map Moment.call = [.refresh node.view node.uri] := by
  cases carried : node.uri <;> simp [takeNode, live, carried]

variable {views} {live : List String}

/-- Nodes of views that are not live do not matter. -/
theorem change_filter (known : views.LiveAre live)
    (nodes : List TreeNode) :
    views.change (nodes.filter fun node => node.view ∈ live) = views.change nodes := by
  induction nodes generalizing views with
  | nil => rfl
  | cons node rest ih =>
    have next := ih (known.takeNode node)
    by_cases isLive : node.view ∈ live
    · simp only [List.filter_cons, isLive, decide_true, ↓reduceIte, change_cons, next]
    · have gone := takeNode_of_gone views (isLive ∘ (known _).mpr)
      simp only [List.filter_cons, isLive, decide_false, Bool.false_eq_true, ↓reduceIte,
        change_cons, gone, List.map_nil, List.nil_append]
      exact ih known

/-- The widgets of nodes of live views are refreshed, each once and in order. -/
theorem calls_change (known : views.LiveAre live)
    (visible : List VisibleEditor) (nodes : List TreeNode) :
    (views.change nodes).2 = ServerEvent.effects live visible (.treeChange nodes) := by
  induction nodes generalizing views with
  | nil => rfl
  | cons node rest ih =>
    have others := ih (known.takeNode node)
    rw [ServerEvent.effects] at others ⊢
    by_cases isLive : node.view ∈ live
    · have first := calls_takeNode views ((known _).mp isLive)
      simp only [change_cons, List.filter_cons, isLive, decide_true, ↓reduceIte, List.map_cons,
        first, others, List.singleton_append]
    · have gone := takeNode_of_gone views (isLive ∘ (known _).mpr)
      rw [gone] at others
      simp only [change_cons, List.filter_cons, isLive, decide_false, Bool.false_eq_true,
        ↓reduceIte, gone, others, List.map_nil, List.nil_append]

end Tree.Views

namespace Client

variable {client : Client} {live : List String}

/-- A call is performed if and only if it is accepted. -/
theorem handleEvent_clientCommand (live : List String) (editor : Editor) (call : CommandCall) :
    client.handleEvent editor (.clientCommand call) =
      (client, ServerEvent.effects live editor.visible (.clientCommand call)) := by
  simp only [handleEvent, Navigation.Request.ofCall, ServerEvent.effects, CommandCall.target?]
  by_cases known : call.command = Navigation.goToCommand
  · cases arguments : call.arguments with
    | nil => simp [known]
    | cons argument rest =>
      cases read : Navigation.Target.form.decode argument with
      | ok target =>
        simp [known, read, Navigation.perform, Navigation.goTo, Except.toOption]
      | error cause => simp [known, read, Except.toOption]
  · simp [known, Navigation.perform]

/-- An event calls the editor for its effects. -/
theorem calls_handleEvent (known : client.views.LiveAre live)
    (editor : Editor) (event : ServerEvent) :
    (client.handleEvent editor event).2 = event.effects live editor.visible := by
  cases event with
  | clientCommand call => rw [handleEvent_clientCommand live]
  | treeChange nodes => exact Tree.Views.calls_change known editor.visible nodes

/-- What is left of an event does what the event does; if nothing is left, the event does
nothing. -/
theorem handleEvent_sifted (known : client.views.LiveAre live)
    (editor : Editor) (event : ServerEvent) :
    client.handleEvent editor event =
      match event.sifted? live with
      | some left => client.handleEvent editor left
      | none => (client, []) := by
  cases event with
  | clientCommand call =>
    rw [handleEvent_clientCommand live]
    cases accepted : call.target? with
    | none => simp [ServerEvent.effects, ServerEvent.sifted?, accepted]
    | some target =>
      have same : CommandCall.target? { call with arguments := call.arguments.take 1 } =
          call.target? := by
        simp [CommandCall.target?, List.head?_take]
      simp only [ServerEvent.sifted?, accepted, Option.isSome_some, ↓reduceIte]
      rw [handleEvent_clientCommand live]
      simp only [ServerEvent.effects, same]
  | treeChange nodes =>
    simp only [ServerEvent.sifted?, handleEvent, Tree.Views.change_filter known]

/-- Events of the server neither begin nor end a view. -/
theorem liveAre_handleEvent (known : client.views.LiveAre live) (editor : Editor)
    (event : ServerEvent) : (client.handleEvent editor event).1.views.LiveAre live := by
  cases event with
  | clientCommand call =>
    rw [handleEvent_clientCommand live]
    exact known
  | treeChange nodes => exact known.change nodes

/-- A stream calls the editor for the effects of its events, in their order. -/
theorem calls_handleEvents (known : client.views.LiveAre live)
    (editor : Editor) (stream : List ServerEvent) :
    (handleEvents editor client stream).2 =
      stream.flatMap fun event => event.effects live editor.visible := by
  induction stream generalizing client with
  | nil => rfl
  | cons event rest ih =>
    have first := calls_handleEvent known editor event
    have others := ih (liveAre_handleEvent known editor event)
    simp only [handleEvents, List.flatMap_cons, first, others]

/-- What is left of a stream does what the stream does. -/
theorem handleEvents_sifted (known : client.views.LiveAre live)
    (editor : Editor) (stream : List ServerEvent) :
    handleEvents editor client (stream.filterMap (ServerEvent.sifted? live)) =
      handleEvents editor client stream := by
  induction stream generalizing client with
  | nil => rfl
  | cons event rest ih =>
    have first := handleEvent_sifted known editor event
    have others := ih (liveAre_handleEvent known editor event)
    cases left : event.sifted? live with
    | none =>
      rw [left] at first
      simp only [List.filterMap_cons, left, handleEvents, first, List.nil_append] at others ⊢
      exact others
    | some remainder =>
      rw [left] at first
      have same : client.handleEvent editor remainder = client.handleEvent editor event :=
        first.symm
      simp only [List.filterMap_cons, left, handleEvents, same, others]

end Client

/-! ## Streams in runs -/

/-- Messages about trees leave the list of views as it is. -/
theorem Tree.Views.ids_change (views : Views) (nodes : List TreeNode) :
    (views.change nodes).1.ids = views.ids := by
  rw [ids, keys_change, ids]

namespace Client

/-- The run after a stream of events of the server: the views take the nodes, and the editor is
called for the effects, in order. Nothing is asked, and the server is told nothing. -/
def afterPushes (run : ClientRun) (world : Surroundings) (stream : List ServerEvent) : ClientRun :=
  { run with
    state := run.state.withViews (run.state.views.change (stream.flatMap ServerEvent.nodes)).1
    log := run.log ++ [⟨.issued (.serverEvents stream), world, none, [],
      stream.flatMap fun event => event.effects run.state.views.ids world.editor.visible,
      some .nothing⟩] }

/-- A step with events of the server is what the pushes among them do. -/
theorem step_serverEvents (run : ClientRun) (world : Surroundings) (stream : List ServerEvent) :
    run.step machine (.issue world (.serverEvents stream)) = afterPushes run world stream := by
  have state := handleEvents_fst world.editor run.state stream
  have calls := calls_handleEvents run.state.views.liveAre_ids world.editor
    stream
  simp only [Run.step, Run.began, machine, issue, done, Happening.ofIssue, state, calls,
    afterPushes]

/-- The steps in which events of the server are handled one by one, each in its surroundings. -/
def oneByOne (pushes : List (Surroundings × ServerEvent)) : List (Event Operation) :=
  pushes.map fun push => .issue push.1 (.serverEvents [push.2])

/-- Events that are handled one by one do what they do when they are handled together, in whatever
surroundings, if these show the same panes. -/
theorem follow_oneByOne (run : ClientRun) (world : Surroundings)
    (pushes : List (Surroundings × ServerEvent))
    (alike : ∀ push ∈ pushes, push.1.editor.visible = world.editor.visible) :
    let together := run.step machine (.issue world (.serverEvents (pushes.map Prod.snd)))
    let apart := run.follow machine (oneByOne pushes)
    together.state = apart.state ∧ together.waiting = apart.waiting ∧
      callsIn together.log = callsIn apart.log := by
  simp only [step_serverEvents]
  induction pushes generalizing run with
  | nil => simp [afterPushes, oneByOne, Run.follow, callsIn, withViews]
  | cons push rest ih =>
    obtain ⟨here, there⟩ := List.forall_mem_cons.mp alike
    have first : run.follow machine (oneByOne (push :: rest)) =
        (afterPushes run push.1 [push.2]).follow machine (oneByOne rest) := by
      rw [← step_serverEvents]
      rfl
    obtain ⟨state, waiting, calls⟩ := ih (afterPushes run push.1 [push.2]) there
    rw [first]
    refine ⟨state ▸ ?_, waiting, calls ▸ ?_⟩
    · simp only [afterPushes, withViews, List.map_cons, List.flatMap_cons, List.flatMap_nil,
        List.append_nil, Tree.Views.change_append]
    · simp only [afterPushes, withViews, callsIn, List.map_cons, List.flatMap_cons,
        List.flatMap_nil, List.append_nil, List.flatMap_append, Tree.Views.ids_change, here,
        List.append_assoc]

end Client

/-! ## Runs without what comes to nothing -/

/-- What is to be seen of a step from outside, whatever brought it about. -/
def Happening.seen (happening : ClientHappening) :
    Option Request × List Notice × List EditorCall × Option Answer :=
  (happening.request, happening.notices, happening.calls, happening.answer)

namespace Client

/-- What is left of an event of a run, while some views are live. -/
def sift (live : List String) : Event Operation → Event Operation
  | .issue world (.serverEvents stream) =>
    .issue world (.serverEvents (stream.filterMap (ServerEvent.sifted? live)))
  | event => event

/-- What is left of the events of a run, before which some views are live. -/
def siftAll : List String → List (Event Operation) → List (Event Operation)
  | _, [] => []
  | live, event :: rest => sift live event :: siftAll (liveAfter live event) rest

/-- Two runs cannot be told apart: they have come to the same state with the same questions open,
and what is to be seen of their steps is the same. -/
structure Indistinct (first second : ClientRun) : Prop where
  /-- The clients are the same. -/
  state : first.state = second.state
  /-- The same questions are open. -/
  waiting : first.waiting = second.waiting
  /-- The same was to be seen. -/
  seen : first.log.map Happening.seen = second.log.map Happening.seen

variable {first second : ClientRun} {live : List String}

/-- Two runs have the same number of steps behind them. -/
theorem Indistinct.length_eq (indistinct : Indistinct first second) :
    first.log.length = second.log.length := by
  have lengths := congrArg List.length indistinct.seen
  rwa [List.length_map, List.length_map] at lengths

/-- An operation that does the same in both runs leaves them indistinct. If it waits, it has to be
the same operation. -/
theorem Indistinct.began (indistinct : Indistinct first second) (world : Surroundings)
    {operation other : Operation} (turn : Turn Client (Next Pending Answer))
    (same : ∀ request pending, turn.outcome = .waits request pending → operation = other) :
    Indistinct (first.began world operation turn) (second.began world other turn) := by
  have number := indistinct.length_eq
  refine ⟨rfl, ?_, ?_⟩
  · cases outcome : turn.outcome with
    | done answer => simp only [Run.began, outcome, indistinct.waiting]
    | waits request pending =>
      simp only [Run.began, outcome, indistinct.waiting, number, same request pending outcome]
  · have last : Happening.seen (.ofIssue world operation turn) =
        Happening.seen (.ofIssue world other turn) := by
      unfold Happening.seen Happening.ofIssue
      split <;> rfl
    simp only [Run.began, List.map_append, List.map_singleton, indistinct.seen, last]

/-- A stream of which only the rest is handled leaves the same turn. -/
theorem issue_sifted {client : Client}
    (known : client.views.LiveAre live) (world : Surroundings)
    (stream : List ServerEvent) :
    client.issue world (.serverEvents (stream.filterMap (ServerEvent.sifted? live))) =
      client.issue world (.serverEvents stream) := by
  simp only [issue, handleEvents_sifted known]

/-- The same event leaves two runs indistinct. -/
theorem Indistinct.step (indistinct : Indistinct first second) (event : Event Operation) :
    Indistinct (first.step machine event) (second.step machine event) := by
  have state := indistinct.state
  cases event with
  | issue world operation =>
    simp only [Run.step, ← state]
    exact indistinct.began world _ fun _ _ _ => rfl
  | arrive world number reply =>
    cases isOpen : first.waiting.get? number with
    | none =>
      have closed := isOpen
      rw [indistinct.waiting] at closed
      simpa only [Run.step, isOpen, closed] using indistinct
    | some asked =>
      have still := isOpen
      rw [indistinct.waiting] at still
      rw [Run.step_arrive machine first world reply isOpen,
        Run.step_arrive machine second world reply still, ← state]
      refine ⟨rfl, ?_, ?_⟩
      · simp only [Run.ended, indistinct.waiting]
      · simp only [Run.ended, List.map_append, indistinct.seen]

/-- An event and what is left of it leave two runs indistinct. -/
theorem Indistinct.step_sift (indistinct : Indistinct first second)
    (known : first.state.views.LiveAre live)
    (event : Event Operation) :
    Indistinct (first.step machine event) (second.step machine (sift live event)) := by
  unfold sift
  split
  · rename_i world stream
    have same := issue_sifted known world stream
    have done : ∀ request pending,
        (first.state.issue world (.serverEvents stream)).outcome ≠ .waits request pending := by
      intro request pending waits
      cases waits
    simp only [Run.step, machine, ← indistinct.state, same]
    exact indistinct.began world _ fun _ _ waits => absurd waits (done _ _)
  · exact indistinct.step _

/-- A run and the run of what is left of its events are indistinct. -/
theorem Indistinct.follow (indistinct : Indistinct first second)
    (known : first.state.views.LiveAre live)
    (events : List (Event Operation)) :
    Indistinct (first.follow machine events) (second.follow machine (siftAll live events)) := by
  induction events generalizing first second live with
  | nil => exact indistinct
  | cons event rest ih =>
    exact ih (indistinct.step_sift known event) (liveAre_step known event)

/-- In every run of the client, whatever operations and answers come in between: a stream of events
of the server opens the target of each call that is accepted, refreshes the widget of each node of
a live view, and does nothing else, in order; it does the same when its events are handled one by
one, whether the documents that it opens could be opened or not; and the run is not to be told
from the one in which all that comes to nothing is taken away from every stream. -/
theorem pushes_applied_in_order (settings : Settings) (events : List (Event Operation)) :
    (∀ world stream, (run settings events).step machine (.issue world (.serverEvents stream)) =
        afterPushes (run settings events) world stream) ∧
      (∀ world pushes, (∀ push ∈ pushes, push.1.editor.visible = world.editor.visible) →
        let together := (run settings events).step machine
          (.issue world (.serverEvents (pushes.map Prod.snd)))
        let apart := (run settings events).follow machine (oneByOne pushes)
        together.state = apart.state ∧ together.waiting = apart.waiting ∧
          callsIn together.log = callsIn apart.log) ∧
      Indistinct (run settings events) (run settings (siftAll settings.treeViews events)) := by
  refine ⟨step_serverEvents _, follow_oneByOne _, ?_⟩
  have known : (Run.start (activate settings).1 : ClientRun).state.views.LiveAre
      settings.treeViews := Tree.Views.liveAre_start settings.treeViews
  have started : Indistinct (.start (activate settings).1) (.start (activate settings).1) :=
    ⟨rfl, rfl, rfl⟩
  exact started.follow known events

/-- A document that the server wants to be shown. -/
def soughtTarget : Navigation.Target :=
  ⟨⟨"file", some ⟨"", none, .name "", none⟩, "/a.rc", none, none⟩, ⟨⟨0, 0⟩, ⟨0, 1⟩⟩, false⟩

/-- The server has a document shown while the editor does not open it, asks for a command without
its argument, and has the document shown again. -/
def shownTwice : List (Surroundings × ServerEvent) :=
  let goTo : ServerEvent := .clientCommand
    (.withArgument Navigation.goToCommand (Navigation.Target.form.encode soughtTarget))
  [({ Surroundings.quiet with editor := { Editor.idle with opening := .error ⟨"no"⟩ } }, goTo),
    (.quiet, .clientCommand ⟨Navigation.goToCommand, [], none⟩),
    (.quiet, goTo)]

/-- A document that could not be opened is shown when the server asks for it again. -/
theorem pushes_applied_in_order_refused :
    (∀ push ∈ shownTwice, push.1.editor.visible = Surroundings.quiet.editor.visible) ∧
      callsIn ((run .standard []).follow machine (oneByOne shownTwice)).log =
        callsIn ((run .standard []).step machine
          (.issue .quiet (.serverEvents (shownTwice.map Prod.snd)))).log ∧
      callsIn ((run .standard []).follow machine (oneByOne shownTwice)).log =
        [.showDocument soughtTarget.uri soughtTarget.range .active,
          .showDocument soughtTarget.uri soughtTarget.range .active] := by
  have alike : ∀ push ∈ shownTwice,
      push.1.editor.visible = Surroundings.quiet.editor.visible := by
    simp [shownTwice, Surroundings.quiet, Editor.idle]
  have together := ((pushes_applied_in_order .standard []).2.1 .quiet shownTwice alike).2.2
  exact ⟨alike, together.symm, rfl⟩

end Client

end LanguageClient
