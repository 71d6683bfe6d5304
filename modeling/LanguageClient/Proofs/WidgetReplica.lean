import LanguageClient.Proofs.DisposedViews
import LanguageClient.Proofs.Entries
import Mathlib.Data.List.Induction

/-!
# What the server knows of the widgets

The user shows, hides, folds and unfolds the widgets of the views, and the server hears of it as
long as a view is live. A server that keeps what it hears has an exact picture of the widgets:
`replica_is_exact` says that every report on a live view is told once and in order, however views
are disposed and reports fail, and that what the server keeps is what was reported last.
-/

namespace LanguageClient

/-- A notice that the server is to be told, and why that fails, if it does. -/
structure Attempt where
  /-- The notice. -/
  notice : Notice
  /-- Why the server cannot be told. -/
  failure : Option String
deriving Repr, DecidableEq

namespace Attempt

/-- The notice of an attempt, if the server hears it. -/
def heard? (attempt : Attempt) : Option Notice :=
  match attempt.failure with
  | none => some attempt.notice
  | some _ => none

/-- What comes of an attempt. -/
def result (attempt : Attempt) : Except LspError Unit :=
  match attempt.failure with
  | none => .ok ()
  | some reason => .error (.requestFailed reason)

end Attempt

/-- What the server is to be told in a step. -/
def Happening.attempts (happening : ClientHappening) : List Attempt :=
  happening.notices.map fun notice => ⟨notice, happening.world.muted⟩

/-- What the server hears in a list of steps, in order. -/
def heardIn (log : List ClientHappening) : List Notice :=
  (log.flatMap Happening.attempts).filterMap Attempt.heard?

/-! ## The picture of the server -/

namespace Tree

/-- What the event tells of the visibility of a view. -/
def WidgetEvent.visible? (view : String) : WidgetEvent → Option Bool
  | .visibility other visible => if other = view then some visible else none
  | .expanded .. | .collapsed .. => none

/-- What the event tells of the folding of a node. -/
def WidgetEvent.folded? (view node : String) : WidgetEvent → Option Bool
  | .visibility .. => none
  | .expanded other uri => if (other, uri) = (view, node) then some false else none
  | .collapsed other uri => if (other, uri) = (view, node) then some true else none

/-- What the last of some events tells that tells anything. -/
def toldLast (tells : WidgetEvent → Option Bool) (events : List WidgetEvent) : Option Bool :=
  events.reverse.findSome? tells

/-- What was told last is told by the last event, or by one before if that tells nothing. -/
theorem toldLast_append (tells : WidgetEvent → Option Bool) (events : List WidgetEvent)
    (event : WidgetEvent) :
    toldLast tells (events ++ [event]) = (tells event).or (toldLast tells events) := by
  rw [toldLast, List.reverse_append, List.findSome?_append, List.reverse_singleton,
    List.findSome?_singleton, toldLast]

/-- What a server keeps of the widgets. -/
structure Replica where
  /-- Which views are shown. -/
  visible : Table String Bool
  /-- Which nodes of which views are folded. -/
  folded : Table (String × String) Bool
deriving Repr, DecidableEq

namespace Replica

/-- Nothing is known of the widgets. -/
def blank : Replica := ⟨.empty, .empty⟩

/-- The picture after a message on the wire. -/
def hear (replica : Replica) (method : String) (params : Json) : Replica :=
  if method = "Rc/treeViewVisibilityDidChange" then
    match params.get? "viewId", params.get? "visible" with
    | some (.str view), some (.bool visible) =>
      { replica with visible := replica.visible.insert view visible }
    | _, _ => replica
  else if method = "Rc/treeViewNodeCollapseDidChange" then
    match params.get? "viewId", params.get? "nodeUri", params.get? "collapsed" with
    | some (.str view), some (.str node), some (.bool collapsed) =>
      { replica with folded := replica.folded.insert (view, node) collapsed }
    | _, _, _ => replica
  else replica

/-- The picture after some notices, in order. -/
def replay (notices : List Notice) : Replica :=
  notices.foldl (fun replica notice => replica.hear notice.method notice.params) blank

variable (replica : Replica)

/-- A change of visibility on the wire. -/
theorem params_visibility (view : String) (visible : Bool) :
    (Notice.visibility ⟨view, visible⟩).params =
      .object [("viewId", .str view), ("visible", .bool visible)] := rfl

/-- A folding on the wire. -/
theorem params_folding (view node : String) (collapsed : Bool) :
    (Notice.folding ⟨view, node, collapsed⟩).params =
      .object [("viewId", .str view), ("nodeUri", .str node), ("collapsed", .bool collapsed)] := rfl

/-- The notice of an event changes what the event tells of. -/
theorem hear_notice (event : WidgetEvent) :
    replica.hear event.notice.method event.notice.params =
      match event with
      | .visibility view visible => { replica with visible := replica.visible.insert view visible }
      | .expanded view node => { replica with folded := replica.folded.insert (view, node) false }
      | .collapsed view node =>
        { replica with folded := replica.folded.insert (view, node) true } := by
  cases event <;>
    simp [hear, WidgetEvent.notice, Notice.method, Notice.visibilityMethod, Notice.foldingMethod,
      params_visibility, params_folding, Json.get?_object, Json.entry?]

/-- A picture after one more notice is the picture before with the notice heard. -/
theorem replay_append (notices : List Notice) (notice : Notice) :
    replay (notices ++ [notice]) = (replay notices).hear notice.method notice.params :=
  List.foldl_concat ..

/-- The picture shows of a view what was told of its visibility last. -/
theorem visible_replay (events : List WidgetEvent) (view : String) :
    (replay (events.map WidgetEvent.notice)).visible.get? view =
      toldLast (WidgetEvent.visible? view) events := by
  induction events using List.reverseRecOn with
  | nil => rfl
  | append_singleton before event ih =>
    rw [List.map_append, List.map_singleton, replay_append, hear_notice, toldLast_append, ← ih]
    cases event with
    | visibility other visible =>
      by_cases same : other = view <;> simp [WidgetEvent.visible?, same]
    | expanded other node | collapsed other node => simp [WidgetEvent.visible?]

/-- The picture shows of a node what was told of its folding last. -/
theorem folded_replay (events : List WidgetEvent) (view node : String) :
    (replay (events.map WidgetEvent.notice)).folded.get? (view, node) =
      toldLast (WidgetEvent.folded? view node) events := by
  induction events using List.reverseRecOn with
  | nil => rfl
  | append_singleton before event ih =>
    rw [List.map_append, List.map_singleton, replay_append, hear_notice, toldLast_append, ← ih]
    cases event with
    | visibility other visible => simp [WidgetEvent.folded?]
    | expanded other uri | collapsed other uri =>
      by_cases same : (other, uri) = (view, node) <;> simp [WidgetEvent.folded?, same]

end Replica

end Tree

/-! ## What is told in a run -/

/-- What the user did to the widget of a live view, and why the server cannot be told, if so. -/
structure Report where
  /-- What the user did. -/
  event : Tree.WidgetEvent
  /-- Why the server cannot be told. -/
  failure : Option String
deriving Repr, DecidableEq

/-- The attempt to tell the server. -/
def Report.attempt (report : Report) : Attempt := ⟨report.event.notice, report.failure⟩

namespace Client

/-- What is reported by an event while some views are live. -/
def reportedBy (live : List String) : Event Operation → List Report
  | .issue world (.widget event) => if event.view ∈ live then [⟨event, world.muted⟩] else []
  | _ => []

/-- What the user does to the widgets of live views along some events, before which some views are
live. -/
def reported : List String → List (Event Operation) → List Report
  | _, [] => []
  | live, event :: rest => reportedBy live event ++ reported (liveAfter live event) rest

/-- What is to be seen of a report on a widget: the server is told of it if the view is live, and
the answer is what came of that. -/
def seenOfReport (views : Tree.Views) (world : Surroundings) (event : Tree.WidgetEvent) :
    ClientHappening :=
  let attempt : Attempt := ⟨event.notice, world.muted⟩
  if event.view ∈ views.ids then
    ⟨.issued (.widget event), world, none, [attempt.notice], [], some (.told attempt.result)⟩
  else ⟨.issued (.widget event), world, none, [], [], some (.told (.ok ()))⟩

section
variable {run : ClientRun} {live : List String}

/-- A report on a widget is told to the server if its view is live. -/
theorem ofIssue_widget (world : Surroundings) (client : Client) (event : Tree.WidgetEvent) :
    Happening.ofIssue world (.widget event) (client.issue world (.widget event)) =
      seenOfReport client.views world event := by
  have listed := Tree.Views.mem_ids_iff client.views event.view
  by_cases isLive : client.views.isLive event.view = true
  · simp only [issue, Tree.Views.notice?, isLive, ↓reduceIte, Happening.ofIssue, seenOfReport,
      listed, Attempt.result]
    cases world.muted <;> rfl
  · simp [issue, Tree.Views.notice?, isLive, Happening.ofIssue, seenOfReport, listed, done]

/-- A report on a widget is seen, and changes nothing. -/
theorem step_widget (world : Surroundings) (event : Tree.WidgetEvent) :
    run.step machine (.issue world (.widget event)) =
      { run with log := run.log ++ [seenOfReport run.state.views world event] } := by
  rw [← ofIssue_widget]
  by_cases isLive : run.state.views.isLive event.view = true <;>
    simp [Run.step, Run.began, machine, issue, Tree.Views.notice?, isLive, done]

/-- The server is to be told what an operation reports. -/
theorem attempts_ofIssue (known : run.state.views.LiveAre live)
    (world : Surroundings) (operation : Operation) :
    (Happening.ofIssue world operation (run.state.issue world operation)).attempts =
      (reportedBy live (.issue world operation)).map Report.attempt := by
  rw [Happening.attempts, Happening.notices_ofIssue, Happening.world_ofIssue, notices_issue]
  cases operation with
  | widget event =>
    simp only [reportedBy, known event.view]
    split <;> rfl
  | _ => rfl

/-- The server is told nothing when an answer arrives. -/
theorem attempts_ofArrival (world : Surroundings) (operation : Operation) (number : Nat)
    (reply : Except LspError Json) (client : Client) (pending : Pending) :
    (Happening.ofArrival world operation number reply
      (client.arrive world pending reply)).attempts = [] := by
  have silent := notices_arrive world client pending reply
  simp [Happening.attempts, Happening.ofArrival, silent]

/-- What the server is to be told in a step is what is reported by its event. -/
theorem attempts_step (known : run.state.views.LiveAre live) (event : Event Operation) :
    (run.step machine event).log.flatMap Happening.attempts =
      run.log.flatMap Happening.attempts ++ (reportedBy live event).map Report.attempt := by
  cases event with
  | issue world operation =>
    have told := attempts_ofIssue known world operation
    simp only [Run.step, Run.began, machine, List.flatMap_append, List.flatMap_singleton, told]
  | arrive world number reply =>
    cases isOpen : run.waiting.get? number with
    | none => simp [Run.step, isOpen, reportedBy]
    | some asked =>
      have silent := attempts_ofArrival world asked.operation number reply run.state asked.pending
      rw [Run.step_arrive machine run world reply isOpen]
      simp only [Run.ended, machine, List.flatMap_append, List.flatMap_singleton, silent,
        reportedBy, List.map_nil]

/-- What the server is to be told along some events is what is reported along them, in order. -/
theorem attempts_follow (known : run.state.views.LiveAre live) (events : List (Event Operation)) :
    (run.follow machine events).log.flatMap Happening.attempts =
      run.log.flatMap Happening.attempts ++ (reported live events).map Report.attempt := by
  induction events generalizing run live with
  | nil => simp [Run.follow, reported]
  | cons event rest ih =>
    have others := ih (liveAre_step known event)
    rw [attempts_step known event, List.append_assoc, ← List.map_append] at others
    exact others

/-- The answer of an operation that tells the server something is what came of the attempt. -/
theorem answer_ofIssue_of_attempt {client : Client} {operation : Operation} {attempt : Attempt}
    {world : Surroundings}
    (attempted : attempt ∈
      (Happening.ofIssue world operation (client.issue world operation)).attempts) :
    (Happening.ofIssue world operation (client.issue world operation)).answer =
      some (.told attempt.result) := by
  cases operation with
  | widget event =>
    rw [ofIssue_widget] at attempted ⊢
    unfold seenOfReport at attempted ⊢
    split at attempted
    · rename_i listed
      obtain rfl := List.mem_singleton.mp attempted
      rw [if_pos listed]
    · cases attempted
  | _ =>
    rw [Happening.attempts, Happening.notices_ofIssue, notices_issue] at attempted
    cases attempted

end

/-- Every answer to a report says what came of the attempt to tell the server. -/
theorem answer_of_attempt (settings : Settings) (events : List (Event Operation)) :
    ∀ happening ∈ (run settings events).log, ∀ attempt ∈ happening.attempts,
      happening.answer = some (.told attempt.result) := by
  apply Run.follow_keeps (motive := fun later : ClientRun => ∀ happening ∈ later.log,
    ∀ attempt ∈ happening.attempts, happening.answer = some (.told attempt.result)) machine
  · intro later event before
    apply Run.step_keeps (motive := fun next : ClientRun => ∀ happening ∈ next.log,
      ∀ attempt ∈ happening.attempts, happening.answer = some (.told attempt.result))
      machine later event before
    · intro world operation
      refine List.forall_mem_append.mpr ⟨before, List.forall_mem_singleton.mpr ?_⟩
      intro attempt attempted
      exact answer_ofIssue_of_attempt attempted
    · intro world number reply asked isOpen
      refine List.forall_mem_append.mpr ⟨before, List.forall_mem_singleton.mpr ?_⟩
      have silent := attempts_ofArrival world asked.operation number reply later.state asked.pending
      simp [machine, silent]
  · simp [Run.start]

/-- What the server is to be told in a run is what is reported along its events, in order. -/
theorem attempts_run (settings : Settings) (events : List (Event Operation)) :
    (run settings events).log.flatMap Happening.attempts =
      (reported settings.treeViews events).map Report.attempt := by
  have known : (Run.start (activate settings).1 : ClientRun).state.views.LiveAre
      settings.treeViews := Tree.Views.liveAre_start settings.treeViews
  have attempts := attempts_follow known events
  rwa [show (Run.start (activate settings).1 : ClientRun).log = [] from rfl, List.flatMap_nil,
    List.nil_append] at attempts

/-- If no answer says that the server could not be told, the server hears all that is reported. -/
theorem heardIn_of_told (settings : Settings) (events : List (Event Operation))
    (told : ∀ happening ∈ (run settings events).log, ∀ cause,
      happening.answer ≠ some (.told (.error cause))) :
    heardIn (run settings events).log =
      ((reported settings.treeViews events).map Report.event).map Tree.WidgetEvent.notice := by
  have heard : ∀ attempt ∈ (run settings events).log.flatMap Happening.attempts,
      attempt.heard? = some attempt.notice := by
    intro attempt member
    obtain ⟨happening, inside, attempted⟩ := List.mem_flatMap.mp member
    have answered := answer_of_attempt settings events happening inside attempt attempted
    cases failure : attempt.failure with
    | none => simp only [Attempt.heard?, failure]
    | some reason =>
      rw [Attempt.result, failure] at answered
      exact absurd answered (told happening inside _)
  rw [heardIn, List.filterMap_congr heard, List.filterMap_eq_map', attempts_run, List.map_map,
    List.map_map]
  rfl

/-- In every run of the client, whatever operations and answers come in between and whatever fails:
a report on a widget changes nothing, and the server is told of it, once, if and only if the view
is live, the answer being an error if and only if that failed. All that the server is told is what
was reported on live views, in order. If no report failed, a server that replays what it hears
knows of every view and every node what was reported last while the view was live. -/
theorem replica_is_exact (settings : Settings) (events : List (Event Operation)) :
    (∀ world event, (run settings events).step machine (.issue world (.widget event)) =
        { run settings events with
          log := (run settings events).log ++
            [seenOfReport (run settings events).state.views world event] }) ∧
      (run settings events).log.flatMap Happening.attempts =
        (reported settings.treeViews events).map Report.attempt ∧
      ((∀ happening ∈ (run settings events).log, ∀ cause,
          happening.answer ≠ some (.told (.error cause))) →
        let replica := Tree.Replica.replay (heardIn (run settings events).log)
        let reports := (reported settings.treeViews events).map Report.event
        ∀ view, replica.visible.get? view =
            Tree.toldLast (Tree.WidgetEvent.visible? view) reports ∧
          ∀ node, replica.folded.get? (view, node) =
            Tree.toldLast (Tree.WidgetEvent.folded? view node) reports) := by
  refine ⟨step_widget, attempts_run settings events, ?_⟩
  intro told replica reports view
  have heard : heardIn (run settings events).log = reports.map Tree.WidgetEvent.notice :=
    heardIn_of_told settings events told
  constructor
  · rw [← Tree.Replica.visible_replay, ← heard]
  · intro node
    rw [← Tree.Replica.folded_replay, ← heard]

/-- A view is shown and one of its nodes folded; then the view is disposed, and the node unfolded
in a widget that is still on the screen. -/
def unfoldedTooLate : List (Event Operation) := [
  .issue .quiet (.widget (.visibility "rcAst" true)),
  .issue .quiet (.widget (.collapsed "rcAst" "ast://0")),
  .issue .quiet (.dispose "rcAst"),
  .issue .quiet (.widget (.expanded "rcAst" "ast://0"))]

/-- The server knows of a view that was disposed what was reported before. -/
theorem replica_is_exact_late :
    (∀ happening ∈ (run .standard unfoldedTooLate).log, ∀ cause,
        happening.answer ≠ some (.told (.error cause))) ∧
      (Tree.Replica.replay (heardIn (run .standard unfoldedTooLate).log)).folded.get?
        ("rcAst", "ast://0") = some true := by
  have answers : (run .standard unfoldedTooLate).log.map Happening.answer =
      [some (.told (.ok ())), some (.told (.ok ())), some (.wasLive true), some (.told (.ok ()))] :=
    rfl
  have told : ∀ happening ∈ (run .standard unfoldedTooLate).log, ∀ cause,
      happening.answer ≠ some (.told (.error cause)) := by
    intro happening member cause failed
    have answer := List.mem_map_of_mem (f := Happening.answer) member
    simp [answers, failed] at answer
  have pictured := ((replica_is_exact .standard unfoldedTooLate).2.2 told "rcAst").2 "ast://0"
  refine ⟨told, pictured.trans ?_⟩
  decide

end Client

end LanguageClient
