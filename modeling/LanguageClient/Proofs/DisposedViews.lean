import LanguageClient.Proofs.EditorCalls
import LanguageClient.Proofs.LiveViews

/-!
# Disposed views

A view that is not live is never named again: the server is asked and told nothing about it, the
editor is not called for it, and nothing is known of its nodes. What an operation or an answer
names is live at that moment (`isLive_of_named_issue`, `isLive_of_named_arrive`), and a view that
is not live does not come back; `disposal_is_permanent` puts both together for every run.
-/

namespace LanguageClient

/-- The view that a question names. -/
def Request.view? : Request → Option String
  | .children query => some query.view
  | .parent node => some node.view
  | .reveal _ | .preview _ | .execute _ => none

/-- The view that a notice names. -/
def Notice.view : Notice → String
  | .visibility change => change.view
  | .folding change => change.view

/-- The view that a call of the editor names. -/
def EditorCall.view? : EditorCall → Option String
  | .refresh view _ | .expand view _ | .select view _ => some view
  | _ => none

/-- A question, a notice or a call of the editor named a view. -/
def Happening.Names (view : String) (happening : ClientHappening) : Prop :=
  (∃ request, happening.request = some request ∧ request.view? = some view) ∨
    (∃ notice ∈ happening.notices, notice.view = view) ∨
    ∃ call ∈ happening.calls, call.view? = some view

/-- The notice of an event is about the view that the event came from. -/
theorem Tree.WidgetEvent.view_notice (event : Tree.WidgetEvent) :
    event.notice.view = event.view := by
  cases event <;> rfl

namespace Client

variable {world : Surroundings} {client : Client} {view : String}

/-- A question about a view is asked only while the view is live. -/
theorem isLive_of_asked {operation : Operation} {request : Request} {pending : Pending}
    (outcome : (client.issue world operation).outcome = .waits request pending)
    (named : request.view? = some view) : client.views.isLive view = true := by
  have awaits := awaits_of_issue outcome
  cases awaits with
  | children asked parent =>
    obtain rfl := Option.some.inj named
    cases refused : client.views.askChildren asked parent with
    | error cause =>
      simp only [issue, refused] at outcome
      cases outcome
    | ok question => exact (Tree.Views.requireLive_map_eq_ok refused).1
  | parent asked node =>
    obtain rfl := Option.some.inj named
    cases refused : client.views.askParent asked node with
    | error cause =>
      simp only [issue, refused] at outcome
      cases outcome
    | ok question => exact (Tree.Views.requireLive_map_eq_ok refused).1
  | _ => cases named

/-- The server is told what the user did to the widget of a live view, and nothing else. -/
theorem notices_issue (world : Surroundings) (client : Client) (operation : Operation) :
    (client.issue world operation).notices =
      match operation with
      | .widget event => if client.views.isLive event.view then [event.notice] else []
      | _ => [] := by
  cases operation with
  | widget event =>
    by_cases live : client.views.isLive event.view = true <;>
      simp [issue, Tree.Views.notice?, live, done]
  | children asked parent | parent asked node | resolve configuration | describe configuration =>
    simp only [issue]
    split <;> rfl
  | command command =>
    cases command with
    | startPreview path =>
      simp only [issue, startPreview]
      split <;> rfl
    | _ => rfl
  | showPreview id visible =>
    simp only [issue, showPreview]
    repeat' split
    all_goals rfl
  | _ => rfl

/-- The server is told of a view only while the view is live. -/
theorem isLive_of_told {operation : Operation} {notice : Notice}
    (told : notice ∈ (client.issue world operation).notices) :
    client.views.isLive notice.view = true := by
  rw [notices_issue] at told
  cases operation with
  | widget event =>
    obtain ⟨live, here⟩ := List.mem_ite_nil_right.mp told
    obtain rfl := List.mem_singleton.mp here
    rw [Tree.WidgetEvent.view_notice]
    exact live
  | _ => cases told

/-- The editor is called at once for live views only. -/
theorem isLive_of_callsAtOnce {call : EditorCall} (called : client.CallsAtOnce call)
    (named : call.view? = some view) : client.views.isLive view = true := by
  cases called with
  | refresh other node live =>
    obtain rfl := Option.some.inj named
    exact live
  | showDocument uri range column => cases named
  | showError message => cases named

/-- The editor is called on an answer for live views only. -/
theorem isLive_of_callsThen {call : EditorCall} (called : client.CallsThen call)
    (named : call.view? = some view) : client.views.isLive view = true := by
  cases called with
  | expand other uri live | select other uri live =>
    obtain rfl := Option.some.inj named
    exact live
  | render panel html => cases named
  | startDebugging configuration => cases named
  | showError message => cases named

/-- Whatever view an operation names when it begins is live. -/
theorem isLive_of_named_issue {operation : Operation}
    (names : Happening.Names view (.ofIssue world operation (client.issue world operation))) :
    client.views.isLive view = true := by
  unfold Happening.ofIssue at names
  cases outcome : (client.issue world operation).outcome with
  | done answer =>
    simp only [outcome] at names
    rcases names with ⟨request, asked, -⟩ | ⟨notice, told, rfl⟩ | ⟨call, member, named⟩
    · cases asked
    · exact isLive_of_told told
    · exact isLive_of_callsAtOnce (callsAtOnce client world operation member) named
  | waits request pending =>
    simp only [outcome] at names
    rcases names with ⟨question, asked, named⟩ | ⟨notice, told, rfl⟩ | ⟨call, member, named⟩
    · obtain rfl := Option.some.inj asked
      exact isLive_of_asked outcome named
    · exact isLive_of_told told
    · exact isLive_of_callsAtOnce (callsAtOnce client world operation member) named

/-- The server is told nothing when an answer arrives. -/
theorem notices_arrive (world : Surroundings) (client : Client) (pending : Pending)
    (reply : Except LspError Json) : (client.arrive world pending reply).notices = [] := by
  cases pending with
  | firstPage id =>
    simp only [arrive, receiveFirstPage]
    split <;> rfl
  | page id =>
    simp only [arrive, receivePage]
    split <;> rfl
  | _ => rfl

/-- Whatever view an answer names when it arrives is live. -/
theorem isLive_of_named_arrive {operation : Operation} {number : Nat} {pending : Pending}
    {reply : Except LspError Json}
    (names : Happening.Names view
      (.ofArrival world operation number reply (client.arrive world pending reply))) :
    client.views.isLive view = true := by
  rcases names with ⟨request, asked, -⟩ | ⟨notice, told, -⟩ | ⟨call, member, named⟩
  · cases asked
  · simp only [Happening.ofArrival, notices_arrive] at told
    cases told
  · exact isLive_of_callsThen (callsThen client world pending reply member) named

/-- A question about a view that is not live is refused. -/
theorem requireLive_of_gone (gone : client.views.isLive view = false) :
    client.views.requireLive view = .error (.unknownView view) := by
  simp [Tree.Views.requireLive, gone]

/-- A happening has nothing to do with a view, and refuses what is asked about it. -/
structure Spares (view : String) (happening : ClientHappening) : Prop where
  /-- The view is named nowhere. -/
  unnamed : ¬ happening.Names view
  /-- The children of its nodes are refused. -/
  children : ∀ parent, happening.cause = .issued (.children view parent) →
    happening.answer = some (.uris (.error (.unknownView view)))
  /-- The parents of its nodes are refused. -/
  parent : ∀ node, happening.cause = .issued (.parent view node) →
    happening.answer = some (.parent (.error (.unknownView view)))

/-- An operation spares a view that is not live. -/
theorem spares_issue (world : Surroundings) (operation : Operation)
    (gone : client.views.isLive view = false) :
    Spares view (.ofIssue world operation (client.issue world operation)) := by
  constructor
  · intro names
    rw [isLive_of_named_issue names] at gone
    cases gone
  · intro parent cause
    rw [Happening.cause_ofIssue] at cause
    cases cause
    simp [issue, Tree.Views.askChildren, requireLive_of_gone gone, Except.map, done,
      Happening.ofIssue]
  · intro node cause
    rw [Happening.cause_ofIssue] at cause
    cases cause
    simp [issue, Tree.Views.askParent, requireLive_of_gone gone, Except.map, done,
      Happening.ofIssue]

/-- An answer spares a view that is not live. -/
theorem spares_arrive (world : Surroundings) (operation : Operation) (number : Nat)
    (pending : Pending) (reply : Except LspError Json) (gone : client.views.isLive view = false) :
    Spares view
      (.ofArrival world operation number reply (client.arrive world pending reply)) := by
  constructor
  · intro names
    rw [isLive_of_named_arrive names] at gone
    cases gone
  · intro parent cause
    cases cause
  · intro node cause
    cases cause

/-- Nothing is to be seen of a view. -/
structure Absent (run : ClientRun) (view : String) : Prop where
  /-- It is not listed. -/
  unlisted : view ∉ run.state.views.ids
  /-- No node of it is known. -/
  unknown : ∀ node, run.state.views.node? view node = none
  /-- It has no nodes. -/
  uncounted : run.state.views.nodeCount view = 0

/-- Nothing is to be seen of a view that is not live. -/
theorem absent_of_gone {run : ClientRun} (gone : run.state.views.isLive view = false) :
    Absent run view := by
  have cache := run.state.views.cache_of_gone gone
  constructor
  · rw [Tree.Views.mem_ids_iff, gone]
    exact Bool.false_ne_true
  · intro node
    rw [Tree.Views.node?, cache]
    rfl
  · rw [Tree.Views.nodeCount, cache]
    rfl

/-- A view that is not live does not come back, and nothing that follows has to do with it. -/
theorem gone_follow {run : ClientRun} (gone : run.state.views.isLive view = false)
    (more : List (Event Operation)) :
    (run.follow machine more).state.views.isLive view = false ∧
      ∀ happening ∈ run.thereafter machine more, Spares view happening := by
  apply Run.follow_induction machine run (fun _ => True)
    (motive := fun later fresh => later.state.views.isLive view = false ∧
      ∀ happening ∈ fresh, Spares view happening)
    (fun _ _ _ => trivial) trivial ⟨gone, by simp⟩
  · intro later fresh world operation _ ⟨still, spared⟩
    constructor
    · have after := isLive_issue_iff world later.state operation view
      rw [still] at after
      exact Bool.eq_false_iff.mpr fun live => Bool.false_ne_true (after.mp live).1
    · exact List.forall_mem_append.mpr ⟨spared, List.forall_mem_singleton.mpr
        (spares_issue world operation still)⟩
  · intro later fresh world number reply asked _ ⟨still, spared⟩ isOpen
    constructor
    · exact (isLive_arrive world later.state asked.pending reply view).trans still
    · exact List.forall_mem_append.mpr ⟨spared, List.forall_mem_singleton.mpr
        (spares_arrive world asked.operation number asked.pending reply still)⟩

/-- In every run of the client the listed views are those that were configured and not disposed,
each once and in order; a disposal tells whether the view was among them; and of a view that is
not among them nothing is seen any more, whatever follows. -/
theorem disposal_is_permanent (settings : Settings) (events : List (Event Operation)) :
    (run settings events).state.views.ids.Pairwise (· < ·) ∧
      (∀ view, view ∈ (run settings events).state.views.ids ↔
        view ∈ settings.treeViews ∧
          ∀ happening ∈ (run settings events).log, ¬ happening.Disposes view) ∧
      (∀ world view,
        ((run settings events).step machine (.issue world (.dispose view))).log.getLast?.bind
            Happening.answer =
          some (.wasLive (decide (view ∈ (run settings events).state.views.ids)))) ∧
      ∀ view, view ∉ (run settings events).state.views.ids → ∀ more,
        Absent ((run settings events).follow machine more) view ∧
          ∀ happening ∈ (run settings events).thereafter machine more, Spares view happening := by
  refine ⟨Tree.Views.ids_sorted _ (nodup_keys_run settings events), ?_, ?_, ?_⟩
  · intro view
    rw [Tree.Views.mem_ids_iff]
    exact isLive_run_iff settings events view
  · intro world view
    have listed := Tree.Views.mem_ids_iff (run settings events).state.views view
    simp [Run.step, Run.began, machine, issue, Tree.Views.dispose, done, Happening.ofIssue, listed]
  · intro view unlisted more
    rw [Tree.Views.mem_ids_iff, Bool.not_eq_true] at unlisted
    obtain ⟨still, spared⟩ := gone_follow unlisted more
    exact ⟨absent_of_gone still, spared⟩

/-- The children of a view are asked for, and the view is disposed. -/
def disposedWhileAsking : List (Event Operation) := [
  .issue .quiet (.children "rcAst" none),
  .issue .quiet (.dispose "rcAst")]

/-- A node arrives late for the question that was left open, and the server tells of it too. -/
def toldTooLate : List (Event Operation) :=
  let node : TreeNode := ⟨"rcAst", some "ast://0", "late", none, none, none, .leaf⟩
  [.arrive .quiet 0 (.ok (Tree.childrenForm.encode [node])),
    .issue .quiet (.serverEvents [.treeChange [node]])]

/-- What is told too late is not seen any more. -/
theorem disposal_is_permanent_late :
    "rcAst" ∉ (run .standard disposedWhileAsking).state.views.ids ∧
      Absent ((run .standard disposedWhileAsking).follow machine toldTooLate) "rcAst" := by
  have gone : "rcAst" ∉ (run .standard disposedWhileAsking).state.views.ids := by
    rw [Tree.Views.mem_ids_iff]
    decide
  exact ⟨gone, ((disposal_is_permanent .standard disposedWhileAsking).2.2.2 "rcAst" gone _).1⟩

end Client

end LanguageClient
