import LanguageClient.Proofs.ClientRun
import LanguageClient.Proofs.Views

/-!
# Which views are live

A view is live from the start until it is disposed, alone or with all others, and nothing else
begins or ends a view. `isLive_follow_iff` says so for every continuation of a run, and
`ids_sorted` that the live views are listed in order, each once.
-/

namespace LanguageClient

/-- An operation disposes a view, alone or with all others. -/
def Operation.Disposes (view : String) : Operation → Prop
  | .dispose gone => gone = view
  | .disposeAll | .deactivate => True
  | _ => False

instance (view : String) (operation : Operation) : Decidable (operation.Disposes view) :=
  match operation with
  | .dispose gone => inferInstanceAs (Decidable (gone = view))
  | .disposeAll | .deactivate => .isTrue trivial
  | .children .. | .parent .. | .reveal _ | .widget _ | .serverEvents _ | .command _
  | .showPreview .. | .closePreview _ | .start .. | .startOrTell .. | .resolve _ | .describe _ =>
    .isFalse id

/-- A view was disposed, alone or with all others. -/
def Happening.Disposes (view : String) (happening : ClientHappening) : Prop :=
  match happening.cause with
  | .issued operation => operation.Disposes view
  | .answered .. => False

instance (view : String) (happening : ClientHappening) : Decidable (happening.Disposes view) :=
  match cause : happening.cause with
  | .issued operation =>
    decidable_of_iff (operation.Disposes view) (by simp [Happening.Disposes, cause])
  | .answered .. => .isFalse (by simp [Happening.Disposes, cause])

namespace Tree.Views

variable (views : Views)

/-- The identifiers are those of the live views. -/
theorem mem_ids_iff (view : String) : view ∈ views.ids ↔ views.isLive view = true := by
  rw [ids, List.mem_mergeSort]
  exact (Table.contains_iff_mem_keys views.caches view).symm

/-- At first the views that were registered are live. -/
theorem isLive_start (ids : List String) (view : String) :
    (start ids).isLive view = true ↔ view ∈ ids := by
  have keyed : (start ids).caches.get? view =
      Table.find view (ids.map fun id => (id, (Table.empty : Cache))).reverse :=
    Table.get?_ofList _ _
  rw [isLive, Table.contains, keyed, Table.isSome_find]
  simp

/-- The live views are those of a list. -/
def LiveAre (views : Views) (live : List String) : Prop :=
  ∀ view, view ∈ live ↔ views.isLive view = true

/-- The live views are those with the identifiers. -/
theorem liveAre_ids : views.LiveAre views.ids := mem_ids_iff views

/-- At first the live views are those that were registered. -/
theorem liveAre_start (ids : List String) : (start ids).LiveAre ids := fun view =>
  (isLive_start ids view).symm

/-- A node that the server tells of neither begins nor ends a view. -/
theorem LiveAre.takeNode {views : Views} {live : List String} (known : views.LiveAre live)
    (node : TreeNode) : (views.takeNode node).1.LiveAre live := by
  intro view
  rw [known, isLive_takeNode]

/-- Nodes that the server tells of neither begin nor end a view. -/
theorem LiveAre.change {views : Views} {live : List String} (known : views.LiveAre live)
    (nodes : List TreeNode) : (views.change nodes).1.LiveAre live := by
  intro view
  rw [known, isLive_change]

/-- Views whose identifiers are distinct are listed in strict order. -/
theorem ids_sorted (once : views.caches.keys.Nodup) : views.ids.Pairwise (· < ·) := by
  have ordered : views.ids.Pairwise fun a b => decide (a ≤ b) = true := by
    apply List.pairwise_mergeSort
    · intro a b c first second
      exact decide_eq_true (String.le_trans (of_decide_eq_true first) (of_decide_eq_true second))
    · intro a b
      simpa using String.le_total a b
  have distinct : views.ids.Nodup := ((List.mergeSort_perm _ _).nodup_iff).mpr once
  refine (ordered.and distinct).imp ?_
  intro a b ⟨below, different⟩
  exact Std.lt_of_le_of_ne (of_decide_eq_true below) different

/-- Nodes that are stored make no view live and end none. -/
theorem keys_store (view : String) (nodes : List (String × TreeNode)) :
    (views.store view nodes).caches.keys = views.caches.keys :=
  Table.keys_modify _ _ _

/-- A change makes no view live and ends none. -/
theorem keys_change (nodes : List TreeNode) :
    (views.change nodes).1.caches.keys = views.caches.keys := by
  induction nodes generalizing views with
  | nil => rfl
  | cons node rest ih =>
    rw [change_cons, ih]
    unfold takeNode
    split
    · split
      · exact keys_store views _ _
      · rfl
    · rfl

/-- Children that arrive make no view live and end none. -/
theorem keys_receiveChildren (view : String) (reply : Except LspError (List TreeNode)) :
    (views.receiveChildren view reply).1.caches.keys = views.caches.keys := by
  cases reply with
  | error cause => rfl
  | ok nodes =>
    simp only [receiveChildren]
    split
    · exact keys_store views _ _
    · rfl

end Tree.Views

namespace Client

variable (world : Surroundings) (client : Client)

/-- An operation ends the views that it disposes and begins none. -/
theorem isLive_issue_iff (operation : Operation) (view : String) :
    (client.issue world operation).state.views.isLive view = true ↔
      client.views.isLive view = true ∧ ¬ operation.Disposes view := by
  rw [views_issue]
  cases operation with
  | dispose gone =>
    simp [Tree.Views.isLive_dispose, Operation.Disposes, and_comm]
  | disposeAll | deactivate | serverEvents events => simp [Operation.Disposes]
  | _ => simp [Operation.Disposes]

/-- An answer neither begins a view nor ends one. -/
theorem isLive_arrive (pending : Pending) (reply : Except LspError Json) (view : String) :
    (client.arrive world pending reply).state.views.isLive view = client.views.isLive view := by
  rw [views_arrive]
  cases pending with
  | children asked => exact Tree.Views.isLive_receiveChildren _ _ _ _
  | _ => rfl

/-- After some events a view is live if it was live before and was not disposed since. -/
theorem isLive_follow_iff (run : ClientRun) (events : List (Event Operation)) (view : String) :
    (run.follow machine events).state.views.isLive view = true ↔
      run.state.views.isLive view = true ∧
        ∀ happening ∈ run.thereafter machine events, ¬ happening.Disposes view := by
  apply Run.follow_induction machine run (fun _ => True)
    (motive := fun later fresh => later.state.views.isLive view = true ↔
      run.state.views.isLive view = true ∧ ∀ happening ∈ fresh, ¬ happening.Disposes view)
    (fun _ _ _ => trivial) trivial
  · simp
  · intro later fresh world operation _ held
    have disposes : Happening.Disposes view
        (.ofIssue world operation (machine.issue world operation later.state)) ↔
          operation.Disposes view := by
      simp [Happening.Disposes]
    refine (isLive_issue_iff world later.state operation view).trans ?_
    rw [held, List.forall_mem_append, List.forall_mem_singleton, disposes, and_assoc]
  · intro later fresh world number reply asked _ held isOpen
    have same : (later.ended world asked.operation number reply
        (machine.arrive world asked.pending reply later.state)).state.views.isLive view =
          later.state.views.isLive view := isLive_arrive world later.state _ _ _
    rw [same, held, List.forall_mem_append, List.forall_mem_singleton]
    simp [Happening.Disposes, Happening.ofArrival]

/-- The live views of a run are the configured ones that were not disposed. -/
theorem isLive_run_iff (settings : Settings) (events : List (Event Operation)) (view : String) :
    (run settings events).state.views.isLive view = true ↔
      view ∈ settings.treeViews ∧
        ∀ happening ∈ (run settings events).log, ¬ happening.Disposes view := by
  have started := isLive_follow_iff (Run.start (activate settings).1) events view
  rwa [Run.thereafter, Run.since_start,
    show (Run.start (activate settings).1 : ClientRun).state.views.isLive view = true ↔
      view ∈ settings.treeViews from Tree.Views.isLive_start settings.treeViews view] at started

/-- The views that are live after an event, of some that are live before it. -/
def liveAfter (live : List String) : Event Operation → List String
  | .issue _ operation => live.filter fun view => ¬ operation.Disposes view
  | .arrive .. => live

/-- The live views are known from the events alone. -/
theorem liveAre_step {run : ClientRun} {live : List String}
    (known : run.state.views.LiveAre live) (event : Event Operation) :
    (run.step machine event).state.views.LiveAre (liveAfter live event) := by
  intro view
  cases event with
  | issue world operation =>
    rw [liveAfter, List.mem_filter, decide_eq_true_eq, known]
    exact (isLive_issue_iff world run.state operation view).symm
  | arrive world number reply =>
    rw [liveAfter, known]
    have same : (run.step machine (.arrive world number reply)).state.views.isLive view =
        run.state.views.isLive view := by
      cases isOpen : run.waiting.get? number with
      | none => simp only [Run.step, isOpen]
      | some asked =>
        rw [Run.step_arrive machine run world reply isOpen]
        exact isLive_arrive world run.state asked.pending reply view
    rw [same]

/-- The views of a run have distinct identifiers. -/
theorem nodup_keys_run (settings : Settings) (events : List (Event Operation)) :
    (run settings events).state.views.caches.keys.Nodup := by
  apply Run.follow_keeps (motive := fun later : ClientRun => later.state.views.caches.keys.Nodup)
    machine
  · intro later event once
    apply Run.step_keeps (motive := fun next : ClientRun => next.state.views.caches.keys.Nodup)
      machine later event once
    · intro world operation
      have views := views_issue world later.state operation
      simp only [Run.began, machine, views]
      cases operation with
      | dispose gone => exact Table.nodup_keys_erase once gone
      | disposeAll | deactivate => exact List.nodup_nil
      | serverEvents events =>
        rw [Tree.Views.keys_change]
        exact once
      | _ => exact once
    · intro world number reply asked isOpen
      have views := views_arrive world later.state asked.pending reply
      simp only [Run.state_ended, machine, views]
      cases asked.pending with
      | children view =>
        rw [Tree.Views.keys_receiveChildren]
        exact once
      | _ => exact once
  · exact Table.nodup_keys_ofList _

end Client

end LanguageClient
