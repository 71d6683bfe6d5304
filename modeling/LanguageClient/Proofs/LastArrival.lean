import LanguageClient.Proofs.ClientRun
import LanguageClient.Proofs.Views

/-!
# The last arrival wins

What a live view knows is decided by the order in which messages arrive: an answer about children
and a message that the server sends of its own accord write the nodes they carry, and for every
URI the node that was written last counts. The order in which the questions were asked does not
matter. `caches_hold_last_arrivals` states this for every run of the client.
-/

namespace LanguageClient.Client

open LanguageClient.Tree (identified)

/-- The nodes that a happening writes into a view, each under its URI. An answer about the
children of a view writes into that view whatever view its nodes name; a message that the server
sends of its own accord writes the nodes that name the view. -/
def written (view : String) (happening : ClientHappening) : List (String × TreeNode) :=
  match happening.cause with
  | .answered (.children asked _) _ reply =>
    if asked = view then
      match Tree.childrenForm.ofReply reply with
      | .ok nodes => identified nodes
      | .error _ => []
    else []
  | .issued (.serverEvents events) =>
    identified ((events.flatMap ServerEvent.nodes).filter fun node => node.view = view)
  | _ => []

/-- All nodes that a log writes into a view, in the order of their arrival. -/
def writes (view : String) (log : List ClientHappening) : List (String × TreeNode) :=
  log.flatMap (written view)

/-- The node that was written last under a URI. -/
def latest (uri : String) (writes : List (String × TreeNode)) : Option TreeNode :=
  (writes.reverse.find? fun write => write.1 = uri).map Prod.snd

/-- The latest write is one of the later ones, if there is one. -/
theorem latest_append (uri : String) (first second : List (String × TreeNode)) :
    latest uri (first ++ second) = (latest uri second).or (latest uri first) := by
  unfold latest
  rw [List.reverse_append, List.find?_append]
  cases second.reverse.find? fun write => decide (write.1 = uri) <;> simp

/-- A cache that nodes are stored in holds the last of them under each URI, and what it held
before where there is none. -/
theorem get?_store (cache : Tree.Cache) (nodes : List (String × TreeNode)) (uri : String) :
    (cache.store nodes).get? uri = (latest uri nodes).or (cache.get? uri) := by
  induction nodes generalizing cache with
  | nil => simp [Tree.Cache.store, latest]
  | cons write rest ih =>
    have stored : cache.store (write :: rest) =
        Tree.Cache.store (cache.insert write.1 write.2) rest := rfl
    have split : write :: rest = [write] ++ rest := rfl
    rw [stored, ih, Table.get?_insert, split, latest_append]
    by_cases same : write.1 = uri <;> simp [latest, same]

/-- A written node carries the URI that it is written under. -/
theorem uri_of_mem_written {view uri : String} {node : TreeNode} {happening : ClientHappening}
    (member : (uri, node) ∈ written view happening) : node.uri = some uri := by
  unfold written at member
  split at member
  · split at member
    · split at member
      · exact (Tree.uri_of_mem_identified member).1
      · simp at member
    · simp at member
  · exact (Tree.uri_of_mem_identified member).1
  · simp at member

/-- The latest write is among the writes. -/
theorem mem_of_latest {uri : String} {node : TreeNode} {writes : List (String × TreeNode)}
    (found : latest uri writes = some node) : (uri, node) ∈ writes := by
  obtain ⟨write, hit, rfl⟩ := Option.map_eq_some_iff.mp found
  have same : write.1 = uri := by simpa using List.find?_some hit
  have member := List.mem_reverse.mp (List.mem_of_find?_eq_some hit)
  rw [← same]
  exact member

/-- What an operation writes into a view that it leaves live comes after what the view held. -/
theorem cache_issue (world : Surroundings) (client : Client) (operation : Operation)
    {view : String} (live : (client.issue world operation).state.views.isLive view = true) :
    client.views.isLive view = true ∧
      (client.issue world operation).state.views.cache view =
        (client.views.cache view).store
          (written view (.ofIssue world operation (client.issue world operation))) := by
  rw [views_issue] at live ⊢
  simp only [written, Happening.cause_ofIssue]
  cases operation with
  | dispose gone =>
    simp only [Tree.Views.isLive_dispose, Bool.and_eq_true, decide_eq_true_eq] at live
    exact ⟨live.2, Tree.Views.cache_dispose_of_ne _ live.1⟩
  | disposeAll => simp at live
  | deactivate => simp at live
  | serverEvents events =>
    simp only [Tree.Views.isLive_change] at live
    exact ⟨live, Tree.Views.cache_change _ _ live⟩
  | _ => exact ⟨live, rfl⟩

/-- What an answer writes into a live view comes after what the view held. -/
theorem cache_arrive (world : Surroundings) (client : Client) {operation : Operation}
    {request : Request} {pending : Pending} (awaits : operation.Awaits request pending)
    (number : Nat) (reply : Except LspError Json) {view : String}
    (live : (client.arrive world pending reply).state.views.isLive view = true) :
    client.views.isLive view = true ∧
      (client.arrive world pending reply).state.views.cache view =
        (client.views.cache view).store
          (written view (.ofArrival world operation number reply
            (client.arrive world pending reply))) := by
  rw [views_arrive] at live ⊢
  cases awaits with
  | children asked parent =>
    simp only [Tree.Views.isLive_receiveChildren] at live
    refine ⟨live, ?_⟩
    simp only [written, Happening.ofArrival]
    by_cases named : asked = view
    · subst named
      rw [if_pos rfl]
      cases Tree.childrenForm.ofReply reply with
      | error cause => rfl
      | ok nodes =>
        simp only [Tree.Views.receiveChildren_of_live _ live]
        exact Tree.Views.cache_store_self _ live _
    · rw [if_neg named]
      exact Tree.Views.cache_receiveChildren_of_ne _ named _
  | _ => exact ⟨live, rfl⟩

/-- What has been written into a live view since a run comes after what the view held then. -/
theorem cache_follow {run : ClientRun} (honest : run.Honest machine)
    (events : List (Event Operation)) {view : String}
    (live : (run.follow machine events).state.views.isLive view = true) :
    run.state.views.isLive view = true ∧
      (run.follow machine events).state.views.cache view =
        (run.state.views.cache view).store
          (writes view (run.since (run.follow machine events))) := by
  revert live
  apply Run.follow_induction machine run (fun later => later.Honest machine)
    (motive := fun later fresh => later.state.views.isLive view = true →
      run.state.views.isLive view = true ∧
        later.state.views.cache view = (run.state.views.cache view).store (writes view fresh))
    (Run.honest_step machine) honest
  · intro live
    exact ⟨live, rfl⟩
  · intro later fresh world operation _ held live
    obtain ⟨before, stored⟩ := cache_issue world later.state operation live
    obtain ⟨first, history⟩ := held before
    refine ⟨first, stored.trans ?_⟩
    rw [history, ← Tree.Cache.store_append, writes, writes, List.flatMap_append]
    simp [machine]
  · intro later fresh world number reply asked fine held isOpen live
    obtain ⟨before, stored⟩ :=
      cache_arrive world later.state (awaits_of_honest fine isOpen) number reply live
    obtain ⟨first, history⟩ := held before
    refine ⟨first, stored.trans ?_⟩
    rw [history, ← Tree.Cache.store_append, writes, writes, List.flatMap_append]
    simp [machine]

/-- Everything that a live view of a run knows is what arrived last. -/
structure HoldsLastArrivals (run : ClientRun) (view : String) : Prop where
  /-- Under every URI there is the node that was written last, and none if none was written. -/
  holds_latest : ∀ uri, run.state.views.node? view uri = latest uri (writes view run.log)
  /-- A node is found under the URI that it carries. -/
  own_uri : ∀ uri node, run.state.views.node? view uri = some node → node.uri = some uri
  /-- As long as the view lives it forgets no URI. -/
  forgets_none : ∀ events, (run.follow machine events).state.views.isLive view = true →
    ∀ uri, (run.state.views.node? view uri).isSome →
      ((run.follow machine events).state.views.node? view uri).isSome
  /-- An answer about the children of another view changes nothing in this one. -/
  others_apart : ∀ world number reply asked other parent,
    run.waiting.get? number = some asked → asked.operation = .children other parent →
      other ≠ view →
      (run.step machine (.arrive world number reply)).state.views.cache view =
        run.state.views.cache view
  /-- The question for children is answered by the URIs of the nodes that arrive, in order. -/
  answers_uris : ∀ world number reply asked parent nodes,
    run.waiting.get? number = some asked → asked.operation = .children view parent →
      Tree.childrenForm.ofReply reply = .ok nodes →
      (run.step machine (.arrive world number reply)).log.getLast?.bind Happening.answer =
        some (.uris (.ok (nodes.filterMap TreeNode.uri)))

/-- In every run of the client, whatever the order in which questions are asked and answers,
messages of the server and disposals arrive, every live view holds the last arrivals. -/
theorem caches_hold_last_arrivals (settings : Settings) (events : List (Event Operation))
    (view : String) (live : (run settings events).state.views.isLive view = true) :
    HoldsLastArrivals (run settings events) view := by
  have honest := honest_run settings events
  have history (uri : String) :
      (run settings events).state.views.node? view uri =
        latest uri (writes view (run settings events).log) := by
    have stored := (cache_follow (Run.honest_start machine _) events live).2
    rw [Run.since_start] at stored
    simp only [Tree.Views.node?]
    rw [run, stored, get?_store]
    simp [Run.start, activate, Tree.Views.cache_start]
  refine ⟨history, ?_, ?_, ?_, ?_⟩
  · intro uri node found
    rw [history] at found
    obtain ⟨happening, -, member⟩ := List.mem_flatMap.mp (mem_of_latest found)
    exact uri_of_mem_written member
  · intro more later uri known
    have stored := (cache_follow honest more later).2
    simp only [Tree.Views.node?] at known ⊢
    rw [stored, get?_store]
    simp [Option.isSome_or, known]
  · intro world number reply asked other parent isOpen operation different
    have awaits := awaits_of_honest honest isOpen
    rw [operation] at awaits
    rw [Run.step_arrive machine _ world reply isOpen, Run.state_ended]
    simp only [machine, views_arrive, (Operation.awaits_children awaits).2]
    exact Tree.Views.cache_receiveChildren_of_ne _ different _
  · intro world number reply asked parent nodes isOpen operation read
    have awaits := awaits_of_honest honest isOpen
    rw [operation] at awaits
    rw [Run.step_arrive machine _ world reply isOpen, Run.answer_ended]
    simp only [machine, arrive, (Operation.awaits_children awaits).2, read,
      Tree.Views.receiveChildren_of_live _ live]

/-- An answer about children that holds one node. -/
def answerOf (view label : String) : Except LspError Json :=
  .ok (.obj [("nodes", .arr [.obj [("label", .str label), ("nodeUri", .str "ast://0"),
    ("viewId", .str view)]])])

/-- Two questions for the roots of one view are open. The later one is answered, the server tells
of the root, and the earlier one is answered last, by a node that names another view. -/
def overlap : List (Event Operation) := [
  .issue .quiet (.children "rcAst" none),
  .issue .quiet (.children "rcAst" none),
  .arrive .quiet 1 (answerOf "rcAst" "asked later"),
  .issue .quiet (.serverEvents
    [.treeChange [⟨"rcAst", some "ast://0", "told", none, none, none, .leaf⟩]]),
  .arrive .quiet 0 (answerOf "other" "asked earlier")]

/-- The question that was asked first and answered last decides. -/
theorem caches_hold_last_arrivals_overlap :
    (run .standard overlap).state.views.isLive "rcAst" = true ∧
      ((run .standard overlap).state.views.node? "rcAst" "ast://0").map TreeNode.label =
        some "asked earlier" := by
  have live : (run .standard overlap).state.views.isLive "rcAst" = true := by decide
  refine ⟨live, ?_⟩
  rw [(caches_hold_last_arrivals .standard overlap "rcAst" live).holds_latest]
  decide

end LanguageClient.Client
