import LanguageClient.Client

/-!
# What becomes of the views

Each operation on the views is described by two observations: which views are live, and which
nodes a live view holds. `cache_change` does so for the messages that the server sends of its own
accord, node by node as `change` takes them.
-/

namespace LanguageClient

/-- The nodes that an event of the server tells of. -/
def ServerEvent.nodes : ServerEvent → List TreeNode
  | .clientCommand _ => []
  | .treeChange nodes => nodes

namespace Tree

/-- The nodes with a URI are those of the first list and then those of the second. -/
theorem identified_append (first second : List TreeNode) :
    identified (first ++ second) = identified first ++ identified second :=
  List.filterMap_append

/-- Only URIs that nodes carry are written, each with the node that carries it. -/
theorem uri_of_mem_identified {nodes : List TreeNode} {uri : String} {node : TreeNode}
    (member : (uri, node) ∈ identified nodes) : node.uri = some uri ∧ node ∈ nodes := by
  obtain ⟨source, inside, found⟩ := List.mem_filterMap.mp member
  obtain ⟨carried, has, same⟩ := Option.map_eq_some_iff.mp found
  cases same
  exact ⟨has, inside⟩

/-- The answer about children lists the URIs that the nodes carry, in their order. -/
theorem map_fst_identified (nodes : List TreeNode) :
    (identified nodes).map Prod.fst = nodes.filterMap TreeNode.uri := by
  unfold identified
  rw [List.map_filterMap]
  congr 1
  funext node
  cases node.uri <;> rfl

/-- Nodes of two lists are stored one list after the other. -/
theorem Cache.store_append (cache : Cache) (first second : List (String × TreeNode)) :
    cache.store (first ++ second) = (cache.store first).store second :=
  List.foldl_append

namespace Views

variable (views : Views)

/-- At first no view is live. -/
@[simp]
theorem isLive_empty (view : String) : empty.isLive view = false := rfl

/-- No view knows a node at the start. -/
theorem cache_start (ids : List String) (view : String) : (start ids).cache view = .empty := by
  simp only [cache, start, Table.get?_ofList]
  cases found : Table.find view (ids.map fun id => (id, (.empty : Cache))).reverse with
  | none => rfl
  | some held =>
    have member := List.mem_reverse.mp (Table.mem_of_find found)
    obtain ⟨id, -, same⟩ := List.mem_map.mp member
    cases same
    rfl

/-- A view that is not live knows nothing. -/
theorem cache_of_gone {view : String} (gone : views.isLive view = false) :
    views.cache view = .empty := by
  have absent : views.caches.get? view = none :=
    Option.not_isSome_iff_eq_none.mp (Bool.eq_false_iff.mp gone)
  rw [cache, absent, Option.getD_none]

/-- Nodes that are stored make no view live and end none. -/
@[simp]
theorem isLive_store (view other : String) (nodes : List (String × TreeNode)) :
    (views.store view nodes).isLive other = views.isLive other :=
  Table.contains_modify _ _ _ _

/-- Nodes that are stored in a live view come after those that it holds. -/
theorem cache_store_self {view : String} (live : views.isLive view = true)
    (nodes : List (String × TreeNode)) :
    (views.store view nodes).cache view = (views.cache view).store nodes := by
  obtain ⟨held, found⟩ := Option.isSome_iff_exists.mp live
  simp [store, cache, found]

/-- Nodes that are stored in one view change no other. -/
theorem cache_store_of_ne {view other : String} (different : view ≠ other)
    (nodes : List (String × TreeNode)) :
    (views.store view nodes).cache other = views.cache other := by
  simp [store, cache, different]

/-- An answer about the children of a live view stores its nodes and tells their URIs. -/
theorem receiveChildren_of_live {view : String} (live : views.isLive view = true)
    (nodes : List TreeNode) :
    views.receiveChildren view (.ok nodes) =
      (views.store view (identified nodes), .ok (nodes.filterMap TreeNode.uri)) := by
  simp only [receiveChildren, live, ↓reduceIte, map_fst_identified]

/-- An answer about the children of one view changes no other. -/
theorem cache_receiveChildren_of_ne {asked view : String} (different : asked ≠ view)
    (reply : Except LspError (List TreeNode)) :
    (views.receiveChildren asked reply).1.cache view = views.cache view := by
  cases reply with
  | error cause => rfl
  | ok nodes =>
    simp only [receiveChildren]
    split
    · exact cache_store_of_ne views different _
    · rfl

/-- No answer begins or ends a view. -/
@[simp]
theorem isLive_receiveChildren (asked view : String) (reply : Except LspError (List TreeNode)) :
    (views.receiveChildren asked reply).1.isLive view = views.isLive view := by
  cases reply with
  | error cause => rfl
  | ok nodes =>
    simp only [receiveChildren]
    split
    · exact isLive_store views _ _ _
    · rfl

/-- A view is disposed for itself alone. -/
theorem isLive_dispose (gone view : String) :
    (views.dispose gone).1.isLive view = (decide (gone ≠ view) && views.isLive view) := by
  by_cases same : gone = view <;> simp [dispose, isLive, Table.contains, same]

/-- A disposal leaves the other views as they are. -/
theorem cache_dispose_of_ne {gone view : String} (different : gone ≠ view) :
    (views.dispose gone).1.cache view = views.cache view := by
  simp [dispose, cache, different]

/-- A node that is taken makes no view live and ends none. -/
@[simp]
theorem isLive_takeNode (node : TreeNode) (view : String) :
    (views.takeNode node).1.isLive view = views.isLive view := by
  unfold takeNode
  split
  · split
    · exact isLive_store views _ _ _
    · rfl
  · rfl

/-- A node that the server tells of its own accord is stored in the view that it names. -/
theorem cache_takeNode (node : TreeNode) {view : String} (live : views.isLive view = true) :
    (views.takeNode node).1.cache view =
      (views.cache view).store (identified ([node].filter fun node => node.view = view)) := by
  unfold takeNode
  by_cases named : node.view = view
  · subst named
    cases carried : node.uri with
    | none => simp [live, identified, carried, Cache.store]
    | some uri => simp [live, cache_store_self, identified, carried]
  · split
    · split
      · simp [cache_store_of_ne, named, identified, Cache.store]
      · simp [named, identified, Cache.store]
    · simp [named, identified, Cache.store]

/-- A message about nodes makes no view live and ends none. -/
@[simp]
theorem isLive_change (nodes : List TreeNode) (view : String) :
    (views.change nodes).1.isLive view = views.isLive view := by
  induction nodes generalizing views with
  | nil => rfl
  | cons node rest ih =>
    rw [change_cons, ih, isLive_takeNode]

/-- Of the nodes that the server tells of its own accord, a view stores those that name it. -/
theorem cache_change (nodes : List TreeNode) {view : String} (live : views.isLive view = true) :
    (views.change nodes).1.cache view =
      (views.cache view).store (identified (nodes.filter fun node => node.view = view)) := by
  induction nodes generalizing views with
  | nil => rfl
  | cons node rest ih =>
    rw [change_cons, ih _ (by simpa using live), cache_takeNode views node live,
      ← Cache.store_append, ← identified_append, ← List.filter_append]
    rfl

/-- Messages about the nodes of two lists are taken one list after the other. -/
theorem change_append (first second : List TreeNode) :
    (views.change (first ++ second)).1 = ((views.change first).1.change second).1 := by
  induction first generalizing views with
  | nil => rfl
  | cons node rest ih =>
    rw [List.cons_append, change_cons, change_cons]
    exact ih _

end Views

end Tree

/-- The views take the nodes of all events of the server in order; nothing else of the client
changes. -/
theorem Client.handleEvents_fst (editor : Editor) (client : Client) (events : List ServerEvent) :
    (Client.handleEvents editor client events).1 =
      client.withViews (client.views.change (events.flatMap ServerEvent.nodes)).1 := by
  induction events generalizing client with
  | nil => rfl
  | cons event rest ih =>
    simp only [Client.handleEvents, List.flatMap_cons]
    rw [ih, Tree.Views.change_append]
    cases event with
    | clientCommand call =>
      simp only [Client.handleEvent, ServerEvent.nodes, Tree.Views.change_nil]
      split <;> rfl
    | treeChange nodes => rfl

namespace Client

variable (world : Surroundings) (client : Client)

/-- A preview that starts leaves the views alone. -/
@[simp]
theorem views_startPreview (path : Path) :
    (client.startPreview world path).state.views = client.views := by
  unfold startPreview
  split <;> rfl

/-- A panel that is shown or hidden leaves the views alone. -/
@[simp]
theorem views_showPreview (id : Nat) (visible : Bool) :
    (client.showPreview id visible).state.views = client.views := by
  unfold showPreview
  split
  · rfl
  · split
    · rfl
    · split <;> rfl

/-- A panel that is closed leaves the views alone. -/
@[simp]
theorem views_closePreview (id : Nat) : (client.closePreview id).views = client.views := by
  unfold closePreview
  split <;> rfl

/-- The views after an operation has begun: only disposals and what the server tells of its own
accord change them at once. -/
theorem views_issue (operation : Operation) :
    (client.issue world operation).state.views =
      match operation with
      | .dispose view => (client.views.dispose view).1
      | .disposeAll | .deactivate => .empty
      | .serverEvents events => (client.views.change (events.flatMap ServerEvent.nodes)).1
      | _ => client.views := by
  cases operation with
  | children view parent =>
    simp only [issue]
    split <;> rfl
  | parent view node =>
    simp only [issue]
    split <;> rfl
  | reveal position => rfl
  | widget event =>
    simp only [issue]
    split <;> rfl
  | dispose view => rfl
  | disposeAll => rfl
  | serverEvents events =>
    simp only [issue, handleEvents_fst]
    rfl
  | command command =>
    cases command with
    | startPreview path => exact views_startPreview world client path
    | startDebugSession discovery => rfl
    | startRunSession discovery => rfl
    | unrecognized name => rfl
  | showPreview id visible => exact views_showPreview client id visible
  | closePreview id => exact views_closePreview client id
  | start noDebug discovery => rfl
  | startOrTell noDebug discovery => rfl
  | resolve configuration =>
    simp only [issue]
    split <;> rfl
  | describe configuration =>
    simp only [issue]
    split <;> rfl
  | deactivate => rfl

/-- The views after an answer has come: only an answer about children changes them. -/
theorem views_arrive (pending : Pending) (reply : Except LspError Json) :
    (client.arrive world pending reply).state.views =
      match pending with
      | .children view =>
        (client.views.receiveChildren view (Tree.childrenForm.ofReply reply)).1
      | _ => client.views := by
  cases pending with
  | firstPage id =>
    simp only [arrive, receiveFirstPage]
    split <;> rfl
  | page id =>
    simp only [arrive, receivePage]
    split <;> rfl
  | _ => rfl

end Client

end LanguageClient
