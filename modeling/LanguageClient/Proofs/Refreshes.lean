import LanguageClient.Proofs.LastArrival
import LanguageClient.Proofs.ServerPushes
import Mathlib.Data.List.Forall2

/-!
# Refreshes

A message of the server about nodes is taken node by node: each node is stored in the view that it
names, and then its widget is refreshed, so that the widget finds the node when it asks for it.
`change_refreshes` says so for every state that a run of the client reaches; it speaks of the views
as the editor finds them at each call, and of the views after the message.
-/

namespace LanguageClient

namespace Tree

/-- The editor is called to refresh what a node stands for, and finds the node already stored. -/
structure Moment.Refreshes (node : TreeNode) (moment : Moment) : Prop where
  /-- The node is refreshed if it has a URI, else its whole view. -/
  call : moment.call = .refresh node.view node.uri
  /-- The node is found under its URI. -/
  stored : ∀ uri, node.uri = some uri → moment.views.node? node.view uri = some node

namespace Views

variable (views : Views)

/-- A node that is stored in a live view is found there. -/
theorem node?_store_single {view : String} (live : views.isLive view = true) (uri : String)
    (node : TreeNode) : (views.store view [(uri, node)]).node? view uri = some node := by
  rw [node?, cache_store_self views live]
  simp [Cache.store]

/-- A node of a live view is stored, and then the editor is called once. -/
theorem moments_takeNode {node : TreeNode} (live : views.isLive node.view = true) :
    ∃ moment, (views.takeNode node).2 = [moment] ∧ moment.Refreshes node := by
  cases carried : node.uri with
  | none =>
    refine ⟨⟨.refresh node.view none, views⟩, by simp [takeNode, live, carried], ?_⟩
    exact ⟨by rw [carried], by simp [carried]⟩
  | some own =>
    refine ⟨⟨.refresh node.view (some own), views.store node.view [(own, node)]⟩,
      by simp [takeNode, live, carried], by rw [carried], ?_⟩
    intro uri same
    obtain rfl : own = uri := Option.some.inj (carried.symm.trans same)
    exact node?_store_single views live own node

/-- The editor is called for the nodes of live views, in their order. -/
theorem moments_takeNodes (nodes : List TreeNode) :
    List.Forall₂ Moment.Refreshes (nodes.filter fun node => views.isLive node.view)
      (views.takeNodes nodes).2 := by
  induction nodes generalizing views with
  | nil => exact .nil
  | cons node rest ih =>
    -- a node ends no view, so the rest of the message meets the same live views
    have others : List.Forall₂ Moment.Refreshes (rest.filter fun other => views.isLive other.view)
        ((views.takeNode node).1.takeNodes rest).2 := by
      simpa only [isLive_takeNode] using ih (views.takeNode node).1
    by_cases live : views.isLive node.view = true
    · obtain ⟨moment, only, refreshes⟩ := moments_takeNode views live
      have taken : (views.takeNodes (node :: rest)).2 =
          moment :: ((views.takeNode node).1.takeNodes rest).2 := by
        simp only [takeNodes, only, List.singleton_append]
      rw [List.filter_cons, if_pos live, taken]
      exact .cons refreshes others
    · have none : (views.takeNode node).2 = [] := congrArg Prod.snd (takeNode_of_gone views live)
      have taken : (views.takeNodes (node :: rest)).2 =
          ((views.takeNode node).1.takeNodes rest).2 := by
        simp only [takeNodes, none, List.nil_append]
      rw [List.filter_cons, if_neg live, taken]
      exact others

/-- What a view knows after a message about nodes is what the message wrote last, or what the view
knew before. -/
theorem node?_change (nodes : List TreeNode) {view : String} (live : views.isLive view = true)
    (uri : String) :
    (views.change nodes).1.node? view uri =
      (Client.latest uri (identified (nodes.filter fun node => node.view = view))).or
        (views.node? view uri) := by
  rw [node?, cache_change views nodes live, Client.get?_store]
  rfl

/-- A view that is not live has no nodes. -/
theorem node?_of_gone {view : String} (gone : views.isLive view = false) (uri : String) :
    views.node? view uri = none := by
  rw [node?, cache_of_gone views gone, Table.get?_empty]

end Views

/-- Nothing is written under a URI that no node for the view carries. -/
theorem latest_identified_eq_none {nodes : List TreeNode} {view uri : String}
    (absent : ∀ node ∈ nodes, node.view = view → node.uri ≠ some uri) :
    Client.latest uri (identified (nodes.filter fun node => node.view = view)) = none := by
  rw [Option.eq_none_iff_forall_ne_some]
  intro node found
  obtain ⟨carried, member⟩ := uri_of_mem_identified (Client.mem_of_latest found)
  obtain ⟨inside, named⟩ := List.mem_filter.mp member
  exact absent node inside (of_decide_eq_true named) carried

/-- What a message about some nodes does: the views before and after it, and the calls of the
editor. -/
structure Refreshed (before after : Views) (nodes : List TreeNode) (calls : List EditorCall) :
    Prop where
  /-- Each node of a live view has its widget refreshed once, in the order of the message: the node
  if it has a URI, else the whole view. The editor is called for nothing else. -/
  refreshes : calls = (nodes.filter fun node => before.isLive node.view).map fun node =>
    .refresh node.view node.uri
  /-- These are the calls that are made while the nodes are taken. -/
  made : (before.takeNodes nodes).2.map Moment.call = calls
  /-- At the time of each call its node is already stored. -/
  stored : List.Forall₂ Moment.Refreshes (nodes.filter fun node => before.isLive node.view)
    (before.takeNodes nodes).2
  /-- Afterwards a live view holds the last node of the message under each URI. -/
  last : ∀ earlier node later uri, nodes = earlier ++ node :: later →
    before.isLive node.view = true → node.uri = some uri →
    (∀ other ∈ later, other.view = node.view → other.uri ≠ some uri) →
    after.node? node.view uri = some node
  /-- What the message does not write stays as it was. -/
  others : ∀ view uri, before.isLive view = false ∨
      (∀ node ∈ nodes, node.view = view → node.uri ≠ some uri) →
    after.node? view uri = before.node? view uri
  /-- No view begins or ends. -/
  live : ∀ view, after.isLive view = before.isLive view

/-- A message about nodes refreshes what it has written, and nothing else. -/
theorem Views.refreshed_change (views : Views) (nodes : List TreeNode) :
    Refreshed views (views.change nodes).1 nodes (views.change nodes).2 := by
  have moments := views.moments_takeNodes nodes
  refine ⟨?_, rfl, moments, ?_, ?_, views.isLive_change nodes⟩
  · show (views.takeNodes nodes).2.map Moment.call = _
    symm
    rw [← List.forall₂_eq_eq_eq, List.forall₂_map_left_iff, List.forall₂_map_right_iff]
    exact moments.imp fun node moment refreshes => refreshes.call.symm
  · rintro earlier node later uri rfl live carried unrepeated
    have own : Client.latest uri (identified
        ((node :: later).filter fun other => other.view = node.view)) = some node := by
      have here : identified [node] = [(uri, node)] := by simp [identified, carried]
      rw [List.filter_cons_of_pos (by simp), ← List.singleton_append, identified_append,
        Client.latest_append, latest_identified_eq_none unrepeated, here]
      simp [Client.latest]
    rw [node?_change views _ live, List.filter_append, identified_append, Client.latest_append, own]
    rfl
  · rintro view uri (gone | absent)
    · rw [node?_of_gone views gone, node?_of_gone]
      rw [isLive_change, gone]
    · cases live : views.isLive view with
      | true => rw [node?_change views nodes live, latest_identified_eq_none absent, Option.none_or]
      | false =>
        rw [node?_of_gone views live, node?_of_gone]
        rw [isLive_change, live]

end Tree

namespace Client

/-- In every state that a run of the client reaches, a message of the server about nodes has the
widgets of the nodes of live views refreshed, in order and each after its node was stored; and
afterwards the views hold the last node of each URI in the message, and else what they held. -/
theorem change_refreshes (settings : Settings) (events : List (Event Operation))
    (world : Surroundings) (nodes : List TreeNode) :
    let reached := run settings events
    let later := reached.step machine (.issue world (.serverEvents [.treeChange nodes]))
    Tree.Refreshed reached.state.views later.state.views nodes (callsIn (reached.since later)) := by
  intro reached later
  have turn : reached.state.issue world (.serverEvents [.treeChange nodes]) =
      (reached.state.withViews (reached.state.views.change nodes).1).done
        (reached.state.views.change nodes).2 .nothing := by
    simp [issue, handleEvents, handleEvent]
  have grown : later.log = reached.log ++ [.ofIssue world (.serverEvents [.treeChange nodes])
      (reached.state.issue world (.serverEvents [.treeChange nodes]))] := rfl
  have calls : callsIn (reached.since later) = (reached.state.views.change nodes).2 := by
    rw [Run.since_append List.prefix_rfl grown, Run.since_self, List.nil_append, callsIn,
      List.flatMap_singleton, Happening.calls_ofIssue, turn]
    rfl
  have views : later.state.views = (reached.state.views.change nodes).1 :=
    congrArg (fun turn => turn.state.views) turn
  rw [calls, views]
  exact reached.state.views.refreshed_change nodes

end Client

end LanguageClient
