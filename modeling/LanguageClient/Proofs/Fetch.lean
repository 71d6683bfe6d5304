import LanguageClient.Proofs.Preorder
import LanguageClient.Proofs.Recording
import LanguageClient.Proofs.Views

/-!
# Fetching a level

The children of the nodes of a level are asked for at once, and the answers arrive in any order.
`fetchAll_spec` shows that this makes no difference as long as the server has one tree: the
children come back in the order of the nodes, or the fetch fails as one of its questions did.
-/

namespace LanguageClient

namespace Server

/-- The call that asks for the children of a node of a view. -/
def childrenCall (view : String) (parent : Option String) : Call :=
  Session.callOf (.children ⟨view, parent⟩)

/-- What the client reads from what a question for children came to. It is the same for every such
question. -/
def childrenOf (limit : Duration) (outcome : Except ExchangeFailure Json) :
    Except LspError (List TreeNode) :=
  Tree.childrenForm.ofReply (Session.settle limit (.children ⟨"", none⟩) outcome)

namespace Exchange

/-- Every question was answered by children. -/
def Succeeds (limit : Duration) (exchange : Exchange) : Prop :=
  ∀ answer ∈ exchange.answers, ∃ nodes, childrenOf limit answer.2 = .ok nodes

/-- Some question failed with a cause. -/
def FailsWith (limit : Duration) (cause : LspError) (exchange : Exchange) : Prop :=
  ∃ answer ∈ exchange.answers, childrenOf limit answer.2 = .error cause

end Exchange

/-- Over a transport, every question for the children of nodes of a view either fails or is answered
from one tree. -/
structure Serves {σ : Type} (transport : Transport σ) (limit : Duration) (view : String)
    (tree : Tree.ServedTree) : Prop where
  /-- Of questions that are asked at once each comes to something once, in any order. -/
  once : ∀ (parents : List (Option String)) (state : σ),
    ((transport.ask (some limit) (parents.map (childrenCall view)) state).2.map Prod.fst).Perm
      (List.range parents.length)
  /-- What is read from an answer is what the tree holds. -/
  fixed : ∀ (parents : List (Option String)) (state : σ), ∀ answer ∈
    (transport.ask (some limit) (parents.map (childrenCall view)) state).2,
    ∀ parent nodes, parents[answer.1]? = some parent → childrenOf limit answer.2 = .ok nodes →
      nodes = tree.children parent

end Server

namespace Tree.ServedTree

variable (tree : ServedTree) (view : String)

/-- The views hold the label of a node. -/
def Knows (views : Views) (uri : String) : Prop :=
  ∃ node, views.node? view uri = some node ∧ node.label = tree.label uri

/-- A view stays live and forgets no label of the tree. -/
structure Learns (before after : Views) : Prop where
  /-- The view is live. -/
  live : after.isLive view = true
  /-- What is known of the tree stays known. -/
  keeps : ∀ uri, tree.Knows view before uri → tree.Knows view after uri

/-- A cache in which nodes of the tree are stored holds the label of each of them, and every label
that it held before. -/
theorem label_store (nodes : List (String × TreeNode))
    (labelled : ∀ entry ∈ nodes, entry.2.label = tree.label entry.1) (cache : Cache) (uri : String)
    (known : (∃ node, cache.get? uri = some node ∧ node.label = tree.label uri) ∨
      uri ∈ nodes.map Prod.fst) :
    ∃ node, (cache.store nodes).get? uri = some node ∧ node.label = tree.label uri := by
  induction nodes generalizing cache with
  | nil =>
    rcases known with held | member
    · exact held
    · simp at member
  | cons entry rest ih =>
    have first := labelled entry List.mem_cons_self
    apply ih (fun later member => labelled later (List.mem_cons_of_mem _ member))
    rw [Table.get?_insert]
    by_cases same : entry.1 = uri
    · left
      rw [if_pos same]
      exact ⟨entry.2, rfl, by rw [first, same]⟩
    · rw [if_neg same]
      rcases known with held | member
      · exact .inl held
      · rcases List.mem_cons.mp member with here | later
        · exact absurd here.symm same
        · exact .inr later

/-- The children of a node that are stored in a live view are known, and what was known still is. -/
theorem learns_store {views : Views} (live : views.isLive view = true) (parent : Option String) :
    tree.Learns view views (views.store view (identified (tree.children parent))) ∧
      ∀ uri ∈ tree.uris parent,
        tree.Knows view (views.store view (identified (tree.children parent))) uri := by
  have labelled : ∀ entry ∈ identified (tree.children parent),
      entry.2.label = tree.label entry.1 := by
    rintro ⟨uri, node⟩ member
    obtain ⟨carries, inside⟩ := uri_of_mem_identified member
    exact tree.labelled parent node inside uri carries
  have stored := Views.cache_store_self views live (identified (tree.children parent))
  refine ⟨⟨by rw [Views.isLive_store]; exact live, ?_⟩, ?_⟩
  · intro uri known
    rw [Knows, Views.node?, stored]
    exact tree.label_store _ labelled _ uri (.inl known)
  · intro uri member
    rw [Knows, Views.node?, stored]
    apply tree.label_store _ labelled _ uri
    right
    rw [map_fst_identified]
    exact member

variable {view} in
/-- What is learned twice is learned. -/
theorem Learns.trans {first second third : Views} (before : tree.Learns view first second)
    (after : tree.Learns view second third) : tree.Learns view first third :=
  ⟨after.live, fun uri known => after.keeps uri (before.keeps uri known)⟩

end Tree.ServedTree

namespace Server.Session

open LanguageClient.Tree (ServedTree)

variable {σ : Type} (tree : ServedTree) (view : String)

/-- The replies that come of an exchange about the children of some nodes: one for each node, and
each that can be read is from the tree. -/
structure Settled (limit : Duration) (parents : List (Option String)) (exchange : Exchange)
    (replies : List (Nat × Except LspError Json)) : Prop where
  /-- The children of each parent were asked for. -/
  calls : exchange.calls = parents.map (childrenCall view)
  /-- Each question has one reply. -/
  places : (replies.map Prod.fst).Perm (List.range parents.length)
  /-- A reply that can be read says the children of its parent. -/
  fixed : ∀ reply ∈ replies, ∀ nodes, Tree.childrenForm.ofReply reply.2 = .ok nodes →
    nodes = tree.children parents[reply.1]?.join
  /-- If all replies can be read the exchange has succeeded. -/
  succeeds : (∀ reply ∈ replies, ∃ nodes, Tree.childrenForm.ofReply reply.2 = .ok nodes) →
    exchange.Succeeds limit
  /-- If one cannot be read the exchange has failed. -/
  fails : ∀ cause, (∃ reply ∈ replies, Tree.childrenForm.ofReply reply.2 = .error cause) →
    exchange.FailsWith limit cause

/-- Questions about children that are asked at once are recorded as one exchange. -/
theorem askAll_settled {transport : Transport σ} (session : Session (σ × List Exchange))
    (serves : Serves transport session.requestTimeout view tree)
    (parents : List (Option String)) :
    ∃ exchange,
      (session.askAll transport.recording
        (parents.map fun parent => .children ⟨view, parent⟩)).1.requestTimeout =
          session.requestTimeout ∧
      (session.askAll transport.recording
        (parents.map fun parent => .children ⟨view, parent⟩)).1.state.2 =
          session.state.2 ++ [exchange] ∧
      Settled tree view session.requestTimeout parents exchange
        (session.askAll transport.recording
          (parents.map fun parent => .children ⟨view, parent⟩)).2 := by
  have calls : (parents.map fun parent => Request.children ⟨view, parent⟩).map callOf =
      parents.map (childrenCall view) := by
    rw [List.map_map]
    rfl
  refine ⟨⟨parents.map (childrenCall view), (transport.ask (some session.requestTimeout)
    (parents.map (childrenCall view)) session.state.1).2⟩, rfl, ?_, ?_⟩
  · simp only [askAll, Transport.recording, calls]
  · have once := serves.once parents session.state.1
    have fixed := serves.fixed parents session.state.1
    simp only [askAll, Transport.recording, calls]
    generalize (transport.ask (some session.requestTimeout) (parents.map (childrenCall view))
      session.state.1).2 = answers at once fixed ⊢
    show Settled tree view session.requestTimeout parents _ (answers.filterMap fun answer =>
      (parents.map fun parent => Request.children ⟨view, parent⟩)[answer.1]?.map fun request =>
        (answer.1, settle session.requestTimeout request answer.2))
    -- every answer has the place of a question
    have settled : (answers.filterMap fun answer =>
        (parents.map fun parent => Request.children ⟨view, parent⟩)[answer.1]?.map fun request =>
          (answer.1, settle session.requestTimeout request answer.2)) =
        answers.map fun answer => (answer.1, settle session.requestTimeout
          (.children ⟨view, parents[answer.1]?.join⟩) answer.2) := by
      conv_rhs => rw [← List.filterMap_eq_map]
      apply List.filterMap_congr
      intro answer member
      have inside : answer.1 < parents.length :=
        List.mem_range.mp (once.mem_iff.mp (List.mem_map_of_mem member))
      simp [inside]
    rw [settled]
    refine ⟨rfl, ?_, ?_, ?_, ?_⟩
    · rw [List.map_map]
      exact once
    · intro reply member nodes read
      obtain ⟨answer, inside, rfl⟩ := List.mem_map.mp member
      have place : answer.1 < parents.length :=
        List.mem_range.mp (once.mem_iff.mp (List.mem_map_of_mem inside))
      have found : parents[answer.1]? = some parents[answer.1] := List.getElem?_eq_getElem place
      simp only [found, Option.join_some]
      exact fixed answer inside _ nodes found read
    · intro all answer member
      exact all _ (List.mem_map_of_mem member)
    · rintro cause ⟨reply, member, fails⟩
      obtain ⟨answer, inside, rfl⟩ := List.mem_map.mp member
      exact ⟨answer, inside, fails⟩

end Server.Session

namespace CommandLine.Stage

open Server (Transport Session Exchange Serves childrenCall childrenOf)
open LanguageClient.Tree (ServedTree)

variable {σ : Type} (tree : ServedTree) (view : String)

/-- Answers from one tree are taken in the order in which they arrive: either all of them, and then
their nodes are known, or up to one that fails. -/
theorem receiveAll_spec (parents : Nat → Option String)
    (replies : List (Nat × Except LspError Json)) (views : Tree.Views)
    (live : views.isLive view = true)
    (fixed : ∀ reply ∈ replies, ∀ nodes, Tree.childrenForm.ofReply reply.2 = .ok nodes →
      nodes = tree.children (parents reply.1)) :
    ((∀ reply ∈ replies, ∃ nodes, Tree.childrenForm.ofReply reply.2 = .ok nodes) ∧
      ∃ later,
        receiveAll view views replies =
          (later, .ok (replies.map fun reply => (reply.1, tree.uris (parents reply.1)))) ∧
        tree.Learns view views later ∧
        ∀ reply ∈ replies, ∀ uri ∈ tree.uris (parents reply.1), tree.Knows view later uri) ∨
    ∃ cause later, (∃ reply ∈ replies, Tree.childrenForm.ofReply reply.2 = .error cause) ∧
      receiveAll view views replies = (later, .error (.lsp cause)) := by
  induction replies generalizing views with
  | nil => exact .inl ⟨by simp, views, rfl, ⟨live, fun uri known => known⟩, by simp⟩
  | cons reply rest ih =>
    obtain ⟨place, reply⟩ := reply
    cases read : Tree.childrenForm.ofReply reply with
    | error cause =>
      right
      refine ⟨cause, views, ⟨(place, reply), List.mem_cons_self, read⟩, ?_⟩
      simp only [receiveAll, read, Tree.Views.receiveChildren]
    | ok nodes =>
      obtain rfl := fixed (place, reply) List.mem_cons_self nodes read
      obtain ⟨learns, known⟩ := tree.learns_store view live (parents place)
      rcases ih _ learns.live fun later member =>
          fixed later (List.mem_cons_of_mem _ member) with
        ⟨all, later, received, learnsRest, knownRest⟩ |
        ⟨cause, later, ⟨other, member, fails⟩, ended⟩
      · left
        refine ⟨?_, later, ?_, learns.trans tree learnsRest, ?_⟩
        · intro other member
          rcases List.mem_cons.mp member with rfl | inRest
          · exact ⟨_, read⟩
          · exact all other inRest
        · simp only [receiveAll, read, Tree.Views.receiveChildren_of_live views live, received]
          rfl
        · intro other member uri inside
          rcases List.mem_cons.mp member with rfl | inRest
          · exact learnsRest.keeps uri (known uri inside)
          · exact knownRest other inRest uri inside
      · right
        refine ⟨cause, later, ⟨other, List.mem_cons_of_mem _ member, fails⟩, ?_⟩
        simp only [receiveAll, read, Tree.Views.receiveChildren_of_live views live, ended]
        rfl

/-- A later stage of the same session on the same terminal, and what was asked in between. -/
structure Follows (stage later : Stage (σ × List Exchange)) (exchanges : List Exchange) : Prop where
  /-- The time limit is the same. -/
  limit : later.session.requestTimeout = stage.session.requestTimeout
  /-- The terminal is the same. -/
  terminal : later.terminal = stage.terminal
  /-- The exchanges in between are recorded. -/
  record : later.session.state.2 = stage.session.state.2 ++ exchanges

/-- A stage follows itself, and nothing is asked. -/
theorem Follows.refl (stage : Stage (σ × List Exchange)) : Follows stage stage [] :=
  ⟨rfl, rfl, (List.append_nil _).symm⟩

/-- What follows a later stage follows the earlier one, with the questions in order. -/
theorem Follows.trans {first second third : Stage (σ × List Exchange)}
    {before after : List Exchange} (early : Follows first second before)
    (late : Follows second third after) : Follows first third (before ++ after) := by
  refine ⟨late.limit.trans early.limit, late.terminal.trans early.terminal, ?_⟩
  rw [late.record, early.record, List.append_assoc]

/-- The children of all nodes of a live view can be asked for. -/
theorem mapM_askChildren {views : Tree.Views} (live : views.isLive view = true)
    (uris : List String) :
    (uris.mapM fun uri => views.askChildren view (some uri)) =
      .ok (uris.map fun uri => .children ⟨view, some uri⟩) := by
  have each (uri : String) :
      views.askChildren view (some uri) = .ok (.children ⟨view, some uri⟩) := by
    simp [Tree.Views.askChildren, Tree.Views.requireLive, live, Except.map]
  simp only [each]
  exact List.mapM_pure

/-- Whatever the order of the replies, the reply for a place is found by the place. -/
theorem find?_place {α β : Type} (replies : List (Nat × α)) (result : Nat → β) {place : Nat}
    (member : place ∈ replies.map Prod.fst) :
    ((replies.map fun reply => (reply.1, result reply.1)).find? fun entry => entry.1 = place) =
      some (place, result place) := by
  induction replies with
  | nil => simp at member
  | cons reply rest ih =>
    by_cases same : reply.1 = place
    · simp [same]
    · have later : place ∈ rest.map Prod.fst := by
        rcases List.mem_cons.mp member with here | there
        · exact absurd here.symm same
        · exact there
      simp [same, ih later]

/-- A level is fetched in one exchange. If all of its questions are answered the children come in
the order of the nodes, and all of them are known; if one fails, the fetch fails as it did. -/
theorem fetchAll_spec {transport : Transport σ} (stage : Stage (σ × List Exchange))
    (serves : Serves transport stage.session.requestTimeout view tree)
    (live : stage.client.views.isLive view = true) (uris : List String) :
    ∃ later exchange, Follows stage later [exchange] ∧
      exchange.calls = uris.map (fun uri => childrenCall view (some uri)) ∧
      ((exchange.Succeeds stage.session.requestTimeout ∧
        stage.fetchAll transport.recording view uris =
          (later, .ok (uris.map fun uri => tree.uris (some uri))) ∧
        tree.Learns view stage.client.views later.client.views ∧
        ∀ parent ∈ uris, ∀ kid ∈ tree.uris (some parent),
          tree.Knows view later.client.views kid) ∨
      ∃ cause, exchange.FailsWith stage.session.requestTimeout cause ∧
        stage.fetchAll transport.recording view uris = (later, .error (.lsp cause))) := by
  obtain ⟨exchange, limit, record, settled⟩ :=
    Session.askAll_settled tree view stage.session serves (uris.map some)
  simp only [List.map_map] at limit record settled
  rw [fetchAll, mapM_askChildren view live]
  simp only [Function.comp_def] at limit record settled ⊢
  generalize stage.session.askAll transport.recording
    (uris.map fun uri => .children ⟨view, some uri⟩) = asked at limit record settled ⊢
  obtain ⟨session, replies⟩ := asked
  have calls := settled.calls
  rw [List.map_map] at calls
  have taken := receiveAll_spec tree view (fun place => (uris.map some)[place]?.join) replies
    stage.client.views live settled.fixed
  have answered (place : Nat) (inside : place < uris.length) : place ∈ replies.map Prod.fst := by
    rw [settled.places.mem_iff]
    simp [inside]
  rcases taken with ⟨all, views, received, learns, known⟩ | ⟨cause, views, fails, ended⟩
  · refine ⟨{ stage with session := session, client := stage.client.withViews views }, exchange,
      ⟨limit, rfl, record⟩, calls, .inl ⟨settled.succeeds all, ?_, learns, ?_⟩⟩
    · have aligned : ((List.range uris.length).map fun place =>
          (((replies.map fun reply => (reply.1, tree.uris (uris.map some)[reply.1]?.join)).find?
            fun entry => entry.1 = place).map Prod.snd).getD []) =
          uris.map fun uri => tree.uris (some uri) := by
        apply List.ext_getElem
        · simp
        · intro place _ inside
          rw [List.length_map] at inside
          rw [List.getElem_map, List.getElem_range, find?_place replies
            (fun place => tree.uris (uris.map some)[place]?.join) (answered place inside)]
          simp [inside]
      simp only [received, Except.map]
      rw [aligned]
    · intro parent member kid below
      obtain ⟨place, inside, rfl⟩ := List.getElem_of_mem member
      obtain ⟨reply, there, rfl⟩ := List.mem_map.mp (answered place inside)
      apply known reply there
      simpa [inside] using below
  · refine ⟨{ stage with session := session, client := stage.client.withViews views }, exchange,
      ⟨limit, rfl, record⟩, calls, .inr ⟨cause, settled.fails cause fails, ?_⟩⟩
    simp only [ended]
    rfl

end CommandLine.Stage

end LanguageClient
