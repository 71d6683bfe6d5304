import LanguageClient.Proofs.Fetch

/-!
# Printed trees

The tree of a view is fetched level by level and printed as an outline. `printTree_prints_preorder`
shows what this comes to when the server has one tree, which may tell of a node in many places or
even below itself: either every question is answered and the outline is the preorder of the tree,
cut below the last level, or a question fails and nothing is printed.
-/

namespace LanguageClient.CommandLine

open Server (Transport Session Exchange Serves childrenCall)
open LanguageClient.Tree (ServedTree)

variable {σ : Type} (tree : ServedTree) (view : String)

/-- The calls that ask for the children of all nodes on so many levels, level by level. -/
def levelCalls (nodes : List String) (levels : Nat) : List Server.Call :=
  (List.range levels).flatMap fun depth =>
    (tree.levelBelow nodes depth).map fun uri => childrenCall view (some uri)

/-- One more level asks for the children of the nodes, and then for those of their children. -/
theorem levelCalls_succ (nodes : List String) (levels : Nat) :
    levelCalls tree view nodes (levels + 1) =
      nodes.map (fun uri => childrenCall view (some uri)) ++
        levelCalls tree view (nodes.flatMap fun uri => tree.uris (some uri)) levels := by
  rw [levelCalls, levelCalls, List.range_succ_eq_map, List.flatMap_cons, List.flatMap_map]
  simp only [tree.levelBelow_children]
  rfl

/-- For no nodes nothing is asked. -/
@[simp]
theorem levelCalls_nil (levels : Nat) : levelCalls tree view [] levels = [] := by
  simp [levelCalls]

namespace Stage

/-- The lines of a level whose labels are known. -/
theorem linesOf_eq {views : Tree.Views} {level : List (Nat × String)}
    (known : ∀ entry ∈ level, tree.Knows view views entry.2) (depth : Nat) :
    Tree.Outline.linesOf views view depth level = tree.linesOf depth level := by
  apply List.map_congr_left
  rintro ⟨parent, uri⟩ member
  obtain ⟨node, found, label⟩ := known (parent, uri) member
  simp [Tree.Outline.labelOf, found, label]

/-- The outline grows by the levels of the tree, each fetched in one exchange, or ends with a
question that fails. -/
theorem grow_spec {transport : Transport σ} {limit : Duration}
    (serves : Serves transport limit view tree) (left depth : Nat) (level : List (Nat × String))
    (lines : List Tree.OutlineLine) (stage : Stage (σ × List Exchange))
    (same : stage.session.requestTimeout = limit)
    (live : stage.client.views.isLive view = true)
    (known : ∀ entry ∈ level, tree.Knows view stage.client.views entry.2) :
    ∃ later exchanges, Follows stage later exchanges ∧
      (((∀ exchange ∈ exchanges, exchange.Succeeds limit) ∧
        stage.grow transport.recording view left depth level lines =
          (later, .ok (tree.grown left depth level lines)) ∧
        exchanges.flatMap Exchange.calls = levelCalls tree view (level.map Prod.snd) left) ∨
      ∃ cause, (∃ exchange ∈ exchanges, exchange.FailsWith limit cause) ∧
        stage.grow transport.recording view left depth level lines =
          (later, .error (.lsp cause)) ∧
        exchanges.flatMap Exchange.calls <+: levelCalls tree view (level.map Prod.snd) left) := by
  induction left generalizing depth level lines stage with
  | zero =>
    refine ⟨stage, [], .refl stage, .inl ⟨by simp, ?_, by simp [levelCalls]⟩⟩
    cases level with
    | nil => simp [grow, tree.grown_nil]
    | cons entry rest =>
      simp only [grow]
      rw [linesOf_eq tree view known, ServedTree.grown]
  | succ left ih =>
    cases level with
    | nil => exact ⟨stage, [], .refl stage, .inl ⟨by simp, by simp [grow, tree.grown_nil], by simp⟩⟩
    | cons entry rest =>
      obtain ⟨fetched, exchange, follows, calls, outcome⟩ :=
        fetchAll_spec tree view stage (same ▸ serves) live ((entry :: rest).map Prod.snd)
      rw [same] at outcome
      rw [levelCalls_succ]
      rcases outcome with ⟨answered, result, learns, kids⟩ | ⟨cause, fails, result⟩
      · have knownNext : ∀ next ∈ tree.nextLevel lines.length (entry :: rest),
            tree.Knows view fetched.client.views next.2 := by
          intro next member
          have inside := List.mem_map_of_mem (f := Prod.snd) member
          rw [tree.map_snd_nextLevel] at inside
          obtain ⟨parent, above, below⟩ := List.mem_flatMap.mp inside
          exact kids parent above next.2 below
        have knownLevel : ∀ old ∈ entry :: rest, tree.Knows view fetched.client.views old.2 :=
          fun old member => learns.keeps old.2 (known old member)
        have grows : stage.grow transport.recording view (left + 1) depth (entry :: rest) lines =
            fetched.grow transport.recording view left (depth + 1)
              (tree.nextLevel lines.length (entry :: rest))
              (lines ++ tree.linesOf depth (entry :: rest)) := by
          simp only [grow, result]
          rw [linesOf_eq tree view knownLevel, List.map_map]
          rfl
        obtain ⟨later, exchanges, followsRest, outcome⟩ := ih (depth + 1)
          (tree.nextLevel lines.length (entry :: rest))
          (lines ++ tree.linesOf depth (entry :: rest)) fetched (follows.limit.trans same)
          learns.live knownNext
        rw [tree.map_snd_nextLevel] at outcome
        refine ⟨later, [exchange] ++ exchanges, follows.trans followsRest, ?_⟩
        rw [grows, List.flatMap_append, List.flatMap_singleton, calls]
        rcases outcome with ⟨all, result, asked⟩ | ⟨cause, ⟨other, member, fails⟩, result, asked⟩
        · left
          exact ⟨List.forall_mem_append.mpr ⟨List.forall_mem_singleton.mpr answered, all⟩, result,
            by rw [asked]⟩
        · right
          exact ⟨cause, ⟨other, List.mem_append_right _ member, fails⟩, result,
            (List.prefix_append_right_inj _).mpr asked⟩
      · refine ⟨fetched, [exchange], follows, .inr ⟨cause, ⟨exchange, by simp, fails⟩, ?_, ?_⟩⟩
        · simp only [grow, result]
        · rw [List.flatMap_singleton, calls]
          exact List.prefix_append _ _

/-- The roots are fetched in one exchange of one question. -/
theorem performRoots_spec {transport : Transport σ} (stage : Stage (σ × List Exchange))
    (serves : Serves transport stage.session.requestTimeout view tree)
    (live : stage.client.views.isLive view = true) :
    ∃ later exchange, Follows stage later [exchange] ∧
      exchange.calls = [childrenCall view none] ∧
      ((exchange.Succeeds stage.session.requestTimeout ∧
        stage.perform transport.recording (.children view none) =
          (later, .uris (.ok (tree.uris none))) ∧
        tree.Learns view stage.client.views later.client.views ∧
        ∀ uri ∈ tree.uris none, tree.Knows view later.client.views uri) ∨
      ∃ cause, exchange.FailsWith stage.session.requestTimeout cause ∧
        stage.perform transport.recording (.children view none) =
          (later, .uris (.error (.lsp cause)))) := by
  obtain ⟨exchange, limit, record, settled⟩ :=
    Session.askAll_settled tree view stage.session serves [none]
  have begins : stage.client.issue stage.surroundings (.children view none) =
      stage.client.waits (.children ⟨view, none⟩) (.children view) := by
    simp [Client.issue, Tree.Views.askChildren, Tree.Views.requireLive, live, Except.map]
  simp only [List.map_cons, List.map_nil] at limit record settled
  have performed : stage.perform transport.recording (.children view none) =
      (⟨(stage.session.ask transport.recording (.children ⟨view, none⟩)).1,
        stage.client.withViews (stage.client.views.receiveChildren view (Tree.childrenForm.ofReply
          (stage.session.ask transport.recording (.children ⟨view, none⟩)).2)).1,
        stage.terminal⟩,
      .uris (stage.client.views.receiveChildren view (Tree.childrenForm.ofReply
        (stage.session.ask transport.recording (.children ⟨view, none⟩)).2)).2) := by
    simp only [perform, begins]
    rfl
  rw [performed, Session.ask]
  generalize stage.session.askAll transport.recording [.children ⟨view, none⟩] = asked
    at limit record settled ⊢
  obtain ⟨session, replies⟩ := asked
  -- the only question has place zero
  have place : replies.map Prod.fst = [0] := List.perm_singleton.mp settled.places
  obtain ⟨⟨index, reply⟩, rest, rfl⟩ : ∃ first rest, replies = first :: rest := by
    cases replies with
    | nil => cases place
    | cons first rest => exact ⟨first, rest, rfl⟩
  simp only [List.map_cons, List.cons.injEq, List.map_eq_nil_iff] at place
  obtain ⟨rfl, rfl⟩ := place
  cases read : Tree.childrenForm.ofReply reply with
  | error cause =>
    refine ⟨⟨session, stage.client.withViews stage.client.views, stage.terminal⟩, exchange,
      ⟨limit, rfl, record⟩, settled.calls, .inr ⟨cause, ?_, ?_⟩⟩
    · exact settled.fails cause ⟨_, List.mem_singleton_self _, read⟩
    · rfl
  | ok nodes =>
    obtain rfl := settled.fixed _ (List.mem_singleton_self _) nodes read
    obtain ⟨learns, known⟩ := tree.learns_store view live none
    refine ⟨⟨session, stage.client.withViews _, stage.terminal⟩, exchange,
      ⟨limit, rfl, record⟩, settled.calls, .inl ⟨?_, ?_, learns, known⟩⟩
    · exact settled.succeeds (List.forall_mem_singleton.mpr ⟨_, read⟩)
    · simp only [Tree.Views.receiveChildren_of_live _ live]
      rfl

end Stage

/-- Lines are printed one below the other. -/
theorem foldl_print (lines : List String) (terminal : Terminal) :
    lines.foldl Terminal.print terminal =
      { terminal with printed := terminal.printed ++ lines } := by
  induction lines generalizing terminal with
  | nil => simp
  | cons line rest ih => simp [ih, Terminal.print]

/-- The outline of a live view whose server has one tree, down to a depth. The roots are asked for
first and then the children of every node above the last level, each as often as it occurs. If all
questions are answered, in whatever order, the preorder of the tree is printed, cut below the last
level; if one fails its cause is reported and nothing is printed. -/
theorem printTree_prints_preorder (transport : Transport σ) (view : String) (depth : Nat)
    (tree : ServedTree) (stage : Stage (σ × List Exchange))
    (serves : Serves transport stage.session.requestTimeout view tree)
    (live : stage.client.views.isLive view = true) :
    ∃ after exchanges, after.session.state.2 = stage.session.state.2 ++ exchanges ∧
      (((∀ exchange ∈ exchanges, exchange.Succeeds stage.session.requestTimeout) ∧
        printTree transport.recording view depth stage = (after, .ok ()) ∧
        after.terminal = { stage.terminal with
          printed := stage.terminal.printed ++
            tree.preorder (max 1 depth) 0 (tree.uris none) } ∧
        exchanges.flatMap Exchange.calls =
          childrenCall view none :: levelCalls tree view (tree.uris none) (max 1 depth - 1)) ∨
      ∃ cause, (∃ exchange ∈ exchanges,
          exchange.FailsWith stage.session.requestTimeout cause) ∧
        printTree transport.recording view depth stage =
          (after, .error (.told (TreeError.lsp cause).message)) ∧
        after.terminal = stage.terminal ∧
        exchanges.flatMap Exchange.calls <+:
          childrenCall view none :: levelCalls tree view (tree.uris none) (max 1 depth - 1)) := by
  have levels : max 1 depth - 1 = depth - 1 := by omega
  have cut : max 1 depth = depth - 1 + 1 := by omega
  obtain ⟨begun, exchange, follows, calls, outcome⟩ :=
    Stage.performRoots_spec tree view stage serves live
  rw [levels, cut]
  rcases outcome with ⟨answered, result, learns, known⟩ | ⟨cause, fails, result⟩
  · have knownRoots : ∀ entry ∈ (tree.uris none).map fun uri => (0, uri),
        tree.Knows view begun.client.views entry.2 := by
      intro entry member
      obtain ⟨uri, inside, rfl⟩ := List.mem_map.mp member
      exact known uri inside
    obtain ⟨later, exchanges, followsRest, outcome⟩ := Stage.grow_spec tree view serves (depth - 1)
      0 ((tree.uris none).map fun uri => (0, uri)) [] begun follows.limit learns.live knownRoots
    have roots : ((tree.uris none).map fun uri => (0, uri)).map Prod.snd = tree.uris none := by
      rw [List.map_map]
      exact List.map_id _
    rw [roots] at outcome
    have whole := follows.trans followsRest
    rcases outcome with ⟨all, grown, asked⟩ | ⟨cause, ⟨other, member, fails⟩, grown, asked⟩
    · refine ⟨{ later with terminal := { later.terminal with
          printed := later.terminal.printed ++ tree.preorder (depth - 1 + 1) 0 (tree.uris none) } },
        [exchange] ++ exchanges, whole.record, .inl ⟨?_, ?_, ?_, ?_⟩⟩
      · exact List.forall_mem_append.mpr ⟨List.forall_mem_singleton.mpr answered, all⟩
      · simp only [printTree, Stage.outline, result, grown, Except.map]
        rw [tree.render_grown, foldl_print]
      · rw [whole.terminal]
      · rw [List.flatMap_append, List.flatMap_singleton, calls, asked]
        rfl
    · refine ⟨later, [exchange] ++ exchanges, whole.record,
        .inr ⟨cause, ?_, ?_, whole.terminal, ?_⟩⟩
      · exact ⟨other, List.mem_append_right _ member, fails⟩
      · simp only [printTree, Stage.outline, result, grown, Except.map]
      · rw [List.flatMap_append, List.flatMap_singleton, calls]
        exact (List.prefix_append_right_inj _).mpr asked
  · refine ⟨begun, [exchange], follows.record, .inr ⟨cause, ?_, ?_, follows.terminal, ?_⟩⟩
    · exact ⟨exchange, by simp, fails⟩
    · simp only [printTree, Stage.outline, result]
    · rw [List.flatMap_singleton, calls]
      exact ⟨_, rfl⟩

/-- A node of the view `rcAst`, as a server tells of it. -/
def nodeJson (uri : String) : Json :=
  .obj [("label", .str ("node " ++ uri)), ("nodeUri", .str uri), ("viewId", .str "rcAst")]

/-- What a server answers whose nodes stand below each other: the only root has one child twice,
whose only child is the root again. Beside the root stands a node that cannot be named. -/
def cyclicAnswer (call : Server.Call) : Json :=
  if call = childrenCall "rcAst" none then
    .obj [("nodes", .arr [nodeJson "a",
      .obj [("label", .str "nameless"), ("viewId", .str "rcAst")]])]
  else if call = childrenCall "rcAst" (some "a") then
    .obj [("nodes", .arr [nodeJson "b", nodeJson "b"])]
  else if call = childrenCall "rcAst" (some "b") then .obj [("nodes", .arr [nodeJson "a"])]
  else .obj []

/-- A connection to that server, on which of several answers the last one arrives first. -/
def cyclicTransport : Transport Unit where
  ask _ calls state :=
    (state, (calls.zipIdx.map fun (call, place) => (place, .ok (cyclicAnswer call))).reverse)
  tell _ state := (state, .ok ())
  events state := (state, [])

/-- The time that the server has for an answer. -/
def tenSeconds : Duration := .ofSeconds 10

/-- Whatever that server is asked, the label of a node tells its URI. -/
theorem label_of_cyclicAnswer (call : Server.Call) :
    ∀ node ∈ (Server.childrenOf tenSeconds (.ok (cyclicAnswer call))).toOption.getD [],
      ∀ uri ∈ node.uri, node.label = "node " ++ uri := by
  unfold cyclicAnswer
  split
  · decide
  · split
    · decide
    · split <;> decide

/-- The tree of that server. -/
def cyclicTree : ServedTree where
  children parent :=
    (Server.childrenOf tenSeconds
      (.ok (cyclicAnswer (childrenCall "rcAst" parent)))).toOption.getD []
  label uri := "node " ++ uri
  labelled parent := label_of_cyclicAnswer (childrenCall "rcAst" parent)

/-- The transport answers from a tree that has a cycle. -/
theorem serves_cyclicTransport : Serves cyclicTransport tenSeconds "rcAst" cyclicTree := by
  constructor
  · intro parents state
    simp only [cyclicTransport, List.map_reverse, List.map_map]
    refine (List.reverse_perm _).trans (List.Perm.of_eq ?_)
    calc ((parents.map (childrenCall "rcAst")).zipIdx.map Prod.snd)
      _ = List.range' 0 (parents.map (childrenCall "rcAst")).length := List.zipIdx_map_snd ..
      _ = List.range parents.length := by rw [List.length_map, List.range_eq_range']
  · intro parents state answer member parent nodes found read
    simp only [cyclicTransport, List.mem_reverse, List.mem_map] at member
    obtain ⟨⟨call, place⟩, asked, rfl⟩ := member
    have at_place := List.mk_mem_zipIdx_iff_getElem?.mp asked
    rw [List.getElem?_map, found] at at_place
    obtain rfl := Option.some.inj at_place
    simp only [cyclicTree]
    rw [read]
    rfl

/-- A client that has just been activated, in a session with that server. -/
def cyclicStage : Stage (Unit × List Exchange) :=
  ⟨⟨((), []), tenSeconds, .null, .empty⟩, (Client.activate .standard).1, .blank (.bare []) none⟩

/-- On three levels the root is printed three times; the tree has no end. -/
theorem printTree_prints_preorder_cyclic :
    cyclicStage.client.views.isLive "rcAst" = true ∧
      (printTree cyclicTransport.recording "rcAst" 3 cyclicStage).1.terminal.printed =
        ["node a", "  node b", "    node a", "  node b", "    node a"] := by
  have live : cyclicStage.client.views.isLive "rcAst" = true := by decide
  refine ⟨live, ?_⟩
  obtain ⟨after, exchanges, -, outcome⟩ := printTree_prints_preorder cyclicTransport "rcAst" 3
    cyclicTree cyclicStage serves_cyclicTransport live
  have fine : (printTree cyclicTransport.recording "rcAst" 3 cyclicStage).2.toBool = true := by
    decide
  rcases outcome with ⟨-, result, terminal, -⟩ | ⟨cause, -, result, -⟩
  · rw [result]
    simp only [terminal]
    decide
  · rw [result] at fine
    cases fine

end LanguageClient.CommandLine
