import LanguageClient.Proofs.ClientRun
import Mathlib.Data.List.Induction

/-!
# Revealed chains

The server answers a reveal with a chain that leads from a node up to its root, and the editor is
led down the chain: every ancestor is unfolded, the root first, and the node is selected last.
`reveal_walks_chain` says so for every run of the client. Whether anything is revealed depends on
the views that are live when the chain arrives, and nothing is stored for it.
-/

namespace LanguageClient

namespace Tree

/-- Some calls of the editor walk down a chain: the ancestors are unfolded from the root on, and
the node that the chain starts with is selected at the end. -/
inductive Walks (view : String) : List String → List EditorCall → Prop
  /-- A node at the top is selected. -/
  | target (uri : String) : Walks view [uri] [.select view uri]
  /-- A further ancestor is unfolded before the walk goes on below it. -/
  | ancestor {uris : List String} {calls : List EditorCall} (root : String)
    (walks : Walks view uris calls) : Walks view (uris ++ [root]) (.expand view root :: calls)

/-- The node that a step is about. -/
def RevealStep.uri : RevealStep → String
  | .expand uri => uri
  | .select uri => uri

namespace RevealPlan

/-- The chain that a plan walks down. -/
def chain (plan : RevealPlan) : Chain := ⟨plan.view, (plan.steps.map RevealStep.uri).reverse⟩

/-- The calls for the steps of a plan walk down its chain. -/
theorem walks_calls (view target : String) (ancestors : List String) :
    Walks view (target :: ancestors)
      ((ancestors.reverse.map RevealStep.expand ++ [RevealStep.select target]).map
        (call view)) := by
  -- the root comes first among the calls, so the chain is taken from its end
  induction ancestors using List.reverseRecOn with
  | nil => exact .target target
  | append_singleton ancestors root ih =>
    rw [List.reverse_append, ← List.cons_append]
    exact .ancestor root ih

/-- A chain that is not empty has a plan, which is for its view, walks down the chain and tells
what the chain was. -/
theorem ofChain?_of_ne_nil {chain : Chain} (long : chain.uris ≠ []) :
    ∃ plan, ofChain? chain = some plan ∧ plan.view = chain.view ∧
      Walks chain.view chain.uris plan.calls ∧ plan.chain = chain := by
  obtain ⟨view, uris⟩ := chain
  cases uris with
  | nil => exact absurd rfl long
  | cons target ancestors =>
    refine ⟨_, rfl, rfl, walks_calls view target ancestors, ?_⟩
    have unfolded : RevealStep.uri ∘ RevealStep.expand = id := rfl
    simp [RevealPlan.chain, unfolded, RevealStep.uri]

/-- The chain of a plan is the one that it was made for. -/
theorem chain_of_ofChain? {chain : Chain} {plan : RevealPlan} (made : ofChain? chain = some plan) :
    plan.chain = chain := by
  have long : chain.uris ≠ [] := by
    intro short
    simp [ofChain?, short] at made
  obtain ⟨other, same, -, -, back⟩ := ofChain?_of_ne_nil long
  obtain rfl := Option.some.inj (made.symm.trans same)
  exact back

end RevealPlan

/-- What a reply to the question for a chain comes to, with the views as they are when it
arrives: what the editor is called for, and the answer of the reveal. -/
inductive Revealed (views : Views) (reply : Except LspError Json) :
    List EditorCall → Except TreeError (Option RevealPlan) → Prop
  /-- The chain of a live view is walked down, and the answer is the plan of these steps. -/
  | walked (chain : Chain) (plan : RevealPlan)
    (read : Chain.form.nullable.ofReply reply = .ok (some chain))
    (live : views.isLive chain.view = true) (own : plan.view = chain.view)
    (walks : Walks chain.view chain.uris plan.calls) (recovered : plan.chain = chain) :
    Revealed views reply plan.calls (.ok (some plan))
  /-- There is no node to reveal. -/
  | unknown (read : Chain.form.nullable.ofReply reply = .ok none) :
    Revealed views reply [] (.ok none)
  /-- The chain is empty, or its view is not live. -/
  | dropped (chain : Chain) (read : Chain.form.nullable.ofReply reply = .ok (some chain))
    (useless : chain.uris = [] ∨ views.isLive chain.view = false) :
    Revealed views reply [] (.ok none)
  /-- No payload has come, or one that is no chain. -/
  | failed (cause : LspError) (unread : Chain.form.nullable.ofReply reply = .error cause) :
    Revealed views reply [] (.error (.lsp cause))

/-- A reply is received as `Revealed` says. -/
theorem Views.revealed_receiveReveal (views : Views) (reply : Except LspError Json) :
    Revealed views reply (views.receiveReveal (Chain.form.nullable.ofReply reply)).1
      (views.receiveReveal (Chain.form.nullable.ofReply reply)).2 := by
  rcases read : Chain.form.nullable.ofReply reply with cause | _ | chain
  · exact .failed cause read
  · exact .unknown read
  · cases live : views.isLive chain.view with
    | false =>
      simp only [receiveReveal, live, Bool.false_eq_true, ↓reduceIte]
      exact .dropped chain read (.inr live)
    | true =>
      by_cases short : chain.uris = []
      · have none : RevealPlan.ofChain? chain = none := by simp [RevealPlan.ofChain?, short]
        simp only [receiveReveal, live, ↓reduceIte, none]
        exact .dropped chain read (.inl short)
      · obtain ⟨plan, made, own, walks, recovered⟩ := RevealPlan.ofChain?_of_ne_nil short
        simp only [receiveReveal, live, ↓reduceIte, made]
        exact .walked chain plan read live own walks recovered

end Tree

namespace Client

/-- In every run of the client, a reveal asks for its chain at once and does nothing else. When the
reply arrives, whatever has happened in between, the client stays as it is with all its nodes, and
the editor is called in one piece for the chain of a view that is live at that moment, or not at
all, as `Tree.Revealed` says. No two chains have the same plan. -/
theorem reveal_walks_chain (settings : Settings) (events : List (Event Operation))
    (position : DocumentPosition) :
    (∀ world, (run settings events).step machine (.issue world (.reveal position)) =
        { state := (run settings events).state
          waiting := (run settings events).waiting.insert (run settings events).log.length
            ⟨.reveal position, .reveal position, .reveal⟩
          log := (run settings events).log ++ [
            { cause := .issued (.reveal position)
              world := world
              request := some (.reveal position)
              notices := []
              calls := []
              answer := none }] }) ∧
      (∀ number asked, (run settings events).waiting.get? number = some asked →
        asked.operation = .reveal position → ∀ world reply, ∃ calls result,
          (run settings events).step machine (.arrive world number reply) =
            { state := (run settings events).state
              waiting := (run settings events).waiting.erase number
              log := (run settings events).log ++ [
                { cause := .answered (.reveal position) number reply
                  world := world
                  request := none
                  notices := []
                  calls := calls
                  answer := some (.plan result) }] } ∧
            Tree.Revealed (run settings events).state.views reply calls result) ∧
      ∀ first second plan, Tree.RevealPlan.ofChain? first = some plan →
        Tree.RevealPlan.ofChain? second = some plan → first = second := by
  refine ⟨fun world => rfl, ?_, ?_⟩
  · rintro number ⟨operation, request, pending⟩ isOpen rfl world reply
    cases awaits_of_honest (honest_run settings events) isOpen
    refine ⟨_, _, ?_, (run settings events).state.views.revealed_receiveReveal reply⟩
    exact Run.step_arrive_of_kept machine _ isOpen rfl
  · intro first second plan made madeToo
    rw [← Tree.RevealPlan.chain_of_ofChain? made, Tree.RevealPlan.chain_of_ofChain? madeToo]

/-- The start of a document. -/
def documentStart : DocumentPosition := ⟨⟨"file", none, "/a.rx", none, none⟩, ⟨0, 0⟩⟩

/-- Two reveals wait for their chains while the widget of the view is used. -/
def twoReveals : List (Event Operation) := [
  .issue .quiet (.reveal documentStart),
  .issue .quiet (.widget (.collapsed "rcAst" "ast://0")),
  .issue .quiet (.reveal documentStart)]

/-- A chain on the wire. -/
def chainOf (view : String) (uris : List String) : Except LspError Json :=
  .ok (Tree.Chain.form.encode ⟨view, uris⟩)

/-- A node that is its own ancestor is unfolded, and selected in the end. -/
theorem reveal_walks_chain_repeated :
    (run .standard twoReveals).waiting.contains 2 = true ∧
      Tree.Revealed (run .standard twoReveals).state.views
        (chainOf "rcAst" ["ast://1", "ast://0", "ast://1"])
        [.expand "rcAst" "ast://1", .expand "rcAst" "ast://0", .select "rcAst" "ast://1"]
        (.ok (some ⟨"rcAst", [.expand "ast://1", .expand "ast://0", .select "ast://1"]⟩)) := by
  refine ⟨rfl, ?_⟩
  obtain ⟨calls, result, step, revealed⟩ :=
    (reveal_walks_chain .standard twoReveals documentStart).2.1 2 _ rfl rfl .quiet
      (chainOf "rcAst" ["ast://1", "ast://0", "ast://1"])
  have last := congrArg (fun later : ClientRun =>
    later.log.getLast?.map fun happening => (happening.calls, happening.answer)) step
  rw [List.getLast?_concat] at last
  cases last
  exact revealed

end Client

end LanguageClient
