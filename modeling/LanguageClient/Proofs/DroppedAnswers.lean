import LanguageClient.Proofs.LiveViews

/-!
# Answers for disposed views

What the server answers about a view that was disposed in the meantime is dropped: nothing is
stored, the editor is not called, and the operation ends with nothing. Only a parent is still
handed over; `late_answer_dropped_iff` says that this is the one exception.
-/

namespace LanguageClient

/-- The operation reads a reply that concerns a view: the one that it asked about, or the one that
the chain to reveal belongs to. -/
inductive Operation.Concerns (view : String) (reply : Except LspError Json) : Operation → Prop
  /-- The children of a node of the view come. -/
  | children {parent : Option String} {nodes : List TreeNode}
    (read : Tree.childrenForm.ofReply reply = .ok nodes) :
    Concerns view reply (.children view parent)
  /-- The parent of a node of the view comes, or word that there is none. -/
  | parent {node : String} {found : Option String}
    (read : Tree.parentForm.ofReply reply = .ok found) :
    Concerns view reply (.parent view node)
  /-- A chain of the view comes. -/
  | reveal {position : DocumentPosition} {chain : Tree.Chain}
    (read : Tree.Chain.form.nullable.ofReply reply = .ok (some chain))
    (named : chain.view = view) : Concerns view reply (.reveal position)

/-- The operation asked for the parent of a node, and the reply names it. -/
def Operation.BringsParent (reply : Except LspError Json) (uri : String) : Operation → Prop
  | .parent _ _ => Tree.parentForm.ofReply reply = .ok (some uri)
  | _ => False

/-- The answer of an operation on a view that finds nothing. -/
def Operation.nothing : Operation → Answer
  | .children _ _ => .uris (.ok [])
  | .parent _ _ => .parent (.ok none)
  | .reveal _ => .plan (.ok none)
  | _ => .nothing

namespace Client

variable {operation : Operation} {request : Request} {pending : Pending} {view : String}
  {reply : Except LspError Json}

/-- A reply about a view that is not live changes nothing and calls nobody. It comes to nothing but
for a parent, which is handed over. -/
theorem arrive_of_gone (awaits : operation.Awaits request pending)
    (concerns : operation.Concerns view reply) (world : Surroundings) {client : Client}
    (gone : client.views.isLive view = false) :
    ∃ answer, client.arrive world pending reply = ⟨client, [], [], answer⟩ ∧
      (answer = operation.nothing ↔ ∀ uri, ¬ operation.BringsParent reply uri) ∧
      ∀ uri, operation.BringsParent reply uri → answer = .parent (.ok (some uri)) := by
  cases concerns with
  | children read =>
    cases awaits
    refine ⟨.uris (.ok []), ?_, ?_, ?_⟩
    · simp only [arrive, read, Tree.Views.receiveChildren, gone]
      rfl
    · simp [Operation.nothing, Operation.BringsParent]
    · simp [Operation.BringsParent]
  | @parent node found read =>
    -- this answer does not depend on whether the view is live
    cases awaits
    refine ⟨.parent (.ok found), ?_, ?_, ?_⟩
    · simp only [arrive, read, Tree.Views.receiveParent]
    · cases found with
      | none => simp [Operation.nothing, Operation.BringsParent, read]
      | some uri => simp [Operation.nothing, Operation.BringsParent, read]
    · intro uri brings
      rw [Operation.BringsParent, read] at brings
      cases brings
      rfl
  | reveal read named =>
    cases awaits
    subst named
    refine ⟨.plan (.ok none), ?_, ?_, ?_⟩
    · simp only [arrive, read, Tree.Views.receiveReveal, gone]
      rfl
    · simp [Operation.nothing, Operation.BringsParent]
    · simp [Operation.BringsParent]

/-- In every run of the client, a reply about a view that was disposed leaves the client as it is
and has nobody called. The operation ends with nothing if and only if the reply does not name a
parent that the operation asked for; such a parent is handed over. -/
theorem late_answer_dropped_iff (settings : Settings) (events : List (Event Operation))
    {number : Nat} {asked : Asked Operation Pending} {view : String} {reply : Except LspError Json}
    (isOpen : (run settings events).waiting.get? number = some asked)
    (concerns : asked.operation.Concerns view reply)
    (disposed : ∃ happening ∈ (run settings events).log, happening.Disposes view)
    (world : Surroundings) :
    ∃ answer, (run settings events).step machine (.arrive world number reply) =
        { state := (run settings events).state
          waiting := (run settings events).waiting.erase number
          log := (run settings events).log ++ [
            { cause := .answered asked.operation number reply
              world := world
              request := none
              notices := []
              calls := []
              answer := some answer }] } ∧
      (answer = asked.operation.nothing ↔ ∀ uri, ¬ asked.operation.BringsParent reply uri) ∧
      ∀ uri, asked.operation.BringsParent reply uri → answer = .parent (.ok (some uri)) := by
  have awaits := awaits_of_honest (honest_run settings events) isOpen
  have gone : (run settings events).state.views.isLive view = false := by
    rw [Bool.eq_false_iff]
    intro live
    obtain ⟨happening, member, disposes⟩ := disposed
    exact ((isLive_run_iff settings events view).mp live).2 happening member disposes
  obtain ⟨answer, turn, dropped⟩ := arrive_of_gone awaits concerns world gone
  exact ⟨answer, Run.step_arrive_of_kept machine _ isOpen turn, dropped⟩

/-- A parent is asked for, and its view is disposed. -/
def disposedWhileSeeking : List (Event Operation) := [
  .issue .quiet (.parent "rcAst" "ast://1"),
  .issue .quiet (.dispose "rcAst")]

/-- A parent that comes too late. -/
def parentOf (uri : String) : Except LspError Json := .ok (Tree.parentForm.encode (some uri))

/-- A parent of a disposed view is handed over. -/
theorem late_answer_dropped_iff_parent :
    ∃ answer, ((run .standard disposedWhileSeeking).step machine
        (.arrive .quiet 0 (parentOf "ast://0"))).log.getLast?.bind Happening.answer = some answer ∧
      answer = .parent (.ok (some "ast://0")) := by
  have isOpen : (run .standard disposedWhileSeeking).waiting.get? 0 =
      some ⟨.parent "rcAst" "ast://1", .parent ⟨"rcAst", "ast://1"⟩, .parent⟩ := rfl
  have concerns : (Operation.parent "rcAst" "ast://1").Concerns "rcAst" (parentOf "ast://0") :=
    .parent rfl
  have disposed : ∃ happening ∈ (run .standard disposedWhileSeeking).log,
      happening.Disposes "rcAst" := by decide
  obtain ⟨answer, step, -, handed⟩ :=
    late_answer_dropped_iff .standard disposedWhileSeeking isOpen concerns disposed .quiet
  refine ⟨answer, ?_, handed "ast://0" rfl⟩
  rw [step, List.getLast?_concat]
  rfl

/-- Not every answer for a view that is disposed while it is awaited comes to nothing. -/
theorem late_answer_handed_over :
    ¬ ∀ (settings : Settings) (events : List (Event Operation)) (number : Nat)
        (asked : Asked Operation Pending) (view : String) (reply : Except LspError Json)
        (world : Surroundings),
      (run settings events).waiting.get? number = some asked →
      asked.operation.Concerns view reply →
      (∃ happening ∈ (run settings events).log.drop (number + 1), happening.Disposes view) →
        ((run settings events).step machine (.arrive world number reply)).log.getLast?.bind
            Happening.answer = some asked.operation.nothing := by
  intro dropped
  have concerns : (Operation.parent "rcAst" "ast://1").Concerns "rcAst" (parentOf "ast://0") :=
    .parent rfl
  have nothing := dropped .standard disposedWhileSeeking 0
    ⟨.parent "rcAst" "ast://1", .parent ⟨"rcAst", "ast://1"⟩, .parent⟩ "rcAst" (parentOf "ast://0")
    .quiet rfl concerns (by decide)
  cases nothing

end Client

end LanguageClient
