import LanguageClient.Rehearsal

/-!
# Runs of a machine

A run drives a machine by events in any order: an operation is issued, or the question of an
operation that waits is answered. A run keeps every open question under the number of the step
that asked it, and a log of all that happened. What holds after every list of events holds in
every interleaving of operations and answers, with any number of questions open.
-/

namespace LanguageClient

/-- What drives a run. -/
inductive Event (ι : Type)
  /-- An operation is issued. -/
  | issue (world : Surroundings) (operation : ι)
  /-- The question with a number is answered, or fails. -/
  | arrive (world : Surroundings) (number : Nat) (reply : Except LspError Json)

/-- An open question. -/
structure Asked (ι π : Type) where
  /-- The operation that asked it. -/
  operation : ι
  /-- The question. -/
  request : Request
  /-- What waits for the answer. -/
  pending : π

/-- Why something happened. -/
inductive Cause (ι : Type)
  /-- An operation was issued. -/
  | issued (operation : ι)
  /-- The question that an operation had asked under a number was answered, or failed. -/
  | answered (operation : ι) (number : Nat) (reply : Except LspError Json)

/-- What an onlooker sees of one step of a run. -/
structure Happening (ι α : Type) where
  /-- Why it happened. -/
  cause : Cause ι
  /-- What lay around the machine. -/
  world : Surroundings
  /-- The question that was asked. -/
  request : Option Request
  /-- What the server was told. -/
  notices : List Notice
  /-- The calls of the editor. -/
  calls : List EditorCall
  /-- The answer of the operation, if it ended. -/
  answer : Option α

/-- A run between two events. -/
structure Run (σ ι π α : Type) where
  /-- The state of the machine. -/
  state : σ
  /-- The open questions under their numbers. -/
  waiting : Table Nat (Asked ι π)
  /-- All that happened, in order. -/
  log : List (Happening ι α)

variable {σ ι π α : Type}

/-- The calls of the editor in a list of steps, in order. -/
def callsIn (log : List (Happening ι α)) : List EditorCall := log.flatMap Happening.calls

/-- The answers of the operations that ended in a list of steps, in order. -/
def answersIn (log : List (Happening ι α)) : List α := log.filterMap Happening.answer

namespace Happening

/-- A turn in which an operation was issued. -/
def ofIssue (world : Surroundings) (operation : ι) (turn : Turn σ (Next π α)) : Happening ι α :=
  match turn.outcome with
  | .done answer => ⟨.issued operation, world, none, turn.notices, turn.calls, some answer⟩
  | .waits request _ => ⟨.issued operation, world, some request, turn.notices, turn.calls, none⟩

/-- A step that issues an operation is caused by it. -/
@[simp]
theorem cause_ofIssue (world : Surroundings) (operation : ι) (turn : Turn σ (Next π α)) :
    (ofIssue world operation turn).cause = .issued operation := by
  unfold ofIssue
  split <;> rfl

/-- A step that issues an operation takes place in the world of the operation. -/
@[simp]
theorem world_ofIssue (world : Surroundings) (operation : ι) (turn : Turn σ (Next π α)) :
    (ofIssue world operation turn).world = world := by
  unfold ofIssue
  split <;> rfl

/-- A step that issues an operation sends the notices of its turn. -/
@[simp]
theorem notices_ofIssue (world : Surroundings) (operation : ι) (turn : Turn σ (Next π α)) :
    (ofIssue world operation turn).notices = turn.notices := by
  unfold ofIssue
  split <;> rfl

/-- A step that issues an operation calls the editor as its turn does. -/
@[simp]
theorem calls_ofIssue (world : Surroundings) (operation : ι) (turn : Turn σ (Next π α)) :
    (ofIssue world operation turn).calls = turn.calls := by
  unfold ofIssue
  split <;> rfl

/-- An operation that waits has no answer yet. -/
theorem answer_ofIssue_of_waits {world : Surroundings} {operation : ι} {turn : Turn σ (Next π α)}
    {request : Request} {pending : π} (outcome : turn.outcome = .waits request pending) :
    (ofIssue world operation turn).answer = none := by
  simp only [ofIssue, outcome]

/-- A turn in which a question was answered. -/
def ofArrival (world : Surroundings) (operation : ι) (number : Nat)
    (reply : Except LspError Json) (turn : Turn σ α) : Happening ι α :=
  ⟨.answered operation number reply, world, none, turn.notices, turn.calls, some turn.outcome⟩

/-- The number of the question that was answered. -/
def answers? (happening : Happening ι α) : Option Nat :=
  match happening.cause with
  | .issued _ => none
  | .answered _ number _ => some number

/-- A step that issues an operation answers no question. -/
@[simp]
theorem answers?_ofIssue (world : Surroundings) (operation : ι) (turn : Turn σ (Next π α)) :
    (ofIssue world operation turn).answers? = none := by
  simp [answers?]

/-- A step in which an answer arrives answers the question with its number. -/
@[simp]
theorem answers?_ofArrival (world : Surroundings) (operation : ι) (number : Nat)
    (reply : Except LspError Json) (turn : Turn σ α) :
    (ofArrival world operation number reply turn).answers? = some number := rfl

end Happening

namespace Run

/-- A run in which nothing has happened. -/
def start (state : σ) : Run σ ι π α := ⟨state, .empty, []⟩

/-- The run after a turn in which an operation was issued. -/
def began (run : Run σ ι π α) (world : Surroundings) (operation : ι) (turn : Turn σ (Next π α)) :
    Run σ ι π α where
  state := turn.state
  waiting := match turn.outcome with
    | .done _ => run.waiting
    | .waits request pending => run.waiting.insert run.log.length ⟨operation, request, pending⟩
  log := run.log ++ [.ofIssue world operation turn]

/-- The run after a turn in which the question with a number was answered. -/
def ended (run : Run σ ι π α) (world : Surroundings) (operation : ι) (number : Nat)
    (reply : Except LspError Json) (turn : Turn σ α) : Run σ ι π α where
  state := turn.state
  waiting := run.waiting.erase number
  log := run.log ++ [.ofArrival world operation number reply turn]

/-- One step of a run. An answer to a question that is not open is not heard. -/
def step (machine : Machine σ ι π α) (run : Run σ ι π α) : Event ι → Run σ ι π α
  | .issue world operation => run.began world operation (machine.issue world operation run.state)
  | .arrive world number reply =>
    match run.waiting.get? number with
    | none => run
    | some asked =>
      run.ended world asked.operation number reply
        (machine.arrive world asked.pending reply run.state)

/-- The run after a list of events. -/
def follow (machine : Machine σ ι π α) (run : Run σ ι π α) (events : List (Event ι)) :
    Run σ ι π α :=
  events.foldl (step machine) run

/-- What happened in a later run that had not happened before. -/
def since (earlier later : Run σ ι π α) : List (Happening ι α) := later.log.drop earlier.log.length

/-- What happens after a run while events follow. -/
def thereafter (machine : Machine σ ι π α) (run : Run σ ι π α) (events : List (Event ι)) :
    List (Happening ι α) :=
  run.since (run.follow machine events)

variable (machine : Machine σ ι π α) (run : Run σ ι π α)

/-- The state after an answer is that of its turn. -/
@[simp]
theorem state_ended (world : Surroundings) (operation : ι) (number : Nat)
    (reply : Except LspError Json) (turn : Turn σ α) :
    (run.ended world operation number reply turn).state = turn.state := rfl

/-- The last thing that happened gives the operation that ended its answer. -/
@[simp]
theorem answer_ended (world : Surroundings) (operation : ι) (number : Nat)
    (reply : Except LspError Json) (turn : Turn σ α) :
    (run.ended world operation number reply turn).log.getLast?.bind Happening.answer =
      some turn.outcome := by
  simp [ended, Happening.ofArrival]

/-- A question that is open after an operation was issued was open before, or is the one that the
operation asks; that one has the number of the step. -/
theorem waiting_began {world : Surroundings} {operation : ι} {turn : Turn σ (Next π α)}
    {number : Nat} {asked : Asked ι π}
    (found : (run.began world operation turn).waiting.get? number = some asked) :
    run.waiting.get? number = some asked ∨
      number = run.log.length ∧ asked.operation = operation ∧
        turn.outcome = .waits asked.request asked.pending := by
  cases outcome : turn.outcome with
  | done answer =>
    simp only [began, outcome] at found
    exact .inl found
  | waits request pending =>
    simp only [began, outcome, Table.get?_insert] at found
    split at found
    · rename_i here
      obtain rfl := Option.some.inj found
      exact .inr ⟨here.symm, rfl, rfl⟩
    · exact .inl found

/-- A question that is open after an answer was open before and is not the answered one. -/
theorem waiting_ended {world : Surroundings} {operation : ι} {closed number : Nat}
    {reply : Except LspError Json} {turn : Turn σ α} {asked : Asked ι π}
    (found : (run.ended world operation closed reply turn).waiting.get? number = some asked) :
    closed ≠ number ∧ run.waiting.get? number = some asked := by
  simp only [ended, Table.get?_erase] at found
  split at found
  · cases found
  · rename_i other
    exact ⟨other, found⟩

/-- An answer to an open question ends the operation that asked it. -/
theorem step_arrive {number : Nat} {asked : Asked ι π} (world : Surroundings)
    (reply : Except LspError Json) (isOpen : run.waiting.get? number = some asked) :
    run.step machine (.arrive world number reply) =
      run.ended world asked.operation number reply
        (machine.arrive world asked.pending reply run.state) := by
  simp only [step, isOpen]

/-- An answer that leaves the state of the machine as it is closes its question, and is seen. -/
theorem step_arrive_of_kept {number : Nat} {asked : Asked ι π} {world : Surroundings}
    {reply : Except LspError Json} {notices : List Notice} {calls : List EditorCall} {answer : α}
    (isOpen : run.waiting.get? number = some asked)
    (kept : machine.arrive world asked.pending reply run.state =
      ⟨run.state, calls, notices, answer⟩) :
    run.step machine (.arrive world number reply) =
      { state := run.state
        waiting := run.waiting.erase number
        log := run.log ++ [
          ⟨.answered asked.operation number reply, world, none, notices, calls,
            some answer⟩] } := by
  rw [step_arrive machine run world reply isOpen, kept]
  rfl

/-- A property of runs holds after a step when it holds after every operation that is issued and
after every answer that is heard. -/
theorem step_keeps {motive : Run σ ι π α → Prop} (event : Event ι) (before : motive run)
    (issued : ∀ world operation,
      motive (run.began world operation (machine.issue world operation run.state)))
    (answered : ∀ world number reply asked, run.waiting.get? number = some asked →
      motive (run.ended world asked.operation number reply
        (machine.arrive world asked.pending reply run.state))) :
    motive (run.step machine event) := by
  cases event with
  | issue world operation => exact issued world operation
  | arrive world number reply =>
    cases isOpen : run.waiting.get? number with
    | none =>
      simp only [step, isOpen]
      exact before
    | some asked =>
      rw [step_arrive machine run world reply isOpen]
      exact answered world number reply asked isOpen

/-- A property of runs that every step keeps holds after all events when it holds before them. -/
theorem follow_keeps {motive : Run σ ι π α → Prop}
    (kept : ∀ run event, motive run → motive (run.step machine event)) (before : motive run)
    (events : List (Event ι)) : motive (run.follow machine events) := by
  induction events generalizing run with
  | nil => exact before
  | cons event rest ih => exact ih (run.step machine event) (kept run event before)

/-- A step adds to the log and takes nothing from it. -/
theorem log_prefix_step (event : Event ι) : run.log <+: (run.step machine event).log := by
  apply step_keeps (motive := fun later => run.log <+: later.log) machine run event
  · exact List.prefix_rfl
  · intro world operation
    exact List.prefix_append _ _
  · intro world number reply asked isOpen
    exact List.prefix_append _ _

/-- Nothing has happened between a run and itself. -/
@[simp]
theorem since_self : run.since run = [] := List.drop_length

/-- Since the start all that is logged has happened. -/
@[simp]
theorem since_start (state : σ) : (start state).since run = run.log := rfl

/-- A happening that is added to the log of a later run comes last in what has happened since an
earlier run. -/
theorem since_append {earlier later next : Run σ ι π α} {fresh : Happening ι α}
    (grown : earlier.log <+: later.log) (added : next.log = later.log ++ [fresh]) :
    earlier.since next = earlier.since later ++ [fresh] := by
  unfold since
  rw [added, List.drop_append_of_le_length grown.length_le]

/-- Induction along the events after a run. A property of later runs, together with what has
happened until then, holds after all events when it holds at first and both kinds of steps keep
it; `sound` is any invariant of the machine that the steps may rely on. -/
theorem follow_induction (sound : Run σ ι π α → Prop)
    {motive : Run σ ι π α → List (Happening ι α) → Prop}
    (invariant : ∀ run event, sound run → sound (run.step machine event))
    (soundBefore : sound run) (before : motive run [])
    (issued : ∀ later fresh world operation, sound later → motive later fresh →
      motive (later.began world operation (machine.issue world operation later.state))
        (fresh ++ [.ofIssue world operation (machine.issue world operation later.state)]))
    (answered : ∀ later fresh world number reply asked, sound later → motive later fresh →
      later.waiting.get? number = some asked →
      motive (later.ended world asked.operation number reply
          (machine.arrive world asked.pending reply later.state))
        (fresh ++ [.ofArrival world asked.operation number reply
          (machine.arrive world asked.pending reply later.state)]))
    (events : List (Event ι)) :
    motive (run.follow machine events) (run.thereafter machine events) := by
  have all := follow_keeps (motive := fun later => run.log <+: later.log ∧ sound later ∧
    motive later (run.since later)) machine run ?kept
    ⟨List.prefix_rfl, soundBefore, by simpa using before⟩ events
  · exact all.2.2
  case kept =>
    intro later event ⟨grown, fine, held⟩
    refine ⟨grown.trans (log_prefix_step machine later event),
      invariant later event fine, ?_⟩
    apply step_keeps (motive := fun next => motive next (run.since next)) machine later event held
    · intro world operation
      rw [since_append grown rfl]
      exact issued later _ world operation fine held
    · intro world number reply asked isOpen
      rw [since_append grown rfl]
      exact answered later _ world number reply asked fine held isOpen

/-- Every open question was asked by its operation, in some state. -/
def Honest : Prop :=
  ∀ number asked, run.waiting.get? number = some asked → ∃ world state,
    (machine.issue world asked.operation state).outcome = .waits asked.request asked.pending

/-- A run begins honest. -/
theorem honest_start (state : σ) : (start state : Run σ ι π α).Honest machine := by
  intro number asked found
  simp [start] at found

/-- A step asks the question of its operation and no other. -/
theorem honest_step (event : Event ι) (honest : run.Honest machine) :
    (run.step machine event).Honest machine := by
  apply step_keeps (motive := fun next => next.Honest machine) machine run event honest
  · intro world operation number asked found
    rcases waiting_began run found with before | ⟨-, rfl, outcome⟩
    · exact honest number asked before
    · exact ⟨world, run.state, outcome⟩
  · intro world closed reply other isOpen number asked found
    exact honest number asked (waiting_ended run found).2

/-- What every run keeps about the numbers of its questions: they are those of steps that have
happened, and each question is answered once at most. -/
structure Numbered : Prop where
  /-- An open question has the number of an earlier step. -/
  asked : ∀ number asked, run.waiting.get? number = some asked → number < run.log.length
  /-- So has a question that was answered. -/
  answered : ∀ happening ∈ run.log, ∀ number, happening.answers? = some number →
    number < run.log.length
  /-- An open question was not answered. -/
  unanswered : ∀ number asked, run.waiting.get? number = some asked →
    ∀ happening ∈ run.log, happening.answers? ≠ some number
  /-- No question was answered twice. -/
  once : ∀ first ∈ run.log, ∀ second ∈ run.log, ∀ number, first.answers? = some number →
    second.answers? = some number → first = second

/-- A run begins with no question to number. -/
theorem numbered_start (state : σ) : (start state : Run σ ι π α).Numbered := by
  constructor <;> simp [start]

/-- The number of the next step is not the number of an open question. -/
theorem Numbered.unasked {run : Run σ ι π α} (numbered : run.Numbered) :
    run.waiting.get? run.log.length = none := by
  rw [Option.eq_none_iff_forall_ne_some]
  intro asked isOpen
  exact Nat.lt_irrefl _ (numbered.asked _ asked isOpen)

/-- A step asks under its own number, and answers a question that is not answered yet. -/
theorem numbered_step (event : Event ι) (numbered : run.Numbered) :
    (run.step machine event).Numbered := by
  apply step_keeps (motive := Numbered) machine run event numbered
  · intro world operation
    have within (number : Nat) (bound : number < run.log.length) :
        number < (run.began world operation
          (machine.issue world operation run.state)).log.length := by
      simp only [began, List.length_append, List.length_singleton]
      omega
    constructor
    · intro number asked found
      rcases waiting_began run found with before | ⟨rfl, -⟩
      · exact within number (numbered.asked number asked before)
      · simp [began]
    · simp only [began, List.forall_mem_append, List.forall_mem_singleton,
        Happening.answers?_ofIssue, reduceCtorEq, false_imp_iff, implies_true, and_true]
      intro happening member number answers
      exact within number (numbered.answered happening member number answers)
    · intro number asked found
      simp only [began, List.forall_mem_append, List.forall_mem_singleton,
        Happening.answers?_ofIssue, ne_eq, reduceCtorEq, not_false_eq_true, and_true]
      intro happening member answers
      rcases waiting_began run found with before | ⟨rfl, -⟩
      · exact numbered.unanswered number asked before happening member answers
      · exact Nat.lt_irrefl _ (numbered.answered happening member _ answers)
    · simp only [began, List.forall_mem_append, List.forall_mem_singleton,
        Happening.answers?_ofIssue, reduceCtorEq, false_imp_iff, implies_true, and_true]
      intro first member second memberToo number answers answersToo
      exact numbered.once first member second memberToo number answers answersToo
  · intro world closed reply other isOpen
    have within (number : Nat) (bound : number < run.log.length) :
        number < (run.ended world other.operation closed reply
          (machine.arrive world other.pending reply run.state)).log.length := by
      simp only [ended, List.length_append, List.length_singleton]
      omega
    constructor
    · intro number asked found
      exact within number (numbered.asked number asked (waiting_ended run found).2)
    · intro happening member number answers
      rcases List.mem_append.mp member with before | new
      · exact within number (numbered.answered happening before number answers)
      · obtain rfl := List.mem_singleton.mp new
        obtain rfl := Option.some.inj answers
        exact within closed (numbered.asked closed other isOpen)
    · intro number asked found happening member answers
      obtain ⟨different, before⟩ := waiting_ended run found
      rcases List.mem_append.mp member with earlier | new
      · exact numbered.unanswered number asked before happening earlier answers
      · obtain rfl := List.mem_singleton.mp new
        exact different (Option.some.inj answers)
    · intro first member second memberToo number answers answersToo
      rcases List.mem_append.mp member with before | new <;>
        rcases List.mem_append.mp memberToo with beforeToo | newToo
      · exact numbered.once first before second beforeToo number answers answersToo
      · obtain rfl := List.mem_singleton.mp newToo
        obtain rfl := Option.some.inj answersToo
        exact absurd answers (numbered.unanswered closed other isOpen first before)
      · obtain rfl := List.mem_singleton.mp new
        obtain rfl := Option.some.inj answers
        exact absurd answersToo (numbered.unanswered closed other isOpen second beforeToo)
      · rw [List.mem_singleton.mp new, List.mem_singleton.mp newToo]

end Run

end LanguageClient
