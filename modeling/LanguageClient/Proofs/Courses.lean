import LanguageClient.Proofs.Run

/-!
# Courses of operations

An operation is begun in one step of a run; if it waits, it is ended in another one, with any
steps in between. `course_follow` finds the steps of every operation of a run: it has ended at
once, still waits, or was ended by the one answer to its question.
-/

namespace LanguageClient

variable {σ ι π α : Type}

namespace Run

/-- The operation was issued in the step with the number. -/
def Issued (run : Run σ ι π α) (number : Nat) (operation : ι) : Prop :=
  (run.log[number]?).map Happening.cause = some (.issued operation)

/-- The steps of the operation that was issued in the step with the number: that step, and the one
in which the question with the number was answered. -/
def stepsOf (run : Run σ ι π α) (number : Nat) : List (Happening ι α) :=
  (run.log[number]?).toList ++ run.log.filter fun happening => happening.answers? = some number

variable (machine : Machine σ ι π α)

/-- How an operation stands that was issued in the step with a number. What waits for an answer
`fits` the state of the machine when the answer comes. -/
inductive Course (fits : π → σ → Prop) (run : Run σ ι π α) (number : Nat) (operation : ι) : Prop
  /-- It has ended in the step in which it began. -/
  | atOnce (world : Surroundings) (state : σ) (answer : α)
    (outcome : (machine.issue world operation state).outcome = .done answer)
    (closed : run.waiting.get? number = none)
    (steps : run.stepsOf number =
      [.ofIssue world operation (machine.issue world operation state)])
  /-- It waits for the answer to its question. -/
  | waits (world : Surroundings) (state : σ) (request : Request) (pending : π)
    (outcome : (machine.issue world operation state).outcome = .waits request pending)
    (isOpen : run.waiting.get? number = some ⟨operation, request, pending⟩)
    (steps : run.stepsOf number =
      [.ofIssue world operation (machine.issue world operation state)])
  /-- It was ended by the answer to its question. -/
  | answered (world worldThen : Surroundings) (state stateThen : σ) (request : Request)
    (pending : π) (reply : Except LspError Json)
    (outcome : (machine.issue world operation state).outcome = .waits request pending)
    (fit : fits pending stateThen)
    (closed : run.waiting.get? number = none)
    (steps : run.stepsOf number =
      [.ofIssue world operation (machine.issue world operation state),
        .ofArrival worldThen operation number reply
          (machine.arrive worldThen pending reply stateThen)])

variable {machine} {run : Run σ ι π α} {number : Nat} {operation : ι}

/-- An operation that was issued before was issued in the same step of a longer log. -/
theorem issued_append {later : Run σ ι π α} {fresh : Happening ι α}
    (grown : later.log = run.log ++ [fresh]) (issued : later.Issued number operation) :
    run.Issued number operation ∨ number = run.log.length ∧ fresh.cause = .issued operation := by
  unfold Issued at issued ⊢
  rw [grown, List.getElem?_append] at issued
  split at issued
  · exact .inl issued
  · rename_i beyond
    right
    cases offset : number - run.log.length with
    | zero =>
      rw [offset] at issued
      exact ⟨by omega, Option.some.inj issued⟩
    | succ more => simp [offset] at issued

/-- The step in which an operation was issued is in the log. -/
theorem Issued.lt_length (issued : run.Issued number operation) : number < run.log.length := by
  obtain ⟨happening, found, -⟩ := Option.map_eq_some_iff.mp issued
  exact (List.getElem?_eq_some_iff.mp found).1

/-- A step that answers another question adds nothing to the steps of an operation. -/
theorem stepsOf_append {later : Run σ ι π α} {fresh : Happening ι α}
    (grown : later.log = run.log ++ [fresh]) (before : number < run.log.length) :
    later.stepsOf number =
      run.stepsOf number ++ if fresh.answers? = some number then [fresh] else [] := by
  rw [stepsOf, grown, List.getElem?_append_left before, List.filter_append, ← List.append_assoc,
    stepsOf]
  congr 1
  by_cases answers : fresh.answers? = some number <;> simp [answers]

/-- The step of an operation that has just been issued is its only one. -/
theorem stepsOf_fresh {later : Run σ ι π α} {fresh : Happening ι α}
    (grown : later.log = run.log ++ [fresh]) (unheard : fresh.answers? = none)
    (numbered : run.Numbered) : later.stepsOf run.log.length = [fresh] := by
  have none : (run.log.filter fun happening => happening.answers? = some run.log.length) = [] := by
    rw [List.filter_eq_nil_iff]
    intro happening member answers
    rw [decide_eq_true_eq] at answers
    exact Nat.lt_irrefl _ (numbered.answered happening member _ answers)
  simp [stepsOf, grown, none, unheard]

/-- What every run keeps: each operation that was issued has one of the courses. -/
structure Traced (machine : Machine σ ι π α) (fits : π → σ → Prop) (run : Run σ ι π α) : Prop where
  /-- Questions are numbered by their steps. -/
  numbered : run.Numbered
  /-- Each issued operation has a course that fits. -/
  course : ∀ number operation, run.Issued number operation →
    run.Course machine fits number operation

variable {fits : π → σ → Prop}

/-- A step that has nothing to do with an operation leaves its course as it is. -/
theorem Course.keep {later : Run σ ι π α} (course : run.Course machine fits number operation)
    (steps : later.stepsOf number = run.stepsOf number)
    (waiting : later.waiting.get? number = run.waiting.get? number) :
    later.Course machine fits number operation := by
  cases course with
  | atOnce world state answer outcome closed own =>
    exact .atOnce world state answer outcome (waiting.trans closed) (steps.trans own)
  | waits world state request pending outcome isOpen own =>
    exact .waits world state request pending outcome (waiting.trans isOpen) (steps.trans own)
  | answered world worldThen state stateThen request pending reply outcome fit closed own =>
    exact .answered world worldThen state stateThen request pending reply outcome fit
      (waiting.trans closed) (steps.trans own)

/-- An operation that is issued has its course, and the others keep theirs. -/
theorem traced_began (traced : run.Traced machine fits) (world : Surroundings) (operation : ι) :
    (run.began world operation (machine.issue world operation run.state)).Traced machine fits := by
  refine ⟨run.numbered_step machine (.issue world operation) traced.numbered, ?_⟩
  intro number issuedThen issued
  have grown : (run.began world operation (machine.issue world operation run.state)).log =
      run.log ++ [.ofIssue world operation (machine.issue world operation run.state)] := rfl
  rcases issued_append grown issued with before | ⟨rfl, cause⟩
  · have earlier := before.lt_length
    apply (traced.course number issuedThen before).keep
    · simp [stepsOf_append grown earlier]
    · simp only [began]
      split
      · rfl
      · rw [Table.get?_insert, if_neg (by omega)]
  · rw [Happening.cause_ofIssue] at cause
    obtain rfl := Cause.issued.inj cause
    have steps := stepsOf_fresh grown (Happening.answers?_ofIssue ..) traced.numbered
    cases outcome : (machine.issue world operation run.state).outcome with
    | done answer =>
      have closed := traced.numbered.unasked
      exact .atOnce world run.state answer outcome (by simpa only [began, outcome]) steps
    | waits request pending =>
      exact .waits world run.state request pending outcome (by simp [began, outcome]) steps

/-- An answer ends the operation that asked, and the others keep their courses. -/
theorem traced_ended (traced : run.Traced machine fits) (world : Surroundings) {closed : Nat}
    {asked : Asked ι π} (isOpen : run.waiting.get? closed = some asked)
    (fit : fits asked.pending run.state) (reply : Except LspError Json) :
    (run.ended world asked.operation closed reply
      (machine.arrive world asked.pending reply run.state)).Traced machine fits := by
  have step := run.step_arrive machine world reply isOpen
  refine ⟨step ▸ run.numbered_step machine (.arrive world closed reply) traced.numbered, ?_⟩
  intro number operation issued
  have grown : (run.ended world asked.operation closed reply
      (machine.arrive world asked.pending reply run.state)).log = run.log ++
        [.ofArrival world asked.operation closed reply
          (machine.arrive world asked.pending reply run.state)] := rfl
  rcases issued_append grown issued with before | ⟨-, cause⟩
  · have steps := stepsOf_append grown before.lt_length
    rw [Happening.answers?_ofArrival] at steps
    have course := traced.course number operation before
    by_cases other : closed = number
    · subst other
      -- of an operation whose question is open no more than its first step has happened
      cases course with
      | waits worldFirst state request pending outcome same own =>
        obtain rfl := Option.some.inj (isOpen.symm.trans same)
        rw [own, if_pos rfl] at steps
        exact .answered worldFirst world state run.state request pending reply outcome fit
          (by simp [ended]) steps
      | atOnce _ _ _ _ none _ | answered _ _ _ _ _ _ _ _ _ none _ =>
        rw [isOpen] at none
        cases none
    · apply course.keep
      · rw [steps, if_neg (by simpa using other), List.append_nil]
      · simp [ended, other]
  · cases cause

/-- In every run each operation that was issued has one of the courses, if what waits for an answer
always fits the state of the machine. -/
theorem traced_follow (sound : Run σ ι π α → Prop)
    (invariant : ∀ run event, sound run → sound (run.step machine event))
    (fitting : ∀ run, sound run → ∀ number asked, run.waiting.get? number = some asked →
      fits asked.pending run.state)
    (before : sound run) (traced : run.Traced machine fits) (events : List (Event ι)) :
    (run.follow machine events).Traced machine fits := by
  have all := follow_keeps (motive := fun later => sound later ∧ later.Traced machine fits) machine
    run ?kept ⟨before, traced⟩ events
  · exact all.2
  case kept =>
    intro later event ⟨fine, held⟩
    refine ⟨invariant later event fine, ?_⟩
    apply step_keeps machine later event held
    · exact traced_began held
    · intro world number reply asked isOpen
      exact traced_ended held world isOpen (fitting later fine number asked isOpen) reply

/-- A run begins with no operation to trace. -/
theorem traced_start (state : σ) : (start state : Run σ ι π α).Traced machine fits := by
  refine ⟨numbered_start state, ?_⟩
  intro number operation issued
  cases issued

/-! ## Where questions come from -/

/-- The operation was issued in the step with the number, and asked a question in it. -/
def AskedIn (log : List (Happening ι α)) (number : Nat) (operation : ι) : Prop :=
  ∃ asking, log[number]? = some asking ∧ asking.cause = .issued operation ∧
    asking.request.isSome = true

/-- What happens later does not change in which step a question was asked. -/
theorem AskedIn.append {log : List (Happening ι α)} (asked : AskedIn log number operation)
    (more : List (Happening ι α)) : AskedIn (log ++ more) number operation := by
  obtain ⟨asking, found, rest⟩ := asked
  have within := (List.getElem?_eq_some_iff.mp found).1
  exact ⟨asking, by rw [List.getElem?_append_left within, found], rest⟩

/-- What every run keeps about its questions: each one, also if it is answered by now, was asked in
the step with its number. -/
structure Recorded (run : Run σ ι π α) : Prop where
  /-- An open question was asked in the step with its number. -/
  waiting : ∀ number asked, run.waiting.get? number = some asked →
    AskedIn run.log number asked.operation
  /-- So was a question that is answered. -/
  answered : ∀ happening ∈ run.log, ∀ operation number reply,
    happening.cause = .answered operation number reply → AskedIn run.log number operation

/-- A run begins with no question. -/
theorem recorded_start (state : σ) : (start state : Run σ ι π α).Recorded := by
  constructor <;> simp [start]

/-- A step asks questions with its own number only. -/
theorem recorded_step (machine : Machine σ ι π α) (run : Run σ ι π α) (event : Event ι)
    (recorded : run.Recorded) : (run.step machine event).Recorded := by
  apply step_keeps (motive := Recorded) machine run event recorded
  · intro world operation
    constructor
    · intro number asked isOpen
      rcases waiting_began run isOpen with before | ⟨rfl, rfl, outcome⟩
      · exact (recorded.waiting number asked before).append _
      · refine ⟨_, List.getElem?_concat_length, Happening.cause_ofIssue _ _ _, ?_⟩
        simp only [Happening.ofIssue, outcome, Option.isSome_some]
    · intro happening member asker number reply cause
      rcases List.mem_append.mp member with before | new
      · exact (recorded.answered happening before asker number reply cause).append _
      · obtain rfl := List.mem_singleton.mp new
        rw [Happening.cause_ofIssue] at cause
        cases cause
  · intro world closed reply other isOpen
    constructor
    · intro number asked found
      exact (recorded.waiting number asked (waiting_ended run found).2).append _
    · intro happening member asker number answer cause
      rcases List.mem_append.mp member with before | new
      · exact (recorded.answered happening before asker number answer cause).append _
      · obtain rfl := List.mem_singleton.mp new
        obtain ⟨rfl, rfl, -⟩ := Cause.answered.inj cause
        exact (recorded.waiting closed other isOpen).append _

end Run

end LanguageClient
