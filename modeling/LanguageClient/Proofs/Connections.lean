import LanguageClient.Proofs.Dealings
import LanguageClient.Server.Connection
import Mathlib.Data.List.Nodup

/-!
# Connections to scripted servers

The client counts its questions, and an answer counts only if its question is open. So on every
connection to a scripted server, whatever the script, each question is answered or given up once:
`orderly_transport`. A server without a script takes every notice and does nothing about it.
-/

namespace LanguageClient

namespace Server

namespace Link

/-- The questions that are open, and those whose answers were not fetched yet. -/
def numbers (link : Link) : List Nat := link.unanswered ++ link.answers.map Prod.fst

/-- No two questions have the same number, and the next one has another number too. -/
structure Fair (link : Link) : Prop where
  /-- No number was given twice. -/
  once : link.numbers.Nodup
  /-- All numbers are below the next one. -/
  below : ∀ number ∈ link.numbers, number < link.nextId

variable {link later : Link}

/-- A client's end that has asked nothing is fair. -/
theorem fair_fresh : fresh.Fair := ⟨List.nodup_nil, nofun⟩

/-- Links with the same questions are alike fair. -/
theorem Fair.of_perm (fair : link.Fair) (same : later.numbers.Perm link.numbers)
    (next : later.nextId = link.nextId) : later.Fair where
  once := same.nodup_iff.mpr fair.once
  below number member := by
    rw [next]
    exact fair.below number (same.subset member)

/-- The end of a connection keeps its client's end fair. -/
theorem Fair.stop (fair : link.Fair) : link.stop.Fair := fair.of_perm (.refl _) rfl

/-- An answer moves its question from the open ones to those that have an answer. -/
theorem Fair.takeAnswer (fair : link.Fair) (id : Token) (outcome : Except Refusal Json) :
    (link.takeAnswer id outcome).Fair := by
  unfold Link.takeAnswer
  split
  · rename_i n
    simp only
    split
    · rename_i isOpen
      have member : n.toInt.toNat ∈ link.unanswered := List.contains_iff_mem.mp isOpen.2
      have first : (n.toInt.toNat :: link.unanswered.erase n.toInt.toNat ++
          link.answers.map Prod.fst).Perm link.numbers :=
        (List.perm_cons_erase member).symm.append_right _
      refine fair.of_perm ?_ rfl
      show (link.unanswered.erase n.toInt.toNat ++
        (link.answers ++ [(n.toInt.toNat, outcome)]).map Prod.fst).Perm link.numbers
      rw [List.map_append, List.map_singleton, ← List.append_assoc]
      exact (List.perm_append_singleton _ _).trans first
    · exact fair
  · exact fair

/-- A notice is no matter of questions. -/
theorem Fair.takeNotice (fair : link.Fair) {method : String} {params : Json}
    (taken : link.takeNotice? method params = some later) : later.Fair := by
  unfold Link.takeNotice? at taken
  split at taken
  · obtain rfl := Option.some.inj taken
    split
    · exact fair
    · exact fair.of_perm (.refl _) rfl
  · cases taken
  · split at taken
    · split at taken
      · obtain rfl := Option.some.inj taken
        exact fair
      · cases taken
    · obtain rfl := Option.some.inj taken
      exact fair

/-- An envelope settles a question or none, so that the others keep different numbers. -/
theorem Fair.take (fair : link.Fair) (envelope : Envelope) : (link.take envelope).1.Fair := by
  cases envelope with
  | question id method params => exact fair
  | answer id outcome => exact fair.takeAnswer id outcome
  | notice method params =>
    cases taken : link.takeNotice? method params with
    | none =>
      simp only [Link.take, taken]
      exact fair.stop
    | some later =>
      simp only [Link.take, taken]
      exact fair.takeNotice taken

/-- Frames leave the client's end fair, however many there are. -/
theorem Fair.takeFrames (fair : link.Fair) (fuel : Nat) : (link.takeFrames fuel).1.Fair := by
  induction fuel generalizing link with
  | zero => exact fair
  | succ fuel ih =>
    unfold Link.takeFrames
    split
    · exact fair
    · split
      · exact fair
      · exact fair.stop
      · split
        · exact fair.stop
        · rename_i rest _ _ envelope _
          have rested : { link with pending := rest }.Fair := fair.of_perm (.refl _) rfl
          exact ih (rested.take envelope)

/-- Bytes leave the client's end fair. -/
theorem Fair.feed (fair : link.Fair) (bytes : List UInt8) : (link.feed bytes).1.Fair := by
  unfold Link.feed
  split
  · exact fair
  · have filled : { link with pending := link.pending ++ bytes }.Fair := fair.of_perm (.refl _) rfl
    exact filled.takeFrames _

end Link

namespace Connection

variable {connection : Connection}

/-- The client's end is fair. -/
def Fair (connection : Connection) : Prop := connection.link.Fair

/-- A connection begins with a fair client's end. -/
theorem fair_start (script : Table String (List Action)) : (start script).Fair := Link.fair_fresh

/-- What a server sends leaves the client's end fair. -/
theorem Fair.deliver (fair : connection.Fair) (bytes : List UInt8) :
    (connection.deliver bytes).Fair := by
  have fed : (connection.link.feed bytes).1.Fair := Link.Fair.feed fair bytes
  show (if connection.server.alive then (connection.link.feed bytes).1
    else (connection.link.feed bytes).1.stop).Fair
  split
  · exact fed
  · exact fed.stop

/-- A step of the server, or of what it sends, keeps a connection fair. -/
theorem Fair.step {later : Connection} (fair : connection.Fair)
    (step : connection.step? = some later) : later.Fair := by
  unfold Connection.step? at step
  split at step
  · rename_i server bytes _
    cases step
    have moved : { connection with server := server }.Fair := fair
    exact moved.deliver bytes
  · split at step
    · cases step
      exact fair
    · cases step

/-- Whatever happens on a connection, the client's end stays fair. -/
theorem Fair.run (fair : connection.Fair) (steps : Nat) : (run steps connection).Fair := by
  induction steps generalizing connection with
  | zero => exact fair
  | succ steps ih =>
    unfold Connection.run
    split
    · rename_i later step
      exact ih (fair.step step)
    · exact fair

/-- The client's end is fair after all that happens has happened. -/
theorem Fair.settle (fair : connection.Fair) : connection.settle.Fair := fair.run _

/-- A new question has a number that no other question has. -/
theorem Fair.question (fair : connection.Fair) (call : Call) :
    (connection.question call).1.Fair := by
  unfold Connection.question
  split
  · have fresh : connection.link.nextId ∉ connection.link.numbers := fun member =>
      Nat.lt_irrefl _ (fair.below _ member)
    have numbers : ((connection.link.unanswered ++ [connection.link.nextId]) ++
        connection.link.answers.map Prod.fst).Perm
        (connection.link.nextId :: connection.link.numbers) := by
      exact (List.perm_append_singleton _ _).append_right _
    constructor
    · exact numbers.nodup_iff.mpr (List.nodup_cons.mpr ⟨fresh, fair.once⟩)
    · intro number member
      show number < connection.link.nextId + 1
      rcases List.mem_cons.mp (numbers.subset member) with rfl | old
      · exact Nat.lt_succ_self _
      · exact Nat.lt_succ_of_lt (fair.below number old)
  · exact fair

/-- Each question gets a number of its own. -/
theorem Fair.questions (fair : connection.Fair) (calls : List Call) :
    (connection.questions calls).1.Fair := by
  induction calls generalizing connection with
  | nil => exact fair
  | cons call rest ih => exact ih (fair.question call)

/-- Every call gets a number, or is known to have got none. -/
theorem length_questions (calls : List Call) :
    (connection.questions calls).2.length = calls.length := by
  induction calls generalizing connection with
  | nil => rfl
  | cons call rest ih => exact congrArg (· + 1) ih

/-! ## Places -/

/-- The answers that arrived, with the places of their questions. -/
def arrivals (ids : List (Option Nat)) (answers : List (Nat × Except Refusal Json)) :
    List (Nat × Except ExchangeFailure Json) :=
  answers.filterMap fun (id, outcome) =>
    (ids.findIdx? (· = some id)).map fun place => (place, outcome.mapError .refused)

/-- The places of the questions that are given up, with the reason. -/
def givenUp (ids : List (Option Nat)) (arrived : List (Nat × Except ExchangeFailure Json))
    (late : Prop) [Decidable late] : List (Nat × Except ExchangeFailure Json) :=
  ids.zipIdx.filterMap fun (id, place) =>
    if arrived.any fun answer => answer.1 = place then none
    else if id.isSome ∧ late then some (place, .error .timedOut)
    else some (place, .error .stopped)

/-- Different answers belong to different places. -/
theorem nodup_places (ids : List (Option Nat)) {numbers : List Nat} (once : numbers.Nodup) :
    (numbers.filterMap fun id => ids.findIdx? (· = some id)).Nodup := by
  apply once.filterMap
  intro first second place found also
  obtain ⟨inside, here, -⟩ := List.findIdx?_eq_some_iff_getElem.mp found
  obtain ⟨_, there, -⟩ := List.findIdx?_eq_some_iff_getElem.mp also
  have same : some first = some second := by
    rw [← of_decide_eq_true here, ← of_decide_eq_true there]
  exact Option.some.inj same

/-- Each answer that arrived stands at the place of the question with its number. -/
theorem places_arrivals (ids : List (Option Nat)) (answers : List (Nat × Except Refusal Json)) :
    (arrivals ids answers).map Prod.fst =
      (answers.map Prod.fst).filterMap fun id => ids.findIdx? (· = some id) := by
  unfold arrivals
  rw [List.map_filterMap, List.filterMap_map]
  congr 1
  funext answer
  show Option.map Prod.fst (Option.map _ (ids.findIdx? (· = some answer.1))) = _
  rw [Option.map_map]
  exact congrFun Option.map_id _

/-- The questions given up are those whose answers did not arrive. -/
theorem places_givenUp (ids : List (Option Nat))
    (arrived : List (Nat × Except ExchangeFailure Json)) (late : Prop) [Decidable late] :
    (givenUp ids arrived late).map Prod.fst =
      (List.range ids.length).filter (· ∉ arrived.map Prod.fst) := by
  have range : List.range ids.length = ids.zipIdx.map Prod.snd := by
    rw [List.zipIdx_map_snd, List.range_eq_range']
  unfold givenUp
  rw [range, List.map_filterMap, ← List.filterMap_eq_filter, List.filterMap_map]
  congr 1
  funext ⟨id, place⟩
  have came : (arrived.any fun answer => answer.1 = place) = true ↔
      place ∈ arrived.map Prod.fst := by
    simp only [List.any_eq_true, decide_eq_true_eq, List.mem_map]
  by_cases here : place ∈ arrived.map Prod.fst
  · simp only [if_pos (came.mpr here), Function.comp, Option.guard, here, not_true, decide_false]
    rfl
  · simp only [if_neg (mt came.mp here), Function.comp, Option.guard, here, not_false_iff,
      decide_true, if_true]
    split <;> rfl

/-- Some places and all the others are all places. -/
theorem perm_range_of_nodup {places : List Nat} {n : Nat} (once : places.Nodup)
    (inside : ∀ place ∈ places, place < n) :
    (places ++ (List.range n).filter (· ∉ places)).Perm (List.range n) := by
  have others : ((List.range n).filter (· ∉ places)).Nodup := List.nodup_range.filter _
  have apart : places.Disjoint ((List.range n).filter (· ∉ places)) := by
    intro place here there
    exact of_decide_eq_true (List.mem_filter.mp there).2 here
  rw [List.perm_ext_iff_of_nodup (List.nodup_append'.mpr ⟨once, others, apart⟩) List.nodup_range]
  intro place
  rw [List.mem_append, List.mem_filter, List.mem_range, decide_eq_true_eq]
  constructor
  · rintro (here | there)
    · exact inside place here
    · exact there.1
  · intro below
    by_cases here : place ∈ places
    · exact .inl here
    · exact .inr ⟨below, here⟩

/-- Every question that is asked comes to an end once. -/
theorem Fair.ask_once (fair : connection.Fair) (limit : Option Duration) (calls : List Call) :
    ((ask limit calls connection).2.map Prod.fst).Perm (List.range calls.length) := by
  let later := (connection.questions calls).1.settle
  let ids := (connection.questions calls).2
  -- Answers that came in no time do not count, but their questions do.
  let answers := if limit = some ⟨0⟩ then [] else later.link.answers
  have settled : later.Fair := (fair.questions calls).settle
  have once : (answers.map Prod.fst).Nodup := by
    by_cases noTime : limit = some ⟨0⟩
    · rw [show answers = [] from if_pos noTime]
      exact List.nodup_nil
    · rw [show answers = later.link.answers from if_neg noTime]
      exact settled.once.of_append_right
  have inside : ∀ place ∈ (arrivals ids answers).map Prod.fst, place < ids.length := by
    rw [places_arrivals]
    intro place member
    obtain ⟨id, -, found⟩ := List.mem_filterMap.mp member
    obtain ⟨below, -⟩ := List.findIdx?_eq_some_iff_getElem.mp found
    exact below
  have arrived : ((arrivals ids answers).map Prod.fst).Nodup := by
    rw [places_arrivals]
    exact nodup_places ids once
  show ((arrivals ids answers ++ givenUp ids (arrivals ids answers)
    (later.link.running = true ∨ limit = some ⟨0⟩)).map Prod.fst).Perm _
  rw [List.map_append, places_givenUp, ← length_questions calls]
  exact perm_range_of_nodup arrived inside

/-- Questions and their answers leave the client's end fair. -/
theorem Fair.ask (fair : connection.Fair) (limit : Option Duration) (calls : List Call) :
    (ask limit calls connection).1.Fair := by
  have settled : (connection.questions calls).1.settle.Fair := (fair.questions calls).settle
  have fewer : ((connection.questions calls).1.settle.link.unanswered ++ []).Sublist
      (connection.questions calls).1.settle.link.numbers :=
    (List.Sublist.refl _).append (List.nil_sublist _)
  exact ⟨settled.once.sublist fewer,
    fun number member => settled.below number (fewer.subset member)⟩

/-- A notice leaves the client's end fair. -/
theorem Fair.tell (fair : connection.Fair) (call : Call) : (tell call connection).1.Fair := by
  unfold Connection.tell
  split
  · have sent : (connection.send (.notice call.method call.params)).Fair := fair
    exact sent.settle
  · exact fair

/-- A connection to a scripted server, whatever the script, brings every question to an end. -/
theorem orderly_transport : transport.Orderly Fair where
  once limit calls _ fair := fair.ask_once limit calls
  ask limit calls _ fair := fair.ask limit calls
  tell call _ fair := fair.tell call
  events state fair := by
    show ({ state.link with events := [] } : Link).Fair
    exact Link.Fair.of_perm fair (.refl _) rfl

/-! ## Servers without a script -/

/-- The connection stands, and its server has no script and nothing to do. -/
structure Quiet (connection : Connection) : Prop where
  /-- The client's end stands. -/
  running : connection.link.running = true
  /-- No question is open. -/
  pending : connection.link.pending = []
  /-- The server is alive. -/
  alive : connection.server.alive = true
  /-- It has no script. -/
  script : connection.server.script = .empty
  /-- It has nothing left to read. -/
  backlog : connection.server.backlog = []
  /-- It has nothing left to do. -/
  task : connection.server.task = none
  /-- Nothing has arrived. -/
  inbox : connection.inbox = []

/-- A connection without a script is quiet. -/
theorem quiet_start : (start .empty).Quiet := ⟨rfl, rfl, rfl, rfl, rfl, rfl, rfl⟩

/-- Nothing happens on a quiet connection. -/
theorem Quiet.step {connection : Connection} (quiet : connection.Quiet) :
    connection.step? = none := by
  simp only [step?, ScriptedServer.advance?, quiet.alive, quiet.task, quiet.backlog, quiet.inbox,
    Bool.not_true, Bool.false_eq_true, ↓reduceIte]

/-- Nothing happens on a quiet connection. -/
theorem Quiet.run {connection : Connection} (quiet : connection.Quiet) (steps : Nat) :
    run steps connection = connection := by
  cases steps with
  | zero => rfl
  | succ steps => simp only [Connection.run, quiet.step]

/-- A run begins with what happens next. -/
theorem run_succ_of_step {connection later : Connection} (step : connection.step? = some later)
    (steps : Nat) : run (steps + 1) connection = run steps later := by
  rw [Connection.run, step]

/-- A notice other than the exit is taken, and the server does nothing about it. -/
theorem Quiet.tell {connection : Connection} (quiet : connection.Quiet) {call : Call}
    (other : call.method ≠ "exit") :
    (tell call connection).2 = .ok () ∧ (tell call connection).1.Quiet := by
  obtain ⟨⟨running, nextId, pending, unanswered, answers, events, stream⟩,
    ⟨script, received, backlog, held, task, alive⟩, inbox⟩ := connection
  obtain ⟨rfl, rfl, rfl, rfl, rfl, rfl, rfl⟩ := quiet
  let link : Link := ⟨true, nextId, [], unanswered, answers, events, stream⟩
  let reaction := ScriptedServer.usualReaction call.method
  let read : Received := .notice call.method call.params
  let sent : Connection := ⟨link, ⟨.empty, received, [], held, none, true⟩,
    [.notice call.method call.params]⟩
  let busy : Connection := ⟨link, ⟨.empty, received ++ [read], [], held,
    some ⟨none, reaction.before, reaction, none⟩, true⟩, []⟩
  let done : Connection := ⟨link, ⟨.empty, received ++ [read], [], held, none, true⟩, []⟩
  have silent : reaction = ScriptedServer.plainAction .silence := by
    show ScriptedServer.usualReaction call.method = _
    unfold ScriptedServer.usualReaction
    split
    · contradiction
    · rfl
  have reads : sent.step? = some busy := rfl
  have concludes : busy.step? = some done := by
    simp only [busy, silent]
    rfl
  -- The server reads the notice and is done with it; two steps are enough.
  have settles : sent.settle = done := by
    have quiet : done.Quiet := ⟨rfl, rfl, rfl, rfl, rfl, rfl, rfl⟩
    have weight : sent.weight = 14 + 1 + 1 := rfl
    rw [settle, weight, run_succ_of_step reads, run_succ_of_step concludes, quiet.run]
  refine ⟨rfl, ?_⟩
  show sent.settle.Quiet
  rw [settles]
  exact ⟨rfl, rfl, rfl, rfl, rfl, rfl, rfl⟩

end Connection

end Server

end LanguageClient
