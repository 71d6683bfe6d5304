import LanguageClient.Proofs.Recording

/-!
# Dealings with a server

A transport can log all that is handed to it together with what comes of it. `Carried` says how a
plan of what is to be handed is carried out: one dealing after the other, up to the first that
does not go well. The other lemmas are about the parts of a session, each of which carries out its
own plan.
-/

namespace LanguageClient.Server

/-- Something that was handed to a connection, and what came of it. -/
inductive Dealing
  /-- Questions were asked at once. -/
  | asked (exchange : Exchange)
  /-- A notice was given. -/
  | told (call : Call) (result : Except ExchangeFailure Unit)

/-- What is made of the answer to a question; its form goes by the method. -/
def Call.form (call : Call) : Passive :=
  if call.method = "initialize" then introductionForm
  else if call.method = "shutdown" then Passive.nothing
  else if call.method = Request.childrenMethod then Passive.of Tree.childrenForm
  else if call.method = Request.parentMethod then Passive.of Tree.parentForm
  else if call.method = Request.revealMethod then Passive.of Tree.Chain.form.nullable
  else if call.method = Request.previewMethod then Passive.of Preview.Listing.form
  else fun value => .ok value

namespace Dealing

/-- What was handed. -/
def handed : Dealing → List Handed
  | asked exchange => exchange.calls.map .question
  | told call _ => [.notice call]

/-- A single notice was told. -/
theorem eq_told {dealing : Dealing} {call : Call} (handed : dealing.handed = [.notice call]) :
    ∃ result, dealing = told call result := by
  cases dealing with
  | asked exchange =>
    obtain ⟨other, -, wrong⟩ := List.map_eq_singleton_iff.mp handed
    cases wrong
  | told other result =>
    obtain rfl := Handed.notice.inj (List.singleton_inj.mp handed)
    exact ⟨result, rfl⟩

/-- A single question was asked. -/
theorem eq_asked {dealing : Dealing} {call : Call} (handed : dealing.handed = [.question call]) :
    ∃ exchange, dealing = asked exchange ∧ exchange.calls = [call] := by
  cases dealing with
  | asked exchange =>
    obtain ⟨other, calls, same⟩ := List.map_eq_singleton_iff.mp handed
    obtain rfl := Handed.question.inj same
    exact ⟨exchange, rfl, calls⟩
  | told other result =>
    cases List.singleton_inj.mp handed

/-- Every question was answered, in the form that it wants; the notice was taken. -/
def Good : Dealing → Prop
  | asked exchange =>
    (exchange.answers.map Prod.fst).Perm (List.range exchange.calls.length) ∧
      ∀ answer ∈ exchange.answers, ∀ call, exchange.calls[answer.1]? = some call →
        ∃ value read, answer.2 = .ok value ∧ call.form value = .ok read
  | told _ result => result = .ok ()

end Dealing

section
variable {σ : Type} (transport : Transport σ)

/-- A transport that logs what is handed to it and what comes of it. -/
def Transport.logging : Transport (σ × List Dealing) where
  ask limit calls state :=
    let (inner, answers) := transport.ask limit calls state.1
    ((inner, state.2 ++ [.asked ⟨calls, answers⟩]), answers)
  tell call state :=
    let (inner, result) := transport.tell call state.1
    ((inner, state.2 ++ [.told call result]), result)
  events state :=
    let (inner, events) := transport.events state.1
    ((inner, state.2), events)

/-- A log changes nothing of what a transport does. -/
theorem Transport.shadows_logging : transport.logging.Shadows transport Prod.fst :=
  ⟨fun _ _ _ => rfl, fun _ _ => rfl, fun _ => rfl⟩

/-- In fair states, and it stays in them, a transport brings every question to an end once. -/
structure Transport.Orderly (fair : σ → Prop) : Prop where
  /-- Each question is answered or given up once. -/
  once : ∀ limit calls state, fair state →
    ((transport.ask limit calls state).2.map Prod.fst).Perm (List.range calls.length)
  /-- Questions leave the state fair. -/
  ask : ∀ limit calls state, fair state → fair (transport.ask limit calls state).1
  /-- Notices leave the state fair. -/
  tell : ∀ call state, fair state → fair (transport.tell call state).1
  /-- Events leave the state fair. -/
  events : ∀ state, fair state → fair (transport.events state).1

end

/-! ## Plans -/

/-- A plan was carried out by some dealings, up to the first that did not go well, and whether to
its end. Every step of a plan is what is handed at once. -/
inductive Carried : List (List Handed) → List Dealing → Bool → Prop
  /-- Nothing was left to do. -/
  | done : Carried [] [] true
  /-- A dealing did not go well. -/
  | failed (dealing : Dealing) (plan : List (List Handed)) (bad : ¬ dealing.Good) :
    Carried (dealing.handed :: plan) [dealing] false
  /-- A dealing went well. -/
  | next (dealing : Dealing) {plan : List (List Handed)} {dealings : List Dealing} {whole : Bool}
      (good : dealing.Good) (rest : Carried plan dealings whole) :
    Carried (dealing.handed :: plan) (dealing :: dealings) whole

namespace Carried

variable {plan more : List (List Handed)} {dealings others : List Dealing} {whole : Bool}

/-- What was handed is what the plan begins with. -/
theorem handed_prefix (carried : Carried plan dealings whole) :
    dealings.map Dealing.handed <+: plan := by
  induction carried with
  | done => exact List.prefix_rfl
  | failed dealing plan bad => exact ⟨plan, rfl⟩
  | next dealing good rest ih => exact (List.prefix_cons_inj _).mpr ih

/-- If a plan was carried out to its end all of it was handed. -/
theorem handed_eq (carried : Carried plan dealings true) : dealings.map Dealing.handed = plan := by
  generalize isWhole : true = whole at carried
  induction carried with
  | done => rfl
  | failed dealing plan bad => cases isWhole
  | next dealing good rest ih => rw [List.map_cons, ih isWhole]

/-- If all went well the plan was carried out to its end. -/
theorem whole_of_good (carried : Carried plan dealings whole)
    (good : ∀ dealing ∈ dealings, dealing.Good) : whole = true := by
  induction carried with
  | done => rfl
  | failed dealing plan bad => exact absurd (good dealing List.mem_cons_self) bad
  | next dealing fine rest ih =>
    exact ih fun other member => good other (List.mem_cons_of_mem _ member)

/-- A plan that was not carried out to its end ends with a dealing that did not go well. -/
theorem bad_at_end (carried : Carried plan dealings false) :
    ∃ before dealing, dealings = before ++ [dealing] ∧ ¬ dealing.Good := by
  generalize isBroken : false = whole at carried
  induction carried with
  | done => cases isBroken
  | failed dealing plan bad => exact ⟨[], dealing, rfl, bad⟩
  | next dealing good rest ih =>
    obtain ⟨before, last, rfl, bad⟩ := ih isBroken
    exact ⟨dealing :: before, last, rfl, bad⟩

/-- A dealing that did not go well is the last one, and the plan was not carried out to its end. -/
theorem last_of_bad (carried : Carried plan dealings whole) {before after : List Dealing}
    {dealing : Dealing} (split : dealings = before ++ dealing :: after) (bad : ¬ dealing.Good) :
    after = [] ∧ whole = false := by
  induction carried generalizing before with
  | done => simp at split
  | failed other plan badToo =>
    rcases List.cons_eq_append_iff.mp split with ⟨-, same⟩ | ⟨rest, -, nothing⟩
    · exact ⟨(List.cons.inj same).2, rfl⟩
    · simp at nothing
  | next other good rest ih =>
    rcases List.cons_eq_append_iff.mp split with ⟨-, same⟩ | ⟨earlier, -, later⟩
    · obtain ⟨rfl, -⟩ := List.cons.inj same
      exact absurd good bad
    · exact ih later

/-- One plan after the other. -/
theorem append (first : Carried plan dealings true) (second : Carried more others whole) :
    Carried (plan ++ more) (dealings ++ others) whole := by
  generalize isWhole : true = begun at first
  induction first with
  | done => exact second
  | failed dealing plan bad => cases isWhole
  | next dealing good rest ih => exact .next dealing good (ih isWhole)

/-- What was not carried out to its end is not carried out further. -/
theorem append_of_false (first : Carried plan dealings false) (more : List (List Handed)) :
    Carried (plan ++ more) dealings false := by
  generalize isBroken : false = begun at first
  induction first with
  | done => cases isBroken
  | failed dealing plan bad => exact .failed dealing _ bad
  | next dealing good rest ih => exact .next dealing good (ih isBroken)

end Carried

/-- From one state of a logged connection to another, a plan was carried out. -/
structure Goes {σ : Type} (fair : σ → Prop) (before after : σ × List Dealing)
    (plan : List (List Handed)) (whole : Bool) : Prop where
  /-- The state is fair afterwards. -/
  fair : fair after.1
  /-- What was added to the log carries out the plan. -/
  log : ∃ dealings, after.2 = before.2 ++ dealings ∧ Carried plan dealings whole

namespace Goes

variable {σ : Type} {fair : σ → Prop} {first second third : σ × List Dealing}
  {plan more : List (List Handed)} {whole : Bool}

/-- From a fair state, nothing at all is carried out by doing nothing. -/
theorem nothing (isFair : fair first.1) : Goes fair first first [] true :=
  ⟨isFair, [], (List.append_nil _).symm, .done⟩

/-- Two plans are carried out one after the other. -/
theorem trans (begun : Goes fair first second plan true)
    (ended : Goes fair second third more whole) : Goes fair first third (plan ++ more) whole := by
  obtain ⟨-, dealings, log, carried⟩ := begun
  obtain ⟨isFair, others, logToo, carriedToo⟩ := ended
  exact ⟨isFair, dealings ++ others, by rw [logToo, log, List.append_assoc],
    carried.append carriedToo⟩

/-- A plan that has failed is not carried on. -/
theorem stop (begun : Goes fair first second plan false) (more : List (List Handed)) :
    Goes fair first second (plan ++ more) false := by
  obtain ⟨isFair, dealings, log, carried⟩ := begun
  exact ⟨isFair, dealings, log, carried.append_of_false more⟩

/-- A single dealing carries out a plan of one step. -/
theorem dealing {state : σ} (isFair : fair state) (dealing : Dealing)
    (good : dealing.Good ↔ whole = true) :
    Goes fair first (state, first.2 ++ [dealing]) [dealing.handed] whole := by
  refine ⟨isFair, [dealing], rfl, ?_⟩
  cases whole with
  | true => exact .next dealing (good.mpr rfl) .done
  | false => exact .failed dealing [] fun fine => Bool.noConfusion (good.mp fine)

end Goes

/-! ## Parts of a session -/

variable {σ : Type} {transport : Transport σ} {fair : σ → Prop}

/-- A notice is a dealing. -/
theorem goes_tell (orderly : transport.Orderly fair) (call : Call) {state : σ × List Dealing}
    (isFair : fair state.1) :
    Goes fair state (transport.logging.tell call state).1 [[.notice call]]
      (transport.logging.tell call state).2.toBool := by
  refine Goes.dealing (orderly.tell call state.1 isFair) (.told call _) ?_
  show (transport.tell call state.1).2 = .ok () ↔ (transport.tell call state.1).2.toBool = true
  cases (transport.tell call state.1).2 with
  | error failure => exact iff_of_false nofun Bool.noConfusion
  | ok fine => exact iff_of_true rfl rfl

/-- Questions that are asked at once are a dealing. -/
theorem goes_ask (orderly : transport.Orderly fair) (limit : Option Duration) (calls : List Call)
    {state : σ × List Dealing} (isFair : fair state.1) (whole : Bool)
    (good : (∀ answer ∈ (transport.logging.ask limit calls state).2, ∀ call,
      calls[answer.1]? = some call →
        ∃ value read, answer.2 = .ok value ∧ call.form value = .ok read) ↔ whole = true) :
    Goes fair state (transport.logging.ask limit calls state).1 [calls.map .question] whole := by
  apply Goes.dealing (orderly.ask limit calls state.1 isFair) (.asked ⟨calls, _⟩)
  rw [← good]
  exact and_iff_right (orderly.once limit calls state.1 isFair)

/-- A single question has one answer. -/
theorem answers_single (orderly : transport.Orderly fair) (limit : Option Duration) (call : Call)
    {state : σ × List Dealing} (isFair : fair state.1) :
    ∃ outcome, (transport.logging.ask limit [call] state).2 = [(0, outcome)] := by
  have once := orderly.once limit [call] state.1 isFair
  have places : ((transport.logging.ask limit [call] state).2.map Prod.fst) = [0] :=
    List.perm_singleton.mp once
  generalize (transport.logging.ask limit [call] state).2 = answers at places
  obtain ⟨⟨place, outcome⟩, rfl, rfl⟩ := List.map_eq_singleton_iff.mp places
  exact ⟨outcome, rfl⟩

/-- What is made of a failure does not change whether there is one. -/
theorem toBool_mapError {ε ε' α : Type} (f : ε → ε') (result : Except ε α) :
    (result.mapError f).toBool = result.toBool := by
  cases result <;> rfl

/-- A usable answer is made of an outcome if it is a value of the form that is wanted. -/
theorem readable_iff {form : Passive} {outcome : Except ExchangeFailure Json} :
    (∃ value read, outcome = .ok value ∧ form value = .ok read) ↔
      (outcome.bind fun value => (form value).mapError .unreadable).toBool = true := by
  cases outcome with
  | error failure => exact iff_of_false nofun Bool.noConfusion
  | ok value =>
    show _ ↔ ((form value).mapError _).toBool = true
    rw [toBool_mapError]
    constructor
    · rintro ⟨found, read, same, readable⟩
      obtain rfl := Except.ok.inj same
      rw [readable]
      rfl
    · intro fine
      cases readable : form value with
      | error cause =>
        rw [readable] at fine
        cases fine
      | ok read => exact ⟨value, read, rfl, readable⟩

/-- The form of an answer goes by the question that is sent. -/
theorem form_callOf (request : LanguageClient.Request) :
    (Session.callOf request).form = request.settle := by
  cases request <;> rfl

/-- What the client hands over before it acts. -/
def greeting (place : Place) (processId : Nat) : List (List Handed) :=
  [[.question (introduction place processId)], [.notice ⟨"initialized", .obj []⟩]]

/-- What the client hands over when it has acted. -/
def farewell : List (List Handed) := [[.question ⟨"shutdown", .null⟩], [.notice ⟨"exit", .null⟩]]

namespace Session

/-- A single question is a dealing. -/
theorem goes_askOne (orderly : transport.Orderly fair) (limit : Option Duration) (call : Call)
    {state : σ × List Dealing} (isFair : fair state.1) :
    Goes fair state (askOne transport.logging limit call.form call state).1 [[.question call]]
      (askOne transport.logging limit call.form call state).2.toBool := by
  obtain ⟨outcome, answers⟩ := answers_single orderly limit call isFair
  have result : (askOne transport.logging limit call.form call state).2 =
      outcome.bind fun value => (call.form value).mapError .unreadable := by
    simp only [askOne, answers, outcomeOf]
  apply goes_ask orderly limit [call] isFair
  rw [result, answers, ← readable_iff, List.forall_mem_singleton]
  constructor
  · intro fine
    exact fine call rfl
  · intro fine other found
    obtain rfl : call = other := by simpa using found
    exact fine

/-- How a server is started when what is handed to it is logged. -/
def logged (spawn : Place → String → List String → Except FileError σ) (place : Place)
    (name : String) (arguments : List String) : Except FileError (σ × List Dealing) :=
  (spawn place name arguments).map fun state => (state, [])

/-- In its directory a launch starts a server, and this is the connection to it. -/
def Reaches (spawn : Place → String → List String → Except FileError σ) (disk : Disk)
    (launch : Launch) (place : Place) (first : σ) : Prop :=
  (∃ node, workspaceOf disk launch = .ok (place, node)) ∧
    spawn place launch.command launch.arguments = .ok first

/-- The start of a session reaches no server, or greets one. -/
theorem goes_start (orderly : transport.Orderly fair)
    {spawn : Place → String → List String → Except FileError σ}
    (spawned : ∀ place name arguments state, spawn place name arguments = .ok state → fair state)
    (disk : Disk) (launch : Launch) :
    ((start transport.logging (logged spawn) disk launch).1 = none ∧
        (start transport.logging (logged spawn) disk launch).2.toBool = false ∧
        ∀ place first, ¬ Reaches spawn disk launch place first) ∨
      ∃ place first last, Reaches spawn disk launch place first ∧
        (start transport.logging (logged spawn) disk launch).1 = some last ∧
        Goes fair (first, []) last (greeting place launch.processId)
          (start transport.logging (logged spawn) disk launch).2.toBool ∧
        ∀ session, (start transport.logging (logged spawn) disk launch).2 = .ok session →
          session.state = last := by
  unfold start
  cases root : workspaceOf disk launch with
  | error cause =>
    refine .inl ⟨rfl, rfl, ?_⟩
    rintro place first ⟨⟨node, found⟩, -⟩
    rw [root] at found
    cases found
  | ok found =>
    obtain ⟨place, node⟩ := found
    simp only [logged]
    cases spawns : spawn place launch.command launch.arguments with
    | error cause =>
      refine .inl ⟨rfl, rfl, ?_⟩
      rintro other first ⟨⟨inside, found⟩, started⟩
      obtain ⟨rfl, -⟩ := Prod.mk.inj (Except.ok.inj (root.symm.trans found))
      rw [spawns] at started
      cases started
    | ok first =>
      have reaches : Reaches spawn disk launch place first := ⟨⟨node, root⟩, spawns⟩
      have isFair := spawned place launch.command launch.arguments first spawns
      have greets : Goes fair (first, [])
          (askOne transport.logging (some launch.initTimeout) introductionForm
            (introduction place launch.processId) (first, [])).1
          [[.question (introduction place launch.processId)]]
          (askOne transport.logging (some launch.initTimeout) introductionForm
            (introduction place launch.processId) (first, [])).2.toBool :=
        goes_askOne orderly (some launch.initTimeout) (introduction place launch.processId) isFair
      simp only [Except.map]
      generalize askOne transport.logging (some launch.initTimeout) introductionForm
        (introduction place launch.processId) (first, []) = asked at greets ⊢
      obtain ⟨state, failure | answer⟩ := asked
      · have stopped := greets.stop [[.notice ⟨"initialized", .obj []⟩]]
        cases failure <;>
          exact .inr ⟨place, first, state, reaches, rfl, stopped, fun _ same => by cases same⟩
      · have told := goes_tell orderly ⟨"initialized", .obj []⟩ greets.fair
        simp only at told ⊢
        generalize transport.logging.tell ⟨"initialized", .obj []⟩ state = sent at told ⊢
        obtain ⟨last, failure | fine⟩ := sent
        · exact .inr ⟨place, first, last, reaches, rfl, greets.trans told,
            fun _ same => by cases same⟩
        · refine .inr ⟨place, first, last, reaches, rfl, greets.trans told, ?_⟩
          intro session same
          rw [← Except.ok.inj same]

/-- A file that can be read is handed over. -/
theorem goes_openDocument (orderly : transport.Orderly fair) {disk : Disk} {path : Path}
    {document : Url} {text : String}
    (read : Documents.readDocument disk path = .ok (document, text))
    (session : Session (σ × List Dealing)) (isFair : fair session.state.1) :
    Goes fair session.state (session.openDocument transport.logging disk path).1.state
        [[.notice (Documents.openNotice document (languageId path) text)]]
        (session.openDocument transport.logging disk path).2.toBool ∧
      ∀ opened, (session.openDocument transport.logging disk path).2 = .ok opened →
        opened = document := by
  have told := goes_tell orderly (Documents.openNotice document (languageId path) text) isFair
  simp only [openDocument, Documents.openAt, read]
  generalize transport.logging.tell (Documents.openNotice document (languageId path) text)
    session.state = sent at told ⊢
  obtain ⟨last, failure | fine⟩ := sent
  · refine ⟨told, fun opened same => ?_⟩
    cases same
  · exact ⟨told, fun opened same => (Except.ok.inj same).symm⟩

omit transport fair in
/-- A file that cannot be read is not. -/
theorem openDocument_unread (transport : Transport σ) {disk : Disk} {path : Path}
    {cause : LspError} (read : Documents.readDocument disk path = .error cause)
    (session : Session σ) :
    session.openDocument transport disk path = (session, .error cause) := by
  simp only [openDocument, Documents.openAt, read]

/-- Whether the replies to all questions came and have their forms. -/
def allFine (replies : List (Nat × Except LspError Json)) : Bool :=
  replies.all fun reply => reply.2.toBool

/-- Questions of the client that are asked at once are a dealing. -/
theorem goes_askAll (orderly : transport.Orderly fair) (requests : List LanguageClient.Request)
    (session : Session (σ × List Dealing)) (isFair : fair session.state.1) :
    Goes fair session.state (session.askAll transport.logging requests).1.state
      [requests.map fun request => .question (callOf request)]
      (allFine (session.askAll transport.logging requests).2) := by
  have goes := goes_ask orderly (some session.requestTimeout) (requests.map callOf) isFair
    (allFine (session.askAll transport.logging requests).2) ?_
  · rw [List.map_map] at goes
    exact goes
  · have replies : (session.askAll transport.logging requests).2 =
        (transport.logging.ask (some session.requestTimeout) (requests.map callOf)
          session.state).2.filterMap fun answer => requests[answer.1]?.map fun request =>
            (answer.1, settle session.requestTimeout request answer.2) := rfl
    rw [replies, allFine, List.all_eq_true]
    constructor
    · intro good reply member
      obtain ⟨⟨place, outcome⟩, answered, same⟩ := List.mem_filterMap.mp member
      obtain ⟨request, found, rfl⟩ := Option.map_eq_some_iff.mp same
      have readable := good (place, outcome) answered (callOf request) (by simp [found])
      rw [form_callOf, readable_iff] at readable
      show (settle session.requestTimeout request outcome).toBool = true
      rw [settle, toBool_mapError]
      exact readable
    · intro fine answer answered call found
      rw [List.getElem?_map, Option.map_eq_some_iff] at found
      obtain ⟨request, place, rfl⟩ := found
      have settled := fine (answer.1, settle session.requestTimeout request answer.2)
        (List.mem_filterMap.mpr ⟨answer, answered, by simp [place]⟩)
      rw [form_callOf, readable_iff]
      rw [settle, toBool_mapError] at settled
      exact settled

/-- A question of the client is a dealing. -/
theorem goes_question (orderly : transport.Orderly fair) (request : LanguageClient.Request)
    (session : Session (σ × List Dealing)) (isFair : fair session.state.1) :
    Goes fair session.state (session.ask transport.logging request).1.state
      [[.question (callOf request)]] (session.ask transport.logging request).2.toBool := by
  have one : ∃ reply, (session.askAll transport.logging [request]).2 = [(0, reply)] := by
    obtain ⟨outcome, answers⟩ :=
      answers_single orderly (some session.requestTimeout) (callOf request) isFair
    refine ⟨settle session.requestTimeout request outcome, ?_⟩
    simp only [askAll, List.map_cons, List.map_nil, answers]
    rfl
  obtain ⟨reply, replies⟩ := one
  have goes := goes_askAll orderly [request] session isFair
  rw [ask]
  generalize session.askAll transport.logging [request] = asked at replies goes ⊢
  obtain ⟨after, answers⟩ := asked
  obtain rfl : answers = [(0, reply)] := replies
  have fine : allFine [(0, reply)] = reply.toBool := Bool.and_true _
  rw [← fine]
  exact goes

/-- The client takes its leave by the farewell. -/
theorem goes_shutdown (orderly : transport.Orderly fair) (session : Session (σ × List Dealing))
    (isFair : fair session.state.1) :
    Goes fair session.state (session.shutdown transport.logging).1.state farewell
      (session.shutdown transport.logging).2.toBool := by
  have asks : Goes fair session.state
      (askOne transport.logging none .nothing ⟨"shutdown", .null⟩ session.state).1
      [[.question ⟨"shutdown", .null⟩]]
      (askOne transport.logging none .nothing ⟨"shutdown", .null⟩ session.state).2.toBool :=
    goes_askOne orderly none ⟨"shutdown", .null⟩ isFair
  unfold shutdown
  generalize askOne transport.logging none .nothing ⟨"shutdown", .null⟩ session.state = asked
    at asks ⊢
  obtain ⟨state, failure | answer⟩ := asked
  · exact asks.stop [[.notice ⟨"exit", .null⟩]]
  · have told := goes_tell orderly ⟨"exit", .null⟩ asks.fair
    show Goes fair session.state (transport.logging.tell ⟨"exit", .null⟩ state).1 farewell
      ((transport.logging.tell ⟨"exit", .null⟩ state).2.mapError _).toBool
    simp only at told
    generalize transport.logging.tell ⟨"exit", .null⟩ state = sent at told ⊢
    obtain ⟨last, failure | fine⟩ := sent
    · exact asks.trans told
    · exact asks.trans told

end Session

end LanguageClient.Server
