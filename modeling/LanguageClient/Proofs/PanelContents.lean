import LanguageClient.Proofs.Courses
import LanguageClient.Proofs.PanelRegistry

/-!
# What the panels show

The editor shows in a panel the page that it was last told to render there. `display_last` says
which page that is, if every step renders just the listing that it brings. This is so in every run
of the client, with any number of panels and of open questions (`Client.ShowsLastArrivals`), and in
every run of a single panel, which tells how many lines it has rendered
(`Preview.Panel.ShowsLastArrivals`).
-/

namespace LanguageClient

open Preview (Listing page rows)

variable {ι α : Type}

/-! ## The editor -/

/-- What the panels of the editor show, by their numbers, after one more call: a page replaces the
one that its panel showed before. -/
def EditorCall.display (shown : Table Nat String) : EditorCall → Table Nat String
  | .render panel html => shown.insert panel.id html
  | _ => shown

/-- What the panels of the editor show after some calls. -/
def displayed (calls : List EditorCall) : Table Nat String :=
  calls.foldl EditorCall.display .empty

/-- The listing that came last for a panel. -/
def lastFor (id : Nat) (arrivals : List (Nat × Listing)) : Option Listing :=
  (arrivals.reverse.find? fun arrival => arrival.1 = id).map Prod.snd

/-- The last listing for a panel is one of the later ones, if there is one. -/
theorem lastFor_append (id : Nat) (first second : List (Nat × Listing)) :
    lastFor id (first ++ second) = (lastFor id second).or (lastFor id first) := by
  unfold lastFor
  rw [List.reverse_append, List.find?_append]
  cases second.reverse.find? fun arrival => decide (arrival.1 = id) <;> simp

/-- The calls of a step render the listing that it brings, in the panel that it is for, by one
call; without a listing they render nothing. -/
inductive Displays (own : Nat → WebPanel → Prop) :
    Option (Nat × Listing) → List EditorCall → Prop
  /-- The page of the listing replaces what its panel showed. -/
  | rendered (web : WebPanel) (listing : Listing) (known : own web.id web) :
    Displays own (some (web.id, listing)) [.render web (page (rows listing))]
  /-- No panel is rendered. -/
  | nothing (calls : List EditorCall) (silent : ∀ call ∈ calls, call.rendered? = none) :
    Displays own none calls

/-- What is displayed in some panels is displayed in any that have these among them. -/
theorem Displays.imp {own other : Nat → WebPanel → Prop} {arrival : Option (Nat × Listing)}
    {calls : List EditorCall} (displays : Displays own arrival calls)
    (kept : ∀ id web, own id web → other id web) : Displays other arrival calls := by
  cases displays with
  | rendered web listing known => exact .rendered web listing (kept web.id web known)
  | nothing _ silent => exact .nothing calls silent

/-- A call that renders nothing leaves what is shown. -/
theorem display_of_silent {call : EditorCall} (silent : call.rendered? = none)
    (shown : Table Nat String) : call.display shown = shown := by
  cases call with
  | render panel html => cases silent
  | _ => rfl

/-- What a panel shows after the calls of a step. -/
theorem Displays.get?_foldl {own : Nat → WebPanel → Prop} {arrival : Option (Nat × Listing)}
    {calls : List EditorCall} (displays : Displays own arrival calls) (shown : Table Nat String)
    (id : Nat) :
    (calls.foldl EditorCall.display shown).get? id =
      ((lastFor id arrival.toList).map fun listing => page (rows listing)).or
        (shown.get? id) := by
  cases displays with
  | rendered web listing known =>
    rw [List.foldl_cons, List.foldl_nil, EditorCall.display, Table.get?_insert]
    by_cases own : web.id = id <;> simp [lastFor, own]
  | nothing _ silent =>
    have still : calls.foldl EditorCall.display shown = shown := by
      induction calls with
      | nil => rfl
      | cons call rest ih =>
        rw [List.foldl_cons, display_of_silent (silent call List.mem_cons_self)]
        exact ih fun other member => silent other (List.mem_cons_of_mem _ member)
    simp [still, lastFor]

/-- If every step renders the listing that it brings and nothing else, then what a panel shows in
the end is the page of the listing that came last for it. -/
theorem display_last {own : Nat → WebPanel → Prop}
    {brings? : Happening ι α → Option (Nat × Listing)} {log : List (Happening ι α)}
    (displays : ∀ happening ∈ log, Displays own (brings? happening) happening.calls)
    (shown : Table Nat String) (id : Nat) :
    ((callsIn log).foldl EditorCall.display shown).get? id =
      ((lastFor id (log.filterMap brings?)).map fun listing => page (rows listing)).or
        (shown.get? id) := by
  induction log generalizing shown with
  | nil => simp [callsIn, lastFor]
  | cons happening later ih =>
    have arrivals : (happening :: later).filterMap brings? =
        (brings? happening).toList ++ later.filterMap brings? := by
      cases brought : brings? happening <;> simp [brought]
    have first := displays happening List.mem_cons_self
    rw [callsIn, List.flatMap_cons, List.foldl_append, ← callsIn,
      ih fun other member => displays other (List.mem_cons_of_mem _ member),
      first.get?_foldl, arrivals, lastFor_append]
    cases lastFor id (later.filterMap brings?) <;> simp

/-! ## What a step brings -/

/-- The listing that a step brings, with the panel that it is for: a good answer to a question that
an operation has asked for the panel. -/
def Happening.brings? (asks? : Nat → ι → Option Nat) (happening : Happening ι α) :
    Option (Nat × Listing) :=
  match happening.cause with
  | .issued _ => none
  | .answered operation number reply =>
    match asks? number operation, Listing.form.ofReply reply with
    | some id, .ok listing => some (id, listing)
    | _, _ => none

/-- The panel whose page is asked for by an operation that waits since the step with the number. -/
def Operation.asks? (log : List ClientHappening) (number : Nat) : Operation → Option Nat
  | .command (.startPreview _) => some (Client.panelOf log number)
  | .showPreview id true => some id
  | _ => none

namespace Client

/-- A panel was opened for a document: a preview was started for a path that leads to it. -/
def OpenedFor (log : List ClientHappening) (id : Nat) (document : Url) : Prop :=
  ∃ step start path, log[step]? = some start ∧
    start.cause = .issued (.command (.startPreview path)) ∧
    start.world.disk.urlOf path = .ok document ∧ panelOf log step = id

/-- A panel of the client is shown in a panel of the editor. -/
def ShownIn (client : Client) (id : Nat) (web : WebPanel) : Prop :=
  ∃ panel, client.panels.get? id = some panel ∧ panel.web = web

/-- The panels of a run show what arrived last for them. -/
structure ShowsLastArrivals (run : ClientRun) : Prop where
  /-- Every question for a page is asked for a panel, and names the document that the panel was
  opened for. -/
  asks : ∀ (step : Nat) (asking : ClientHappening) (document : Url), run.log[step]? = some asking →
    asking.request = some (.preview document) →
    ∃ operation id, asking.cause = .issued operation ∧
      operation.asks? run.log step = some id ∧ OpenedFor run.log id document
  /-- A panel is opened for one document. -/
  one : ∀ id first second, OpenedFor run.log id first → OpenedFor run.log id second →
    first = second
  /-- Every answer is one to a question that its operation has asked. -/
  answers : ∀ happening ∈ run.log, ∀ operation number reply,
    happening.cause = .answered operation number reply → Run.AskedIn run.log number operation
  /-- A step that brings a listing for a panel renders it there, once; no other step renders
  anything. -/
  displays : ∀ happening ∈ run.log,
    Displays run.state.ShownIn (happening.brings? (Operation.asks? run.log)) happening.calls
  /-- What the editor shows in a panel is the page of the listing that came last for it, and
  nothing as long as none has come. -/
  content : ∀ id, (displayed (callsIn run.log)).get? id =
    (lastFor id (run.log.filterMap (Happening.brings? (Operation.asks? run.log)))).map
      fun listing => page (rows listing)

variable {log : List ClientHappening} {run : ClientRun}

/-! ## Steps of the client -/

/-- A panel that was opened for a document has been opened for it later, too. -/
theorem openedFor_append {id : Nat} {document : Url} (opened : OpenedFor log id document)
    (more : List ClientHappening) : OpenedFor (log ++ more) id document := by
  obtain ⟨step, start, path, found, cause, leads, number⟩ := opened
  have started : StartedIn log step := ⟨start, found, starts_of_leads cause leads⟩
  exact ⟨step, start, path, by rw [List.getElem?_append_left started.lt_length, found], cause,
    leads, (started.panelOf_append more).trans number⟩

/-- Panels are opened for one document each, since no number is given twice. -/
theorem openedFor_unique {id : Nat} {first second : Url} (opened : OpenedFor log id first)
    (openedToo : OpenedFor log id second) : first = second := by
  obtain ⟨step, start, path, found, cause, leads, number⟩ := opened
  obtain ⟨other, startToo, pathToo, foundToo, causeToo, leadsToo, numberToo⟩ := openedToo
  have same : step = other := panelOf_inj ⟨start, found, starts_of_leads cause leads⟩
    ⟨startToo, foundToo, starts_of_leads causeToo leadsToo⟩ (number.trans numberToo.symm)
  subst same
  obtain rfl := Option.some.inj (found.symm.trans foundToo)
  rw [cause] at causeToo
  cases causeToo
  exact Except.ok.inj (leads.symm.trans leadsToo)

/-- A panel that is known was opened for its document. -/
theorem Made.openedFor (made : Made run) {id : Nat} {panel : Preview.Panel}
    (found : run.state.panels.get? id = some panel) : OpenedFor run.log id panel.document := by
  obtain ⟨step, ⟨start, there, starts⟩, rfl⟩ := made.known id panel found
  obtain ⟨path, document, cause, leads⟩ := leads_of_starts starts
  obtain ⟨own, known, same⟩ := made.made step start path document there cause leads
  obtain rfl := Option.some.inj (found.symm.trans known)
  rw [same]
  exact ⟨step, start, path, there, cause, leads, rfl⟩

/-- What happens later does not change for which panel an operation asks. -/
theorem asks?_append {number : Nat} (within : number ≤ log.length) (operation : Operation)
    (more : List ClientHappening) :
    operation.asks? (log ++ more) number = operation.asks? log number := by
  unfold Operation.asks?
  split
  · rw [panelOf_append within]
  · rfl
  · rfl

/-- What a step has brought does not change when more happens. -/
theorem brings?_append (numbered : run.Numbered) {happening : ClientHappening}
    (member : happening ∈ run.log) (more : List ClientHappening) :
    happening.brings? (Operation.asks? (run.log ++ more)) =
      happening.brings? (Operation.asks? run.log) := by
  unfold Happening.brings?
  split
  · rfl
  · rename_i operation number reply cause
    have within := numbered.answered happening member number (by simp [Happening.answers?, cause])
    rw [asks?_append (Nat.le_of_lt within)]

/-- An operation whose question is open has asked it for the panel whose page is awaited. -/
theorem asks?_of_open (kept : Registered run) {number : Nat} {asked : Asked Operation Pending}
    (isOpen : run.waiting.get? number = some asked) (more : List ClientHappening) :
    asked.operation.asks? (run.log ++ more) number = asked.pending.panel? := by
  have within : number ≤ run.log.length := Nat.le_of_lt (kept.numbered.asked number asked isOpen)
  rw [asks?_append within]
  have first (id : Nat) (page : asked.pending = .firstPage id) : panelOf run.log number = id :=
    (kept.made.first number asked id isOpen page).2
  have awaits := awaits_of_honest kept.steady.honest isOpen
  obtain ⟨operation, request, pending⟩ := asked
  cases awaits with
  | firstPage path document id => exact congrArg some (first id rfl)
  | _ => rfl

/-- A question for a page names the document that the panel was opened for. -/
theorem asks_began (made : Made run) (world : Surroundings)
    (operation : Operation) {document : Url} {pending : Pending}
    (outcome : (run.state.issue world operation).outcome = .waits (.preview document) pending) :
    ∃ id, operation.asks? run.log run.log.length = some id ∧
      OpenedFor (run.log ++ [.ofIssue world operation (run.state.issue world operation)]) id
        document := by
  have awaits := awaits_of_issue outcome
  generalize asked : Request.preview document = request at awaits
  cases awaits with
  | firstPage path url id =>
    cases asked
    obtain ⟨other, found, same, leads, opened⟩ :=
      opened_of_starts (starts_of_firstPage outcome)
    cases same
    rw [opened] at outcome
    cases outcome
    have own : panelOf run.log run.log.length = run.state.nextPanel := made.next.symm
    refine ⟨run.state.nextPanel, congrArg some own, run.log.length, _, path,
      List.getElem?_concat_length, Happening.cause_ofIssue _ _ _, ?_, ?_⟩
    · rw [Happening.world_ofIssue, leads]
    · rw [panelOf_append (Nat.le_refl _), own]
  | page id url =>
    cases asked
    rcases issue_panels world run.state (.showPreview id true) with ⟨document, opened⟩ | ⟨-, asks⟩
    · rw [opened] at outcome
      cases outcome
    · obtain ⟨-, -, -, panel, found, -, -, same⟩ := asks _ _ id outcome rfl
      cases same
      exact ⟨id, rfl, openedFor_append (made.openedFor found) _⟩
  | _ => cases asked

/-- An operation renders nothing before its question is answered. -/
theorem displays_ofIssue (own : Nat → WebPanel → Prop) (asks? : Nat → Operation → Option Nat)
    (world : Surroundings) (client : Client) (operation : Operation) :
    Displays own
      (Happening.brings? asks? (.ofIssue world operation (client.issue world operation)))
      (Happening.ofIssue world operation (client.issue world operation)).calls := by
  rw [Happening.calls_ofIssue, Happening.brings?, Happening.cause_ofIssue]
  exact .nothing _ (silent_issue world client operation)

/-- An answer renders the listing that it brings. -/
theorem displays_ofArrival (kept : Registered run) {number : Nat}
    {asked : Asked Operation Pending} (isOpen : run.waiting.get? number = some asked)
    (world : Surroundings) (reply : Except LspError Json) (more : List ClientHappening) :
    Displays run.state.ShownIn
      (Happening.brings? (Operation.asks? (run.log ++ more))
        (.ofArrival world asked.operation number reply
          (run.state.arrive world asked.pending reply)))
      (run.state.arrive world asked.pending reply).calls := by
  have brings (turn : Turn Client Answer) :
      Happening.brings? (Operation.asks? (run.log ++ more))
          (.ofArrival world asked.operation number reply turn) =
        match asked.pending.panel?, Listing.form.ofReply reply with
        | some id, .ok listing => some (id, listing)
        | _, _ => none := by
    simp only [Happening.brings?, Happening.ofArrival, asks?_of_open kept isOpen]
  have how := panelArrival world run.state asked.pending reply
  have awaited (id : Nat) := kept.steady.sound.awaited number asked id isOpen
  rw [brings]
  generalize run.state.arrive world asked.pending reply = turn at how ⊢
  generalize asked.pending = pending at how awaited ⊢
  cases how with
  | aside panels listed next silent useless =>
    cases about : pending.panel? with
    | none => exact .nothing _ silent
    | some id =>
      cases read : Listing.form.ofReply reply with
      | error cause => exact .nothing _ silent
      | ok listing =>
        obtain ⟨panel, found⟩ := awaited id about
        exact absurd read (useless id panel listing about found)
  | first id panel listing _ found read | again id panel listing _ found read =>
    obtain rfl := (kept.steady.sound.made id panel found).2
    simp only [Pending.panel?, read]
    exact .rendered panel.web listing ⟨panel, found, rfl⟩

/-! ## Runs of the client -/

/-- What every run keeps about the pages that were asked for and rendered. -/
structure Displaying (run : ClientRun) : Prop where
  /-- All is known of the panels. -/
  registered : Registered run
  /-- Questions were asked in the steps with their numbers. -/
  recorded : run.Recorded
  /-- A page is asked for by an operation for a panel of the document. -/
  asks : ∀ (step : Nat) (asking : ClientHappening) (document : Url), run.log[step]? = some asking →
    asking.request = some (.preview document) →
    ∃ operation id, asking.cause = .issued operation ∧
      operation.asks? run.log step = some id ∧ OpenedFor run.log id document
  /-- Each step displays the listing that it brings. -/
  displays : ∀ happening ∈ run.log,
    Displays run.state.ShownIn (happening.brings? (Operation.asks? run.log)) happening.calls

/-- A step keeps what is known of pages if its own question and its own calls fit. -/
theorem displaying_append {after : ClientRun} {last : ClientHappening} (kept : Displaying run)
    (registered : Registered after) (recorded : after.Recorded)
    (grown : after.log = run.log ++ [last])
    (shown : ∀ id web, run.state.ShownIn id web → after.state.ShownIn id web)
    (asks : ∀ document, last.request = some (.preview document) →
      ∃ operation id, last.cause = .issued operation ∧
        operation.asks? run.log run.log.length = some id ∧ OpenedFor after.log id document)
    (displays : Displays run.state.ShownIn (last.brings? (Operation.asks? after.log)) last.calls) :
    Displaying after := by
  refine ⟨registered, recorded, ?_, ?_⟩
  · rw [grown] at asks ⊢
    intro step asking document found request
    rcases found_append found with before | ⟨rfl, rfl⟩
    · have within := (List.getElem?_eq_some_iff.mp before).1
      obtain ⟨operation, id, cause, own, opened⟩ := kept.asks step asking document before request
      exact ⟨operation, id, cause, (asks?_append (Nat.le_of_lt within) operation _).trans own,
        openedFor_append opened _⟩
    · obtain ⟨operation, id, cause, own, opened⟩ := asks document request
      exact ⟨operation, id, cause, (asks?_append (Nat.le_refl _) operation _).trans own, opened⟩
  · intro happening member
    rw [grown] at member
    rcases List.mem_append.mp member with before | new
    · rw [grown, brings?_append kept.registered.numbered before]
      exact (kept.displays happening before).imp shown
    · obtain rfl := List.mem_singleton.mp new
      exact displays.imp shown

/-- A step keeps what is known of the pages that were asked for and rendered. -/
theorem displaying_step (run : ClientRun) (event : Event Operation) (kept : Displaying run) :
    Displaying (run.step machine event) := by
  have registered := registered_step run event kept.registered
  have recorded := Run.recorded_step machine run event kept.recorded
  obtain ⟨steady, -, made, -⟩ := kept.registered
  revert registered recorded
  apply Run.step_keeps (motive := fun later => Registered later → later.Recorded →
    Displaying later) machine run event
  · exact fun _ _ => kept
  · intro world operation registered recorded
    apply displaying_append kept registered recorded rfl
    · rintro id web ⟨panel, found, rfl⟩
      obtain ⟨later, there, becomes⟩ := known_issue steady.sound world operation found
      exact ⟨later, there, becomes.web⟩
    · intro document request
      cases outcome : (run.state.issue world operation).outcome with
      | done answer => simp [machine, Happening.ofIssue, outcome] at request
      | waits asked pending =>
        have same : asked = .preview document := by
          simpa [machine, Happening.ofIssue, outcome] using request
        subst same
        obtain ⟨id, own, opened⟩ := asks_began made world operation outcome
        exact ⟨operation, id, Happening.cause_ofIssue _ _ _, own, opened⟩
    · exact displays_ofIssue _ _ world run.state operation
  · intro world number reply asked isOpen registered recorded
    apply displaying_append kept registered recorded rfl
    · rintro id web ⟨panel, found, rfl⟩
      obtain ⟨later, there, becomes⟩ := known_arrive world asked.pending reply found
      exact ⟨later, there, becomes.web⟩
    · intro document request
      cases request
    · exact displays_ofArrival kept.registered isOpen world reply _

/-- The panels of every run of the client show what arrived last for them. -/
theorem showsLastArrivals_run (settings : Settings) (events : List (Event Operation)) :
    ShowsLastArrivals (Client.run settings events) := by
  have kept : Displaying (Client.run settings events) := by
    apply Run.follow_keeps (motive := Displaying) machine _ displaying_step
    refine ⟨registered_run settings [], Run.recorded_start _, ?_, ?_⟩ <;> simp [Run.start]
  refine ⟨kept.asks, fun id _ _ => openedFor_unique, kept.recorded.answered, kept.displays, ?_⟩
  intro id
  rw [displayed, display_last kept.displays]
  simp

end Client

/-! ## A single panel -/

namespace Preview

/-- What an operation on a panel answers after a question: the update tells how many lines were
rendered. -/
def PanelOperation.told (result : Except LspError Nat) : PanelOperation → PanelAnswer
  | .update => .rows result
  | .visible _ => .shown (result.map fun _ => ())
  | .dispose => .nothing

namespace Panel

/-- A run of a single panel. -/
abbrev PanelRun := Run Panel PanelOperation Bool PanelAnswer

/-- What can happen in a step of a run of a panel. -/
inductive Does (panel : Panel) : Happening PanelOperation PanelAnswer → Prop
  /-- An operation begins; if it asks a question, then for the page of the panel's document. -/
  | begun (operation : PanelOperation) (world : Surroundings) (request : Option Request)
    (answer : Option PanelAnswer)
    (names : ∀ asked, request = some asked → asked = .preview panel.document) :
    Does panel ⟨.issued operation, world, request, [], [], answer⟩
  /-- A listing has come; it is rendered, and its lines are counted. -/
  | rendered (operation : PanelOperation) (world : Surroundings) (number : Nat)
    (reply : Except LspError Json) (listing : Listing)
    (read : Listing.form.ofReply reply = .ok listing) :
    Does panel ⟨.answered operation number reply, world, none, [],
      [.render panel.web (page (rows listing))],
      some (operation.told (.ok (listing.lines.getD []).length))⟩
  /-- No listing has come; nothing is rendered. -/
  | failed (operation : PanelOperation) (world : Surroundings) (number : Nat)
    (reply : Except LspError Json) (cause : LspError)
    (read : Listing.form.ofReply reply = .error cause) :
    Does panel ⟨.answered operation number reply, world, none, [], [],
      some (operation.told (.error cause))⟩

/-- A run shows in its panel what arrived last. -/
structure ShowsLastArrivals (panel : Panel) (run : PanelRun) : Prop where
  /-- Every step asks, renders and counts as it should. -/
  steps : ∀ happening ∈ run.log, panel.Does happening
  /-- Every answer is one to a question that its operation has asked. -/
  answers : ∀ happening ∈ run.log, ∀ operation number reply,
    happening.cause = .answered operation number reply → Run.AskedIn run.log number operation
  /-- What the editor shows in the panel is the page of the listing that came last, and nothing as
  long as none has come. -/
  content : (displayed (callsIn run.log)).get? panel.web.id =
    (lastFor panel.web.id
      (run.log.filterMap (Happening.brings? fun _ _ => some panel.web.id))).map
        fun listing => page (rows listing)

variable {panel now : Panel}

/-- A panel asks for the page of its document and for nothing else. -/
theorem eq_of_ask? {request : Request} (asks : now.ask? = some request) :
    request = .preview now.document := by
  unfold ask? at asks
  split at asks
  · cases asks
  · exact (Option.some.inj asks).symm

/-- A panel that is shown asks for the page of its own document. -/
theorem eq_of_askShown? {request : Request} (asks : now.askShown? = some request) :
    request = .preview now.document := by
  unfold askShown? at asks
  split at asks
  · cases asks
  · exact eq_of_ask? asks

/-- A panel that has the place and the document of another one. -/
structure Alike (panel now : Panel) : Prop where
  /-- It has the same place. -/
  web : now.web = panel.web
  /-- It has the same document. -/
  document : now.document = panel.document

/-- An operation renders nothing when it begins. -/
theorem does_ofIssue (alike : panel.Alike now) (world : Surroundings)
    (operation : PanelOperation) :
    panel.Does (.ofIssue world operation (machine.issue world operation now)) ∧
      panel.Alike (machine.issue world operation now).state := by
  have asksNothing (asked : Request) (none : (none : Option Request) = some asked) :
      asked = .preview panel.document := nomatch none
  cases operation with
  | update =>
    cases asks : now.ask? with
    | none =>
      simp only [machine, asks]
      exact ⟨.begun _ _ _ _ asksNothing, alike⟩
    | some request =>
      simp only [machine, asks]
      refine ⟨.begun _ _ _ _ ?_, alike⟩
      rintro asked ⟨⟩
      rw [eq_of_ask? asks, alike.document]
  | visible visible =>
    cases visible with
    | false => exact ⟨.begun _ _ _ _ asksNothing, alike.web, alike.document⟩
    | true =>
      cases asks : now.askShown? with
      | none =>
        simp only [machine, asks]
        exact ⟨.begun _ _ _ _ asksNothing, alike.web, alike.document⟩
      | some request =>
        simp only [machine, asks]
        refine ⟨.begun _ _ _ _ ?_, alike⟩
        rintro asked ⟨⟩
        rw [eq_of_askShown? asks, alike.document]
  | dispose => exact ⟨.begun _ _ _ _ asksNothing, alike.web, alike.document⟩

/-- What waits is an update, or the report that the panel is shown. -/
theorem operation_of_issue {world : Surroundings} {operation : PanelOperation} {request : Request}
    {shows : Bool} (outcome : (machine.issue world operation now).outcome = .waits request shows) :
    operation = if shows then .visible true else .update := by
  cases operation with
  | update =>
    simp only [machine] at outcome
    split at outcome <;> cases outcome
    rfl
  | visible visible =>
    cases visible with
    | false => cases outcome
    | true =>
      simp only [machine] at outcome
      split at outcome <;> cases outcome
      rfl
  | dispose => cases outcome

/-- An answer renders the listing that it brings. -/
theorem does_ofArrival (alike : panel.Alike now) (world : Surroundings) (number : Nat)
    (shows : Bool) (reply : Except LspError Json) :
    panel.Does (.ofArrival world (if shows then .visible true else .update) number reply
        (machine.arrive world shows reply now)) ∧
      panel.Alike (machine.arrive world shows reply now).state := by
  have web := alike.web
  cases read : Listing.form.ofReply reply with
  | error cause =>
    cases shows with
    | false =>
      simp only [machine, read, receive]
      exact ⟨.failed .update world number reply cause read, alike⟩
    | true =>
      simp only [machine, read, receive]
      exact ⟨.failed (.visible true) world number reply cause read, alike⟩
  | ok listing =>
    have counted : (rows listing).length = (listing.lines.getD []).length := by simp [rows]
    cases shows with
    | false =>
      simp only [machine, read, receive, counted, web]
      exact ⟨.rendered .update world number reply listing read, alike⟩
    | true =>
      simp only [machine, read, receive, counted, web]
      exact ⟨.rendered (.visible true) world number reply listing read, alike.web,
        alike.document⟩

/-- What every run of a panel keeps. -/
structure Keeps (panel : Panel) (run : PanelRun) : Prop where
  /-- The run is honest. -/
  honest : run.Honest machine
  /-- Questions were asked in the steps with their numbers. -/
  recorded : run.Recorded
  /-- The panel keeps its place and its document. -/
  alike : panel.Alike run.state
  /-- Each step does what the panel does. -/
  steps : ∀ happening ∈ run.log, panel.Does happening

/-- A step keeps what is known of a panel. -/
theorem keeps_step (run : PanelRun) (event : Event PanelOperation) (kept : panel.Keeps run) :
    panel.Keeps (run.step machine event) := by
  have honest := Run.honest_step machine run event kept.honest
  have recorded := Run.recorded_step machine run event kept.recorded
  have both : panel.Alike (run.step machine event).state ∧
      ∀ happening ∈ (run.step machine event).log, panel.Does happening := by
    apply Run.step_keeps (motive := fun later => panel.Alike later.state ∧
      ∀ happening ∈ later.log, panel.Does happening) machine run event ⟨kept.alike, kept.steps⟩
    · intro world operation
      obtain ⟨does, alike⟩ := does_ofIssue kept.alike world operation
      exact ⟨alike, List.forall_mem_append.mpr ⟨kept.steps, List.forall_mem_singleton.mpr does⟩⟩
    · intro world number reply asked isOpen
      obtain ⟨worldThen, stateThen, outcome⟩ := kept.honest number asked isOpen
      obtain ⟨does, alike⟩ := does_ofArrival kept.alike world number asked.pending reply
      rw [← operation_of_issue outcome] at does
      exact ⟨alike, List.forall_mem_append.mpr ⟨kept.steps, List.forall_mem_singleton.mpr does⟩⟩
  exact ⟨honest, recorded, both.1, both.2⟩

/-- A step of a panel renders what it brings. -/
theorem Does.displays {happening : Happening PanelOperation PanelAnswer}
    (does : panel.Does happening) :
    Displays (fun _ web => web = panel.web)
      (happening.brings? fun _ _ => some panel.web.id) happening.calls := by
  cases does with
  | begun operation world request answer names => exact .nothing [] (by simp)
  | rendered operation world number reply listing read =>
    simp only [Happening.brings?, read]
    exact .rendered panel.web listing rfl
  | failed operation world number reply cause read =>
    simp only [Happening.brings?, read]
    exact .nothing [] (by simp)

/-- Every run of a single panel shows what arrived last. -/
theorem showsLastArrivals_follow (panel : Panel) (events : List (Event PanelOperation)) :
    panel.ShowsLastArrivals ((Run.start panel).follow machine events) := by
  have kept : panel.Keeps ((Run.start panel).follow machine events) := by
    apply Run.follow_keeps (motive := panel.Keeps) machine _ keeps_step
    exact ⟨Run.honest_start machine panel, Run.recorded_start panel, ⟨rfl, rfl⟩,
      by simp [Run.start]⟩
  refine ⟨kept.steps, kept.recorded.answered, ?_⟩
  rw [displayed, display_last fun happening member => (kept.steps happening member).displays]
  simp

end Panel

end Preview

/-- In every run of the client, in whatever order panels are opened, shown, hidden and closed and
answers come or fail to come, the panels show what arrived last for them; and so does a single
panel that is brought up to date, which tells how many lines it has rendered. -/
theorem panels_show_last_arrivals :
    (∀ settings events, Client.ShowsLastArrivals (Client.run settings events)) ∧
      ∀ (panel : Preview.Panel) (events : List (Event Preview.PanelOperation)),
        panel.ShowsLastArrivals ((Run.start panel).follow Preview.Panel.machine events) :=
  ⟨Client.showsLastArrivals_run, Preview.Panel.showsLastArrivals_follow⟩

/-- Of two questions for one panel the one that is answered last counts; a failure does not. -/
example : (displayed (callsIn (Client.run .standard [
    .issue Client.desk (.command (.startPreview (Path.ofString "/a.rc"))),
    .arrive Client.desk 0 (Client.listingOf "x"),
    .issue Client.desk (.showPreview 1 false),
    .issue Client.desk (.showPreview 1 true),
    .issue Client.desk (.showPreview 1 true),
    .issue Client.desk (.showPreview 1 true),
    .arrive Client.desk 4 (Client.listingOf "asked later"),
    .arrive Client.desk 3 (Client.listingOf "asked earlier"),
    .arrive Client.desk 5 (.error (.requestFailed "no"))]).log)).get? 1 =
      some (page ["asked earlier"]) := by decide +kernel

end LanguageClient
