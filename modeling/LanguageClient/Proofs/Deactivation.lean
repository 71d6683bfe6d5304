import LanguageClient.Proofs.Histories
import LanguageClient.Proofs.PanelRegistry
import LanguageClient.Proofs.ShownPanels

/-!
# Panels after the client is deactivated

The client closes the panels that are in its list when it is deactivated. A panel whose first page
is awaited then is not among them, and its page is not called off: it enters the list afterwards,
as usable as if nothing had happened. `deactivated_panel_silent_iff` shows that this is the only way
in which a panel survives.
-/

namespace LanguageClient

/-- Whether a step closes a panel that is in the list: the user closes it, or the client is
deactivated. -/
def Happening.shuts (id : Nat) (happening : ClientHappening) : Bool :=
  match happening.cause with
  | .issued (.closePreview other) => other = id
  | .issued .deactivate => true
  | _ => false

/-- A report that a panel is shown or hidden sends no question, and the panel is not rendered. -/
def Happening.LeavesAlone (id : Nat) (happening : ClientHappening) : Prop :=
  (happening.reported? = some id → happening.request = none) ∧ ¬ happening.Renders id

instance (id : Nat) (happening : ClientHappening) : Decidable (happening.LeavesAlone id) :=
  inferInstanceAs (Decidable (_ ∧ _))

namespace Client

/-- A panel is in the list and not closed. -/
def IsOpen (client : Client) (id : Nat) : Prop :=
  id ∈ client.listed ∧ (client.panels.get? id).map Preview.Panel.disposed = some false

/-- The run after the client is deactivated. -/
def afterDeactivate (run : ClientRun) (world : Surroundings) : ClientRun :=
  run.step machine (.issue world .deactivate)

/-- An answer came, with a listing, to the question for the first page of a panel that an earlier
run had left open. -/
def BringsFirstPage (earlier : ClientRun) (id : Nat) (happening : ClientHappening) : Prop :=
  ∃ number reply asked listing, earlier.waiting.get? number = some asked ∧
    asked.pending = .firstPage id ∧
    happening.cause = .answered asked.operation number reply ∧
    Preview.Listing.form.ofReply reply = .ok listing

/-- In what has happened since an earlier run, the first page of a panel came that was awaited then,
and nothing has closed the panel after that. -/
def LeftOpen (earlier : ClientRun) (fresh : List ClientHappening) (id : Nat) : Prop :=
  ∃ before opening after, fresh = before ++ opening :: after ∧
    BringsFirstPage earlier id opening ∧ ∀ happening ∈ after, happening.shuts id = false

section

variable {run earlier later : ClientRun} {id : Nat}

/-! ## Open panels -/

/-- Whether a panel is open depends on the list and on the panel's own mark. -/
theorem isOpen_congr {client other : Client} (listed : id ∈ client.listed ↔ id ∈ other.listed)
    (panels : (client.panels.get? id).map Preview.Panel.disposed =
      (other.panels.get? id).map Preview.Panel.disposed) :
    client.IsOpen id ↔ other.IsOpen id := by
  rw [IsOpen, IsOpen, listed, panels]

/-- In a run a panel that is not open is closed if it is listed. -/
theorem not_isOpen_iff (sound : Sound run) :
    ¬ run.state.IsOpen id ↔ (id ∈ run.state.listed → run.state.IsClosed id) := by
  refine not_and.trans (imp_congr_right fun listed => ?_)
  obtain ⟨panel, found⟩ := sound.listed id listed
  simp [IsClosed, found]

/-- A panel that is known stays known when an operation begins. -/
theorem stays_issue (sound : Sound run) (world : Surroundings) (operation : Operation)
    (known : ∃ panel, run.state.panels.get? id = some panel) :
    ∃ panel, (run.state.issue world operation).state.panels.get? id = some panel := by
  obtain ⟨panel, found⟩ := known
  obtain ⟨next, there, -⟩ := known_issue sound world operation found
  exact ⟨next, there⟩

/-- A panel that is known stays known when an answer arrives. -/
theorem stays_arrive (world : Surroundings) {client : Client} (pending : Pending)
    (reply : Except LspError Json) (known : ∃ panel, client.panels.get? id = some panel) :
    ∃ panel, (client.arrive world pending reply).state.panels.get? id = some panel := by
  obtain ⟨panel, found⟩ := known
  obtain ⟨next, there, -⟩ := known_arrive world pending reply found
  exact ⟨next, there⟩

/-- A change that leaves the mark of a closed panel alone closes and reopens none. -/
theorem disposed_changePanel (client : Client) (other : Nat)
    {change : Preview.Panel → Preview.Panel}
    (kept : ∀ panel, (change panel).disposed = panel.disposed) :
    ((client.changePanel other change).panels.get? id).map Preview.Panel.disposed =
      (client.panels.get? id).map Preview.Panel.disposed := by
  rw [changePanel, Table.get?_modify]
  by_cases same : other = id
  · cases client.panels.get? id <;> simp [same, kept]
  · simp [same]

/-- An operation that closes a panel takes it from the list, or leaves it closed there. -/
theorem not_isOpen_of_shuts (registered : Registered run) (world : Surroundings)
    (operation : Operation)
    (shuts : Happening.shuts id
      (.ofIssue world operation (run.state.issue world operation)) = true) :
    ¬ (run.state.issue world operation).state.IsOpen id := by
  rintro ⟨listed, usable⟩
  simp only [Happening.shuts, Happening.cause_ofIssue] at shuts
  split at shuts
  · rename_i other same
    obtain rfl := Cause.issued.inj same
    obtain rfl := of_decide_eq_true shuts
    rw [listed_closePreview registered.listed.once] at listed
    simp at listed
  · rename_i same
    obtain rfl := Cause.issued.inj same
    obtain ⟨panel, found, disposed⟩ :=
      isClosed_deactivate registered.steady.sound world listed
    rw [found, Option.map_some, disposed] at usable
    cases usable
  · cases shuts

/-- An operation that does not close a panel that is known leaves it open if it was, and opens it
in no case. -/
theorem isOpen_issue_of_spared (sound : Sound run) (world : Surroundings) (operation : Operation)
    {panel : Preview.Panel} (found : run.state.panels.get? id = some panel)
    (spared : Happening.shuts id (.ofIssue world operation (run.state.issue world operation)) =
      false) :
    (run.state.issue world operation).state.IsOpen id ↔ run.state.IsOpen id := by
  simp only [Happening.shuts, Happening.cause_ofIssue] at spared
  have how := panelIssue world run.state operation
  generalize run.state.issue world operation = turn at how ⊢
  cases how with
  | aside panels listed next silent idle =>
    exact isOpen_congr (by rw [listed]) (by rw [panels])
  | opened path document leads =>
    have other : run.state.nextPanel ≠ id := Nat.ne_of_gt (sound.made id panel found).1
    refine isOpen_congr Iff.rfl ?_
    rw [opened, waits, get?_withPanel, if_neg other]
  | hidden other _ listed _ =>
    exact isOpen_congr Iff.rfl (disposed_changePanel run.state other fun _ => rfl)
  | asked other _ listed _ unseen usable => exact Iff.rfl
  | shown other _ listed _ seen =>
    exact isOpen_congr Iff.rfl (disposed_changePanel run.state other fun _ => rfl)
  | closed other listed =>
    have different : other ≠ id := of_decide_eq_false spared
    refine isOpen_congr (List.mem_erase_of_ne different.symm) ?_
    simp [done, changePanel, Table.get?_modify, different]
  | deactivated => cases spared

/-- A known panel is open after an operation if it was open before and the operation does not close
it. -/
theorem isOpen_issue (registered : Registered run) (world : Surroundings) (operation : Operation)
    {panel : Preview.Panel} (found : run.state.panels.get? id = some panel) :
    (run.state.issue world operation).state.IsOpen id ↔ run.state.IsOpen id ∧
      Happening.shuts id (.ofIssue world operation (run.state.issue world operation)) = false := by
  cases shuts : Happening.shuts id (.ofIssue world operation (run.state.issue world operation)) with
  | true => simpa using not_isOpen_of_shuts registered world operation shuts
  | false =>
    simpa using isOpen_issue_of_spared registered.steady.sound world operation found shuts

/-- A panel is open after an answer if it was open before, or if the answer brings its first
page. -/
theorem isOpen_arrive (sound : Sound run) (world : Surroundings) {number : Nat}
    {asked : Asked Operation Pending} (isOpen : run.waiting.get? number = some asked)
    (reply : Except LspError Json) :
    (run.state.arrive world asked.pending reply).state.IsOpen id ↔ run.state.IsOpen id ∨
      asked.pending = .firstPage id ∧
        ∃ listing, Preview.Listing.form.ofReply reply = .ok listing := by
  have how := panelArrival world run.state asked.pending reply
  have first (other : Nat) := sound.first number asked other isOpen
  have awaited (other : Nat) := sound.awaited number asked other isOpen
  generalize run.state.arrive world asked.pending reply = turn at how ⊢
  generalize asked.pending = pending at how first awaited ⊢
  cases how with
  | aside panels listed next silent useless =>
    have same : turn.state.IsOpen id ↔ run.state.IsOpen id :=
      isOpen_congr (by rw [listed]) (by rw [panels])
    refine same.trans (or_iff_left ?_).symm
    rintro ⟨rfl, listing, read⟩
    obtain ⟨panel, found⟩ := awaited id rfl
    exact useless id panel listing rfl found read
  | first other panel listing _ found read =>
    by_cases same : other = id
    · subst same
      have usable := (first other rfl).2 panel found
      simp [IsOpen, found, usable, read]
    · simp [IsOpen, same, Ne.symm same]
  | again other panel listing _ found read =>
    have same : (run.state.changePanel other .shown).IsOpen id ↔ run.state.IsOpen id :=
      isOpen_congr Iff.rfl (disposed_changePanel run.state other fun _ => rfl)
    exact same.trans (or_iff_left (by simp)).symm

/-! ## Since the deactivation -/

/-- A panel is left open by its first page, or if it was left open before and is not closed now. -/
theorem leftOpen_append (fresh : List ClientHappening) (last : ClientHappening) :
    LeftOpen earlier (fresh ++ [last]) id ↔ BringsFirstPage earlier id last ∨
      LeftOpen earlier fresh id ∧ last.shuts id = false := by
  constructor
  · rintro ⟨before, opening, after, split, brings, spared⟩
    rcases split_append split with ⟨-, rfl, -⟩ | ⟨between, rfl, rfl⟩
    · exact .inl brings
    · refine .inr ⟨⟨before, opening, between, rfl, brings, ?_⟩, spared last (by simp)⟩
      exact fun happening member => spared happening (by simp [member])
  · rintro (brings | ⟨⟨before, opening, after, rfl, brings, spared⟩, spares⟩)
    · exact ⟨fresh, last, [], rfl, brings, by simp⟩
    · refine ⟨before, opening, after ++ [last], by simp, brings, ?_⟩
      exact List.forall_mem_append.mpr ⟨spared, List.forall_mem_singleton.mpr spares⟩

/-- What a run keeps about a panel since an earlier run: it is known, its first page is awaited only
if it was awaited then, and it is open only if that page has come. -/
structure OpensLate (earlier later : ClientRun) (fresh : List ClientHappening) (id : Nat) :
    Prop where
  /-- Time has gone by. -/
  grown : earlier.log.length ≤ later.log.length
  /-- The panel is known. -/
  known : ∃ panel, later.state.panels.get? id = some panel
  /-- What is awaited was awaited then, or is no first page of the panel. -/
  asked : ∀ number asked, later.waiting.get? number = some asked →
    earlier.waiting.get? number = some asked ∨
      earlier.log.length ≤ number ∧ asked.pending ≠ .firstPage id
  /-- It is open if its first page came and nothing has closed it since. -/
  isOpen : later.state.IsOpen id ↔ LeftOpen earlier fresh id

/-- No panel is open when the client has been deactivated. -/
theorem opensLate_afterDeactivate (registered : Registered run) (world : Surroundings)
    {panel : Preview.Panel} (found : run.state.panels.get? id = some panel) :
    OpensLate (afterDeactivate run world) (afterDeactivate run world) [] id := by
  refine ⟨Nat.le_refl _, ?_, fun number asked isOpen => .inl isOpen, iff_of_false ?_ ?_⟩
  · exact stays_issue registered.steady.sound world .deactivate ⟨panel, found⟩
  · exact not_isOpen_of_shuts registered world .deactivate (by simp [Happening.shuts])
  · rintro ⟨before, opening, after, split, -⟩
    simp at split

/-- An operation asks for the first page of no panel that is known. -/
theorem opensLate_began {fresh : List ClientHappening} (registered : Registered later)
    (kept : OpensLate earlier later fresh id) (world : Surroundings) (operation : Operation) :
    OpensLate earlier (later.began world operation (later.state.issue world operation))
      (fresh ++ [.ofIssue world operation (later.state.issue world operation)]) id := by
  obtain ⟨panel, found⟩ := kept.known
  refine ⟨?_, ?_, ?_, ?_⟩
  · have grown := kept.grown
    simp only [Run.began, List.length_append]
    omega
  · exact stays_issue registered.steady.sound world operation kept.known
  · intro number asked isOpen
    rcases Run.waiting_began later isOpen with before | ⟨rfl, -, outcome⟩
    · exact kept.asked number asked before
    · refine .inr ⟨kept.grown, fun first => ?_⟩
      have about : asked.pending.panel? = some id := by rw [first]; rfl
      have asks := asksPage_of_issue registered.steady.sound world found outcome about
      have page := (pending_eq_page_iff (awaits_of_issue outcome) id).mpr asks.1
      rw [first] at page
      cases page
  · have answersNone : ¬ BringsFirstPage earlier id
        (.ofIssue world operation (later.state.issue world operation)) := by
      rintro ⟨number, reply, asked, listing, -, -, cause, -⟩
      rw [Happening.cause_ofIssue] at cause
      cases cause
    rw [leftOpen_append, or_iff_right answersNone, ← kept.isOpen]
    exact isOpen_issue registered world operation found

/-- An answer brings the first page that was awaited if it is a good one to a question for a first
page: a question that is open and was not awaited then is another one. -/
theorem OpensLate.bringsFirstPage_iff {fresh : List ClientHappening} (numbered : earlier.Numbered)
    (kept : OpensLate earlier later fresh id) (world : Surroundings) {number : Nat}
    {asked : Asked Operation Pending} (isOpen : later.waiting.get? number = some asked)
    (reply : Except LspError Json) (turn : Turn Client Answer) :
    BringsFirstPage earlier id (.ofArrival world asked.operation number reply turn) ↔
      asked.pending = .firstPage id ∧
        ∃ listing, Preview.Listing.form.ofReply reply = .ok listing := by
  constructor
  · rintro ⟨other, answer, again, listing, awaited, first, cause, read⟩
    obtain ⟨-, rfl, rfl⟩ := Cause.answered.inj cause
    rcases kept.asked number asked isOpen with before | ⟨new, -⟩
    · obtain rfl := Option.some.inj (before.symm.trans awaited)
      exact ⟨first, listing, read⟩
    · have old := numbered.asked number again awaited
      omega
  · rintro ⟨first, listing, read⟩
    rcases kept.asked number asked isOpen with before | ⟨-, other⟩
    · exact ⟨number, reply, asked, listing, before, first, rfl, read⟩
    · exact absurd first other

/-- An answer opens the panel if it brings the first page that was awaited. -/
theorem opensLate_ended {fresh : List ClientHappening} (numbered : earlier.Numbered)
    (registered : Registered later) (kept : OpensLate earlier later fresh id)
    (world : Surroundings) {number : Nat}
    {asked : Asked Operation Pending} (isOpen : later.waiting.get? number = some asked)
    (reply : Except LspError Json) :
    OpensLate earlier (later.ended world asked.operation number reply
        (later.state.arrive world asked.pending reply))
      (fresh ++ [.ofArrival world asked.operation number reply
        (later.state.arrive world asked.pending reply)]) id := by
  refine ⟨?_, ?_, ?_, ?_⟩
  · have grown := kept.grown
    simp only [Run.ended, List.length_append]
    omega
  · exact stays_arrive world asked.pending reply kept.known
  · intro other again isOpenToo
    exact kept.asked other again (Run.waiting_ended later isOpenToo).2
  · have brings := kept.bringsFirstPage_iff numbered world isOpen reply
      (later.state.arrive world asked.pending reply)
    have spares : Happening.shuts id (.ofArrival world asked.operation number reply
        (later.state.arrive world asked.pending reply)) = false := rfl
    rw [leftOpen_append, brings, spares, ← kept.isOpen, or_comm]
    simpa using isOpen_arrive registered.steady.sound world isOpen reply

/-- A panel that was made before the client was deactivated is open later if its first page was
awaited then and has come, and only then. -/
theorem opensLate_follow (registered : Registered run) (world : Surroundings)
    {panel : Preview.Panel} (found : run.state.panels.get? id = some panel)
    (more : List (Event Operation)) :
    OpensLate (afterDeactivate run world) ((afterDeactivate run world).follow machine more)
      ((afterDeactivate run world).thereafter machine more) id := by
  have now : Registered (afterDeactivate run world) := registered_step _ _ registered
  refine Run.follow_induction machine (afterDeactivate run world) Registered
    (motive := fun later fresh => OpensLate (afterDeactivate run world) later fresh id)
    registered_step now (opensLate_afterDeactivate registered world found) ?issued ?answered more
  case issued =>
    intro later fresh around operation fine kept
    exact opensLate_began fine kept around operation
  case answered =>
    intro later fresh around number reply asked fine kept isOpen
    exact opensLate_ended now.numbered fine kept around isOpen reply

/-! ## Panels that are left alone -/

/-- What a run keeps about a panel that is not open and of which nothing is awaited. -/
structure Forsaken (run : ClientRun) (id : Nat) : Prop where
  /-- The panel is known. -/
  known : ∃ panel, run.state.panels.get? id = some panel
  /-- It is not open. -/
  shut : ¬ run.state.IsOpen id
  /-- No question for it is open. -/
  unasked : ∀ number asked, run.waiting.get? number = some asked → asked.pending.panel? ≠ some id

/-- A panel that is asked for when it is shown is open. -/
theorem isOpen_of_asksPage {client : Client} {operation : Operation} {request : Request}
    (asks : client.AsksPage operation request id) : client.IsOpen id := by
  obtain ⟨-, listed, panel, found, -, usable, -⟩ := asks
  exact ⟨listed, by rw [found, Option.map_some, usable]⟩

/-- For a forsaken panel no operation asks, and it stays forsaken. -/
theorem forsaken_began (registered : Registered run) (kept : Forsaken run id)
    (world : Surroundings) (operation : Operation) :
    Forsaken (run.began world operation (run.state.issue world operation)) id ∧
      Happening.LeavesAlone id (.ofIssue world operation (run.state.issue world operation)) := by
  obtain ⟨panel, found⟩ := kept.known
  have asksNone (request : Request) (pending : Pending)
      (outcome : (run.state.issue world operation).outcome = .waits request pending) :
      pending.panel? ≠ some id := fun about =>
    kept.shut (isOpen_of_asksPage (asksPage_of_issue registered.steady.sound world found outcome
      about))
  refine ⟨⟨?_, ?_, ?_⟩, ?_, not_renders_ofIssue world run.state operation id⟩
  · exact stays_issue registered.steady.sound world operation kept.known
  · exact fun isOpen => kept.shut ((isOpen_issue registered world operation found).mp isOpen).1
  · intro number asked isOpen
    rcases Run.waiting_began run isOpen with before | ⟨-, -, outcome⟩
    · exact kept.unasked number asked before
    · exact asksNone _ _ outcome
  · intro reported
    cases outcome : (run.state.issue world operation).outcome with
    | done answer => simp only [Happening.ofIssue, outcome]
    | waits request pending =>
      simp only [Happening.reported?, Happening.cause_ofIssue] at reported
      split at reported
      · rename_i other visible same
        cases same
        cases reported
        refine absurd ?_ (asksNone request pending outcome)
        cases awaits_of_issue outcome
        rfl
      · cases reported

/-- No answer renders a forsaken panel, and it stays forsaken. -/
theorem forsaken_ended (registered : Registered run) (kept : Forsaken run id)
    (world : Surroundings) {number : Nat} {asked : Asked Operation Pending}
    (isOpen : run.waiting.get? number = some asked) (reply : Except LspError Json) :
    Forsaken (run.ended world asked.operation number reply
        (run.state.arrive world asked.pending reply)) id ∧
      Happening.LeavesAlone id (.ofArrival world asked.operation number reply
        (run.state.arrive world asked.pending reply)) := by
  have unasked := kept.unasked number asked isOpen
  have sound := registered.steady.sound
  refine ⟨⟨?_, ?_, ?_⟩, ?_, ?_⟩
  · exact stays_arrive world asked.pending reply kept.known
  · intro opened
    rcases (isOpen_arrive sound world isOpen reply).mp opened with before | ⟨first, -⟩
    · exact kept.shut before
    · exact unasked (by rw [first]; rfl)
  · intro other again isOpenToo
    exact kept.unasked other again (Run.waiting_ended run isOpenToo).2
  · intro reported
    cases reported
  · exact fun renders => unasked ((renders_arrive sound world isOpen reply id).mp renders).1

/-- A forsaken panel is left alone whatever follows. -/
theorem leavesAlone_follow (registered : Registered run) (forsaken : Forsaken run id)
    (more : List (Event Operation)) :
    ∀ happening ∈ run.thereafter machine more, happening.LeavesAlone id := by
  have all := Run.follow_induction machine run Registered
    (motive := fun later fresh => Forsaken later id ∧
      ∀ happening ∈ fresh, happening.LeavesAlone id)
    registered_step registered ⟨forsaken, by simp⟩ ?issued ?answered more
  · exact all.2
  case issued =>
    intro later fresh world operation fine ⟨kept, held⟩
    obtain ⟨stays, alone⟩ := forsaken_began fine kept world operation
    exact ⟨stays, List.forall_mem_append.mpr ⟨held, List.forall_mem_singleton.mpr alone⟩⟩
  case answered =>
    intro later fresh world number reply asked fine ⟨kept, held⟩ isOpen
    obtain ⟨stays, alone⟩ := forsaken_ended fine kept world isOpen reply
    exact ⟨stays, List.forall_mem_append.mpr ⟨held, List.forall_mem_singleton.mpr alone⟩⟩

/-- An open panel that is hidden and shown again asks for its page. -/
theorem not_leavesAlone_of_isOpen (registered : Registered run) (isOpen : run.state.IsOpen id) :
    ∃ more, ∃ happening ∈ run.thereafter machine more, ¬ happening.LeavesAlone id := by
  have sound := registered.steady.sound
  have listed := isOpen.1
  obtain ⟨panel, found⟩ := sound.listed id listed
  -- the panel counts as hidden after the first report, and is as open as before
  have openThen : (afterHide run .quiet id).state.IsOpen id :=
    (isOpen_issue registered .quiet (.showPreview id false) found).mpr
      ⟨isOpen, by simp [Happening.shuts]⟩
  obtain ⟨hidden, there, seen, -⟩ := (staysHidden_afterHide sound .quiet listed).panel
  have unseen : hidden.visible = false := by simpa using seen
  have usable : hidden.disposed = false := by simpa [IsOpen, there] using openThen.2
  have asks := request_showPreview .quiet openThen.1 there usable
  rw [unseen] at asks
  obtain ⟨happening, last, request⟩ := Option.bind_eq_some_iff.mp asks
  have same : Happening.ofIssue .quiet (.showPreview id true)
      (machine.issue .quiet (.showPreview id true) (afterHide run .quiet id).state) =
      happening := by
    simpa [Run.step, Run.began] using last
  have both : run.thereafter machine
      [.issue .quiet (.showPreview id false), .issue .quiet (.showPreview id true)] =
      [.ofIssue .quiet (.showPreview id false)
          (machine.issue .quiet (.showPreview id false) run.state), happening] := by
    rw [← same]
    simp [Run.thereafter, Run.since, Run.follow, Run.step, Run.began, afterHide]
  refine ⟨_, happening, both ▸ List.mem_cons_of_mem _ List.mem_cons_self, ?_⟩
  intro alone
  have none := alone.1 (by simp [← same, Happening.reported?])
  rw [none] at request
  cases request

end

/-! ## Deactivation -/

/-- A panel whose preview was started before the client was deactivated, and of which nothing is
awaited any more, is closed if it is in the list, and is left alone for ever, unless its first page
was awaited when the client was deactivated, came later, and nothing has closed the panel since. In
that case it is neither. -/
theorem deactivated_panel_silent_iff (settings : Settings) (events more : List (Event Operation))
    (world : Surroundings) (id : Nat)
    (started : ∃ step, StartedIn (run settings events).log step ∧
      panelOf (run settings events).log step = id) :
    let deactivated := afterDeactivate (run settings events) world
    let later := deactivated.follow machine more
    (∀ number asked, later.waiting.get? number = some asked → asked.pending.panel? ≠ some id) →
    ((id ∈ later.state.listed → later.state.IsClosed id) ↔
        ¬ LeftOpen deactivated (deactivated.thereafter machine more) id) ∧
      ((∀ following, ∀ happening ∈ later.thereafter machine following, happening.LeavesAlone id) ↔
        ¬ LeftOpen deactivated (deactivated.thereafter machine more) id) := by
  intro deactivated later settled
  have registered := registered_run settings events
  obtain ⟨step, ⟨start, there, starts⟩, rfl⟩ := started
  obtain ⟨path, document, cause, leads⟩ := leads_of_starts starts
  obtain ⟨panel, found, -⟩ := registered.made.made step start path document there cause leads
  have late := opensLate_follow registered world found more
  have now : Registered deactivated := registered_step _ _ registered
  have after : Registered later := Run.follow_keeps machine _ registered_step now more
  rw [← late.isOpen]
  refine ⟨(not_isOpen_iff after.steady.sound).symm, ?_, ?_⟩
  · intro alone isOpen
    obtain ⟨following, happening, member, asks⟩ := not_leavesAlone_of_isOpen after isOpen
    exact asks (alone following happening member)
  · intro shut following
    exact leavesAlone_follow after ⟨late.known, shut, settled⟩ following

/-- A preview is started, and the client is deactivated before its page comes. -/
def deactivatedWhileStarting : List (Event Operation) := [
  .issue desk (.command (.startPreview (Path.ofString "/a.rc")))]

/-- The page that comes late leaves the panel open. -/
theorem deactivated_panel_silent_iff_late :
    StartedIn (run .standard deactivatedWhileStarting).log 0 ∧
      LeftOpen (afterDeactivate (run .standard deactivatedWhileStarting) desk)
        ((afterDeactivate (run .standard deactivatedWhileStarting) desk).thereafter machine
          [.arrive desk 0 (listingOf "x")]) 1 := by
  have started : StartedIn (run .standard deactivatedWhileStarting).log 0 := ⟨_, rfl, by decide⟩
  refine ⟨started, ?_⟩
  by_contra shut
  have closes := (deactivated_panel_silent_iff .standard deactivatedWhileStarting
    [.arrive desk 0 (listingOf "x")] desk 1 ⟨0, started, by decide⟩ (by rintro _ _ ⟨⟩)).1.mpr shut
  revert closes
  decide

/-- Not every panel that was made before the client was deactivated is gone when all answers have
come. -/
theorem deactivated_panel_asks :
    ¬ ∀ (settings : Settings) (events more : List (Event Operation)) (world : Surroundings)
        (id : Nat),
      (∃ step, StartedIn (run settings events).log step ∧
        panelOf (run settings events).log step = id) →
      let later := (afterDeactivate (run settings events) world).follow machine more
      (∀ number, later.waiting.get? number = none) →
      (id ∈ later.state.listed → later.state.IsClosed id) ∧
        ∀ following, ∀ happening ∈ later.thereafter machine following,
          happening.LeavesAlone id := by
  intro always
  have started : StartedIn (run .standard deactivatedWhileStarting).log 0 := ⟨_, rfl, by decide⟩
  have alone := (always .standard deactivatedWhileStarting [.arrive desk 0 (listingOf "x")] desk 1
    ⟨0, started, by decide⟩ fun _ => rfl).2
    [.issue desk (.showPreview 1 false), .issue desk (.showPreview 1 true)]
  revert alone
  decide

end Client

end LanguageClient
