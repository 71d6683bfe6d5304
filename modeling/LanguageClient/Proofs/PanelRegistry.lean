import LanguageClient.Proofs.PanelNumbers
import Mathlib.Data.List.Nodup

/-!
# The list of previews

A preview gets its number when it is started and its place in the list when its first page comes,
so the numbers in the list need not ascend. `Registry` says what the numbers and the list have to
do with the log of a run; `registry_run` shows it for every run.
-/

namespace LanguageClient

namespace Happening

/-- The panel that the user closed. -/
def closed? (happening : ClientHappening) : Option Nat :=
  match happening.cause with
  | .issued (.closePreview id) => some id
  | _ => none

/-- The panel whose first page has come, or has failed to come. -/
def settles? (good : Bool) (log : List ClientHappening) (happening : ClientHappening) :
    Option Nat :=
  match happening.firstPage? with
  | some (step, came) => if came = good then some (Client.panelOf log step) else none
  | none => none

/-- The panel whose first page has come. -/
def opens? : List ClientHappening → ClientHappening → Option Nat := settles? true

/-- The panel whose first page has failed to come. -/
def fails? : List ClientHappening → ClientHappening → Option Nat := settles? false

end Happening

namespace Client

/-- The panels whose first page has come and that were not closed afterwards, in the order in which
their first pages came. -/
def openPanels (log : List ClientHappening) : List ClientHappening → List Nat
  | [] => []
  | happening :: later =>
    match happening.opens? log with
    | some id =>
      if later.any fun other => other.closed? = some id then openPanels log later
      else id :: openPanels log later
    | none => openPanels log later

/-- What the numbers of panels and the list of previews have to do with what has happened. -/
structure Registry (run : ClientRun) : Prop where
  /-- Every start of a preview for a path that leads to a file makes a panel for the file, with the
  next number. -/
  made : ∀ step happening path document, run.log[step]? = some happening →
    happening.cause = .issued (.command (.startPreview path)) →
    happening.world.disk.urlOf path = .ok document →
    ∃ panel, run.state.panels.get? (panelOf run.log step) = some panel ∧
      panel.web.id = panelOf run.log step ∧ panel.document = document
  /-- Every panel was made by such a start. -/
  known : ∀ id panel, run.state.panels.get? id = some panel →
    ∃ step, StartedIn run.log step ∧ panelOf run.log step = id
  /-- A later start gives a greater number. -/
  fresh : ∀ step later, StartedIn run.log step → step < later →
    panelOf run.log step < panelOf run.log later
  /-- A first page comes, or fails to come, for a preview that was started. -/
  answered : ∀ happening ∈ run.log, ∀ step good, happening.firstPage? = some (step, good) →
    StartedIn run.log step
  /-- The list holds the panels that were opened and not closed. -/
  listed : run.state.listed = openPanels run.log run.log
  /-- No panel is listed twice. -/
  once : run.state.listed.Nodup
  /-- Every listed panel was rendered. -/
  rendered : ∀ id ∈ run.state.listed, ∃ happening ∈ run.log, happening.Renders id
  /-- A panel whose first page has failed to come is not listed and was never rendered. -/
  failed : ∀ happening ∈ run.log, ∀ id, happening.fails? run.log = some id →
    id ∉ run.state.listed ∧ ∀ other ∈ run.log, ¬ other.Renders id
  /-- A panel that is closed leaves the list, and the others stay in their order. -/
  closing : ∀ world id, (run.state.issue world (.closePreview id)).state.listed =
    run.state.listed.filter fun other => other ≠ id

/-! ## What is read from the log -/

variable {log : List ClientHappening} {happening last : ClientHappening} {step : Nat}

/-- A step settles the panel whose first page it brings, or brings the failure of. -/
theorem settles?_eq_some_iff {good : Bool} {id : Nat} :
    happening.settles? good log = some id ↔
      ∃ step, happening.firstPage? = some (step, good) ∧ panelOf log step = id := by
  unfold Happening.settles?
  cases first : happening.firstPage? with
  | none => simp
  | some page =>
    obtain ⟨step, came⟩ := page
    by_cases same : came = good <;> simp [same]

/-- What happens last closes a panel, or opens one. -/
theorem openPanels_append_singleton (past : List ClientHappening) (last : ClientHappening) :
    openPanels log (past ++ [last]) =
      ((openPanels log past).filter fun id => last.closed? ≠ some id) ++
        (last.opens? log).toList := by
  induction past with
  | nil => cases opens : last.opens? log <;> simp [openPanels, opens]
  | cons happening later ih =>
    rw [List.cons_append]
    cases opens : happening.opens? log with
    | none => simpa only [openPanels, opens] using ih
    | some id =>
      simp only [openPanels, opens, List.any_append, List.any_cons, List.any_nil, Bool.or_false]
      by_cases before : (later.any fun other => other.closed? = some id) = true
      · simpa only [before, Bool.true_or, ↓reduceIte] using ih
      · by_cases now : last.closed? = some id
        · simpa [before, now] using ih
        · simpa [before, now] using ih

/-- A listed panel was opened. -/
theorem exists_opens_of_mem {past : List ClientHappening} {id : Nat}
    (member : id ∈ openPanels log past) : ∃ happening ∈ past, happening.opens? log = some id := by
  induction past with
  | nil => cases member
  | cons happening later ih =>
    have rest (inside : id ∈ openPanels log later) :
        ∃ other ∈ happening :: later, other.opens? log = some id := by
      obtain ⟨other, found, opens⟩ := ih inside
      exact ⟨other, List.mem_cons_of_mem _ found, opens⟩
    unfold openPanels at member
    split at member
    · rename_i opened opens
      split at member
      · exact rest member
      · rcases List.mem_cons.mp member with rfl | inside
        · exact ⟨happening, List.mem_cons_self, opens⟩
        · exact rest inside
    · exact rest member

/-- Which panels are open depends on the panels that the steps have opened only. -/
theorem openPanels_congr {other past : List ClientHappening}
    (same : ∀ happening ∈ past, happening.opens? other = happening.opens? log) :
    openPanels other past = openPanels log past := by
  induction past with
  | nil => rfl
  | cons happening later ih =>
    rw [openPanels, openPanels, same happening List.mem_cons_self,
      ih fun next member => same next (List.mem_cons_of_mem _ member)]

/-! ## The list -/

/-- The first page of a panel has come. -/
def Opened (log : List ClientHappening) (id : Nat) : Prop :=
  ∃ happening ∈ log, happening.opens? log = some id

/-- What every run keeps about the list and about what was rendered. -/
structure Listed (run : ClientRun) : Prop where
  /-- The listed panels are the open ones in their order. -/
  listed : run.state.listed = openPanels run.log run.log
  /-- No panel is listed twice. -/
  once : run.state.listed.Nodup
  /-- A page is asked for again only after the first page has come. -/
  again : ∀ number asked id, run.waiting.get? number = some asked →
    asked.pending = .page id → Opened run.log id
  /-- The first page of a panel is rendered. -/
  opened : ∀ happening ∈ run.log, ∀ id, happening.opens? run.log = some id → happening.Renders id
  /-- A panel is rendered only if its first page comes or has come. -/
  rendered : ∀ happening ∈ run.log, ∀ id, happening.Renders id → Opened run.log id

/-- Which panel was opened does not change when more happens. -/
theorem Made.opens?_append {run : ClientRun} (made : Made run) (member : happening ∈ run.log)
    (more : List ClientHappening) :
    happening.opens? (run.log ++ more) = happening.opens? run.log := by
  unfold Happening.opens? Happening.settles?
  split
  · rename_i step came found
    rw [(made.started happening member step came found).panelOf_append]
  · rfl

/-- A first page that has come stays one that has come. -/
theorem Made.opened_append {run : ClientRun} (made : Made run) {id : Nat}
    (opened : Opened run.log id) (more : List ClientHappening) : Opened (run.log ++ more) id := by
  obtain ⟨happening, member, opens⟩ := opened
  exact ⟨happening, List.mem_append_left more member,
    (made.opens?_append member more).trans opens⟩

/-- The open panels after one more thing has happened. -/
theorem Made.openPanels_append {run : ClientRun} (made : Made run) (last : ClientHappening) :
    openPanels (run.log ++ [last]) (run.log ++ [last]) =
      ((openPanels run.log run.log).filter fun id => last.closed? ≠ some id) ++
        (last.opens? (run.log ++ [last])).toList := by
  rw [openPanels_append_singleton,
    openPanels_congr fun happening member => made.opens?_append member [last]]

/-- What is kept about rendered panels when one more thing happens. -/
theorem listed_append {run after : ClientRun} (made : Made run) (listed : Listed run)
    (grown : after.log = run.log ++ [last])
    (state : after.state.listed = (run.state.listed.filter fun id => last.closed? ≠ some id) ++
      (last.opens? after.log).toList)
    (once : after.state.listed.Nodup)
    (again : ∀ number asked id, after.waiting.get? number = some asked →
      asked.pending = .page id → Opened after.log id)
    (opened : ∀ id, last.opens? after.log = some id → last.Renders id)
    (rendered : ∀ id, last.Renders id → Opened after.log id) : Listed after := by
  rw [grown] at state opened
  constructor
  · rw [grown, made.openPanels_append, state, listed.listed]
  · exact once
  · exact again
  · rw [grown]
    intro happening member id opens
    rcases List.mem_append.mp member with before | new
    · rw [made.opens?_append before] at opens
      exact listed.opened happening before id opens
    · obtain rfl := List.mem_singleton.mp new
      exact opened id opens
  · intro happening member id renders
    rw [grown] at member
    rcases List.mem_append.mp member with before | new
    · rw [grown]
      exact made.opened_append (listed.rendered happening before id renders) [last]
    · obtain rfl := List.mem_singleton.mp new
      exact rendered id renders

/-- The step that issues an operation closes the panel that the user wants closed. -/
theorem closed?_ofIssue (world : Surroundings) (operation : Operation)
    (turn : Turn Client (Next Pending Answer)) :
    Happening.closed? (.ofIssue world operation turn) =
      match operation with
      | .closePreview id => some id
      | _ => none := by
  simp only [Happening.closed?, Happening.cause_ofIssue]
  cases operation <;> rfl

/-- A panel that is closed leaves the list. -/
theorem listed_closePreview {client : Client} (once : client.listed.Nodup) (world : Surroundings)
    (id : Nat) : (client.issue world (.closePreview id)).state.listed =
      client.listed.filter fun other => other ≠ id := by
  show (client.closePreview id).listed = _
  by_cases listed : client.listed.contains id = true
  · simp only [closePreview, listed, ↓reduceIte]
    rw [once.erase_eq_filter]
    apply List.filter_congr
    intro other member
    by_cases same : other = id <;> simp [same]
  · have absent : id ∉ client.listed := fun member => listed (List.contains_iff_mem.mpr member)
    simp only [closePreview, listed]
    symm
    apply List.filter_eq_self.mpr
    intro other member
    have different : other ≠ id := fun same => absent (same ▸ member)
    simpa using different

/-- An operation takes the panel that it closes from the list, and no other. -/
theorem listed_afterIssue {client : Client} (once : client.listed.Nodup) (world : Surroundings)
    (operation : Operation) : (client.issue world operation).state.listed =
      client.listed.filter fun id =>
        Happening.closed? (.ofIssue world operation (client.issue world operation)) ≠ some id := by
  by_cases closes : ∃ id, operation = .closePreview id
  · obtain ⟨id, rfl⟩ := closes
    rw [listed_closePreview once, closed?_ofIssue]
    exact List.filter_congr fun other _ => by simp [eq_comm]
  · have spared : Happening.closed? (.ofIssue world operation (client.issue world operation)) =
        none := by
      rw [closed?_ofIssue]
      split
      · rename_i id
        exact absurd ⟨id, rfl⟩ closes
      · rfl
    have how := panelIssue world client operation
    generalize client.issue world operation = turn at how spared ⊢
    rw [spared]
    have same : turn.state.listed = client.listed := by
      cases how with
      | aside panels listed next silent idle => exact listed
      | closed id listed => exact absurd ⟨id, rfl⟩ closes
      | _ => rfl
    simpa using same

/-- An answer opens a panel if the first page of the panel was awaited and a listing has come. -/
theorem opens?_ofArrival {run : ClientRun} (steady : Steady run) (made : Made run)
    {number : Nat} {asked : Asked Operation Pending}
    (isOpen : run.waiting.get? number = some asked) (world : Surroundings)
    (reply : Except LspError Json) (turn : Turn Client Answer) (more : List ClientHappening)
    (id : Nat) :
    Happening.opens? (run.log ++ more) (.ofArrival world asked.operation number reply turn) =
        some id ↔
      asked.pending = .firstPage id ∧
        ∃ listing, Preview.Listing.form.ofReply reply = .ok listing := by
  have own (other : Nat) (first : asked.pending = .firstPage other) :
      panelOf (run.log ++ more) number = other := by
    obtain ⟨started, same⟩ := made.first number asked other isOpen first
    rw [started.panelOf_append, same]
  have good : (Preview.Listing.form.ofReply reply).toBool = true ↔
      ∃ listing, Preview.Listing.form.ofReply reply = .ok listing := by
    cases Preview.Listing.form.ofReply reply <;> simp [Except.toBool]
  simp only [Happening.opens?, settles?_eq_some_iff,
    firstPage?_ofArrival (awaits_of_honest steady.honest isOpen), good]
  constructor
  · rintro ⟨step, ⟨⟨other, first⟩, rfl, read⟩, same⟩
    rw [own other first] at same
    exact ⟨same ▸ first, read⟩
  · rintro ⟨first, read⟩
    exact ⟨number, ⟨⟨id, first⟩, rfl, read⟩, own id first⟩

/-- An operation keeps the list to the panels that are open. -/
theorem listed_began {run : ClientRun} (made : Made run) (listed : Listed run)
    (world : Surroundings) (operation : Operation) :
    Listed (run.began world operation (run.state.issue world operation)) := by
  have opensNone (log : List ClientHappening) : Happening.opens? log
      (.ofIssue world operation (run.state.issue world operation)) = none := by
    simp [Happening.opens?, Happening.settles?]
  have state := listed_afterIssue listed.once world operation
  refine listed_append made listed rfl ?_ ?_ ?_ ?_ ?_
  · rw [opensNone, Option.toList_none, List.append_nil]
    exact state
  · show (run.state.issue world operation).state.listed.Nodup
    rw [state]
    exact listed.once.filter _
  · intro number asked id isOpen page
    apply made.opened_append
    rcases Run.waiting_began run isOpen with before | ⟨-, -, outcome⟩
    · exact listed.again number asked id before page
    · rcases issue_panels world run.state operation with ⟨document, opened⟩ | ⟨-, asks⟩
      · rw [opened, page] at outcome
        cases (Next.waits.inj outcome).2
      · obtain ⟨-, -, member, -⟩ := asks _ _ id outcome (by rw [page]; rfl)
        rw [listed.listed] at member
        exact exists_opens_of_mem member
  · intro id opens
    rw [opensNone] at opens
    cases opens
  · intro id renders
    exact absurd renders (not_renders_ofIssue world run.state operation id)

/-- A panel of which a page is awaited awaits its first page, or the page of a panel that is shown
again. -/
theorem panel?_eq_some_iff {pending : Pending} {id : Nat} :
    pending.panel? = some id ↔ pending = .firstPage id ∨ pending = .page id := by
  cases pending <;> simp [Pending.panel?]

/-- An answer lists the panel that it opens, and no other. -/
theorem listed_afterArrival {run : ClientRun} (sound : Sound run) (world : Surroundings)
    {number : Nat} {asked : Asked Operation Pending}
    (isOpen : run.waiting.get? number = some asked) (reply : Except LspError Json)
    {opened : Option Nat}
    (opens : ∀ id, opened = some id ↔ asked.pending = .firstPage id ∧
      ∃ listing, Preview.Listing.form.ofReply reply = .ok listing) :
    (run.state.arrive world asked.pending reply).state.listed =
      run.state.listed ++ opened.toList := by
  have how := panelArrival world run.state asked.pending reply
  have known (id : Nat) (first : asked.pending = .firstPage id) :
      ∃ panel, run.state.panels.get? id = some panel :=
    sound.awaited number asked id isOpen (by rw [first]; rfl)
  generalize run.state.arrive world asked.pending reply = turn at how ⊢
  generalize asked.pending = pending at how known opens
  cases how with
  | aside panels listed next silent useless =>
    have none : opened = none := by
      rw [Option.eq_none_iff_forall_ne_some]
      intro id wrong
      obtain ⟨first, listing, read⟩ := (opens id).mp wrong
      obtain ⟨panel, found⟩ := known id first
      exact useless id panel listing (by rw [first]; rfl) found read
    rw [none, Option.toList_none, List.append_nil, listed]
  | first id panel listing _ found read =>
    have one : opened = some id := (opens id).mpr ⟨rfl, listing, read⟩
    rw [one]
    rfl
  | again id panel listing _ found read =>
    have none : opened = none := by
      rw [Option.eq_none_iff_forall_ne_some]
      intro other wrong
      cases ((opens other).mp wrong).1
    rw [none, Option.toList_none, List.append_nil]
    rfl

/-- An answer keeps the list to the panels that are open. -/
theorem listed_ended {run : ClientRun} (steady : Steady run) (made : Made run)
    (listed : Listed run) (world : Surroundings) {number : Nat} {asked : Asked Operation Pending}
    (isOpen : run.waiting.get? number = some asked) (reply : Except LspError Json) :
    Listed (run.ended world asked.operation number reply
      (run.state.arrive world asked.pending reply)) := by
  have opens (id : Nat) := opens?_ofArrival steady made isOpen world reply
    (run.state.arrive world asked.pending reply) [.ofArrival world asked.operation number reply
      (run.state.arrive world asked.pending reply)] id
  have renders (id : Nat) := renders_arrive steady.sound world isOpen reply id
  have state := listed_afterArrival steady.sound world isOpen reply opens
  refine listed_append made listed rfl ?_ ?_ ?_ ?_ ?_
  · rw [List.filter_eq_self.mpr (by simp [Happening.closed?, Happening.ofArrival])]
    exact state
  · show (run.state.arrive world asked.pending reply).state.listed.Nodup
    have one (opened : Option Nat) : opened.toList.Nodup := by cases opened <;> simp
    rw [state]
    refine List.nodup_append.mpr ⟨listed.once, one _, ?_⟩
    intro id member other new same
    obtain ⟨first, -⟩ := (opens other).mp (Option.mem_toList.mp new)
    exact (steady.sound.first number asked other isOpen first).1 (same ▸ member)
  · intro other again id found page
    exact made.opened_append
      (listed.again other again id (Run.waiting_ended run found).2 page) _
  · intro id opened
    obtain ⟨first, read⟩ := (opens id).mp opened
    exact (renders id).mpr ⟨by rw [first]; rfl, read⟩
  · intro id rendered
    obtain ⟨awaited, read⟩ := (renders id).mp rendered
    rcases panel?_eq_some_iff.mp awaited with first | page
    · exact ⟨_, List.mem_append_right _ List.mem_cons_self, (opens id).mpr ⟨first, read⟩⟩
    · exact made.opened_append (listed.again number asked id isOpen page) _

/-! ## Every run -/

/-- All that every run keeps about panels, their numbers and the list. -/
structure Registered (run : ClientRun) : Prop where
  /-- The run is steady. -/
  steady : Steady run
  /-- Questions are numbered by their steps. -/
  numbered : run.Numbered
  /-- Panels are those of the previews that were started. -/
  made : Made run
  /-- The list is that of the open panels. -/
  listed : Listed run

/-- A step keeps what is known of the panels, their numbers and the list. -/
theorem registered_step (run : ClientRun) (event : Event Operation) (kept : Registered run) :
    Registered (run.step machine event) := by
  refine ⟨steady_step run event kept.steady, Run.numbered_step machine run event kept.numbered,
    ?_, ?_⟩
  · apply Run.step_keeps (motive := Made) machine run event kept.made
    · exact made_began kept.made
    · intro world number reply asked isOpen
      exact made_ended kept.steady kept.made world isOpen reply
  · apply Run.step_keeps (motive := Listed) machine run event kept.listed
    · exact listed_began kept.made kept.listed
    · intro world number reply asked isOpen
      exact listed_ended kept.steady kept.made kept.listed world isOpen reply

/-- Of every run all is known of the panels, their numbers and the list. -/
theorem registered_run (settings : Settings) (events : List (Event Operation)) :
    Registered (run settings events) := by
  apply Run.follow_keeps (motive := Registered) machine _ registered_step
  refine ⟨steady_run settings [], Run.numbered_start _, ?_, ?_⟩
  · constructor <;> simp [Run.start, activate, panelOf]
  · constructor <;> simp [Run.start, activate, openPanels]

/-- A panel whose first page has failed to come was never opened: its question is answered once. -/
theorem not_opened_of_fails {run : ClientRun} (kept : Registered run)
    (member : happening ∈ run.log) {id : Nat} (fails : happening.fails? run.log = some id) :
    ¬ Opened run.log id := by
  rintro ⟨other, memberToo, opens⟩
  obtain ⟨step, failed, number⟩ := settles?_eq_some_iff.mp fails
  obtain ⟨later, came, numberToo⟩ := settles?_eq_some_iff.mp opens
  have same : step = later := panelOf_inj (kept.made.started happening member step false failed)
    (kept.made.started other memberToo later true came) (number.trans numberToo.symm)
  have one : happening = other := kept.numbered.once happening member other memberToo step
    (answers?_of_firstPage? failed) (same ▸ answers?_of_firstPage? came)
  rw [one, came] at failed
  cases failed

/-- Whatever is done, and whenever the first pages come or fail to: previews are numbered in the
order in which they are started, and listed in the order in which their first pages come. -/
theorem registry_run (settings : Settings) (events : List (Event Operation)) :
    Registry (run settings events) := by
  have kept := registered_run settings events
  have openedOfListed (id : Nat) (member : id ∈ (run settings events).state.listed) :
      Opened (run settings events).log id := by
    rw [kept.listed.listed] at member
    exact exists_opens_of_mem member
  constructor
  · intro step happening path document found cause leads
    obtain ⟨panel, there, same⟩ := kept.made.made step happening path document found cause leads
    exact ⟨panel, there, (kept.steady.sound.made _ panel there).2, same⟩
  · exact kept.made.known
  · intro step later started after
    exact panelOf_lt started after
  · exact kept.made.started
  · exact kept.listed.listed
  · exact kept.listed.once
  · intro id member
    obtain ⟨happening, inside, opens⟩ := openedOfListed id member
    exact ⟨happening, inside, kept.listed.opened happening inside id opens⟩
  · intro happening member id fails
    have unopened := not_opened_of_fails kept member fails
    exact ⟨fun there => unopened (openedOfListed id there),
      fun other inside renders => unopened (kept.listed.rendered other inside id renders)⟩
  · intro world id
    exact listed_closePreview kept.listed.once world id

/-- The second of two previews is listed first if its page comes first; a third fails, and its
number is not given again. -/
example : (run .standard [
    .issue desk (.command (.startPreview (Path.ofString "/a.rc"))),
    .issue desk (.command (.startPreview (Path.ofString "/a.rc"))),
    .issue desk (.command (.startPreview (Path.ofString "/a.rc"))),
    .arrive desk 1 (listingOf "y"),
    .arrive desk 2 (.error (.requestFailed "no")),
    .arrive desk 0 (listingOf "x"),
    .issue desk (.command (.startPreview (Path.ofString "/a.rc"))),
    .arrive desk 6 (listingOf "z")]).state.listed = [2, 1, 4] := by decide

end Client

end LanguageClient
