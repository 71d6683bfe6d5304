import LanguageClient.Proofs.Histories
import LanguageClient.Proofs.PanelContents

/-!
# Shows that are repeated

A panel that is shown is brought up to date, unless it counts as shown already: it was never hidden,
or a report that it is shown has ended well since. A show that fails does not count, so the next one
asks again. `failed_shows_are_repeated` says so for every history of a panel, and what each report
on it comes to.
-/

namespace LanguageClient

/-- The operation that a step belongs to. -/
def Cause.operation {ι : Type} : Cause ι → ι
  | .issued operation => operation
  | .answered operation _ _ => operation

namespace Preview.Panel

/-- A step of a run of a panel. -/
abbrev PanelHappening := Happening PanelOperation PanelAnswer

/-- The panel is reported to be hidden. -/
def Hides (happening : PanelHappening) : Prop := happening.cause = .issued (.visible false)

/-- A report that the panel is shown ends well. -/
def ShowsWell (happening : PanelHappening) : Prop :=
  happening.cause.operation = .visible true ∧ happening.answer = some (.shown (.ok ()))

/-- The panel was never hidden, or a report that it is shown has ended well since it was hidden
last. -/
def CountsAsShown (log : List PanelHappening) : Prop :=
  (∀ happening ∈ log, ¬ Hides happening) ∨
    ∃ before hide after, log = before ++ hide :: after ∧ Hides hide ∧
      (∀ happening ∈ after, ¬ Hides happening) ∧ ∃ happening ∈ after, ShowsWell happening

/-- The panel was closed. -/
def WasClosed (log : List PanelHappening) : Prop :=
  ∃ happening ∈ log, happening.cause = .issued .dispose

/-! ## The history -/

variable {log : List PanelHappening} {last : PanelHappening}

/-- A panel that has just been hidden does not count as shown. -/
theorem not_countsAsShown_append (hides : Hides last) : ¬ CountsAsShown (log ++ [last]) := by
  rintro (never | ⟨before, hide, after, split, -, silent, happening, member, -⟩)
  · exact never last (by simp) hides
  · rcases split_append split with ⟨rfl, -, -⟩ | ⟨between, rfl, -⟩
    · cases member
    · exact silent last (by simp) hides

/-- After a step that does not hide it a panel counts as shown if it did before, or if the step
ends a show well. -/
theorem countsAsShown_append (still : ¬ Hides last) :
    CountsAsShown (log ++ [last]) ↔ CountsAsShown log ∨ ShowsWell last := by
  constructor
  · rintro (never | ⟨before, hide, after, split, hides, silent, happening, member, shows⟩)
    · exact .inl (.inl fun happening member => never happening (List.mem_append_left _ member))
    · rcases split_append split with ⟨rfl, -, -⟩ | ⟨between, rfl, rfl⟩
      · cases member
      · rcases List.mem_append.mp member with early | late
        · refine .inl (.inr ⟨before, hide, between, rfl, hides, ?_, happening, early, shows⟩)
          exact fun other inside => silent other (List.mem_append_left _ inside)
        · obtain rfl := List.mem_singleton.mp late
          exact .inr shows
  · rintro ((never | ⟨before, hide, after, rfl, hides, silent, shown⟩) | shows)
    · exact .inl (List.forall_mem_append.mpr ⟨never, List.forall_mem_singleton.mpr still⟩)
    · obtain ⟨happening, member, shows⟩ := shown
      refine .inr ⟨before, hide, after ++ [last], by simp, hides, ?_, happening,
        List.mem_append_left _ member, shows⟩
      exact List.forall_mem_append.mpr ⟨silent, List.forall_mem_singleton.mpr still⟩
    · by_cases hidden : ∃ happening ∈ log, Hides happening
      · obtain ⟨before, hide, after, rfl, hides, silent⟩ := exists_last_split hidden
        refine .inr ⟨before, hide, after ++ [last], by simp, hides, ?_, last, by simp, shows⟩
        exact List.forall_mem_append.mpr ⟨silent, List.forall_mem_singleton.mpr still⟩
      · refine .inl (List.forall_mem_append.mpr ⟨?_, List.forall_mem_singleton.mpr still⟩)
        exact fun happening member hides => hidden ⟨happening, member, hides⟩

/-- A panel was closed before or is closed by the last step. -/
theorem wasClosed_append :
    WasClosed (log ++ [last]) ↔ WasClosed log ∨ last.cause = .issued .dispose := by
  simp [WasClosed, or_and_right, exists_or]

/-! ## Steps of a panel -/

/-- The marks of a panel after a step: it counts as shown unless the step hides it, if it did
before or the step ends a show well, and it is closed for good. -/
structure Marks (before after : Panel) (happening : PanelHappening) : Prop where
  /-- The panel counts as shown from a page that came until it is hidden. -/
  visible : after.visible = true ↔ ¬ Hides happening ∧
    (before.visible = true ∨ ShowsWell happening)
  /-- It counts as closed once it was closed. -/
  disposed : after.disposed = true ↔ before.disposed = true ∨ happening.cause = .issued .dispose

/-- The marks of a panel follow its history when it grows by a step. -/
theorem Marks.append {before after : Panel} (marks : Marks before after last)
    (visible : before.visible = true ↔ CountsAsShown log)
    (disposed : before.disposed = true ↔ WasClosed log) :
    (after.visible = true ↔ CountsAsShown (log ++ [last])) ∧
      (after.disposed = true ↔ WasClosed (log ++ [last])) := by
  constructor
  · rw [marks.visible, visible]
    by_cases hides : Hides last
    · simp [hides, not_countsAsShown_append hides]
    · simp [hides, countsAsShown_append hides]
  · rw [marks.disposed, disposed, wasClosed_append]

/-- How the marks of a panel are set when an operation begins. -/
theorem marks_ofIssue (now : Panel) (world : Surroundings) (operation : PanelOperation) :
    Marks now (machine.issue world operation now).state
      (.ofIssue world operation (machine.issue world operation now)) := by
  cases operation with
  | update =>
    cases asks : now.ask? <;>
      constructor <;>
      simp [machine, asks, Hides, ShowsWell, Happening.ofIssue, Cause.operation]
  | visible visible =>
    cases visible with
    | false =>
      constructor <;>
      simp [machine, hide, Hides, ShowsWell, Happening.ofIssue, Cause.operation]
    | true =>
      cases asks : now.askShown? <;>
        constructor <;>
        simp [machine, asks, shown, Hides, ShowsWell, Happening.ofIssue, Cause.operation]
  | dispose =>
    constructor <;>
      simp [machine, dispose, Hides, ShowsWell, Happening.ofIssue, Cause.operation]

/-- How the marks of a panel are set when an answer arrives. -/
theorem marks_ofArrival (now : Panel) (world : Surroundings) (number : Nat) (shows : Bool)
    (reply : Except LspError Json) :
    Marks now (machine.arrive world shows reply now).state
      (.ofArrival world (if shows then .visible true else .update) number reply
        (machine.arrive world shows reply now)) := by
  cases read : Listing.form.ofReply reply <;> cases shows <;>
    constructor <;>
    simp [machine, read, receive, shown, Hides, ShowsWell, Happening.ofArrival, Cause.operation,
      Except.toOption, Except.map]

/-- What every run of a panel keeps: its marks follow from its history. -/
structure Understood (panel : Panel) (run : PanelRun) : Prop where
  /-- The run is honest. -/
  honest : run.Honest machine
  /-- Questions are numbered by their steps. -/
  numbered : run.Numbered
  /-- The panel keeps its place and its document. -/
  alike : panel.Alike run.state
  /-- It counts as shown by its history. -/
  visible : run.state.visible = true ↔ CountsAsShown run.log
  /-- It counts as closed by its history. -/
  disposed : run.state.disposed = true ↔ WasClosed run.log

/-- A step keeps the marks of a panel those that follow from its history. -/
theorem understood_step {panel : Panel} (run : PanelRun) (event : Event PanelOperation)
    (understood : panel.Understood run) : panel.Understood (run.step machine event) := by
  have all : panel.Alike (run.step machine event).state ∧
      ((run.step machine event).state.visible = true ↔
        CountsAsShown (run.step machine event).log) ∧
      ((run.step machine event).state.disposed = true ↔
        WasClosed (run.step machine event).log) := by
    apply Run.step_keeps (motive := fun later => panel.Alike later.state ∧
      (later.state.visible = true ↔ CountsAsShown later.log) ∧
      (later.state.disposed = true ↔ WasClosed later.log)) machine run event
      ⟨understood.alike, understood.visible, understood.disposed⟩
    · intro world operation
      exact ⟨(does_ofIssue understood.alike world operation).2,
        (marks_ofIssue run.state world operation).append understood.visible understood.disposed⟩
    · intro world number reply asked isOpen
      obtain ⟨worldThen, stateThen, outcome⟩ := understood.honest number asked isOpen
      have marks := marks_ofArrival run.state world number asked.pending reply
      rw [← operation_of_issue outcome] at marks
      exact ⟨(does_ofArrival understood.alike world number asked.pending reply).2,
        marks.append understood.visible understood.disposed⟩
  exact ⟨Run.honest_step machine run event understood.honest,
    Run.numbered_step machine run event understood.numbered, all.1, all.2.1, all.2.2⟩

/-- In every run of a panel its marks follow from its history. -/
theorem understood_follow (editor : Editor) (extensionRoot : Path) (id : Nat) (document : Url)
    (events : List (Event PanelOperation)) :
    (create editor extensionRoot id document).Understood
      ((Run.start (create editor extensionRoot id document)).follow machine events) := by
  apply Run.follow_keeps (motive := (create editor extensionRoot id document).Understood) machine _
    understood_step
  exact ⟨Run.honest_start machine _, Run.numbered_start _, ⟨rfl, rfl⟩,
    by simp [Run.start, create, CountsAsShown], by simp [Run.start, create, WasClosed]⟩

/-! ## Reports on a panel -/

/-- The run after the panel is reported to be shown. If the report asks a question, a reply comes
before anything else happens. -/
def afterShow (run : PanelRun) (world worldThen : Surroundings) (reply : Except LspError Json) :
    PanelRun :=
  (run.step machine (.issue world (.visible true))).step machine
    (.arrive worldThen run.log.length reply)

/-- How a panel stands after some history, and all that a further report on it comes to. -/
structure RepeatsShows (panel : Panel) (run : PanelRun) : Prop where
  /-- The panel counts as shown as its history tells. -/
  visible : run.state.visible = true ↔ CountsAsShown run.log
  /-- The report that it is hidden asks and renders nothing, and does not fail. -/
  hides : ∀ world, (run.step machine (.issue world (.visible false))).log = run.log ++
    [⟨.issued (.visible false), world, none, [], [], some (.shown (.ok ()))⟩]
  /-- The report that it is shown comes to nothing if the panel counts as shown or was closed. -/
  keeps : CountsAsShown run.log ∨ WasClosed run.log → ∀ world worldThen reply,
    (afterShow run world worldThen reply).log = run.log ++
      [⟨.issued (.visible true), world, none, [], [], some (.shown (.ok ()))⟩]
  /-- Otherwise it asks for the listing of the document, and renders the listing that comes. -/
  renders : ¬ CountsAsShown run.log → ¬ WasClosed run.log → ∀ world worldThen reply listing,
    Listing.form.ofReply reply = .ok listing →
    (afterShow run world worldThen reply).log = run.log ++
      [⟨.issued (.visible true), world, some (.preview panel.document), [], [], none⟩,
        ⟨.answered (.visible true) run.log.length reply, worldThen, none, [],
          [.render panel.web (page (rows listing))], some (.shown (.ok ()))⟩]
  /-- If no listing comes, nothing is rendered and the report fails. -/
  fails : ¬ CountsAsShown run.log → ¬ WasClosed run.log → ∀ world worldThen reply cause,
    Listing.form.ofReply reply = .error cause →
    (afterShow run world worldThen reply).log = run.log ++
      [⟨.issued (.visible true), world, some (.preview panel.document), [], [], none⟩,
        ⟨.answered (.visible true) run.log.length reply, worldThen, none, [], [],
          some (.shown (.error cause))⟩]

variable {run : PanelRun}

/-- A report that comes to nothing is over at once, and no reply to it is heard. -/
theorem log_afterShow_of_none (numbered : run.Numbered) (quiet : run.state.askShown? = none)
    (world worldThen : Surroundings) (reply : Except LspError Json) :
    (afterShow run world worldThen reply).log = run.log ++
      [⟨.issued (.visible true), world, none, [], [], some (.shown (.ok ()))⟩] := by
  simp [afterShow, Run.step, Run.began, machine, quiet, numbered.unasked,
    Happening.ofIssue]

/-- A report that asks is over when the reply comes. -/
theorem log_afterShow_of_some {request : Request} (asks : run.state.askShown? = some request)
    (world worldThen : Surroundings) (reply : Except LspError Json) :
    (afterShow run world worldThen reply).log = run.log ++
      [⟨.issued (.visible true), world, some request, [], [], none⟩,
        ⟨.answered (.visible true) run.log.length reply, worldThen, none, [],
          (run.state.receive (Listing.form.ofReply reply)).1,
          some (.shown ((run.state.receive (Listing.form.ofReply reply)).2.map fun _ => ()))⟩] := by
  simp [afterShow, Run.step, Run.began, Run.ended, machine, asks, Happening.ofIssue,
    Happening.ofArrival]

/-- In every run of a panel that was created in some editor, in which reports that it is shown or
hidden come and it is updated and closed in any order, and questions are answered, fail or stay
open, the panel asks for its listing when it is shown if and only if it neither counts as shown
nor was closed. A show that failed does not count, so the next one asks again. -/
theorem failed_shows_are_repeated (editor : Editor) (extensionRoot : Path) (id : Nat)
    (document : Url) (events : List (Event PanelOperation)) :
    (create editor extensionRoot id document).RepeatsShows
      ((Run.start (create editor extensionRoot id document)).follow machine events) := by
  have understood := understood_follow editor extensionRoot id document events
  generalize (Run.start (create editor extensionRoot id document)).follow machine events = run
    at understood ⊢
  have asks (unseen : ¬ CountsAsShown run.log) (usable : ¬ WasClosed run.log) :
      run.state.askShown? = some (.preview (create editor extensionRoot id document).document) := by
    rw [← understood.visible] at unseen
    rw [← understood.disposed] at usable
    simp [askShown?, ask?, unseen, usable, understood.alike.document]
  refine ⟨understood.visible, fun world => rfl, ?_, ?_, ?_⟩
  · intro settled world worldThen reply
    rw [← understood.visible, ← understood.disposed] at settled
    apply log_afterShow_of_none understood.numbered
    rcases settled with seen | closed
    · simp [askShown?, seen]
    · simp [askShown?, ask?, closed]
  · intro unseen usable world worldThen reply listing read
    rw [log_afterShow_of_some (asks unseen usable), read]
    simp [receive, understood.alike.web, Except.map]
  · intro unseen usable world worldThen reply cause read
    rw [log_afterShow_of_some (asks unseen usable), read]
    simp [receive, Except.map]

end Preview.Panel

end LanguageClient
