import LanguageClient.Proofs.ClosedPanels

/-!
# Panels that are shown again

A panel that was hidden asks for its page when it is shown again, unless a page that was asked for
before the panel was hidden has come in the meantime: such a page makes the panel count as shown
although it is not. `shown_again_asks_iff` gives the exact condition.
-/

namespace LanguageClient

/-- The panel that was reported to be shown or hidden. -/
def Happening.reported? (happening : ClientHappening) : Option Nat :=
  match happening.cause with
  | .issued (.showPreview id _) => some id
  | _ => none

namespace Client

variable {id : Nat}

/-- A listed panel stays in the list until it is closed. -/
theorem listed_issue (world : Surroundings) {client : Client} (operation : Operation)
    (listed : id ∈ client.listed) :
    id ∈ (client.issue world operation).state.listed ∨
      ∀ panel, (client.issue world operation).state.panels.get? id = some panel →
        panel.disposed = true := by
  have how := panelIssue world client operation
  generalize client.issue world operation = turn at how ⊢
  cases how with
  | aside panels same next silent idle =>
    left
    rw [same]
    exact listed
  | closed other there =>
    by_cases closed : other = id
    · subst closed
      right
      intro panel found
      simp only [done, changePanel, Table.get?_modify, ↓reduceIte, Option.map_eq_some_iff] at found
      obtain ⟨before, -, rfl⟩ := found
      rfl
    · left
      exact (List.mem_erase_of_ne (Ne.symm closed)).mpr listed
  | _ => exact .inl listed

/-- A listed panel stays in the list when an answer arrives. -/
theorem listed_arrive (world : Surroundings) {client : Client} (pending : Pending)
    (reply : Except LspError Json) (listed : id ∈ client.listed) :
    id ∈ (client.arrive world pending reply).state.listed := by
  have how := panelArrival world client pending reply
  generalize client.arrive world pending reply = turn at how ⊢
  cases how with
  | aside panels same next silent useless =>
    rw [same]
    exact listed
  | first other panel listing _ found read => exact List.mem_append_left _ listed
  | again other panel listing _ found read => exact listed

/-- After an answer a panel counts as shown if it did before, or if the answer is the page that
was asked for when the panel was shown. -/
theorem visible_arrive (world : Surroundings) {client : Client} {pending : Pending}
    {reply : Except LspError Json} {panel later : Preview.Panel}
    (found : client.panels.get? id = some panel)
    (after : (client.arrive world pending reply).state.panels.get? id = some later) :
    later.visible = true ↔ panel.visible = true ∨
      pending = .page id ∧ ∃ listing, Preview.Listing.form.ofReply reply = .ok listing := by
  have how := panelArrival world client pending reply
  generalize client.arrive world pending reply = turn at how after
  cases how with
  | aside panels listed next silent useless =>
    rw [panels, found] at after
    cases after
    refine ⟨.inl, ?_⟩
    rintro (seen | ⟨rfl, listing, read⟩)
    · exact seen
    · exact absurd read (useless id panel listing rfl found)
  | first other rendered listing _ there read =>
    rw [found] at after
    cases after
    simp
  | again other rendered listing _ there read =>
    by_cases same : other = id
    · subst same
      simp only [changePanel, Table.get?_modify, ↓reduceIte, found, Option.map_some,
        Option.some.injEq] at after
      subst after
      simp [Preview.Panel.shown, read]
    · simp only [changePanel, Table.get?_modify, same, ↓reduceIte, found] at after
      cases after
      simp [same]

/-- A listed panel that is not closed asks for its page when it is shown, unless it counts as shown
already. -/
theorem request_showPreview (world : Surroundings) {run : ClientRun} {panel : Preview.Panel}
    (listed : id ∈ run.state.listed) (found : run.state.panels.get? id = some panel)
    (usable : panel.disposed = false) :
    (run.step machine (.issue world (.showPreview id true))).log.getLast?.bind Happening.request =
      if panel.visible then none else some (.preview panel.document) := by
  have ask : panel.askShown? = if panel.visible then none else some (.preview panel.document) := by
    simp [Preview.Panel.askShown?, Preview.Panel.ask?, usable]
  cases seen : panel.visible <;>
    simp [Run.step, Run.began, machine, issue, showPreview, listed, found, ask, seen, done, waits,
      Happening.ofIssue]

/-- The run after a panel is reported to be hidden. -/
def afterHide (run : ClientRun) (world : Surroundings) (id : Nat) : ClientRun :=
  run.step machine (.issue world (.showPreview id false))

/-- What a run keeps about a panel since it was hidden, as long as no other report on it comes: it
counts as shown only if a page has come that was asked for before, it is in the list or closed,
and a page that is awaited since it was shown was awaited before. -/
structure StaysHidden (hidden later : ClientRun) (fresh : List ClientHappening) (id : Nat) :
    Prop where
  /-- The panel counts as shown exactly if a page has come for it since. -/
  panel : ∃ panel, later.state.panels.get? id = some panel ∧
    (panel.visible = true ↔ ∃ happening ∈ fresh, BringsPage hidden id happening) ∧
    (panel.disposed = false → id ∈ later.state.listed)
  /-- No later question is for its page. -/
  asked : ∀ number asked, later.waiting.get? number = some asked →
    asked.pending = .page id → hidden.waiting.get? number = some asked

/-- A listed panel is hidden after the report that it is. -/
theorem staysHidden_afterHide {run : ClientRun} (sound : Sound run) (world : Surroundings)
    (listed : id ∈ run.state.listed) :
    StaysHidden (afterHide run world id) (afterHide run world id) [] id := by
  obtain ⟨panel, found⟩ := sound.listed id listed
  have after : (afterHide run world id).state = run.state.changePanel id .hide := by
    simp [afterHide, Run.step, Run.began, machine, issue, showPreview, listed, found, done]
  refine ⟨⟨panel.hide, ?_, ?_, ?_⟩, fun number asked isOpen page => isOpen⟩
  · simp [after, changePanel, found]
  · simp [Preview.Panel.hide]
  · intro usable
    rw [after]
    exact listed

/-- An operation that is no report on a hidden panel leaves it hidden. -/
theorem staysHidden_began {hidden later : ClientRun} {fresh : List ClientHappening}
    (sound : Sound later) (kept : StaysHidden hidden later fresh id) (world : Surroundings)
    {operation : Operation} (other : ∀ visible, operation ≠ .showPreview id visible) :
    StaysHidden hidden (later.began world operation (later.state.issue world operation))
      (fresh ++ [.ofIssue world operation (later.state.issue world operation)]) id := by
  obtain ⟨panel, found, seen, inList⟩ := kept.panel
  obtain ⟨next, there, becomes⟩ := known_issue sound world operation found
  refine ⟨⟨next, there, ?_, ?_⟩, ?_⟩
  · have unchanged := becomes.visible (by simpa using other)
    simp [unchanged, seen, BringsPage]
  · intro usable
    rcases listed_issue world operation (inList (becomes.usable usable)) with still | closed
    · exact still
    · rw [closed next there] at usable
      cases usable
  · intro number asked isOpen page
    rcases Run.waiting_began later isOpen with before | ⟨-, -, outcome⟩
    · exact kept.asked number asked before page
    · have asks := asksPage_of_issue sound world found outcome (by rw [page]; rfl)
      exact absurd asks.1 (other true)

/-- After an answer a hidden panel counts as shown only if a page has come that was asked for
before it was hidden. -/
theorem staysHidden_ended {hidden later : ClientRun} {fresh : List ClientHappening}
    (honest : later.Honest machine) (kept : StaysHidden hidden later fresh id)
    (world : Surroundings) {number : Nat} {asked : Asked Operation Pending}
    (isOpen : later.waiting.get? number = some asked) (reply : Except LspError Json) :
    StaysHidden hidden
      (later.ended world asked.operation number reply
        (later.state.arrive world asked.pending reply))
      (fresh ++ [.ofArrival world asked.operation number reply
        (later.state.arrive world asked.pending reply)]) id := by
  obtain ⟨panel, found, seen, inList⟩ := kept.panel
  obtain ⟨next, there, becomes⟩ := known_arrive world asked.pending reply found
  have own := pending_eq_page_iff (awaits_of_honest honest isOpen) id
  have brings : BringsPage hidden id (.ofArrival world asked.operation number reply
      (later.state.arrive world asked.pending reply)) ↔
      asked.pending = .page id ∧ ∃ listing, Preview.Listing.form.ofReply reply = .ok listing := by
    constructor
    · rintro ⟨other, answer, again, listing, -, -, cause, read⟩
      obtain ⟨shown, -, rfl⟩ := Cause.answered.inj cause
      exact ⟨own.mpr shown, listing, read⟩
    · rintro ⟨page, listing, read⟩
      have shown := own.mp page
      exact ⟨number, reply, asked, listing, kept.asked number asked isOpen page, shown,
        congrArg (Cause.answered · number reply) shown, read⟩
  refine ⟨⟨next, there, ?_, ?_⟩, ?_⟩
  · rw [visible_arrive world found there, seen, ← brings]
    simp [or_and_right, exists_or]
  · intro usable
    exact listed_arrive world asked.pending reply (inList (becomes.usable usable))
  · intro other again isOpenToo page
    exact kept.asked other again (Run.waiting_ended later isOpenToo).2 page

/-- A panel that was hidden stays hidden in this sense while other events follow. -/
theorem staysHidden_follow {run : ClientRun} (steady : Steady run)
    (world : Surroundings) (listed : id ∈ run.state.listed) (more : List (Event Operation))
    (unreported : ∀ happening ∈ (afterHide run world id).thereafter machine more,
      happening.reported? ≠ some id) :
    StaysHidden (afterHide run world id) ((afterHide run world id).follow machine more)
      ((afterHide run world id).thereafter machine more) id := by
  refine Run.follow_induction machine (afterHide run world id)
    Steady (motive := fun later fresh =>
      (∀ happening ∈ fresh, happening.reported? ≠ some id) →
        StaysHidden (afterHide run world id) later fresh id)
    steady_step (steady_step _ _ steady)
      (fun _ => staysHidden_afterHide steady.sound world listed) ?issued ?answered more unreported
  case issued =>
    intro later fresh around operation fine held silent
    have other (visible : Bool) : operation ≠ .showPreview id visible := by
      rintro rfl
      exact silent _ (List.mem_append_right _ (List.mem_singleton_self _))
        (by simp [Happening.reported?])
    exact staysHidden_began fine.sound
      (held fun happening member => silent happening (List.mem_append_left _ member)) around other
  case answered =>
    intro later fresh around number reply asked fine held isOpen silent
    exact staysHidden_ended fine.honest
      (held fun happening member => silent happening (List.mem_append_left _ member)) around isOpen
      reply

/-- A panel that was hidden asks for its page when it is shown again exactly when no page has come
in the meantime that was asked for before it was hidden: it counts as shown since such a page
came. -/
theorem shown_again_asks_iff (settings : Settings) (events more : List (Event Operation))
    (world worldThen : Surroundings) (id : Nat)
    (listed : id ∈ (run settings events).state.listed)
    (unreported : ∀ happening ∈ (afterHide (run settings events) world id).thereafter machine more,
      happening.reported? ≠ some id)
    (usable :
      ¬ ((afterHide (run settings events) world id).follow machine more).state.IsClosed id) :
    ∃ panel,
      ((afterHide (run settings events) world id).follow machine more).state.panels.get? id =
        some panel ∧
      ((((afterHide (run settings events) world id).follow machine more).step machine
          (.issue worldThen (.showPreview id true))).log.getLast?.bind Happening.request =
            some (.preview panel.document) ↔
        ∀ happening ∈ (afterHide (run settings events) world id).thereafter machine more,
          ¬ BringsPage (afterHide (run settings events) world id) id happening) ∧
      (panel.visible = true ↔
        ∃ happening ∈ (afterHide (run settings events) world id).thereafter machine more,
          BringsPage (afterHide (run settings events) world id) id happening) := by
  have kept := staysHidden_follow (steady_run settings events) world listed more unreported
  obtain ⟨panel, found, seen, inList⟩ := kept.panel
  have opened : panel.disposed = false :=
    Bool.eq_false_iff.mpr fun shut => usable ⟨panel, found, shut⟩
  refine ⟨panel, found, ?_, seen⟩
  rw [request_showPreview worldThen (inList opened) found opened]
  cases shown : panel.visible with
  | true =>
    rw [shown] at seen
    simpa using seen
  | false =>
    rw [shown] at seen
    simpa using seen

/-- A panel is opened and hidden, and is shown again. -/
def shownAgain : List (Event Operation) := [
  .issue desk (.command (.startPreview (Path.ofString "/a.rc"))),
  .arrive desk 0 (listingOf "x"),
  .issue desk (.showPreview 1 false),
  .issue desk (.showPreview 1 true)]

/-- The panel is hidden while its page is awaited; the page makes it count as shown. -/
theorem shown_again_asks_iff_late :
    1 ∈ (run .standard shownAgain).state.listed ∧
      ∃ happening ∈ (afterHide (run .standard shownAgain) desk 1).thereafter machine
          [.arrive desk 3 (listingOf "y")],
        BringsPage (afterHide (run .standard shownAgain) desk 1) 1 happening := by
  have listed : 1 ∈ (run .standard shownAgain).state.listed := by decide
  refine ⟨listed, ?_⟩
  obtain ⟨panel, found, -, seen⟩ := shown_again_asks_iff .standard shownAgain
    [.arrive desk 3 (listingOf "y")] desk desk 1 listed (by decide) (by decide)
  have visible : (((afterHide (run .standard shownAgain) desk 1).follow machine
      [.arrive desk 3 (listingOf "y")]).state.panels.get? 1).all Preview.Panel.visible = true := by
    decide
  rw [found] at visible
  exact seen.mp visible

/-- A panel that is shown again does not always ask for its page. -/
theorem shown_again_unasked :
    ¬ ∀ (settings : Settings) (events more : List (Event Operation))
        (world worldThen : Surroundings) (id : Nat),
      id ∈ (run settings events).state.listed →
      (∀ happening ∈ (afterHide (run settings events) world id).thereafter machine more,
        happening.reported? ≠ some id) →
      ¬ ((afterHide (run settings events) world id).follow machine more).state.IsClosed id →
      ((((afterHide (run settings events) world id).follow machine more).step machine
        (.issue worldThen (.showPreview id true))).log.getLast?.bind Happening.request).isSome := by
  intro always
  have asks := always .standard shownAgain [.arrive desk 3 (listingOf "y")] desk desk 1 (by decide)
    (by decide) (by decide)
  revert asks
  decide

end Client

end LanguageClient
