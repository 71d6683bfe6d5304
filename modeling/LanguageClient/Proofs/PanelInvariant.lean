import LanguageClient.Proofs.Panels

/-!
# What runs keep about panels

A panel is known under its own number, only panels that are known are listed, and a panel whose
first page is awaited is neither listed nor closed. `sound_run` shows that this holds in every run
of the client.
-/

namespace LanguageClient

/-- What can become of a panel in a step: it keeps its place and its document, it stays closed
once it is closed, it is closed only if it is listed, and whether it is shown changes only in a
step that is about that. -/
structure Preview.Panel.Becomes (listed now : Prop) (panel later : Preview.Panel) : Prop where
  /-- It keeps its place. -/
  web : later.web = panel.web
  /-- It keeps its document. -/
  document : later.document = panel.document
  /-- It stays closed once it is closed. -/
  closed : panel.disposed = true → later.disposed = true
  /-- Only a listed panel is closed. -/
  unlisted : ¬ listed → later.disposed = panel.disposed
  /-- Only a step about that shows or hides it. -/
  visible : ¬ now → later.visible = panel.visible

namespace Preview.Panel.Becomes

variable {listed now : Prop}

/-- A panel may stay as it is. -/
theorem same (panel : Preview.Panel) : panel.Becomes listed now panel :=
  ⟨rfl, rfl, id, fun _ => rfl, fun _ => rfl⟩

/-- A panel may be hidden in a step that is about that. -/
theorem hide (about : now) (panel : Preview.Panel) : panel.Becomes listed now panel.hide :=
  ⟨rfl, rfl, id, fun _ => rfl, fun other => absurd about other⟩

/-- A panel may be shown in a step that is about that. -/
theorem shown (about : now) (panel : Preview.Panel) : panel.Becomes listed now panel.shown :=
  ⟨rfl, rfl, id, fun _ => rfl, fun other => absurd about other⟩

/-- A listed panel may be closed. -/
theorem dispose (member : listed) (panel : Preview.Panel) :
    panel.Becomes listed now panel.dispose :=
  ⟨rfl, rfl, fun _ => rfl, fun absent => absurd member absent, fun _ => rfl⟩

/-- A panel that is not closed after a step was not closed before. -/
theorem usable {panel later : Preview.Panel} (becomes : panel.Becomes listed now later)
    (openLater : later.disposed = false) : panel.disposed = false := by
  cases shut : panel.disposed with
  | false => rfl
  | true =>
    rw [becomes.closed shut] at openLater
    cases openLater

end Preview.Panel.Becomes

namespace Client

/-- A step that makes no panel and lists none; it is about whether some panels are shown. -/
structure Tends (about : Nat → Prop) (before after : Client) : Prop where
  /-- No panel is made. -/
  next : after.nextPanel = before.nextPanel
  /-- No panel is listed. -/
  listed : ∀ id ∈ after.listed, id ∈ before.listed
  /-- Unknown panels stay unknown. -/
  unknown : ∀ id, before.panels.get? id = none → after.panels.get? id = none
  /-- Known panels change as panels may. -/
  known : ∀ id panel, before.panels.get? id = some panel →
    ∃ later, after.panels.get? id = some later ∧
      panel.Becomes (id ∈ before.listed) (about id) later

/-- A step tends to the panels if it leaves all of them as they are. -/
theorem tends_of_eq {about : Nat → Prop} {before after : Client}
    (panels : after.panels = before.panels) (listed : after.listed = before.listed)
    (next : after.nextPanel = before.nextPanel) : Tends about before after := by
  refine ⟨next, ?_, ?_, ?_⟩
  · intro id member
    rw [listed] at member
    exact member
  · intro id absent
    rw [panels]
    exact absent
  · intro id panel found
    rw [panels]
    exact ⟨panel, found, .same panel⟩

/-- A step tends to the panels if it changes one as panels may change. -/
theorem tends_changePanel (about : Nat → Prop) (client : Client) (id : Nat)
    {change : Preview.Panel → Preview.Panel}
    (changed : ∀ panel : Preview.Panel,
      panel.Becomes (id ∈ client.listed) (about id) (change panel)) :
    Tends about client (client.changePanel id change) := by
  refine ⟨rfl, fun _ member => member, ?_, ?_⟩
  · intro other absent
    simp [changePanel, absent]
  · intro other panel found
    by_cases same : id = other
    · subst same
      exact ⟨change panel, by simp [changePanel, found], changed panel⟩
    · exact ⟨panel, by simp [changePanel, same, found], .same panel⟩

/-- The panels after all of some panels are closed. -/
theorem get?_foldl_dispose (ids : List Nat) (panels : Table Nat Preview.Panel) (id : Nat) :
    (ids.foldl (fun panels id => panels.modify id .dispose) panels).get? id =
      if id ∈ ids then (panels.get? id).map .dispose else panels.get? id := by
  induction ids generalizing panels with
  | nil => simp
  | cons first rest ih =>
    rw [List.foldl_cons, ih, Table.get?_modify]
    by_cases same : first = id
    · subst same
      cases panels.get? first <;> simp [Preview.Panel.dispose]
    · simp [same, Ne.symm same]

/-- Deactivation tends to the panels: it closes the listed ones. -/
theorem tends_deactivate {about : Nat → Prop} (client : Client) :
    Tends about client client.deactivate := by
  have after (id : Nat) : client.deactivate.panels.get? id =
      if id ∈ client.listed then (client.panels.get? id).map .dispose
      else client.panels.get? id := get?_foldl_dispose client.listed client.panels id
  refine ⟨rfl, fun _ member => member, ?_, ?_⟩
  · intro id absent
    simp [after, absent]
  · intro id panel found
    by_cases listed : id ∈ client.listed
    · exact ⟨panel.dispose, by simp [after, listed, found], .dispose listed panel⟩
    · exact ⟨panel, by simp [after, listed, found], .same panel⟩

/-- A question for the page of a known panel: it is shown while it is listed, hidden and usable. -/
def AsksPage (client : Client) (operation : Operation) (request : Request) (id : Nat) : Prop :=
  operation = .showPreview id true ∧ id ∈ client.listed ∧
    ∃ panel, client.panels.get? id = some panel ∧ panel.visible = false ∧
      panel.disposed = false ∧ request = .preview panel.document

/-- An operation makes a panel and asks for its first page, or it makes none and asks at most for
the page of a known panel. -/
theorem issue_panels (world : Surroundings) (client : Client) (operation : Operation) :
    (∃ document, client.issue world operation = client.opened world document) ∨
      Tends (fun id => ∃ visible, operation = .showPreview id visible) client
          (client.issue world operation).state ∧
        ∀ request pending id, (client.issue world operation).outcome = .waits request pending →
          pending.panel? = some id →
          pending = .page id ∧ client.AsksPage operation request id := by
  have how := panelIssue world client operation
  generalize client.issue world operation = turn at how ⊢
  cases how with
  | aside panels listed next silent idle =>
    refine .inr ⟨tends_of_eq panels listed next, ?_⟩
    intro request pending id outcome awaited
    rw [idle request pending outcome] at awaited
    cases awaited
  | opened path document found => exact .inl ⟨document, rfl⟩
  | hidden id panel listed found =>
    refine .inr ⟨tends_changePanel _ client id (.hide ⟨false, rfl⟩), ?_⟩
    intro request pending other outcome
    cases outcome
  | asked id panel listed found unseen usable =>
    refine .inr ⟨tends_of_eq rfl rfl rfl, ?_⟩
    intro request pending other outcome awaited
    obtain ⟨rfl, rfl⟩ := Next.waits.inj outcome
    obtain rfl := Option.some.inj awaited
    exact ⟨rfl, rfl, listed, panel, found, unseen, usable, rfl⟩
  | shown id panel listed found seen =>
    refine .inr ⟨tends_changePanel _ client id (.shown ⟨true, rfl⟩), ?_⟩
    intro request pending other outcome
    cases outcome
  | closed id listed =>
    have tends := tends_changePanel (fun other => ∃ visible,
      Operation.closePreview id = .showPreview other visible) client id (.dispose listed)
    refine .inr ⟨⟨tends.next, fun other member => List.mem_of_mem_erase member, tends.unknown,
      tends.known⟩, ?_⟩
    intro request pending other outcome
    cases outcome
  | deactivated =>
    refine .inr ⟨tends_deactivate client, ?_⟩
    intro request pending other outcome
    cases outcome

/-- What every run of the client keeps about panels. -/
structure Sound (run : ClientRun) : Prop where
  /-- A panel is known under its own number, which was given out before. -/
  made : ∀ id panel, run.state.panels.get? id = some panel →
    id < run.state.nextPanel ∧ panel.web.id = id
  /-- The listed panels are known. -/
  listed : ∀ id ∈ run.state.listed, ∃ panel, run.state.panels.get? id = some panel
  /-- A panel whose page is awaited is known. -/
  awaited : ∀ number asked id, run.waiting.get? number = some asked →
    asked.pending.panel? = some id → ∃ panel, run.state.panels.get? id = some panel
  /-- A panel whose first page is awaited is neither listed nor closed. -/
  first : ∀ number asked id, run.waiting.get? number = some asked →
    asked.pending = .firstPage id → id ∉ run.state.listed ∧
      ∀ panel, run.state.panels.get? id = some panel → panel.disposed = false
  /-- The first page of a panel is asked for once. -/
  once : ∀ number other asked again id, run.waiting.get? number = some asked →
    run.waiting.get? other = some again → asked.pending = .firstPage id →
      again.pending = .firstPage id → number = other

/-- A step that makes no panel and lists none, and asks for no page but that of a known panel,
keeps a run sound. -/
theorem sound_of_tends {run after : ClientRun} {about : Nat → Prop} (sound : Sound run)
    (tends : Tends about run.state after.state)
    (waiting : ∀ number asked, after.waiting.get? number = some asked →
      run.waiting.get? number = some asked ∨
        ∀ id, asked.pending.panel? = some id → asked.pending = .page id ∧
          ∃ panel, run.state.panels.get? id = some panel) : Sound after := by
  have still (id : Nat) (known : ∃ panel, run.state.panels.get? id = some panel) :
      ∃ panel, after.state.panels.get? id = some panel := by
    obtain ⟨panel, found⟩ := known
    obtain ⟨later, there, -⟩ := tends.known id panel found
    exact ⟨later, there⟩
  have old (number : Nat) (asked : Asked Operation Pending) (id : Nat)
      (found : after.waiting.get? number = some asked) (first : asked.pending = .firstPage id) :
      run.waiting.get? number = some asked := by
    rcases waiting number asked found with before | page
    · exact before
    · have wrong := (page id (by rw [first]; rfl)).1
      rw [first] at wrong
      cases wrong
  constructor
  · intro id panel found
    cases before : run.state.panels.get? id with
    | none =>
      rw [tends.unknown id before] at found
      cases found
    | some earlier =>
      obtain ⟨later, there, becomes⟩ := tends.known id earlier before
      rw [there] at found
      cases found
      rw [tends.next, becomes.web]
      exact sound.made id earlier before
  · intro id member
    exact still id (sound.listed id (tends.listed id member))
  · intro number asked id found awaited
    rcases waiting number asked found with before | page
    · exact still id (sound.awaited number asked id before awaited)
    · exact still id (page id awaited).2
  · intro number asked id found first
    have before := old number asked id found first
    obtain ⟨absent, usable⟩ := sound.first number asked id before first
    refine ⟨fun member => absent (tends.listed id member), ?_⟩
    intro panel there
    obtain ⟨earlier, known⟩ := sound.awaited number asked id before (by rw [first]; rfl)
    obtain ⟨later, same, becomes⟩ := tends.known id earlier known
    rw [same] at there
    cases there
    rw [becomes.unlisted absent]
    exact usable earlier known
  · intro number other asked again id found later first second
    exact sound.once number other asked again id (old number asked id found first)
      (old other again id later second) first second

/-- Nothing is known, listed or awaited under the number of the next panel. -/
theorem next_unknown {run : ClientRun} (sound : Sound run) :
    run.state.panels.get? run.state.nextPanel = none ∧ run.state.nextPanel ∉ run.state.listed ∧
      ∀ number asked, run.waiting.get? number = some asked →
        asked.pending.panel? ≠ some run.state.nextPanel := by
  have unknown (panel : Preview.Panel) :
      run.state.panels.get? run.state.nextPanel ≠ some panel := by
    intro found
    exact absurd (sound.made _ panel found).1 (Nat.lt_irrefl _)
  refine ⟨Option.eq_none_iff_forall_ne_some.mpr unknown, ?_, ?_⟩
  · intro member
    obtain ⟨panel, found⟩ := sound.listed _ member
    exact unknown panel found
  · intro number asked found awaited
    obtain ⟨panel, known⟩ := sound.awaited number asked _ found awaited
    exact unknown panel known

/-- The panel that is made next. -/
theorem get?_withPanel (client : Client) (panel : Preview.Panel) (id : Nat) :
    (client.withPanel panel).panels.get? id =
      if client.nextPanel = id then some panel else client.panels.get? id :=
  Table.get?_insert _ _ _ _

/-- A new panel under its own number keeps a run sound. -/
theorem sound_withPanel {run : ClientRun} (sound : Sound run) (panel : Preview.Panel)
    (own : panel.web.id = run.state.nextPanel) :
    Sound { run with state := run.state.withPanel panel } := by
  obtain ⟨unknown, -, unasked⟩ := next_unknown sound
  have known (id : Nat) (other : Preview.Panel)
      (found : (run.state.withPanel panel).panels.get? id = some other) :
      run.state.nextPanel = id ∧ panel = other ∨ run.state.panels.get? id = some other := by
    rw [get?_withPanel] at found
    split at found
    · rename_i same
      exact .inl ⟨same, Option.some.inj found⟩
    · exact .inr found
  have still (id : Nat) (there : ∃ other, run.state.panels.get? id = some other) :
      ∃ other, (run.state.withPanel panel).panels.get? id = some other := by
    rw [get?_withPanel]
    split
    · exact ⟨panel, rfl⟩
    · exact there
  refine ⟨?_, ?_, ?_, ?_, sound.once⟩
  · intro id other found
    rcases known id other found with ⟨rfl, rfl⟩ | before
    · exact ⟨Nat.lt_succ_self _, own⟩
    · exact ⟨Nat.lt_succ_of_lt (sound.made id other before).1, (sound.made id other before).2⟩
  · intro id member
    exact still id (sound.listed id member)
  · intro number asked id found awaited
    exact still id (sound.awaited number asked id found awaited)
  · intro number asked id found first
    refine ⟨(sound.first number asked id found first).1, ?_⟩
    intro other there
    rcases known id other there with ⟨rfl, -⟩ | before
    · exact absurd (by rw [first]; rfl) (unasked number asked found)
    · exact (sound.first number asked id found first).2 other before

/-- A question for the first page of a panel that is known and usable, but neither listed nor
awaited, keeps a run sound. -/
theorem sound_firstAsked {run : ClientRun} (sound : Sound run) {world : Surroundings}
    {operation : Operation} {request : Request} {id : Nat} {panel : Preview.Panel}
    (found : run.state.panels.get? id = some panel) (usable : panel.disposed = false)
    (unlisted : id ∉ run.state.listed)
    (unasked : ∀ number asked, run.waiting.get? number = some asked →
      asked.pending.panel? ≠ some id) :
    Sound (run.began world operation (run.state.waits request (.firstPage id))) := by
  refine ⟨sound.made, sound.listed, ?_, ?_, ?_⟩
  · intro number asked other isOpen awaited
    rcases Run.waiting_began run isOpen with before | ⟨-, -, outcome⟩
    · exact sound.awaited number asked other before awaited
    · obtain ⟨-, same⟩ := Next.waits.inj outcome
      rw [← same] at awaited
      obtain rfl := Option.some.inj awaited
      exact ⟨panel, found⟩
  · intro number asked other isOpen first
    rcases Run.waiting_began run isOpen with before | ⟨-, -, outcome⟩
    · exact sound.first number asked other before first
    · obtain ⟨-, same⟩ := Next.waits.inj outcome
      rw [← same] at first
      obtain rfl := Pending.firstPage.inj first
      refine ⟨unlisted, ?_⟩
      intro there known
      obtain rfl := Option.some.inj (found.symm.trans known)
      exact usable
  · intro number other asked again shared isOpen isOpenToo first second
    rcases Run.waiting_began run isOpen with before | ⟨here, -, outcome⟩ <;>
      rcases Run.waiting_began run isOpenToo with beforeToo | ⟨hereToo, -, outcomeToo⟩
    · exact sound.once number other asked again shared before beforeToo first second
    · have same := (Next.waits.inj outcomeToo).2.trans (second.trans first.symm)
      exact absurd (by rw [← same]; rfl) (unasked number asked before)
    · have same := (Next.waits.inj outcome).2.trans (first.trans second.symm)
      exact absurd (by rw [← same]; rfl) (unasked other again beforeToo)
    · rw [here, hereToo]

/-- An operation keeps a run sound. -/
theorem sound_began {run : ClientRun} (sound : Sound run) (world : Surroundings)
    (operation : Operation) :
    Sound (run.began world operation (run.state.issue world operation)) := by
  rcases issue_panels world run.state operation with ⟨document, made⟩ | ⟨tends, asks⟩
  · rw [made]
    obtain ⟨-, unlisted, unasked⟩ := next_unknown sound
    have fresh := sound_withPanel sound (run.state.newPanel world document) rfl
    have known : (run.state.withPanel (run.state.newPanel world document)).panels.get?
        run.state.nextPanel = some (run.state.newPanel world document) := by
      simp [get?_withPanel]
    exact sound_firstAsked fresh known rfl unlisted unasked
  · refine sound_of_tends sound tends ?_
    intro number asked isOpen
    rcases Run.waiting_began run isOpen with before | ⟨-, -, outcome⟩
    · exact .inl before
    · right
      intro id awaited
      obtain ⟨page, -, -, panel, found, -⟩ := asks _ _ id outcome awaited
      exact ⟨page, panel, found⟩

/-- An answer keeps a run sound. -/
theorem sound_ended {run : ClientRun} (sound : Sound run) (world : Surroundings) {number : Nat}
    {asked : Asked Operation Pending} (isOpen : run.waiting.get? number = some asked)
    (reply : Except LspError Json) :
    Sound (run.ended world asked.operation number reply
      (run.state.arrive world asked.pending reply)) := by
  have how := panelArrival world run.state asked.pending reply
  generalize run.state.arrive world asked.pending reply = turn at how ⊢
  have quiet (tends : Tends (fun id => asked.pending = .page id) run.state turn.state) :
      Sound (run.ended world asked.operation number reply turn) := by
    apply sound_of_tends sound tends
    intro other again found
    exact .inl (Run.waiting_ended run found).2
  generalize awaited : asked.pending = pending at how
  cases how with
  | aside panels listed next silent useless => exact quiet (tends_of_eq panels listed next)
  | first id panel listing _ found read =>
    refine ⟨sound.made, ?_, ?_, ?_, ?_⟩
    · intro other member
      rcases List.mem_append.mp member with before | new
      · exact sound.listed other before
      · obtain rfl := List.mem_singleton.mp new
        exact ⟨panel, found⟩
    · intro other again shared there page
      exact sound.awaited other again shared (Run.waiting_ended run there).2 page
    · intro other again shared there first
      obtain ⟨different, before⟩ := Run.waiting_ended run there
      obtain ⟨unlisted, usable⟩ := sound.first other again shared before first
      refine ⟨?_, usable⟩
      intro member
      rcases List.mem_append.mp member with listed | new
      · exact unlisted listed
      · obtain rfl := List.mem_singleton.mp new
        exact different (sound.once number other asked again shared isOpen before awaited first)
    · intro one other here there shared found foundToo first second
      exact sound.once one other here there shared (Run.waiting_ended run found).2
        (Run.waiting_ended run foundToo).2 first second
  | again id panel listing _ found read =>
    exact quiet (tends_changePanel _ run.state id (.shown awaited))

/-- A step keeps a run sound. -/
theorem sound_step (run : ClientRun) (event : Event Operation) (sound : Sound run) :
    Sound (run.step machine event) := by
  apply Run.step_keeps (motive := Sound) machine run event sound
  · exact sound_began sound
  · intro world number reply asked isOpen
    exact sound_ended sound world isOpen reply

/-- Every run of the client is sound. -/
theorem sound_run (settings : Settings) (events : List (Event Operation)) :
    Sound (run settings events) := by
  apply Run.follow_keeps (motive := Sound) machine _ sound_step
  refine ⟨?_, ?_, ?_, ?_, ?_⟩ <;> simp [Run.start, activate]

end Client

end LanguageClient
