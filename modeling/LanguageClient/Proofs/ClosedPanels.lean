import LanguageClient.Proofs.PanelPages

/-!
# Closed panels

A panel that is closed stays closed and asks for no further page. The page that it had asked for
before it was closed is not called off: `closed_panel_renders_iff` shows that a closed panel is
rendered exactly when such a page still comes.
-/

namespace LanguageClient.Client

/-- A panel is known and closed. -/
def IsClosed (client : Client) (id : Nat) : Prop :=
  ∃ panel, client.panels.get? id = some panel ∧ panel.disposed = true

instance (client : Client) (id : Nat) : Decidable (client.IsClosed id) :=
  decidable_of_iff ((client.panels.get? id).any Preview.Panel.disposed = true)
    (by simp [IsClosed, Option.any_eq_true])

/-- All listed panels of a run are closed when the client is deactivated. -/
theorem isClosed_deactivate {run : ClientRun} (sound : Sound run) (world : Surroundings)
    {id : Nat} (listed : id ∈ run.state.listed) :
    (run.state.issue world .deactivate).state.IsClosed id := by
  obtain ⟨panel, found⟩ := sound.listed id listed
  refine ⟨panel.dispose, ?_, rfl⟩
  simp only [issue, done, deactivate]
  rw [get?_foldl_dispose, if_pos listed, found]
  rfl

/-- What a run keeps about a panel that an earlier run had closed: it is closed, and a page that is
awaited for it was awaited then, by the report that it is shown. -/
structure StaysClosed (earlier later : ClientRun) (id : Nat) : Prop where
  /-- The panel is closed. -/
  closed : later.state.IsClosed id
  /-- No later question is for its page. -/
  asked : ∀ number asked, later.waiting.get? number = some asked →
    asked.pending.panel? = some id →
      earlier.waiting.get? number = some asked ∧ asked.pending = .page id

/-- A closed panel awaits no first page, since only a panel that is listed can be closed. -/
theorem staysClosed_self {run : ClientRun} (sound : Sound run) {id : Nat}
    (closed : run.state.IsClosed id) : StaysClosed run run id := by
  refine ⟨closed, ?_⟩
  intro number asked isOpen awaited
  refine ⟨isOpen, ?_⟩
  generalize waits : asked.pending = pending at awaited
  cases pending with
  | firstPage other =>
    obtain rfl := Option.some.inj awaited
    obtain ⟨panel, found, shut⟩ := closed
    have usable := (sound.first number asked other isOpen waits).2 panel found
    rw [shut] at usable
    cases usable
  | page other =>
    obtain rfl := Option.some.inj awaited
    rfl
  | _ => cases awaited

/-- A closed panel stays closed and asks for no page when an operation begins. -/
theorem staysClosed_began {earlier later : ClientRun} {id : Nat} (sound : Sound later)
    (kept : StaysClosed earlier later id) (world : Surroundings) (operation : Operation) :
    StaysClosed earlier (later.began world operation (later.state.issue world operation)) id := by
  obtain ⟨panel, found, shut⟩ := kept.closed
  constructor
  · obtain ⟨next, there, becomes⟩ := known_issue sound world operation found
    exact ⟨next, there, becomes.closed shut⟩
  · intro number asked isOpen awaited
    rcases Run.waiting_began later isOpen with before | ⟨-, -, outcome⟩
    · exact kept.asked number asked before awaited
    · obtain ⟨-, -, other, same, -, usable, -⟩ :=
        asksPage_of_issue sound world found outcome awaited
      rw [found] at same
      cases same
      rw [shut] at usable
      cases usable

/-- A closed panel stays closed when an answer arrives. -/
theorem staysClosed_ended {earlier later : ClientRun} {id : Nat}
    (kept : StaysClosed earlier later id) (world : Surroundings) (number : Nat)
    (asked : Asked Operation Pending) (reply : Except LspError Json) :
    StaysClosed earlier (later.ended world asked.operation number reply
      (later.state.arrive world asked.pending reply)) id := by
  obtain ⟨panel, found, shut⟩ := kept.closed
  constructor
  · obtain ⟨next, there, becomes⟩ := known_arrive world asked.pending reply found
    exact ⟨next, there, becomes.closed shut⟩
  · intro other again isOpen awaited
    exact kept.asked other again (Run.waiting_ended later isOpen).2 awaited

/-- An answer renders a closed panel exactly when it brings a page that was asked for before the
panel was closed. -/
theorem renders_ofArrival_iff {earlier later : ClientRun} {id number : Nat} (steady : Steady later)
    (kept : StaysClosed earlier later id) (world : Surroundings)
    {asked : Asked Operation Pending} (isOpen : later.waiting.get? number = some asked)
    (reply : Except LspError Json) :
    Happening.Renders id (.ofArrival world asked.operation number reply
        (later.state.arrive world asked.pending reply)) ↔
      BringsPage earlier id (.ofArrival world asked.operation number reply
        (later.state.arrive world asked.pending reply)) := by
  have own := pending_eq_page_iff (awaits_of_honest steady.honest isOpen) id
  refine (renders_arrive steady.sound world isOpen reply id).trans ⟨?_, ?_⟩
  · rintro ⟨awaited, listing, read⟩
    obtain ⟨before, page⟩ := kept.asked number asked isOpen awaited
    have shown := own.mp page
    exact ⟨number, reply, asked, listing, before, shown,
      congrArg (Cause.answered · number reply) shown, read⟩
  · rintro ⟨other, answer, again, listing, -, -, cause, read⟩
    obtain ⟨shown, -, rfl⟩ := Cause.answered.inj cause
    have page := own.mpr shown
    exact ⟨by rw [page]; rfl, listing, read⟩

/-- Once a panel of a run is closed, the editor is told to render it exactly by those answers that
bring a page that was asked for before. So it is never rendered again if no such answer comes, and
only then. -/
theorem closed_panel_renders_iff (settings : Settings) (events more : List (Event Operation))
    (id : Nat) (closed : (run settings events).state.IsClosed id) :
    (∀ happening ∈ (run settings events).thereafter machine more,
        happening.Renders id ↔ BringsPage (run settings events) id happening) ∧
      ((∀ happening ∈ (run settings events).thereafter machine more,
          ¬ happening.Renders id) ↔
        ∀ happening ∈ (run settings events).thereafter machine more,
          ¬ BringsPage (run settings events) id happening) := by
  have each : ∀ happening ∈ (run settings events).thereafter machine more,
      happening.Renders id ↔ BringsPage (run settings events) id happening := by
    have steady := steady_run settings events
    have all := Run.follow_induction machine (run settings events)
      Steady (motive := fun later fresh => StaysClosed (run settings events) later id ∧
        ∀ happening ∈ fresh, happening.Renders id ↔ BringsPage (run settings events) id happening)
      steady_step steady ⟨staysClosed_self steady.sound closed, by simp⟩ ?issued ?answered more
    · exact all.2
    case issued =>
      intro later fresh world operation fine ⟨kept, held⟩
      refine ⟨staysClosed_began fine.sound kept world operation,
        List.forall_mem_append.mpr ⟨held, List.forall_mem_singleton.mpr ?_⟩⟩
      refine iff_of_false (not_renders_ofIssue world later.state operation id) ?_
      rintro ⟨number, reply, asked, listing, -, -, cause, -⟩
      rw [Happening.cause_ofIssue] at cause
      cases cause
    case answered =>
      intro later fresh world number reply asked fine ⟨kept, held⟩ isOpen
      refine ⟨staysClosed_ended kept world number asked reply,
        List.forall_mem_append.mpr ⟨held, List.forall_mem_singleton.mpr ?_⟩⟩
      exact renders_ofArrival_iff fine kept world isOpen reply
  exact ⟨each, forall₂_congr fun happening member => not_congr (each happening member)⟩

/-- Surroundings in which there is one file. -/
def desk : Surroundings :=
  { Surroundings.quiet with
    disk := (Disk.bare []).install (Path.ofString "/a.rc") (.file []) }

/-- An answer that lists one fragment in one line. -/
def listingOf (fragment : String) : Except LspError Json :=
  .ok (.obj [("irs", .arr [.arr [.str fragment]])])

/-- A panel is opened and hidden, is shown again, and is closed while its page is awaited. -/
def closedWhileAsking : List (Event Operation) := [
  .issue desk (.command (.startPreview (Path.ofString "/a.rc"))),
  .arrive desk 0 (listingOf "x"),
  .issue desk (.showPreview 1 false),
  .issue desk (.showPreview 1 true),
  .issue desk (.closePreview 1)]

/-- The page that comes late is one that was asked for before the panel was closed. -/
theorem closed_panel_renders_iff_late :
    (run .standard closedWhileAsking).state.IsClosed 1 ∧
      ∃ happening ∈ (run .standard closedWhileAsking).thereafter machine
          [.arrive desk 3 (listingOf "y")],
        BringsPage (run .standard closedWhileAsking) 1 happening := by
  have closed : (run .standard closedWhileAsking).state.IsClosed 1 := by decide
  refine ⟨closed, ?_⟩
  have rendered : ∃ happening ∈ (run .standard closedWhileAsking).thereafter machine
      [.arrive desk 3 (listingOf "y")],
      happening.Renders 1 := by decide
  obtain ⟨happening, member, renders⟩ := rendered
  have answers := (closed_panel_renders_iff .standard closedWhileAsking
    [.arrive desk 3 (listingOf "y")] 1 closed).1
  exact ⟨happening, member, (answers happening member).mp renders⟩

/-- A closed panel is not out of reach: the page that comes late is rendered. -/
theorem closed_panel_rendered :
    ¬ ∀ (settings : Settings) (events more : List (Event Operation)) (id : Nat),
      (run settings events).state.IsClosed id →
        ∀ happening ∈ (run settings events).thereafter machine more,
          ¬ happening.Renders id := by
  intro never
  have silent := never .standard closedWhileAsking [.arrive desk 3 (listingOf "y")] 1 (by decide)
  revert silent
  decide

end LanguageClient.Client
