import LanguageClient.Proofs.PanelInvariant

/-!
# Which answers bring a page

A panel is rendered by an answer to a question for its page that holds a listing, and by nothing
else: `renders_arrive` and `silent_issue` say so for every sound run. The other lemmas follow one
known panel through a step.
-/

namespace LanguageClient

/-- The editor was told to render a panel. -/
def Happening.Renders (id : Nat) (happening : ClientHappening) : Prop :=
  ∃ call ∈ happening.calls, call.rendered? = some id

instance (id : Nat) (happening : ClientHappening) : Decidable (happening.Renders id) :=
  inferInstanceAs (Decidable (∃ call ∈ happening.calls, call.rendered? = some id))

namespace Client

/-- What every run of the client keeps: it is sound, and only operations' own questions are open. -/
structure Steady (run : ClientRun) : Prop where
  /-- It is sound. -/
  sound : Sound run
  /-- It is honest. -/
  honest : run.Honest machine

/-- A step keeps a run steady. -/
theorem steady_step (run : ClientRun) (event : Event Operation) (steady : Steady run) :
    Steady (run.step machine event) :=
  ⟨sound_step run event steady.sound, Run.honest_step machine run event steady.honest⟩

/-- Every run is steady. -/
theorem steady_run (settings : Settings) (events : List (Event Operation)) :
    Steady (run settings events) :=
  ⟨sound_run settings events, honest_run settings events⟩

/-- An answer came, with a listing, to the question that an earlier run had left open when the
panel was shown. -/
def BringsPage (earlier : ClientRun) (id : Nat) (happening : ClientHappening) : Prop :=
  ∃ number reply asked listing, earlier.waiting.get? number = some asked ∧
    asked.operation = .showPreview id true ∧
    happening.cause = .answered (.showPreview id true) number reply ∧
    Preview.Listing.form.ofReply reply = .ok listing

/-- The page of a panel that is shown again is awaited by the report of that, and by no other
operation. -/
theorem pending_eq_page_iff {operation : Operation} {request : Request} {pending : Pending}
    (awaits : operation.Awaits request pending) (id : Nat) :
    pending = .page id ↔ operation = .showPreview id true := by
  cases awaits <;> simp

/-- An operation renders nothing before its question is answered. -/
theorem silent_issue (world : Surroundings) (client : Client) (operation : Operation) :
    ∀ call ∈ (client.issue world operation).calls, call.rendered? = none := by
  intro call member
  cases callsAtOnce client world operation member <;> rfl

/-- Nothing is rendered in a step that issues an operation. -/
theorem not_renders_ofIssue (world : Surroundings) (client : Client) (operation : Operation)
    (id : Nat) :
    ¬ Happening.Renders id (.ofIssue world operation (client.issue world operation)) := by
  rintro ⟨call, member, rendered⟩
  have same : (Happening.ofIssue world operation (client.issue world operation)).calls =
      (client.issue world operation).calls := by
    unfold Happening.ofIssue
    split <;> rfl
  rw [same] at member
  rw [silent_issue world client operation call member] at rendered
  cases rendered

/-- An answer renders a panel if the page of the panel was awaited and a listing has come, and
only then. -/
theorem renders_arrive {run : ClientRun} (sound : Sound run) (world : Surroundings) {number : Nat}
    {asked : Asked Operation Pending} (isOpen : run.waiting.get? number = some asked)
    (reply : Except LspError Json) (id : Nat) :
    (∃ call ∈ (run.state.arrive world asked.pending reply).calls, call.rendered? = some id) ↔
      asked.pending.panel? = some id ∧
        ∃ listing, Preview.Listing.form.ofReply reply = .ok listing := by
  have how := panelArrival world run.state asked.pending reply
  have known (other : Nat) (awaited : asked.pending.panel? = some other) :
      ∃ panel, run.state.panels.get? other = some panel :=
    sound.awaited number asked other isOpen awaited
  generalize run.state.arrive world asked.pending reply = turn at how ⊢
  generalize asked.pending = pending at how known ⊢
  -- the panel that is rendered has the number under which it is known
  have rendersOwn (other : Nat) (panel : Preview.Panel) (html : String)
      (found : run.state.panels.get? other = some panel) :
      (∃ call ∈ [EditorCall.render panel.web html], call.rendered? = some id) ↔
        other = id := by
    simp [EditorCall.rendered?, (sound.made other panel found).2]
  cases how with
  | aside panels listed next silent useless =>
    constructor
    · rintro ⟨call, member, rendered⟩
      rw [silent call member] at rendered
      cases rendered
    · rintro ⟨awaited, listing, read⟩
      obtain ⟨panel, found⟩ := known id awaited
      exact absurd read (useless id panel listing awaited found)
  | first other panel listing _ found read =>
    rw [rendersOwn other panel _ found]
    simp [Pending.panel?, read]
  | again other panel listing _ found read =>
    rw [rendersOwn other panel _ found]
    simp [Pending.panel?, read]

section
variable {run : ClientRun} (sound : Sound run) (world : Surroundings) {id : Nat}
  {panel : Preview.Panel}
include sound

/-- What becomes of a known panel when an operation begins. -/
theorem known_issue (operation : Operation) (found : run.state.panels.get? id = some panel) :
    ∃ later, (run.state.issue world operation).state.panels.get? id = some later ∧
      panel.Becomes (id ∈ run.state.listed) (∃ visible, operation = .showPreview id visible)
        later := by
  rcases issue_panels world run.state operation with ⟨document, made⟩ | ⟨tends, -⟩
  · have other : run.state.nextPanel ≠ id := by
      have below := (sound.made id panel found).1
      omega
    refine ⟨panel, ?_, .same panel⟩
    rw [made]
    simp [opened, waits, get?_withPanel, other, found]
  · exact tends.known id panel found

/-- A page of a known panel is asked for only when the panel is shown while it is hidden and
usable. -/
theorem asksPage_of_issue {operation : Operation} {request : Request} {pending : Pending}
    (found : run.state.panels.get? id = some panel)
    (outcome : (run.state.issue world operation).outcome = .waits request pending)
    (awaited : pending.panel? = some id) : run.state.AsksPage operation request id := by
  rcases issue_panels world run.state operation with ⟨document, made⟩ | ⟨-, asks⟩
  · rw [made] at outcome
    obtain ⟨-, rfl⟩ := Next.waits.inj outcome
    obtain rfl := Option.some.inj awaited
    exact absurd (sound.made _ panel found).1 (Nat.lt_irrefl _)
  · exact (asks request pending id outcome awaited).2

end

/-- What becomes of a known panel when an answer arrives. -/
theorem known_arrive (world : Surroundings) {client : Client} (pending : Pending)
    (reply : Except LspError Json) {id : Nat} {panel : Preview.Panel}
    (found : client.panels.get? id = some panel) :
    ∃ later, (client.arrive world pending reply).state.panels.get? id = some later ∧
      panel.Becomes (id ∈ client.listed) (pending = .page id) later := by
  have how := panelArrival world client pending reply
  generalize client.arrive world pending reply = turn at how ⊢
  cases how with
  | aside panels listed next silent useless =>
    rw [panels]
    exact ⟨panel, found, .same panel⟩
  | first other shownPanel listing _ there read => exact ⟨panel, found, .same panel⟩
  | again other shownPanel listing _ there read =>
    exact (tends_changePanel (fun number => Pending.page other = .page number) client other
      (.shown rfl)).known id panel found

end Client

end LanguageClient
