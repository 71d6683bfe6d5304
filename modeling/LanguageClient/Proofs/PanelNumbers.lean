import LanguageClient.Proofs.ClosedPanels

/-!
# The numbers of previews

A preview gets the number of its panel when it is started for a path that leads to a file, whether
or not its first page ever comes. `Made` relates the numbers to the log of a run: the number of a
panel tells how many previews were started until then.
-/

namespace LanguageClient

namespace Happening

/-- Whether a preview was started for a path that leads to a file. -/
def starts (happening : ClientHappening) : Bool :=
  match happening.cause with
  | .issued (.command (.startPreview path)) => (happening.world.disk.urlOf path).toBool
  | _ => false

/-- The preview whose first page was answered, by the step in which it was started, and whether the
answer brought a listing. -/
def firstPage? (happening : ClientHappening) : Option (Nat × Bool) :=
  match happening.cause with
  | .answered (.command (.startPreview _)) number reply =>
    some (number, (Preview.Listing.form.ofReply reply).toBool)
  | _ => none

end Happening

namespace Client

/-- The number of the panel of a preview that was started in a step: previews count from one. -/
def panelOf (log : List ClientHappening) (step : Nat) : Nat :=
  (log.take step).countP Happening.starts + 1

/-- A preview was started in a step. -/
def StartedIn (log : List ClientHappening) (step : Nat) : Prop :=
  ∃ start, log[step]? = some start ∧ start.starts = true

variable {log : List ClientHappening} {happening last : ClientHappening} {step : Nat}

/-- A step of a longer log is a step of the log before, or the last one. -/
theorem found_append (found : (log ++ [last])[step]? = some happening) :
    log[step]? = some happening ∨ step = log.length ∧ happening = last := by
  rcases Nat.lt_trichotomy step log.length with before | here | after
  · rw [List.getElem?_append_left before] at found
    exact .inl found
  · subst here
    rw [List.getElem?_concat_length] at found
    exact .inr ⟨rfl, (Option.some.inj found).symm⟩
  · rw [List.getElem?_eq_none (by simp; omega)] at found
    cases found

/-- A preview is started in a step that is logged. -/
theorem StartedIn.lt_length (started : StartedIn log step) : step < log.length := by
  obtain ⟨start, found, -⟩ := started
  exact (List.getElem?_eq_some_iff.mp found).1

/-- What happens later does not change in which steps previews were started. -/
theorem StartedIn.append (started : StartedIn log step) (more : List ClientHappening) :
    StartedIn (log ++ more) step := by
  have within := started.lt_length
  obtain ⟨start, found, starts⟩ := started
  exact ⟨start, by rw [List.getElem?_append_left within, found], starts⟩

/-- The number of a panel is settled when its preview is started. -/
theorem panelOf_append (within : step ≤ log.length) (more : List ClientHappening) :
    panelOf (log ++ more) step = panelOf log step := by
  rw [panelOf, panelOf, List.take_append_of_le_length within]

/-- What happens later does not change the number of a preview's panel. -/
theorem StartedIn.panelOf_append (started : StartedIn log step) (more : List ClientHappening) :
    panelOf (log ++ more) step = panelOf log step :=
  Client.panelOf_append (Nat.le_of_lt started.lt_length) more

/-- The next number after one more thing has happened. -/
theorem panelOf_length_append (last : ClientHappening) :
    panelOf (log ++ [last]) (log ++ [last]).length =
      panelOf log log.length + if last.starts then 1 else 0 := by
  rw [panelOf, panelOf, List.take_length, List.take_length, List.countP_append,
    List.countP_singleton]
  omega

/-- A later start gives a greater number. -/
theorem panelOf_lt {later : Nat} (started : StartedIn log step) (after : step < later) :
    panelOf log step < panelOf log later := by
  obtain ⟨start, found, starts⟩ := started
  have next : panelOf log (step + 1) = panelOf log step + 1 := by
    rw [panelOf, panelOf, List.take_add_one, found]
    simp [List.countP_append, starts]
  have above : panelOf log (step + 1) ≤ panelOf log later := by
    rw [panelOf, panelOf]
    exact Nat.succ_le_succ (List.take_sublist_take_left after).countP_le
  omega

/-- Two previews that have one number were started in one step. -/
theorem panelOf_inj {first second : Nat} (started : StartedIn log first)
    (startedToo : StartedIn log second) (same : panelOf log first = panelOf log second) :
    first = second := by
  rcases Nat.lt_trichotomy first second with before | equal | after
  · have less := panelOf_lt started before
    omega
  · exact equal
  · have less := panelOf_lt startedToo after
    omega

/-- What every run keeps about the panels that were made and the previews that were started. -/
structure Made (run : ClientRun) : Prop where
  /-- The next panel has the number of the previews so far. -/
  next : run.state.nextPanel = panelOf run.log run.log.length
  /-- Each preview that was started has made a panel for its document. -/
  made : ∀ step happening path document, run.log[step]? = some happening →
    happening.cause = .issued (.command (.startPreview path)) →
    happening.world.disk.urlOf path = .ok document →
    ∃ panel, run.state.panels.get? (panelOf run.log step) = some panel ∧ panel.document = document
  /-- Each panel was made for a preview. -/
  known : ∀ id panel, run.state.panels.get? id = some panel →
    ∃ step, StartedIn run.log step ∧ panelOf run.log step = id
  /-- A first page is awaited for the panel that was made in the step that asked for it. -/
  first : ∀ number asked id, run.waiting.get? number = some asked →
    asked.pending = .firstPage id → StartedIn run.log number ∧ panelOf run.log number = id
  /-- A first page that was answered is that of a preview that was started. -/
  started : ∀ happening ∈ run.log, ∀ number good, happening.firstPage? = some (number, good) →
    StartedIn run.log number

/-- A preview that is started for a path that leads to a file counts as started. -/
theorem starts_of_leads {path : Path} {document : Url}
    (cause : happening.cause = .issued (.command (.startPreview path)))
    (leads : happening.world.disk.urlOf path = .ok document) : happening.starts = true := by
  simp [Happening.starts, cause, leads, Except.toBool]

/-- A start has a path, which leads to a file. -/
theorem leads_of_starts (starts : happening.starts = true) :
    ∃ path document, happening.cause = .issued (.command (.startPreview path)) ∧
      happening.world.disk.urlOf path = .ok document := by
  unfold Happening.starts at starts
  split at starts
  · rename_i path cause
    cases leads : happening.world.disk.urlOf path with
    | error reason => simp [leads, Except.toBool] at starts
    | ok document => exact ⟨path, document, cause, leads⟩
  · cases starts

/-- An operation that starts a preview makes a panel and asks for its first page. -/
theorem opened_of_starts {world : Surroundings} {operation : Operation} {client : Client}
    (starts : (Happening.ofIssue world operation (client.issue world operation)).starts = true) :
    ∃ path document, operation = .command (.startPreview path) ∧
      world.disk.urlOf path = .ok document ∧
      client.issue world operation = client.opened world document := by
  simp only [Happening.starts, Happening.cause_ofIssue, Happening.world_ofIssue] at starts
  split at starts
  · rename_i path same
    obtain rfl := Cause.issued.inj same
    cases leads : world.disk.urlOf path with
    | error cause => simp [leads, Except.toBool] at starts
    | ok document =>
      refine ⟨path, document, rfl, leads, ?_⟩
      simp only [issue, startPreview, leads]
      rfl
  · cases starts

/-- Only the start of a preview asks for a first page. -/
theorem starts_of_firstPage {world : Surroundings} {operation : Operation} {client : Client}
    {request : Request} {id : Nat}
    (asks : (client.issue world operation).outcome = .waits request (.firstPage id)) :
    (Happening.ofIssue world operation (client.issue world operation)).starts = true := by
  simp only [Happening.starts, Happening.cause_ofIssue, Happening.world_ofIssue]
  cases awaits_of_issue asks with
  | firstPage path document =>
    simp only [issue, startPreview] at asks
    split at asks
    · cases asks
    · rename_i leads
      simp [leads, Except.toBool]

/-- No first page comes in a step that issues an operation. -/
@[simp]
theorem firstPage?_ofIssue (world : Surroundings) (operation : Operation)
    (turn : Turn Client (Next Pending Answer)) :
    Happening.firstPage? (.ofIssue world operation turn) = none := by
  simp [Happening.firstPage?]

/-- An answer to the start of a preview, and no other, brings a first page or fails to. -/
theorem firstPage?_ofArrival {operation : Operation} {request : Request} {pending : Pending}
    (awaits : operation.Awaits request pending) (world : Surroundings) (number : Nat)
    (reply : Except LspError Json) (turn : Turn Client Answer) (step : Nat) (good : Bool) :
    Happening.firstPage? (.ofArrival world operation number reply turn) = some (step, good) ↔
      (∃ id, pending = .firstPage id) ∧ number = step ∧
        (Preview.Listing.form.ofReply reply).toBool = good := by
  cases awaits <;> simp [Happening.firstPage?, Happening.ofArrival]

/-- A first page is an answer to the question with the number of the step. -/
theorem answers?_of_firstPage? {good : Bool} (first : happening.firstPage? = some (step, good)) :
    happening.answers? = some step := by
  unfold Happening.firstPage? at first
  split at first
  · rename_i path number reply cause
    cases first
    simp [Happening.answers?, cause]
  · cases first

/-- A step that makes no panel, and gives none another document. -/
structure Keeps (before after : Client) : Prop where
  /-- No panel is made. -/
  next : after.nextPanel = before.nextPanel
  /-- Unknown panels stay unknown. -/
  unknown : ∀ id, before.panels.get? id = none → after.panels.get? id = none
  /-- Known panels keep their documents. -/
  document : ∀ id panel, before.panels.get? id = some panel →
    ∃ later, after.panels.get? id = some later ∧ later.document = panel.document

/-- A step that only tends to the panels makes none. -/
theorem Tends.keeps {about : Nat → Prop} {before after : Client}
    (tends : Tends about before after) : Keeps before after := by
  refine ⟨tends.next, tends.unknown, ?_⟩
  intro id panel found
  obtain ⟨later, there, becomes⟩ := tends.known id panel found
  exact ⟨later, there, becomes.document⟩

/-- An answer makes no panel. -/
theorem keeps_arrive (world : Surroundings) (client : Client) (pending : Pending)
    (reply : Except LspError Json) : Keeps client (client.arrive world pending reply).state := by
  have how := panelArrival world client pending reply
  generalize client.arrive world pending reply = turn at how ⊢
  cases how with
  | aside panels listed next silent useless =>
    have tends : Tends (fun _ => True) client turn.state := tends_of_eq panels listed next
    exact tends.keeps
  | first id panel listing _ found read =>
    exact ⟨rfl, fun _ absent => absent, fun _ known there => ⟨known, there, rfl⟩⟩
  | again id panel listing _ found read =>
    exact (tends_changePanel (fun _ => True) client id (.shown trivial)).keeps

/-- A step that starts no preview keeps the panels and their numbers. -/
theorem made_of_keeps {run after : ClientRun} (made : Made run)
    (grown : after.log = run.log ++ [last]) (quiet : last.starts = false)
    (keeps : Keeps run.state after.state)
    (waiting : ∀ number asked id, after.waiting.get? number = some asked →
      asked.pending = .firstPage id → run.waiting.get? number = some asked)
    (started : ∀ number good, last.firstPage? = some (number, good) → StartedIn run.log number) :
    Made after := by
  constructor
  · rw [grown, panelOf_length_append, quiet, keeps.next, made.next]
    rfl
  · rw [grown]
    intro step happening path document found cause leads
    have starts := starts_of_leads cause leads
    rcases found_append found with before | ⟨-, rfl⟩
    · have number := StartedIn.panelOf_append ⟨happening, before, starts⟩ [last]
      obtain ⟨panel, there, same⟩ := made.made step happening path document before cause leads
      obtain ⟨later, stays, kept⟩ := keeps.document _ panel there
      exact ⟨later, number ▸ stays, kept.trans same⟩
    · rw [quiet] at starts
      cases starts
  · rw [grown]
    intro id panel found
    cases before : run.state.panels.get? id with
    | none =>
      rw [keeps.unknown id before] at found
      cases found
    | some earlier =>
      obtain ⟨step, started, number⟩ := made.known id earlier before
      exact ⟨step, started.append [last], (started.panelOf_append [last]).trans number⟩
  · rw [grown]
    intro number asked id isOpen first
    have before := waiting number asked id isOpen first
    obtain ⟨started, same⟩ := made.first number asked id before first
    exact ⟨started.append [last], (started.panelOf_append [last]).trans same⟩
  · rw [grown]
    intro happening member number good answered
    rcases List.mem_append.mp member with before | new
    · exact (made.started happening before number good answered).append [last]
    · obtain rfl := List.mem_singleton.mp new
      exact (started number good answered).append _

/-- The start of a preview makes the panel with the next number. -/
theorem made_opened {run : ClientRun} (made : Made run) {world : Surroundings} {path : Path}
    {document : Url} (leads : world.disk.urlOf path = .ok document) :
    Made (run.began world (.command (.startPreview path)) (run.state.opened world document)) := by
  have starts : (Happening.ofIssue world (.command (.startPreview path))
      (run.state.opened world document)).starts = true :=
    starts_of_leads (Happening.cause_ofIssue _ _ _) (by rw [Happening.world_ofIssue, leads])
  have started : StartedIn (run.log ++ [Happening.ofIssue world (.command (.startPreview path))
      (run.state.opened world document)]) run.log.length :=
    ⟨_, List.getElem?_concat_length, starts⟩
  have own : panelOf run.log run.log.length = run.state.nextPanel := made.next.symm
  have here (last : ClientHappening) :
      panelOf (run.log ++ [last]) run.log.length = run.state.nextPanel :=
    (panelOf_append (Nat.le_refl _) [last]).trans own
  have panels (id : Nat) := get?_withPanel run.state (run.state.newPanel world document) id
  constructor
  · change run.state.nextPanel + 1 = panelOf (run.log ++ [_]) (run.log ++ [_]).length
    rw [panelOf_length_append, starts, own]
    rfl
  · intro step happening other file found cause leadsToo
    rcases found_append found with before | ⟨rfl, rfl⟩
    · obtain ⟨panel, there, same⟩ := made.made step happening other file before cause leadsToo
      have earlier : StartedIn run.log step := ⟨happening, before, starts_of_leads cause leadsToo⟩
      have below := panelOf_lt earlier earlier.lt_length
      refine ⟨panel, ?_, same⟩
      show (run.state.withPanel _).panels.get? (panelOf (run.log ++ [_]) step) = some panel
      rw [earlier.panelOf_append, panels, if_neg (by omega), there]
    · rw [Happening.world_ofIssue] at leadsToo
      rw [Happening.cause_ofIssue] at cause
      cases cause
      obtain rfl := Except.ok.inj (leads.symm.trans leadsToo)
      refine ⟨run.state.newPanel world document, ?_, rfl⟩
      show (run.state.withPanel _).panels.get? (panelOf (run.log ++ [_]) run.log.length) = _
      rw [here, panels, if_pos rfl]
  · intro id panel found
    change (run.state.withPanel _).panels.get? id = some panel at found
    by_cases new : run.state.nextPanel = id
    · exact ⟨run.log.length, started, (here _).trans new⟩
    · rw [panels, if_neg new] at found
      obtain ⟨step, earlier, number⟩ := made.known id panel found
      exact ⟨step, earlier.append _, (earlier.panelOf_append _).trans number⟩
  · intro number asked id isOpen first
    rcases Run.waiting_began run isOpen with before | ⟨rfl, -, outcome⟩
    · obtain ⟨earlier, same⟩ := made.first number asked id before first
      exact ⟨earlier.append _, (earlier.panelOf_append _).trans same⟩
    · have same := (Next.waits.inj outcome).2.trans first
      obtain rfl := Pending.firstPage.inj same
      exact ⟨started, here _⟩
  · intro happening member number good answered
    rcases List.mem_append.mp member with before | new
    · exact (made.started happening before number good answered).append _
    · obtain rfl := List.mem_singleton.mp new
      rw [firstPage?_ofIssue] at answered
      cases answered

/-- An operation makes one panel if it starts a preview, and none otherwise. -/
theorem made_began {run : ClientRun} (made : Made run) (world : Surroundings)
    (operation : Operation) :
    Made (run.began world operation (run.state.issue world operation)) := by
  by_cases starts :
      (Happening.ofIssue world operation (run.state.issue world operation)).starts = true
  · obtain ⟨path, document, rfl, leads, opened⟩ := opened_of_starts starts
    rw [opened]
    exact made_opened made leads
  · have asks (request : Request) (id : Nat) :
        (run.state.issue world operation).outcome ≠ .waits request (.firstPage id) := by
      intro outcome
      exact starts (starts_of_firstPage outcome)
    rcases issue_panels world run.state operation with ⟨document, opened⟩ | ⟨tends, -⟩
    · exact absurd (congrArg Turn.outcome opened) (asks _ _)
    · refine made_of_keeps made rfl (Bool.eq_false_iff.mpr starts) tends.keeps ?_ ?_
      · intro number asked id isOpen first
        rcases Run.waiting_began run isOpen with before | ⟨-, -, outcome⟩
        · exact before
        · rw [first] at outcome
          exact absurd outcome (asks _ _)
      · intro number good answered
        rw [firstPage?_ofIssue] at answered
        cases answered

/-- An answer makes no panel. -/
theorem made_ended {run : ClientRun} (steady : Steady run) (made : Made run)
    (world : Surroundings) {number : Nat} {asked : Asked Operation Pending}
    (isOpen : run.waiting.get? number = some asked) (reply : Except LspError Json) :
    Made (run.ended world asked.operation number reply
      (run.state.arrive world asked.pending reply)) := by
  refine made_of_keeps made rfl rfl (keeps_arrive world run.state asked.pending reply) ?_ ?_
  · intro other again id found first
    exact (Run.waiting_ended run found).2
  · intro step good answered
    rw [firstPage?_ofArrival (awaits_of_honest steady.honest isOpen)] at answered
    obtain ⟨⟨id, first⟩, rfl, -⟩ := answered
    exact (made.first number asked id isOpen first).1

end Client

end LanguageClient
