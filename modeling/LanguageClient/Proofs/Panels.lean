import LanguageClient.Proofs.ClientRun
import LanguageClient.Proofs.EditorCalls

/-!
# What becomes of the panels

`PanelIssue` says what an operation does to the preview panels when it begins, and `PanelArrival`
what an answer does to them; every other proof about panels goes by their cases. `Sound` is what
all runs keep: a panel is listed only after its first page has come, so that a panel whose first
page is awaited is never closed.
-/

namespace LanguageClient

/-- The panel that a call of the editor renders into. -/
def EditorCall.rendered? : EditorCall → Option Nat
  | .render panel _ => some panel.id
  | _ => none

/-- The panel whose page is awaited. -/
def Pending.panel? : Pending → Option Nat
  | .firstPage id => some id
  | .page id => some id
  | _ => none

namespace Client

variable (world : Surroundings) (client : Client)

/-- The panel that is made for a document at this moment. -/
def newPanel (document : Url) : Preview.Panel :=
  .create world.editor client.extensionRoot client.nextPanel document

/-- The client with the next panel made. -/
def withPanel (panel : Preview.Panel) : Client :=
  { client with
    panels := client.panels.insert client.nextPanel panel
    nextPanel := client.nextPanel + 1 }

/-- The turn in which a panel is made for a document and its first page is asked for. -/
def opened (document : Url) : Turn Client (Next Pending Answer) :=
  (client.withPanel (client.newPanel world document)).waits (.preview document)
    (.firstPage client.nextPanel)

/-- What an operation does to the panels when it begins. -/
inductive PanelIssue : Operation → Turn Client (Next Pending Answer) → Prop
  /-- The panels stay as they are, nothing is rendered and no page is asked for. -/
  | aside {operation : Operation} {turn : Turn Client (Next Pending Answer)}
      (panels : turn.state.panels = client.panels) (listed : turn.state.listed = client.listed)
      (next : turn.state.nextPanel = client.nextPanel)
      (silent : ∀ call ∈ turn.calls, call.rendered? = none)
      (idle : ∀ request pending, turn.outcome = .waits request pending → pending.panel? = none) :
      PanelIssue operation turn
  /-- A panel is made and its first page is asked for. -/
  | opened (path : Path) (document : Url) (found : world.disk.urlOf path = .ok document) :
      PanelIssue (.command (.startPreview path)) (client.opened world document)
  /-- A listed panel was hidden. -/
  | hidden (id : Nat) (panel : Preview.Panel) (listed : id ∈ client.listed)
      (found : client.panels.get? id = some panel) :
      PanelIssue (.showPreview id false) ((client.changePanel id .hide).done [] (.ran (.ok ())))
  /-- A listed panel was shown that counted as hidden; its page is asked for. -/
  | asked (id : Nat) (panel : Preview.Panel) (listed : id ∈ client.listed)
      (found : client.panels.get? id = some panel) (unseen : panel.visible = false)
      (usable : panel.disposed = false) :
      PanelIssue (.showPreview id true) (client.waits (.preview panel.document) (.page id))
  /-- A listed panel was shown that counted as shown already, or is closed. -/
  | shown (id : Nat) (panel : Preview.Panel) (listed : id ∈ client.listed)
      (found : client.panels.get? id = some panel)
      (seen : panel.visible = true ∨ panel.disposed = true) :
      PanelIssue (.showPreview id true) ((client.changePanel id .shown).done [] (.ran (.ok ())))
  /-- A listed panel is closed. -/
  | closed (id : Nat) (listed : id ∈ client.listed) :
      PanelIssue (.closePreview id)
        (Client.done { client.changePanel id .dispose with listed := client.listed.erase id } []
          .nothing)
  /-- All listed panels are closed to the server. -/
  | deactivated : PanelIssue .deactivate (client.deactivate.done [] .nothing)

/-- What the server tells of its own accord renders nothing. -/
theorem silent_handleEvents (editor : Editor) (events : List ServerEvent) :
    ∀ call ∈ (handleEvents editor client events).2, call.rendered? = none := by
  intro call member
  cases callsAtOnce_handleEvents client editor events member <;> rfl

/-- An operation that asks its question and is no preview leaves the panels alone. -/
theorem panelIssue_waits {operation : Operation} {request : Request} {pending : Pending}
    (aside : pending.panel? = none) :
    PanelIssue world client operation (client.waits request pending) := by
  refine .aside rfl rfl rfl (by simp [waits]) ?_
  intro other found outcome
  cases outcome
  exact aside

/-- An operation that at most changes the views, and renders nothing, leaves the panels alone. -/
theorem panelIssue_withViews {operation : Operation} (views : Tree.Views) {answer : Answer}
    {calls : List EditorCall} (silent : ∀ call ∈ calls, call.rendered? = none) :
    PanelIssue world client operation ((client.withViews views).done calls answer) := by
  refine .aside rfl rfl rfl silent ?_
  intro request pending outcome
  cases outcome

/-- An operation that is done at once and renders nothing leaves the panels alone. -/
theorem panelIssue_done {operation : Operation} {answer : Answer} {calls : List EditorCall}
    (silent : ∀ call ∈ calls, call.rendered? = none) :
    PanelIssue world client operation (client.done calls answer) :=
  panelIssue_withViews world client client.views silent

/-- A preview that starts makes a panel for a path that leads to a file. -/
theorem panelIssue_startPreview (path : Path) :
    PanelIssue world client (.command (.startPreview path)) (client.startPreview world path) := by
  unfold startPreview
  split
  · apply panelIssue_done
    simp [previewFailed, EditorCall.rendered?]
  · rename_i document found
    exact .opened path document found

/-- A panel that is shown or hidden does what panels do then. -/
theorem panelIssue_showPreview (id : Nat) (visible : Bool) :
    PanelIssue world client (.showPreview id visible) (client.showPreview id visible) := by
  unfold showPreview
  by_cases listed : client.listed.contains id = true
  · have member : id ∈ client.listed := List.contains_iff_mem.mp listed
    rw [if_pos listed]
    cases found : client.panels.get? id with
    | none =>
      apply panelIssue_done
      simp
    | some panel =>
      cases visible with
      | false => exact .hidden id panel member found
      | true =>
        cases seen : panel.visible with
        | true =>
          simpa [Preview.Panel.askShown?, seen] using .shown id panel member found (.inl seen)
        | false =>
          cases closed : panel.disposed with
          | true =>
            simpa [Preview.Panel.askShown?, Preview.Panel.ask?, seen, closed] using
              .shown id panel member found (.inr closed)
          | false =>
            simpa [Preview.Panel.askShown?, Preview.Panel.ask?, seen, closed] using
              .asked id panel member found seen closed
  · rw [if_neg listed]
    apply panelIssue_done
    simp

/-- Every operation begins in one of the ways of `PanelIssue`. -/
theorem panelIssue (operation : Operation) :
    PanelIssue world client operation (client.issue world operation) := by
  cases operation with
  | children view parent | parent view node | resolve configuration | describe configuration =>
    simp only [issue]
    split
    · exact panelIssue_done world client (by simp)
    · exact panelIssue_waits world client rfl
  | reveal position | start noDebug discovery | startOrTell noDebug discovery =>
    exact panelIssue_waits world client rfl
  | widget event =>
    simp only [issue]
    split
    · exact panelIssue_done world client (by simp)
    · refine .aside rfl rfl rfl (by simp) ?_
      intro request pending outcome
      cases outcome
  | dispose view | disposeAll => exact panelIssue_withViews world client _ (by simp)
  | serverEvents events =>
    simp only [issue, handleEvents_fst]
    exact panelIssue_withViews world client _ (silent_handleEvents client world.editor events)
  | command command =>
    cases command with
    | startPreview path => exact panelIssue_startPreview world client path
    | startDebugSession discovery | startRunSession discovery =>
      exact panelIssue_waits world client rfl
    | unrecognized name => exact panelIssue_done world client (by simp)
  | showPreview id visible => exact panelIssue_showPreview world client id visible
  | closePreview id =>
    by_cases listed : client.listed.contains id = true
    · simp only [issue, closePreview, listed, ↓reduceIte]
      exact .closed id (List.contains_iff_mem.mp listed)
    · simp only [issue, closePreview, listed, Bool.false_eq_true, ↓reduceIte]
      exact panelIssue_done world client (by simp)
  | deactivate => exact .deactivated

/-- What an answer does to the panels. -/
inductive PanelArrival : Pending → Except LspError Json → Turn Client Answer → Prop
  /-- The panels stay as they are and nothing is rendered: it was no answer about a page, or not
  a good one. -/
  | aside {pending : Pending} {reply : Except LspError Json} {turn : Turn Client Answer}
      (panels : turn.state.panels = client.panels) (listed : turn.state.listed = client.listed)
      (next : turn.state.nextPanel = client.nextPanel)
      (silent : ∀ call ∈ turn.calls, call.rendered? = none)
      (useless : ∀ id panel listing, pending.panel? = some id →
        client.panels.get? id = some panel → Preview.Listing.form.ofReply reply ≠ .ok listing) :
      PanelArrival pending reply turn
  /-- The first page of a panel has come: it is rendered, and the panel is listed. -/
  | first (id : Nat) (panel : Preview.Panel) (listing : Preview.Listing)
      (reply : Except LspError Json) (found : client.panels.get? id = some panel)
      (read : Preview.Listing.form.ofReply reply = .ok listing) :
      PanelArrival (.firstPage id) reply
        ⟨{ client with listed := client.listed ++ [id] },
          [.render panel.web (Preview.page (Preview.rows listing))], [], .ran (.ok ())⟩
  /-- The page of a panel that was shown again has come: it is rendered, and the panel counts as
  shown. -/
  | again (id : Nat) (panel : Preview.Panel) (listing : Preview.Listing)
      (reply : Except LspError Json) (found : client.panels.get? id = some panel)
      (read : Preview.Listing.form.ofReply reply = .ok listing) :
      PanelArrival (.page id) reply
        ⟨client.changePanel id .shown,
          [.render panel.web (Preview.page (Preview.rows listing))], [], .ran (.ok ())⟩

/-- A reveal unfolds and selects only. -/
theorem silent_receiveReveal (views : Tree.Views) (reply : Except LspError (Option Tree.Chain)) :
    ∀ call ∈ (views.receiveReveal reply).1, call.rendered? = none := by
  intro call member
  obtain ⟨view, uri, -, rfl | rfl⟩ := views.mem_receiveReveal member <;> rfl

/-- The start of a session renders nothing. -/
theorem silent_receiveStart (editor : Editor) (noDebug : Bool) (reply : Except LspError Json) :
    ∀ call ∈ (Debug.receiveStart editor noDebug reply).1, call.rendered? = none := by
  intro call member
  obtain ⟨configuration, rfl⟩ := Debug.mem_receiveStart member
  rfl

/-- The start of a session renders nothing, nor does the message that it failed. -/
theorem silent_receiveStartOrTell (editor : Editor) (noDebug : Bool)
    (reply : Except LspError Json) :
    ∀ call ∈ (Debug.receiveStartOrTell editor noDebug reply).1, call.rendered? = none := by
  intro call member
  rcases Debug.mem_receiveStartOrTell member with ⟨configuration, rfl⟩ | rfl <;> rfl

/-- An answer that is about no page, and renders nothing, leaves the panels alone. -/
theorem panelArrival_withViews {pending : Pending} {reply : Except LspError Json}
    (views : Tree.Views) {calls : List EditorCall} {answer : Answer}
    (other : pending.panel? = none) (silent : ∀ call ∈ calls, call.rendered? = none) :
    PanelArrival client pending reply ⟨client.withViews views, calls, [], answer⟩ := by
  refine .aside rfl rfl rfl silent ?_
  intro id panel listing awaited
  rw [other] at awaited
  cases awaited

/-- An answer that is for no panel, and renders none, leaves the panels as they are. -/
theorem panelArrival_other {pending : Pending} {reply : Except LspError Json}
    {calls : List EditorCall} {answer : Answer}
    (other : pending.panel? = none) (silent : ∀ call ∈ calls, call.rendered? = none) :
    PanelArrival client pending reply ⟨client, calls, [], answer⟩ :=
  panelArrival_withViews client client.views other silent

/-- An answer about a page that is not a good one leaves the panels alone, and so does a page of
no panel. -/
theorem panelArrival_useless (id : Nat) {pending : Pending} {reply : Except LspError Json}
    {calls : List EditorCall} {answer : Answer} (awaited : pending.panel? = some id)
    (silent : ∀ call ∈ calls, call.rendered? = none)
    (useless : ∀ panel listing, client.panels.get? id = some panel →
      Preview.Listing.form.ofReply reply ≠ .ok listing) :
    PanelArrival client pending reply ⟨client, calls, [], answer⟩ := by
  refine .aside rfl rfl rfl silent ?_
  intro other panel listing same
  rw [awaited] at same
  cases same
  exact useless panel listing

/-- Every answer arrives in one of the ways of `PanelArrival`. -/
theorem panelArrival (pending : Pending) (reply : Except LspError Json) :
    PanelArrival client pending reply (client.arrive world pending reply) := by
  cases pending with
  | children view => exact panelArrival_withViews client _ rfl (by simp)
  | parent => exact panelArrival_other client rfl (by simp)
  | reveal => exact panelArrival_other client rfl (silent_receiveReveal client.views _)
  | firstPage id =>
    simp only [arrive, receiveFirstPage]
    cases read : Preview.Listing.form.ofReply reply with
    | error cause =>
      apply panelArrival_useless client id rfl
      · simp [previewFailed, EditorCall.rendered?]
      · simp [read]
    | ok listing =>
      cases found : client.panels.get? id with
      | none =>
        apply panelArrival_useless client id rfl (by simp)
        simp [found]
      | some panel => exact .first id panel listing reply found read
  | page id =>
    simp only [arrive, receivePage]
    cases read : Preview.Listing.form.ofReply reply with
    | error cause =>
      apply panelArrival_useless client id rfl (by simp)
      simp [read]
    | ok listing =>
      cases found : client.panels.get? id with
      | none =>
        apply panelArrival_useless client id rfl (by simp)
        simp [found]
      | some panel => exact .again id panel listing reply found read
  | start noDebug =>
    exact panelArrival_other client rfl (silent_receiveStart world.editor noDebug reply)
  | startOrTell noDebug =>
    exact panelArrival_other client rfl (silent_receiveStartOrTell world.editor noDebug reply)
  | sessionCommand noDebug =>
    exact panelArrival_other client rfl (silent_receiveStartOrTell world.editor noDebug reply)
  | resolve configuration =>
    exact panelArrival_other client rfl (silent_receiveStart world.editor false reply)
  | describe => exact panelArrival_other client rfl (by simp)

end Client

end LanguageClient
