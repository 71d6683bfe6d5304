import LanguageClient.Proofs.Connections
import LanguageClient.Proofs.Histories
import LanguageClient.Proofs.Shadows

/-!
# Versions of documents

Documents are opened, changed and closed under any paths, while the files may change in between.
Over a connection that takes every notice, `versions_follow_history` gives the version of each
document from what was done with it before: it is the number of changes since it was opened. Over
any connection `notes_follow` shows that what the events of a run say was handed over is what the
connection gets.
-/

namespace LanguageClient.Server

/-- What is done with a document. -/
inductive Deed
  /-- It is opened. -/
  | opening
  /-- It gets a new text. -/
  | changing (text : String)
  /-- It is closed. -/
  | closing
deriving Repr, DecidableEq

/-- Something to be done with the document at a path, and the files as they are then. -/
structure DocumentCall where
  /-- The files. -/
  disk : Disk
  /-- The path. -/
  path : Path
  /-- What is to be done. -/
  deed : Deed

/-- The document at the path, if there is one. -/
def DocumentCall.target? (call : DocumentCall) : Option Url :=
  (call.disk.urlOf call.path).toOption

/-- A call is about the document to which its path leads. -/
@[simp]
theorem DocumentCall.target?_eq_some_iff {call : DocumentCall} {document : Url} :
    call.target? = some document ↔ call.disk.urlOf call.path = .ok document := by
  unfold target?
  cases call.disk.urlOf call.path <;> simp [Except.toOption]

/-- Something that was done with a document. -/
structure DocumentEvent where
  /-- What was to be done. -/
  call : DocumentCall
  /-- What was handed to the connection. -/
  handed : List Handed
  /-- Whether it could be done. -/
  result : Except LspError Unit

namespace DocumentEvent

variable (event : DocumentEvent)

/-- The document that was opened. -/
def opened? : Option Url :=
  match event.call.deed, event.result with
  | .opening, .ok _ => event.call.target?
  | _, _ => none

/-- The document that was closed. -/
def closed? : Option Url :=
  match event.call.deed, event.result with
  | .closing, .ok _ => event.call.target?
  | _, _ => none

/-- The document that was to get a new text. -/
def changed? : Option Url :=
  match event.call.deed with
  | .changing _ => event.call.target?
  | _ => none

/-- The server was sent a version of a document, and nothing else. -/
def Sends (document : Url) (version : Nat) : Prop :=
  (version = 0 ∧ ∃ language text,
      event.handed = [.notice (Documents.openNotice document language text)]) ∨
    ∃ text, event.handed = [.notice (Documents.changeNotice document version text)]

end DocumentEvent

/-- A session between two calls, with all that was done before. -/
structure DocumentRun (σ : Type) where
  /-- The session. -/
  session : Session σ
  /-- What was done, in order. -/
  log : List DocumentEvent

namespace DocumentRun

variable {σ : Type}

/-- A session that has done nothing with documents. -/
def start (session : Session σ) : DocumentRun σ := ⟨{ session with documents := .empty }, []⟩

/-- The version of a document. -/
def version? (run : DocumentRun σ) (document : Url) : Option Nat :=
  run.session.documents.version? document

/-- Does what a call says. -/
def perform (transport : Transport σ) (call : DocumentCall) (session : Session σ) :
    Session σ × Except LspError Unit :=
  match call.deed with
  | .opening =>
    let (session, result) := session.openDocument transport call.disk call.path
    (session, result.map fun _ => ())
  | .changing text => session.changeDocument transport call.disk call.path text
  | .closing => session.closeDocument transport call.disk call.path

/-- The session that notes what it hands to its connection from now on. -/
def attentive (session : Session σ) : Session (σ × List Handed) where
  state := (session.state, [])
  requestTimeout := session.requestTimeout
  capabilities := session.capabilities
  documents := session.documents

/-- What a call does: what it hands over is read from the notes. -/
def eventOf (transport : Transport σ) (run : DocumentRun σ) (call : DocumentCall) :
    DocumentEvent where
  call := call
  handed := (perform transport.noting call (attentive run.session)).1.state.2
  result := (perform transport call run.session).2

/-- The run after one more call. -/
def next (transport : Transport σ) (run : DocumentRun σ) (call : DocumentCall) : DocumentRun σ :=
  ⟨(perform transport call run.session).1, run.log ++ [run.eventOf transport call]⟩

/-- The run after calls. -/
def follow (transport : Transport σ) (run : DocumentRun σ) (calls : List DocumentCall) :
    DocumentRun σ :=
  calls.foldl (next transport) run

/-- The last time that a document was opened, it was not closed later, and it was to get a number
of new texts since. -/
def ChangedSince (log : List DocumentEvent) (document : Url) (count : Nat) : Prop :=
  ∃ before opening after, log = before ++ opening :: after ∧ opening.opened? = some document ∧
    (∀ later ∈ after, later.opened? ≠ some document ∧ later.closed? ≠ some document) ∧
    (after.countP fun later => later.changed? = some document) = count

/-- The last that the server was sent of a document is a version. -/
def LastSent (log : List DocumentEvent) (document : Url) (version : Nat) : Prop :=
  ∃ before last after, log = before ++ last :: after ∧ last.Sends document version ∧
    ∀ later ∈ after, later.opened? ≠ some document ∧ later.closed? ≠ some document ∧
      later.changed? ≠ some document

/-- What the versions of documents have to do with what was done. -/
structure Versioned (transport : Transport σ) (run : DocumentRun σ) : Prop where
  /-- A document has a version exactly while it is open: the number of its changes since. -/
  tracked : ∀ document version,
    run.version? document = some version ↔ ChangedSince run.log document version
  /-- It is the version that the server was sent last. -/
  sent : ∀ document version,
    run.version? document = some version → LastSent run.log document version
  /-- A document gets a new text exactly if it is open. -/
  changes : ∀ disk path text,
    (run.eventOf transport ⟨disk, path, .changing text⟩).result = .ok () ↔
      ∃ document version, disk.urlOf path = .ok document ∧
        run.version? document = some version
  /-- With the new text the server is sent the next version. -/
  changing : ∀ disk path text document version, disk.urlOf path = .ok document →
    run.version? document = some version →
    (run.eventOf transport ⟨disk, path, .changing text⟩).handed =
      [.notice (Documents.changeNotice document (version + 1) text)]
  /-- A document that is not open is not found; nothing is sent and nothing changes. -/
  unchanged : ∀ disk path text,
    (run.eventOf transport ⟨disk, path, .changing text⟩).result ≠ .ok () →
    (∃ reason, (run.eventOf transport ⟨disk, path, .changing text⟩).result =
      .error (.documentNotFound reason)) ∧
    (run.eventOf transport ⟨disk, path, .changing text⟩).handed = [] ∧
    (run.next transport ⟨disk, path, .changing text⟩).session = run.session
  /-- A document that is opened is sent as its file holds it, in version zero. -/
  opening : ∀ disk path document text,
    Documents.readDocument disk path = .ok (document, text) →
    (run.eventOf transport ⟨disk, path, .opening⟩).result = .ok () ∧
    (run.eventOf transport ⟨disk, path, .opening⟩).handed =
      [.notice (Documents.openNotice document (languageId path) text)] ∧
    (run.next transport ⟨disk, path, .opening⟩).version? document = some 0
  /-- If the file cannot be read nothing is sent and nothing changes. -/
  unopened : ∀ disk path cause, Documents.readDocument disk path = .error cause →
    (run.eventOf transport ⟨disk, path, .opening⟩).result = .error cause ∧
    (run.eventOf transport ⟨disk, path, .opening⟩).handed = [] ∧
    (run.next transport ⟨disk, path, .opening⟩).session = run.session
  /-- What is done with one document leaves the others in their versions. -/
  apart : ∀ call document, call.target? ≠ some document →
    (run.next transport call).version? document = run.version? document

/-! ## What is handed over -/

/-- A call does the same over a transport that does the same. -/
theorem perform_shadow {ρ : Type} {outer : Transport ρ} {inner : Transport σ} {bare : ρ → σ}
    (shadows : outer.Shadows inner bare) (call : DocumentCall) (session : Session ρ) :
    perform inner call (session.under bare) =
      ((perform outer call session).1.under bare, (perform outer call session).2) := by
  obtain ⟨disk, path, deed⟩ := call
  cases deed with
  | opening => simp only [perform, Session.openDocument_shadow shadows disk path session]
  | changing text => exact Session.changeDocument_shadow shadows disk path text session
  | closing => exact Session.closeDocument_shadow shadows disk path session

/-- A run that takes notes does what one without them does, and has noted what that one's events
say was handed over. -/
structure Notes (noted : DocumentRun (σ × List Handed)) (run : DocumentRun σ) : Prop where
  /-- The sessions are the same but for the notes. -/
  session : noted.session.under Prod.fst = run.session
  /-- The notes are what was handed over, in order. -/
  notes : noted.session.state.2 = run.log.flatMap DocumentEvent.handed

/-- One more call is noted. -/
theorem Notes.next {noted : DocumentRun (σ × List Handed)} {run : DocumentRun σ}
    (notes : Notes noted run) (transport : Transport σ) (call : DocumentCall) :
    Notes (noted.next transport.noting call) (run.next transport call) := by
  -- The notes so far stand in front of those of the call, which `eventOf` reads by themselves.
  have split : noted.session = (attentive run.session).under
      (Prod.map id (run.log.flatMap DocumentEvent.handed ++ ·)) := by
    rw [← notes.session, ← notes.notes]
    simp [attentive, Session.under, Prod.map]
  have bare := perform_shadow transport.shadows_noting call (attentive run.session)
  have later := perform_shadow (transport.shadows_noted (run.log.flatMap DocumentEvent.handed))
    call (attentive run.session)
  constructor
  · simp only [DocumentRun.next, split, later]
    exact (congrArg Prod.fst bare).symm
  · simp only [DocumentRun.next, split, later, List.flatMap_append, List.flatMap_singleton]
    rfl

/-- What the events of a run say was handed over is what a connection that is given the same calls
notes from start to end, and its notes change nothing of what the run does. -/
theorem notes_follow (transport : Transport σ) (session : Session σ) (calls : List DocumentCall) :
    Notes ((start (attentive session)).follow transport.noting calls)
      ((start session).follow transport calls) := by
  suffices ∀ noted run, Notes noted run →
      Notes (noted.follow transport.noting calls) (run.follow transport calls) from
    this _ _ ⟨rfl, rfl⟩
  induction calls with
  | nil => exact fun _ _ notes => notes
  | cons call rest ih => exact fun _ _ notes => ih _ _ (notes.next transport call)

/-! ## One call -/

end DocumentRun

namespace Documents

variable {disk : Disk} {path : Path} {document : Url}

/-- A document gets a version, and the others keep theirs. -/
@[simp]
theorem version?_setVersion (documents : Documents) (document other : Url) (version : Nat) :
    (documents.setVersion document version).version? other =
      if document = other then some version else documents.version? other :=
  Table.get?_insert _ _ _ _

/-- A document that is removed has no version, and the others keep theirs. -/
@[simp]
theorem version?_remove (documents : Documents) (document other : Url) :
    (documents.remove document).version? other =
      if document = other then none else documents.version? other :=
  Table.get?_erase _ _ _

/-- A document that can be read is the one at the path. -/
theorem urlOf_of_readDocument {text : String}
    (read : readDocument disk path = .ok (document, text)) : disk.urlOf path = .ok document := by
  unfold readDocument at read
  cases leads : disk.urlOf path with
  | error cause => simp [leads, bind, Except.bind] at read
  | ok found =>
    cases content : disk.readText path with
    | error cause => simp [leads, content, bind, Except.bind, throw, throwThe,
        MonadExceptOf.throw] at read
    | ok inside =>
      simp [leads, content, bind, Except.bind, pure, Except.pure] at read
      rw [read.1]

/-- A path that leads nowhere leads to no document. -/
theorem urlOf_error {cause : LspError} (leads : disk.urlOf path = .error cause) :
    ∃ reason, cause = .documentNotFound reason := by
  unfold Disk.urlOf at leads
  split at leads
  · cases leads
  · cases leads
    exact ⟨_, rfl⟩

end Documents

/-- A notice about a document. -/
inductive AboutDocument : Call → Prop
  /-- That it was opened. -/
  | opening (document : Url) (language text : String) :
    AboutDocument (Documents.openNotice document language text)
  /-- That it has a new text. -/
  | changing (document : Url) (version : Nat) (text : String) :
    AboutDocument (Documents.changeNotice document version text)
  /-- That it was closed. -/
  | closing (document : Url) : AboutDocument (Documents.closeNotice document)

/-- From a state on, however many notices about documents a connection was given, it takes the next
one. -/
def Transport.Working {σ : Type} (transport : Transport σ) (state : σ) : Prop :=
  ∀ (before : List Call) (call : Call), (∀ notice ∈ before, AboutDocument notice) →
    AboutDocument call → (transport.tell call
      (before.foldl (fun state notice => (transport.tell notice state).1) state)).2 = .ok ()

namespace Transport.Working

variable {σ : Type} {transport : Transport σ} {state : σ}

/-- The notice is taken, and the connection works on. -/
theorem takes (working : transport.Working state) {call : Call} (about : AboutDocument call) :
    ∃ after, transport.tell call state = (after, .ok ()) ∧ transport.Working after := by
  refine ⟨(transport.tell call state).1, ?_, ?_⟩
  · exact Prod.ext rfl (working [] call nofun about)
  · intro before next documents aboutToo
    exact working (call :: before) next (List.forall_mem_cons.mpr ⟨about, documents⟩) aboutToo

end Transport.Working

namespace DocumentRun

open Documents

variable {σ : Type} {transport : Transport σ}

/-- What a call does over a connection that works: the session afterwards, what was handed to the
connection, and the result. -/
inductive Does (transport : Transport σ) (session : Session σ) :
    DocumentCall → Session σ → List Handed → Except LspError Unit → Prop
  /-- A file that can be read is sent, and its document is open. -/
  | opened (disk : Disk) (path : Path) (document : Url) (text : String)
      (read : readDocument disk path = .ok (document, text)) (after : σ)
      (told : transport.tell (openNotice document (languageId path) text) session.state =
        (after, .ok ())) (working : transport.Working after) :
      Does transport session ⟨disk, path, .opening⟩
        { session with documents := session.documents.setVersion document 0, state := after }
        [.notice (openNotice document (languageId path) text)] (.ok ())
  /-- A file that cannot be read is not opened. -/
  | unread (disk : Disk) (path : Path) (cause : LspError)
      (read : readDocument disk path = .error cause) :
      Does transport session ⟨disk, path, .opening⟩ session [] (.error cause)
  /-- The new text of an open document is sent. -/
  | changed (disk : Disk) (path : Path) (text : String) (document : Url) (version : Nat)
      (leads : disk.urlOf path = .ok document)
      (isOpen : session.documents.version? document = some version) (after : σ)
      (told : transport.tell (changeNotice document (version + 1) text) session.state =
        (after, .ok ())) (working : transport.Working after) :
      Does transport session ⟨disk, path, .changing text⟩
        { session with
          documents := session.documents.setVersion document (version + 1), state := after }
        [.notice (changeNotice document (version + 1) text)] (.ok ())
  /-- There is no new text for a document that is not open. -/
  | unchanged (disk : Disk) (path : Path) (text reason : String)
      (absent : ∀ document, disk.urlOf path = .ok document →
        session.documents.version? document = none) :
      Does transport session ⟨disk, path, .changing text⟩ session []
        (.error (.documentNotFound reason))
  /-- A document is closed, open or not. -/
  | closed (disk : Disk) (path : Path) (document : Url)
      (leads : disk.urlOf path = .ok document) (after : σ)
      (told : transport.tell (closeNotice document) session.state = (after, .ok ()))
      (working : transport.Working after) :
      Does transport session ⟨disk, path, .closing⟩
        { session with documents := session.documents.remove document, state := after }
        [.notice (closeNotice document)] (.ok ())
  /-- Where there is no document none is closed. -/
  | unclosed (disk : Disk) (path : Path) (cause : LspError)
      (leads : disk.urlOf path = .error cause) :
      Does transport session ⟨disk, path, .closing⟩ session [] (.error cause)

/-- A notice that is taken is noted. -/
theorem tell_noting {call : Call} {state after : σ}
    (told : transport.tell call state = (after, .ok ())) :
    transport.noting.tell call (state, []) = ((after, [.notice call]), .ok ()) := by
  simp [Transport.noting, told]

/-- Every call does one of the things of `Does`. -/
theorem does (run : DocumentRun σ) (working : transport.Working run.session.state)
    (call : DocumentCall) :
    Does transport run.session call (run.next transport call).session
      (run.eventOf transport call).handed (run.eventOf transport call).result := by
  obtain ⟨disk, path, deed⟩ := call
  cases deed with
  | opening =>
    cases read : readDocument disk path with
    | error cause =>
      simpa [next, eventOf, perform, attentive, Session.openDocument, openAt, read, Except.map]
        using Does.unread disk path cause read
    | ok found =>
      obtain ⟨document, text⟩ := found
      obtain ⟨after, told, works⟩ := working.takes (.opening document (languageId path) text)
      simpa [next, eventOf, perform, attentive, Session.openDocument, openAt, read, told,
        tell_noting told, Except.map] using
          Does.opened disk path document text read after told works
  | changing text =>
    cases leads : disk.urlOf path with
    | error cause =>
      obtain ⟨reason, rfl⟩ := urlOf_error leads
      simpa [next, eventOf, perform, attentive, Session.changeDocument, changeAt, leads]
        using Does.unchanged disk path text reason (by simp [leads])
    | ok document =>
      cases isOpen : run.session.documents.version? document with
      | none =>
        simpa [next, eventOf, perform, attentive, Session.changeDocument, changeAt, leads, isOpen]
          using Does.unchanged disk path text ("document not open: " ++ path.display)
            (by simp [leads, isOpen])
      | some version =>
        obtain ⟨after, told, works⟩ := working.takes (.changing document (version + 1) text)
        simpa [next, eventOf, perform, attentive, Session.changeDocument, changeAt, leads, isOpen,
          told, tell_noting told] using
            Does.changed disk path text document version leads isOpen after told works
  | closing =>
    cases leads : disk.urlOf path with
    | error cause =>
      simpa [next, eventOf, perform, attentive, Session.closeDocument, closeAt, leads]
        using Does.unclosed disk path cause leads
    | ok document =>
      obtain ⟨after, told, works⟩ := working.takes (.closing document)
      simpa [next, eventOf, perform, attentive, Session.closeDocument, closeAt, leads, told,
        tell_noting told] using Does.closed disk path document leads after told works

variable {session after : Session σ} {event : DocumentEvent}

/-- After a call the connection works on. -/
theorem Does.working (does : Does transport session event.call after event.handed event.result)
    (working : transport.Working session.state) : transport.Working after.state := by
  obtain ⟨call, handed, result⟩ := event
  cases does with
  | opened | changed | closed => assumption
  | unread | unchanged | unclosed => exact working

/-- What becomes of the version of a document. -/
theorem Does.version? (does : Does transport session event.call after event.handed event.result)
    (document : Url) :
    after.documents.version? document =
      if event.opened? = some document then some 0
      else if event.closed? = some document then none
      else (session.documents.version? document).map
        (· + if event.changed? = some document then 1 else 0) := by
  obtain ⟨call, handed, result⟩ := event
  cases does with
  | opened disk path opened text read =>
    have leads := urlOf_of_readDocument read
    simp [DocumentEvent.opened?, DocumentEvent.closed?, DocumentEvent.changed?, leads]
  | unread disk path cause read =>
    simp [DocumentEvent.opened?, DocumentEvent.closed?, DocumentEvent.changed?]
  | changed disk path text changed version leads isOpen =>
    by_cases same : changed = document
    · subst same
      simp [DocumentEvent.opened?, DocumentEvent.closed?, DocumentEvent.changed?, leads, isOpen]
    · simp [DocumentEvent.opened?, DocumentEvent.closed?, DocumentEvent.changed?, leads, same]
  | unchanged disk path text reason absent =>
    by_cases leads : disk.urlOf path = .ok document
    · simp [DocumentEvent.opened?, DocumentEvent.closed?, absent document leads]
    · simp [DocumentEvent.opened?, DocumentEvent.closed?, DocumentEvent.changed?, leads]
  | closed disk path closed leads =>
    simp [DocumentEvent.opened?, DocumentEvent.closed?, DocumentEvent.changed?, leads]
  | unclosed disk path cause leads =>
    simp [DocumentEvent.opened?, DocumentEvent.closed?, DocumentEvent.changed?]

/-- A document that was opened was sent in version zero. -/
theorem Does.sends_opened (does : Does transport session event.call after event.handed event.result)
    {document : Url} (opened : event.opened? = some document) : event.Sends document 0 := by
  obtain ⟨call, handed, result⟩ := event
  cases does with
  | opened disk path other text read =>
    have leads := urlOf_of_readDocument read
    obtain rfl : other = document := by simpa [DocumentEvent.opened?, leads] using opened
    exact .inl ⟨rfl, _, text, rfl⟩
  | _ => simp [DocumentEvent.opened?] at opened

/-- An open document that was to get a new text was sent in the next version. -/
theorem Does.sends_changed
    (does : Does transport session event.call after event.handed event.result)
    {document : Url} {version : Nat}
    (isOpen : session.documents.version? document = some version)
    (changed : event.changed? = some document) : event.Sends document (version + 1) := by
  obtain ⟨call, handed, result⟩ := event
  cases does with
  | changed disk path text other before leads isOpenToo =>
    obtain rfl : other = document := by simpa [DocumentEvent.changed?, leads] using changed
    obtain rfl := Option.some.inj (isOpen.symm.trans isOpenToo)
    exact .inr ⟨text, rfl⟩
  | unchanged disk path text reason absent =>
    have leads : disk.urlOf path = .ok document := by
      simpa [DocumentEvent.changed?] using changed
    rw [absent document leads] at isOpen
    cases isOpen
  | _ => simp [DocumentEvent.changed?] at changed

/-! ## The history of a document -/

variable {log : List DocumentEvent} {last : DocumentEvent} {document : Url}

/-- A document that is opened last is not changed since. -/
theorem changedSince_opened (opened : last.opened? = some document) (count : Nat) :
    ChangedSince (log ++ [last]) document count ↔ count = 0 := by
  constructor
  · rintro ⟨before, opening, later, split, -, none, rfl⟩
    rcases split_append split with ⟨rfl, -, -⟩ | ⟨rest, rfl, -⟩
    · rfl
    · exact absurd opened (none last (by simp)).1
  · rintro rfl
    exact ⟨log, last, [], rfl, opened, by simp, rfl⟩

/-- A document that is closed last is not open. -/
theorem not_changedSince_closed (unopened : last.opened? ≠ some document)
    (closed : last.closed? = some document) (count : Nat) :
    ¬ ChangedSince (log ++ [last]) document count := by
  rintro ⟨before, opening, later, split, opened, none, -⟩
  rcases split_append split with ⟨-, rfl, -⟩ | ⟨rest, rfl, -⟩
  · exact unopened opened
  · exact (none last (by simp)).2 closed

/-- What neither opens nor closes a document counts if it changes the document. -/
theorem changedSince_append (unopened : last.opened? ≠ some document)
    (unclosed : last.closed? ≠ some document) (count : Nat) :
    ChangedSince (log ++ [last]) document count ↔
      ∃ earlier, ChangedSince log document earlier ∧
        count = earlier + if last.changed? = some document then 1 else 0 := by
  constructor
  · rintro ⟨before, opening, later, split, opened, none, rfl⟩
    rcases split_append split with ⟨-, rfl, -⟩ | ⟨rest, rfl, whole⟩
    · exact absurd opened unopened
    · refine ⟨_, ⟨before, opening, rest, whole, opened, ?_, rfl⟩, ?_⟩
      · intro event member
        exact none event (List.mem_append_left _ member)
      · simp [List.countP_append, List.countP_singleton]
  · rintro ⟨earlier, ⟨before, opening, later, rfl, opened, none, rfl⟩, rfl⟩
    refine ⟨before, opening, later ++ [last], by simp, opened, ?_, ?_⟩
    · rw [List.forall_mem_append, List.forall_mem_singleton]
      exact ⟨none, unopened, unclosed⟩
    · simp [List.countP_append, List.countP_singleton]

/-- What every run keeps: versions are those of the history, and of the last notice. -/
structure Recorded (transport : Transport σ) (run : DocumentRun σ) : Prop where
  /-- The connection works. -/
  working : transport.Working run.session.state
  /-- A document has the version of its changes since it was opened. -/
  tracked : ∀ document version,
    run.version? document = some version ↔ ChangedSince run.log document version
  /-- It is the version that the server was sent last. -/
  sent : ∀ document version,
    run.version? document = some version → LastSent run.log document version

/-- A call keeps the versions those of the history. -/
theorem recorded_next (run : DocumentRun σ) (call : DocumentCall)
    (recorded : Recorded transport run) : Recorded transport (run.next transport call) := by
  have does : Does transport run.session (run.eventOf transport call).call
      (run.next transport call).session (run.eventOf transport call).handed
      (run.eventOf transport call).result := does run recorded.working call
  have becomes (document : Url) : (run.next transport call).version? document = _ :=
    does.version? document
  have log : (run.next transport call).log = run.log ++ [run.eventOf transport call] := rfl
  generalize run.eventOf transport call = last at does becomes log
  generalize run.next transport call = after at does becomes log
  constructor
  · exact does.working recorded.working
  · intro document version
    rw [becomes, log]
    by_cases opened : last.opened? = some document
    · rw [if_pos opened, changedSince_opened opened, Option.some_inj, eq_comm]
    · by_cases closed : last.closed? = some document
      · rw [if_neg opened, if_pos closed]
        refine iff_of_false nofun (not_changedSince_closed opened closed version)
      · rw [if_neg opened, if_neg closed, changedSince_append opened closed,
          Option.map_eq_some_iff]
        constructor
        · rintro ⟨earlier, isOpen, rfl⟩
          exact ⟨earlier, (recorded.tracked document earlier).mp isOpen, rfl⟩
        · rintro ⟨earlier, since, rfl⟩
          exact ⟨earlier, (recorded.tracked document earlier).mpr since, rfl⟩
  · intro document version
    rw [becomes, log]
    intro isOpen
    by_cases opened : last.opened? = some document
    · rw [if_pos opened] at isOpen
      obtain rfl := Option.some.inj isOpen
      exact ⟨run.log, last, [], rfl, does.sends_opened opened, by simp⟩
    · by_cases closed : last.closed? = some document
      · rw [if_neg opened, if_pos closed] at isOpen
        cases isOpen
      · rw [if_neg opened, if_neg closed, Option.map_eq_some_iff] at isOpen
        obtain ⟨earlier, before, rfl⟩ := isOpen
        by_cases changed : last.changed? = some document
        · rw [if_pos changed]
          exact ⟨run.log, last, [], rfl, does.sends_changed before changed, by simp⟩
        · rw [if_neg changed]
          obtain ⟨front, sent, later, whole, sends, others⟩ := recorded.sent document earlier before
          refine ⟨front, sent, later ++ [last], by simp [whole], sends, ?_⟩
          rw [List.forall_mem_append, List.forall_mem_singleton]
          exact ⟨others, opened, closed, changed⟩

/-- Calls keep the versions those of the history. -/
theorem recorded_follow (run : DocumentRun σ) (calls : List DocumentCall)
    (recorded : Recorded transport run) : Recorded transport (run.follow transport calls) := by
  induction calls generalizing run with
  | nil => exact recorded
  | cons call rest ih =>
    exact ih (run.next transport call) (recorded_next run call recorded)

/-- A run begins with no version and no history. -/
theorem recorded_start {session : Session σ} (working : transport.Working session.state) :
    Recorded transport (start session) := by
  constructor
  · exact working
  · intro document version
    refine iff_of_false nofun ?_
    rintro ⟨before, opening, later, split, -⟩
    simp [start] at split
  · intro document version isOpen
    cases isOpen

/-! ## Every run -/

section
variable {disk : Disk} {path : Path} {text : String} {handed : List Handed}
  {result : Except LspError Unit}

/-- A new text is sent for an open document, or nothing is done. -/
theorem Does.changing
    (does : Does transport session ⟨disk, path, .changing text⟩ after handed result) :
    (∃ document version, disk.urlOf path = .ok document ∧
        session.documents.version? document = some version ∧
        handed = [.notice (changeNotice document (version + 1) text)] ∧ result = .ok ()) ∨
      (∀ document, disk.urlOf path = .ok document →
          session.documents.version? document = none) ∧
        after = session ∧ handed = [] ∧
        ∃ reason, result = .error (.documentNotFound reason) := by
  cases does with
  | changed _ _ _ document version leads isOpen =>
    exact .inl ⟨document, version, leads, isOpen, rfl, rfl⟩
  | unchanged _ _ _ reason absent => exact .inr ⟨absent, rfl, rfl, reason, rfl⟩

/-- A file that can be read is sent. -/
theorem Does.opening {document : Url}
    (does : Does transport session ⟨disk, path, .opening⟩ after handed result)
    (read : readDocument disk path = .ok (document, text)) :
    result = .ok () ∧ handed = [.notice (openNotice document (languageId path) text)] ∧
      after.documents.version? document = some 0 := by
  cases does with
  | opened _ _ other inside readToo =>
    obtain ⟨rfl, rfl⟩ := Prod.mk.inj (Except.ok.inj (read.symm.trans readToo))
    exact ⟨rfl, rfl, by simp⟩
  | unread _ _ cause readToo =>
    rw [read] at readToo
    cases readToo

/-- Nothing is done with a file that cannot be read. -/
theorem Does.unopened {cause : LspError}
    (does : Does transport session ⟨disk, path, .opening⟩ after handed result)
    (read : readDocument disk path = .error cause) :
    result = .error cause ∧ handed = [] ∧ after = session := by
  cases does with
  | opened _ _ other inside readToo =>
    rw [read] at readToo
    cases readToo
  | unread _ _ other readToo =>
    obtain rfl := Except.error.inj (read.symm.trans readToo)
    exact ⟨rfl, rfl, rfl⟩

/-- The documents that a call is not about keep their versions. -/
theorem Does.apart {call : DocumentCall} (does : Does transport session call after handed result)
    {document : Url} (other : call.target? ≠ some document) :
    after.documents.version? document = session.documents.version? document := by
  rw [ne_eq, DocumentCall.target?_eq_some_iff] at other
  cases does with
  | opened disk path opened text read =>
    have different : opened ≠ document := by
      rintro rfl
      exact other (urlOf_of_readDocument read)
    simp [different]
  | changed disk path text changed version leads isOpen =>
    have different : changed ≠ document := by
      rintro rfl
      exact other leads
    simp [different]
  | closed disk path closed leads =>
    have different : closed ≠ document := by
      rintro rfl
      exact other leads
    simp [different]
  | _ => rfl

end

/-- Over a connection that takes every notice, whatever is opened, changed and closed, the version
of a document is the number of its changes since it was opened, and the server was sent it last. -/
theorem versions_follow_history (session : Session σ)
    (working : transport.Working session.state) (calls : List DocumentCall) :
    Versioned transport ((start session).follow transport calls) := by
  have recorded := recorded_follow _ calls (recorded_start working)
  generalize (start session).follow transport calls = run at recorded ⊢
  constructor
  · exact recorded.tracked
  · exact recorded.sent
  · intro disk path text
    constructor
    · intro done
      rcases (does run recorded.working ⟨disk, path, .changing text⟩).changing with
        ⟨document, version, leads, isOpen, -⟩ | ⟨-, -, -, reason, failed⟩
      · exact ⟨document, version, leads, isOpen⟩
      · rw [failed] at done
        cases done
    · rintro ⟨document, version, leads, isOpen⟩
      rcases (does run recorded.working ⟨disk, path, .changing text⟩).changing with
        ⟨-, -, -, -, -, done⟩ | ⟨absent, -⟩
      · exact done
      · have missing : run.version? document = none := absent document leads
        rw [missing] at isOpen
        cases isOpen
  · intro disk path text document version leads isOpen
    rcases (does run recorded.working ⟨disk, path, .changing text⟩).changing with
      ⟨other, before, leadsToo, isOpenToo, handed, -⟩ | ⟨absent, -⟩
    · obtain rfl := Except.ok.inj (leads.symm.trans leadsToo)
      obtain rfl := Option.some.inj (isOpen.symm.trans isOpenToo)
      exact handed
    · have missing : run.version? document = none := absent document leads
      rw [missing] at isOpen
      cases isOpen
  · intro disk path text failed
    rcases (does run recorded.working ⟨disk, path, .changing text⟩).changing with
      ⟨-, -, -, -, -, done⟩ | ⟨-, kept, handed, reason, missing⟩
    · exact absurd done failed
    · exact ⟨⟨reason, missing⟩, handed, kept⟩
  · intro disk path document text read
    exact (does run recorded.working ⟨disk, path, .opening⟩).opening read
  · intro disk path cause read
    exact (does run recorded.working ⟨disk, path, .opening⟩).unopened read
  · intro call document other
    exact (does run recorded.working call).apart other

end DocumentRun

/-! ## A server without a script -/

/-- No notice about a document ends the server. -/
theorem AboutDocument.method_ne {call : Call} (about : AboutDocument call) :
    call.method ≠ "exit" := by
  cases about <;> simp [Documents.openNotice, Documents.changeNotice, Documents.closeNotice]

namespace Connection

/-- A quiet connection takes every notice about documents. -/
theorem Quiet.working {connection : Connection} (quiet : connection.Quiet) :
    transport.Working connection := by
  intro before call documents about
  have still : (before.foldl (fun state notice => (transport.tell notice state).1)
      connection).Quiet := by
    induction before generalizing connection with
    | nil => exact quiet
    | cons notice rest ih =>
      obtain ⟨first, others⟩ := List.forall_mem_cons.mp documents
      exact ih (quiet.tell first.method_ne).2 others
  exact (still.tell about.method_ne).1

end Connection

namespace DocumentRun

/-- A session with a server that has no script. -/
def idle : Session Connection := ⟨.start .empty, .ofSeconds 0, .null, .empty⟩

/-- A document is opened under two paths and changed once, then twice. -/
def reopened : List DocumentCall :=
  let disk := (Disk.bare []).install (Path.ofString "/a.rc") (.file [])
  [⟨disk, Path.ofString "/a.rc", .opening⟩, ⟨disk, Path.ofString "/a.rc", .changing "x"⟩,
    ⟨disk, Path.ofString "/./a.rc", .opening⟩, ⟨disk, Path.ofString "/a.rc", .changing "y"⟩,
    ⟨disk, Path.ofString "/./a.rc", .changing "z"⟩]

/-- The document that is opened again has the version of its two later changes. -/
theorem versions_follow_history_reopened :
    Connection.transport.Working idle.state ∧ ∀ call ∈ reopened, ∃ document,
      call.target? = some document ∧
        ChangedSince ((start idle).follow Connection.transport reopened).log document 2 := by
  have working : Connection.transport.Working idle.state := Connection.quiet_start.working
  refine ⟨working, ?_⟩
  have versions : ∀ call ∈ reopened, (call.target?.bind
      ((start idle).follow Connection.transport reopened).version?) = some 2 := by decide +kernel
  intro call member
  obtain ⟨document, target, version⟩ := Option.bind_eq_some_iff.mp (versions call member)
  exact ⟨document, target,
    ((versions_follow_history idle working reopened).tracked document 2).mp version⟩

end DocumentRun

end LanguageClient.Server
