import LanguageClient.Proofs.DocumentVersions
import LanguageClient.Proofs.Entries

/-!
# Notices about documents

Of a document the server hears that it was opened, that it has a new text, and that it was closed.
It can make sense of these words only if a document is opened while it is closed, and changed and
closed while it is open. The client watches over changes alone: `balanced_iff` says that the words
about a document make sense exactly if it was never opened or closed at the wrong time, and that
no change is ever told at the wrong time.
-/

namespace LanguageClient.Server

/-- What the server hears of a document. -/
inductive DocumentWord
  /-- It was opened. -/
  | opened
  /-- It has a new text. -/
  | changed
  /-- It was closed. -/
  | closed
deriving Repr, DecidableEq

namespace DocumentWord

/-- The word that a method stands for. -/
def ofMethod? (method : String) : Option DocumentWord :=
  if method = "textDocument/didOpen" then some .opened
  else if method = "textDocument/didChange" then some .changed
  else if method = "textDocument/didClose" then some .closed
  else none

/-- The URI of the document that a payload names. -/
def uri? (params : Json) : Option Json :=
  (params.get? "textDocument").bind fun document => document.get? "uri"

/-- What the server hears of the document with a URI from one thing that it is handed. -/
def about? (uri : String) : Handed → Option DocumentWord
  | .question _ => none
  | .notice call => if uri? call.params = some (.str uri) then ofMethod? call.method else none

/-- The word makes sense of a document that is open, or of one that is not. -/
def Fits (isOpen : Bool) : DocumentWord → Prop
  | .opened => isOpen = false
  | .changed | .closed => isOpen = true

/-- Whether the document is open after the word. -/
def leaves (isOpen : Bool) : DocumentWord → Bool
  | .opened => true
  | .changed => isOpen
  | .closed => false

end DocumentWord

/-- Whether a document is open after some words. -/
def openAfter (words : List DocumentWord) : Bool := words.foldl DocumentWord.leaves false

/-- Every word makes sense after the words before it. -/
def Balanced (words : List DocumentWord) : Prop :=
  ∀ before word after, words = before ++ word :: after → word.Fits (openAfter before)

/-- What the server hears of the document with a URI, in order. -/
def heard (uri : String) (log : List DocumentEvent) : List DocumentWord :=
  (log.flatMap DocumentEvent.handed).filterMap (DocumentWord.about? uri)

/-- The document with a URI was opened. -/
def DocumentEvent.Opens (uri : String) (event : DocumentEvent) : Prop :=
  event.opened?.map Url.render = some uri

/-- The document with a URI was closed. -/
def DocumentEvent.Closes (uri : String) (event : DocumentEvent) : Prop :=
  event.closed?.map Url.render = some uri

namespace DocumentRun

/-- The last time that the document with a URI was opened, it was not closed later. -/
def IsOpen (uri : String) (log : List DocumentEvent) : Prop :=
  ∃ before opening after, log = before ++ opening :: after ∧ opening.Opens uri ∧
    ∀ later ∈ after, ¬ later.Opens uri ∧ ¬ later.Closes uri

/-- The document with a URI was opened only while it was not open, and closed only while it was. -/
structure Careful (uri : String) (log : List DocumentEvent) : Prop where
  /-- A document is opened only while it is not open. -/
  opening : ∀ before event after, log = before ++ event :: after → event.Opens uri →
    ¬ IsOpen uri before
  /-- It is closed only while it is open. -/
  closing : ∀ before event after, log = before ++ event :: after → event.Closes uri →
    IsOpen uri before

end DocumentRun

/-! ## Words on the wire -/

namespace DocumentWord

variable (uri : String) (document : Url)

/-- The opening of a document is heard of that document. -/
theorem about?_openNotice (language text : String) :
    about? uri (.notice (Documents.openNotice document language text)) =
      if document.render = uri then some .opened else none := by
  have named : uri? (Documents.openNotice document language text).params =
      some (.str document.render) := by
    simp [uri?, Documents.openNotice, Json.get?_object, Json.entry?, Form.url]
  rw [about?, named]
  simp [Documents.openNotice, ofMethod?]

/-- The new text of a document is heard of that document. -/
theorem about?_changeNotice (version : Nat) (text : String) :
    about? uri (.notice (Documents.changeNotice document version text)) =
      if document.render = uri then some .changed else none := by
  have named : uri? (Documents.changeNotice document version text).params =
      some (.str document.render) := by
    simp [uri?, Documents.changeNotice, Json.get?_object, Json.entry?, Form.url]
  rw [about?, named]
  simp [Documents.changeNotice, ofMethod?]

/-- The closing of a document is heard of that document. -/
theorem about?_closeNotice :
    about? uri (.notice (Documents.closeNotice document)) =
      if document.render = uri then some .closed else none := by
  have named : uri? (Documents.closeNotice document).params = some (.str document.render) := by
    simp [uri?, Documents.closeNotice, Json.get?_object, Json.entry?, Form.url]
  rw [about?, named]
  simp [Documents.closeNotice, ofMethod?]

end DocumentWord

/-! ## One call -/

/-- The text of the URL of a place ends in the path of the place. -/
theorem render_url (place : Place) : place.url.render = "file://" ++ place.url.path := by
  simp [Url.render, Place.url, Authority.render, Host.render]

/-- Documents on disk that have one URI are one document. -/
theorem target?_inj {call other : DocumentCall} {document second : Url}
    (target : call.target? = some document) (targetToo : other.target? = some second)
    (same : document.render = second.render) : document = second := by
  rw [DocumentCall.target?_eq_some_iff] at target targetToo
  unfold Disk.urlOf at target targetToo
  split at target
  · rename_i place _ _
    split at targetToo
    · rename_i placeToo _ _
      obtain rfl := Except.ok.inj target
      obtain rfl := Except.ok.inj targetToo
      rw [render_url, render_url] at same
      have path : place.url.path = placeToo.url.path := String.append_right_inj _ |>.mp same
      -- the URLs of places differ in their paths alone
      exact congrArg (Url.mk "file" (some ⟨"", none, .name "", none⟩) · none none) path
    · cases targetToo
  · cases target

namespace DocumentEvent

variable {event : DocumentEvent} {uri : String}

/-- The document that was opened is the one at the path. -/
theorem target?_of_opened? {document : Url} (opened : event.opened? = some document) :
    event.call.target? = some document := by
  unfold opened? at opened
  split at opened
  · exact opened
  · cases opened

/-- The document that was closed is the one at the path. -/
theorem target?_of_closed? {document : Url} (closed : event.closed? = some document) :
    event.call.target? = some document := by
  unfold closed? at closed
  split at closed
  · exact closed
  · cases closed

/-- What opens a document closes none. -/
theorem Opens.not_closes (opens : event.Opens uri) : ¬ event.Closes uri := by
  intro closes
  unfold Opens opened? at opens
  unfold Closes closed? at closes
  split at opens
  · rename_i opening _
    simp [opening] at closes
  · cases opens

end DocumentEvent

namespace DocumentRun

open Documents

variable {σ : Type} {transport : Transport σ} {session after : Session σ} {event : DocumentEvent}
  {log : List DocumentEvent} {uri : String}

/-- What the server hears of a document from a call: that it was opened or closed, if it was, or
that it has a new text, if it is open; or nothing. -/
theorem Does.heard (does : Does transport session event.call after event.handed event.result)
    (uri : String) :
    event.Opens uri ∧ Server.heard uri [event] = [.opened] ∨
      event.Closes uri ∧ Server.heard uri [event] = [.closed] ∨
      ¬ event.Opens uri ∧ ¬ event.Closes uri ∧
        (Server.heard uri [event] = [] ∨
          Server.heard uri [event] = [.changed] ∧ ∃ document version,
            document.render = uri ∧ session.documents.version? document = some version) := by
  obtain ⟨call, handed, result⟩ := event
  cases does with
  | opened disk path document text read =>
    have leads := urlOf_of_readDocument read
    by_cases same : document.render = uri
    · left
      simp [DocumentEvent.Opens, DocumentEvent.opened?, leads, Server.heard,
        DocumentWord.about?_openNotice, same]
    · right; right
      simp [DocumentEvent.Opens, DocumentEvent.opened?, DocumentEvent.Closes,
        DocumentEvent.closed?, leads, Server.heard, DocumentWord.about?_openNotice, same]
  | unread disk path cause read =>
    right; right
    simp [DocumentEvent.Opens, DocumentEvent.opened?, DocumentEvent.Closes, DocumentEvent.closed?,
      Server.heard]
  | changed disk path text document version leads isOpen =>
    right; right
    by_cases same : document.render = uri
    · refine ⟨by simp [DocumentEvent.Opens, DocumentEvent.opened?],
        by simp [DocumentEvent.Closes, DocumentEvent.closed?], .inr ⟨?_, document, version, same,
          isOpen⟩⟩
      simp [Server.heard, DocumentWord.about?_changeNotice, same]
    · simp [DocumentEvent.Opens, DocumentEvent.opened?, DocumentEvent.Closes,
        DocumentEvent.closed?, Server.heard, DocumentWord.about?_changeNotice, same]
  | unchanged disk path text reason absent =>
    right; right
    simp [DocumentEvent.Opens, DocumentEvent.opened?, DocumentEvent.Closes, DocumentEvent.closed?,
      Server.heard]
  | closed disk path document leads =>
    by_cases same : document.render = uri
    · right; left
      simp [DocumentEvent.Closes, DocumentEvent.closed?, leads, Server.heard,
        DocumentWord.about?_closeNotice, same]
    · right; right
      simp [DocumentEvent.Opens, DocumentEvent.opened?, DocumentEvent.Closes,
        DocumentEvent.closed?, leads, Server.heard, DocumentWord.about?_closeNotice, same]
  | unclosed disk path cause leads =>
    right; right
    simp [DocumentEvent.Opens, DocumentEvent.opened?, DocumentEvent.Closes, DocumentEvent.closed?,
      Server.heard]

/-! ## The history of a document -/

/-- A document is open after a call that opens it, or if it was open and the call does not close
it. -/
theorem isOpen_append : IsOpen uri (log ++ [event]) ↔
    event.Opens uri ∨ ¬ event.Closes uri ∧ IsOpen uri log := by
  constructor
  · rintro ⟨before, opening, later, split, opens, others⟩
    rcases split_append split with ⟨-, rfl, -⟩ | ⟨rest, rfl, whole⟩
    · exact .inl opens
    · refine .inr ⟨(others event (by simp)).2, before, opening, rest, whole, opens, ?_⟩
      intro between member
      exact others between (List.mem_append_left _ member)
  · rintro (opens | ⟨stays, before, opening, later, rfl, opens, others⟩)
    · exact ⟨log, event, [], rfl, opens, nofun⟩
    · by_cases again : event.Opens uri
      · exact ⟨_, event, [], rfl, again, nofun⟩
      · refine ⟨before, opening, later ++ [event], by simp, opens, ?_⟩
        rw [List.forall_mem_append, List.forall_mem_singleton]
        exact ⟨others, again, stays⟩

/-- Calls are careful if those before were, and the last one fits what they left open. -/
theorem careful_append : Careful uri (log ++ [event]) ↔
    Careful uri log ∧ (event.Opens uri → ¬ IsOpen uri log) ∧
      (event.Closes uri → IsOpen uri log) := by
  constructor
  · intro careful
    obtain ⟨opening, opensNow⟩ := forall_split_append.mp careful.opening
    obtain ⟨closing, closesNow⟩ := forall_split_append.mp careful.closing
    exact ⟨⟨opening, closing⟩, opensNow, closesNow⟩
  · rintro ⟨careful, opensNow, closesNow⟩
    exact ⟨forall_split_append.mpr ⟨careful.opening, opensNow⟩,
      forall_split_append.mpr ⟨careful.closing, closesNow⟩⟩

/-- A document that has a version is open. -/
theorem isOpen_of_changedSince {document : Url} {count : Nat}
    (since : ChangedSince log document count) : IsOpen document.render log := by
  obtain ⟨before, opening, later, whole, opened, others, -⟩ := since
  have target := DocumentEvent.target?_of_opened? opened
  refine ⟨before, opening, later, whole, by rw [DocumentEvent.Opens, opened, Option.map_some], ?_⟩
  intro between member
  obtain ⟨unopened, unclosed⟩ := others between member
  constructor
  · intro opens
    obtain ⟨other, openedToo, same⟩ := Option.map_eq_some_iff.mp opens
    have one := target?_inj (DocumentEvent.target?_of_opened? openedToo) target same
    exact unopened (one ▸ openedToo)
  · intro closes
    obtain ⟨other, closedToo, same⟩ := Option.map_eq_some_iff.mp closes
    have one := target?_inj (DocumentEvent.target?_of_closed? closedToo) target same
    exact unclosed (one ▸ closedToo)

end DocumentRun

/-! ## The words about a document -/

section
variable {words : List DocumentWord} {word : DocumentWord}

/-- The last word tells whether the document is open. -/
theorem openAfter_append : openAfter (words ++ [word]) = word.leaves (openAfter words) :=
  List.foldl_concat ..

/-- Words are balanced if those before are, and the last one fits what they leave. -/
theorem balanced_append :
    Balanced (words ++ [word]) ↔ Balanced words ∧ word.Fits (openAfter words) :=
  forall_split_append

/-- Changes are told of open documents only. -/
def ChangesFit (words : List DocumentWord) : Prop :=
  ∀ before after, words = before ++ .changed :: after → openAfter before = true

/-- Changes go on to fit if a last change is told of an open document. -/
theorem changesFit_append (fit : ChangesFit words)
    (last : word = .changed → openAfter words = true) : ChangesFit (words ++ [word]) := by
  intro before later split
  rcases split_append split with ⟨-, rfl, rfl⟩ | ⟨rest, rfl, whole⟩
  · exact last rfl
  · exact fit before rest whole

end

/-- The server hears of a document what it heard before, and then what the last event brings. -/
theorem heard_append (uri : String) (log : List DocumentEvent) (event : DocumentEvent) :
    heard uri (log ++ [event]) = heard uri log ++ heard uri [event] := by
  simp [heard]

namespace DocumentRun

variable {σ : Type} {transport : Transport σ}

/-- What every run keeps about the words that the server hears of a document. -/
structure Understood (transport : Transport σ) (uri : String) (run : DocumentRun σ) : Prop where
  /-- The versions are those of the history. -/
  recorded : Recorded transport run
  /-- The server knows whether the document is open. -/
  isOpen : openAfter (heard uri run.log) = true ↔ IsOpen uri run.log
  /-- The words are balanced exactly if the calls were careful. -/
  balanced : Balanced (heard uri run.log) ↔ Careful uri run.log
  /-- Changes are told of open documents only. -/
  changes : ChangesFit (heard uri run.log)

/-- A call keeps what is known of the words that the server hears. -/
theorem understood_next {uri : String} (run : DocumentRun σ) (call : DocumentCall)
    (understood : Understood transport uri run) :
    Understood transport uri (run.next transport call) := by
  have recorded := understood.recorded
  have does : Does transport run.session (run.eventOf transport call).call
      (run.next transport call).session (run.eventOf transport call).handed
      (run.eventOf transport call).result := does run recorded.working call
  have grown : (run.next transport call).log = run.log ++ [run.eventOf transport call] := rfl
  have hears := does.heard uri
  have knows := understood.isOpen
  refine ⟨recorded_next run call recorded, ?_, ?_, ?_⟩ <;>
    rw [grown, heard_append] <;> generalize run.eventOf transport call = event at hears
  · rw [isOpen_append]
    rcases hears with ⟨opens, word⟩ | ⟨closes, word⟩ | ⟨unopened, unclosed, word | ⟨word, -⟩⟩ <;>
      rw [word]
    · simp [openAfter_append, DocumentWord.leaves, opens]
    · have unopened : ¬ event.Opens uri := fun opens => opens.not_closes closes
      simp [openAfter_append, DocumentWord.leaves, closes, unopened]
    · simpa [unopened, unclosed] using knows
    · simpa [openAfter_append, DocumentWord.leaves, unopened, unclosed] using knows
  · rw [careful_append, ← understood.balanced, ← knows]
    rcases hears with ⟨opens, word⟩ | ⟨closes, word⟩ |
      ⟨unopened, unclosed, word | ⟨word, document, version, rfl, tracked⟩⟩ <;> rw [word]
    · simp [balanced_append, DocumentWord.Fits, opens, opens.not_closes]
    · have unopened : ¬ event.Opens uri := fun opens => opens.not_closes closes
      simp [balanced_append, DocumentWord.Fits, closes, unopened]
    · simp [unopened, unclosed]
    · have isOpen := isOpen_of_changedSince ((recorded.tracked document version).mp tracked)
      simp [balanced_append, DocumentWord.Fits, unopened, unclosed, knows.mpr isOpen]
  · rcases hears with ⟨-, word⟩ | ⟨-, word⟩ |
      ⟨-, -, word | ⟨word, document, version, rfl, tracked⟩⟩ <;> rw [word]
    · exact changesFit_append understood.changes nofun
    · exact changesFit_append understood.changes nofun
    · rw [List.append_nil]
      exact understood.changes
    · have isOpen := isOpen_of_changedSince ((recorded.tracked document version).mp tracked)
      exact changesFit_append understood.changes fun _ => knows.mpr isOpen

/-- Calls keep what is known of the words that the server hears. -/
theorem understood_follow {uri : String} (run : DocumentRun σ) (calls : List DocumentCall)
    (understood : Understood transport uri run) :
    Understood transport uri (run.follow transport calls) := by
  induction calls generalizing run with
  | nil => exact understood
  | cons call rest ih =>
    exact ih (run.next transport call) (understood_next run call understood)

/-- A run begins with a server that has heard nothing. -/
theorem understood_start {uri : String} {session : Session σ}
    (working : transport.Working session.state) : Understood transport uri (start session) := by
  refine ⟨recorded_start working, ?_, ?_, ?_⟩
  · simp [start, heard, openAfter, IsOpen]
  · refine iff_of_true ?_ ⟨?_, ?_⟩ <;> simp [start, heard, Balanced]
  · simp [start, heard, ChangesFit]

/-- Over a connection that takes every notice, whatever is opened, changed and closed, what the
server hears of a document makes sense throughout if and only if the document was opened only
while it was not open and closed only while it was. Changes alone always make sense: the server
hears of one only while the document is open. -/
theorem balanced_iff (session : Session σ) (working : transport.Working session.state)
    (calls : List DocumentCall) (uri : String) :
    (Balanced (heard uri ((start session).follow transport calls).log) ↔
        Careful uri ((start session).follow transport calls).log) ∧
      ChangesFit (heard uri ((start session).follow transport calls).log) := by
  have understood : Understood transport uri ((start session).follow transport calls) :=
    understood_follow _ calls (understood_start working)
  exact ⟨understood.balanced, understood.changes⟩

/-- Several things are done with one document. -/
def deeds (deeds : List Deed) : List DocumentCall :=
  let disk := (Disk.bare []).install (Path.ofString "/a.rc") (.file [])
  deeds.map fun deed => ⟨disk, Path.ofString "/a.rc", deed⟩

/-- A document that is opened twice, and not closed in between, is not dealt with carefully: the
server hears two openings in a row. -/
theorem balanced_iff_openedTwice :
    Connection.transport.Working idle.state ∧
      ¬ Careful "file:///a.rc"
        ((start idle).follow Connection.transport
          (deeds [.opening, .changing "x", .opening])).log := by
  have working : Connection.transport.Working idle.state := Connection.quiet_start.working
  have words : heard "file:///a.rc" ((start idle).follow Connection.transport
      (deeds [.opening, .changing "x", .opening])).log = [.opened, .changed, .opened] := by
    decide +kernel
  refine ⟨working, ?_⟩
  rw [← (balanced_iff idle working _ _).1, words]
  intro balanced
  cases balanced [.opened, .changed] .opened [] rfl

/-- What the server hears of a document does not always make sense: a document that is closed twice
is told to be closed twice. -/
theorem closedTwice_unbalanced :
    ¬ ∀ (session : Session Connection), Connection.transport.Working session.state →
      ∀ calls uri,
        Balanced (heard uri ((start session).follow Connection.transport calls).log) := by
  intro always
  have balanced := always idle Connection.quiet_start.working
    (deeds [.opening, .closing, .closing]) "file:///a.rc"
  have words : heard "file:///a.rc" ((start idle).follow Connection.transport
      (deeds [.opening, .closing, .closing])).log = [.opened, .closed, .closed] := by
    decide +kernel
  rw [words] at balanced
  cases balanced [.opened, .closed] .closed [] rfl

end DocumentRun

end LanguageClient.Server
