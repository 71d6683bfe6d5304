import LanguageClient.Proofs.Dealings
import LanguageClient.Proofs.DisposedViews
import LanguageClient.Proofs.DocumentVersions
import LanguageClient.Proofs.Fetch
import LanguageClient.Proofs.Panels

/-!
# What an action hands over

Between the greeting and the farewell of a session stands what its action hands over. `Conversation`
lists the plans of all actions; `keeps_act` shows that an action carries out one of them.
-/

namespace LanguageClient.CommandLine

open Server (Transport Session Dealing Goes Handed childrenCall)
open Server.Session (callOf)
open Server.Documents (openNotice readDocument)

/-- The plan of an action, when some views are there, and whether it is the whole of it. An action
gives up when its file cannot be read, its place is none, or its view is not there. -/
inductive Conversation (disk : Disk) (views : List String) :
    Action → List (List Handed) → Bool → Prop
  /-- The document is opened and its listing is asked for. -/
  | preview (file : Path) (out : Option Path) (document : Url) (text : String)
      (read : readDocument disk file = .ok (document, text)) :
      Conversation disk views (.preview file out)
        [[.notice (openNotice document (languageId file) text)],
          [.question (callOf (.preview document))]] true
  /-- The document of a preview cannot be read. -/
  | previewUnread (file : Path) (out : Option Path) (cause : LspError)
      (read : readDocument disk file = .error cause) :
      Conversation disk views (.preview file out) [] false
  /-- The children of nodes are asked for, those of one level at once. -/
  | tree (view : String) (depth : Nat) (levels : List (List (Option String)))
      (known : view ∈ views) :
      Conversation disk views (.tree view depth)
        (levels.map fun level => level.map fun parent => .question (childrenCall view parent)) true
  /-- The view is not there. -/
  | treeUnknown (view : String) (depth : Nat) (unknown : view ∉ views) :
      Conversation disk views (.tree view depth) [] false
  /-- The document is opened and a node for the place is asked for. -/
  | reveal (file : Path) (line column : UInt32) (document : Url) (text : String)
      (position : Position) (read : readDocument disk file = .ok (document, text))
      (placed : Position.ofLineColumn? line column = some position) :
      Conversation disk views (.reveal file line column)
        [[.notice (openNotice document (languageId file) text)],
          [.question (callOf (.reveal ⟨document, position⟩))]] true
  /-- The document is opened, but the place is none. -/
  | revealMisplaced (file : Path) (line column : UInt32) (document : Url) (text : String)
      (read : readDocument disk file = .ok (document, text))
      (misplaced : Position.ofLineColumn? line column = none) :
      Conversation disk views (.reveal file line column)
        [[.notice (openNotice document (languageId file) text)]] false
  /-- The document of a place cannot be read. -/
  | revealUnread (file : Path) (line column : UInt32) (cause : LspError)
      (read : readDocument disk file = .error cause) :
      Conversation disk views (.reveal file line column) [] false
  /-- Nothing is handed over. -/
  | run : Conversation disk views .run [] true

variable {σ : Type} {transport : Transport σ} {fair : σ → Prop}

namespace Stage

variable (stage : Stage (σ × List Dealing)) {operation : Operation}

/-- An operation that is done at once and tells nothing leaves the session as it is. -/
theorem perform_of_done (transport : Transport σ) (stage : Stage σ) {answer : Answer}
    (done : (stage.client.issue stage.surroundings operation).outcome = .done answer)
    (silent : (stage.client.issue stage.surroundings operation).notices = []) :
    (stage.perform transport operation).1.session = stage.session ∧
      (stage.perform transport operation).2 = answer := by
  simp only [perform, take, done, silent, List.foldl_nil, and_self]

/-- Events of the server ask and tell the server nothing. -/
theorem perform_serverEvents (transport : Transport σ) (stage : Stage σ)
    (events : List ServerEvent) :
    (stage.perform transport (.serverEvents events)).1.session = stage.session :=
  And.left (perform_of_done transport stage rfl rfl)

/-- Deactivation asks and tells the server nothing. -/
theorem perform_deactivate (transport : Transport σ) (stage : Stage σ) :
    (stage.perform transport .deactivate).1.session = stage.session :=
  And.left (perform_of_done transport stage rfl rfl)

/-- An operation that asks a question ends with what the client makes of the reply. -/
theorem perform_of_waits (transport : Transport σ) {stage : Stage σ}
    {begun : Client} {request : LanguageClient.Request} {pending : Pending}
    (asks : stage.client.issue stage.surroundings operation = begun.waits request pending) :
    let asked := stage.session.ask transport request
    let turn := begun.arrive stage.surroundings pending asked.2
    stage.perform transport operation =
      (⟨asked.1, turn.state, stage.terminal.performAll turn.calls⟩, turn.outcome) := by
  simp only [perform, asks]
  simp only [take, Client.notices_arrive]
  rfl

/-- A preview of a file at an address makes a panel and asks for its first page. -/
theorem issue_startPreview {ρ : Type} (stage : Stage ρ) {file : Path} {document : Url}
    (leads : stage.terminal.disk.urlOf file = .ok document) :
    stage.client.issue stage.surroundings (.command (.startPreview file)) =
      stage.client.opened stage.surroundings document := by
  have found : stage.surroundings.disk.urlOf file = .ok document := leads
  simp only [Client.issue, Client.startPreview, found]
  rfl

/-- An operation that asks a question carries it out, and answers with what comes of the reply. -/
theorem goes_perform (orderly : transport.Orderly fair) (isFair : fair stage.session.state.1)
    {begun : Client} {request : LanguageClient.Request} {pending : Pending}
    (asks : stage.client.issue stage.surroundings operation = begun.waits request pending) :
    ∃ world reply, Goes fair stage.session.state
        (stage.perform transport.logging operation).1.session.state
        [[.question (callOf request)]] reply.toBool ∧
      (stage.perform transport.logging operation).2 =
        (begun.arrive world pending reply).outcome := by
  have goes := Session.goes_question orderly request stage.session isFair
  rw [perform_of_waits transport.logging asks]
  exact ⟨_, (stage.session.ask transport.logging request).2, goes, rfl⟩

/-- A file that can be read is handed over, and nothing else changes. -/
theorem goes_openDocument (orderly : transport.Orderly fair) (isFair : fair stage.session.state.1)
    {file : Path} {document : Url} {text : String}
    (read : readDocument stage.terminal.disk file = .ok (document, text)) :
    Goes fair stage.session.state
        (stage.openDocument transport.logging file).1.session.state
        [[.notice (openNotice document (languageId file) text)]]
        (stage.openDocument transport.logging file).2.toBool ∧
      (∀ opened, (stage.openDocument transport.logging file).2 = .ok opened →
        opened = document) ∧
      (stage.openDocument transport.logging file).1.client = stage.client ∧
      (stage.openDocument transport.logging file).1.terminal = stage.terminal := by
  obtain ⟨goes, opened⟩ := Session.goes_openDocument orderly read stage.session isFair
  exact ⟨goes, opened, rfl, rfl⟩

/-- A place that is to be shown is always asked for. -/
theorem issue_reveal {ρ : Type} (stage : Stage ρ) (position : DocumentPosition) :
    stage.client.issue stage.surroundings (.reveal position) =
      stage.client.waits (.reveal position) .reveal := rfl

/-! ## Trees -/

/-- If the answers about a level are taken, all of them are fine. -/
theorem allFine_of_receiveAll {view : String} {views : Tree.Views}
    {replies : List (Nat × Except LspError Json)}
    (taken : (receiveAll view views replies).2.toBool = true) :
    Session.allFine replies = true := by
  induction replies generalizing views with
  | nil => rfl
  | cons reply rest ih =>
    obtain ⟨place, reply⟩ := reply
    simp only [receiveAll] at taken
    cases reply with
    | error cause => cases taken
    | ok value =>
      generalize views.receiveChildren view (Tree.childrenForm.ofReply (.ok value)) = received
        at taken
      obtain ⟨after, cause | uris⟩ := received
      · cases taken
      · have others : (receiveAll view after rest).2.toBool = true := by
          simp only at taken
          cases later : (receiveAll view after rest).2 with
          | error cause => simp [later, Except.map, Except.toBool] at taken
          | ok found => rfl
        exact ih others

/-- The questions about a level are those for the children of its nodes. -/
theorem eq_of_mapM_askChildren {views : Tree.Views} {view : String} {uris : List String}
    {requests : List LanguageClient.Request}
    (asks : (uris.mapM fun uri => views.askChildren view (some uri)) = .ok requests) :
    requests = uris.map fun uri => .children ⟨view, some uri⟩ := by
  by_cases live : views.isLive view = true
  · rw [mapM_askChildren view live] at asks
    exact (Except.ok.inj asks).symm
  · cases uris with
    | nil => exact (Except.ok.inj asks).symm
    | cons uri rest =>
      simp [Tree.Views.askChildren, Tree.Views.requireLive, live, Except.map, List.mapM_cons,
        bind, Except.bind] at asks

/-- Questions for children are asked, all those of one level at once; an action goes on only if
this goes well. -/
def AsksLevels (fair : σ → Prop) (view : String) (before after : σ × List Dealing)
    (success : Bool) : Prop :=
  ∃ (levels : List (List (Option String))) (whole : Bool), Goes fair before after
    (levels.map fun level => level.map fun parent => .question (childrenCall view parent)) whole ∧
    (success = true → whole = true)

/-- A level is fetched by one dealing. -/
theorem asks_fetchAll (orderly : transport.Orderly fair) (isFair : fair stage.session.state.1)
    (view : String) (uris : List String) :
    AsksLevels fair view stage.session.state
      (stage.fetchAll transport.logging view uris).1.session.state
      (stage.fetchAll transport.logging view uris).2.toBool := by
  unfold fetchAll
  cases asks : uris.mapM fun uri => stage.client.views.askChildren view (some uri) with
  | error cause => exact ⟨[], true, Goes.nothing isFair, fun _ => rfl⟩
  | ok requests =>
    obtain rfl := eq_of_mapM_askChildren asks
    have goes := Session.goes_askAll orderly (uris.map fun uri => .children ⟨view, some uri⟩)
      stage.session isFair
    simp only [List.map_map] at goes ⊢
    generalize stage.session.askAll transport.logging
      (uris.map fun uri => .children ⟨view, some uri⟩) = asked at goes ⊢
    obtain ⟨session, replies⟩ := asked
    simp only at goes ⊢
    have fine : (receiveAll view stage.client.views replies).2.toBool = true →
        Session.allFine replies = true := allFine_of_receiveAll
    generalize receiveAll view stage.client.views replies = received at fine ⊢
    refine ⟨[uris.map some], Session.allFine replies, ?_, ?_⟩
    · rw [List.map_singleton, List.map_map]
      obtain ⟨views, cause | found⟩ := received <;> exact goes
    · obtain ⟨views, cause | found⟩ := received <;> exact fine

/-- An outline is grown by one dealing for each level. -/
theorem asks_grow (orderly : transport.Orderly fair) (view : String) (left depth : Nat)
    (level : List (Nat × String)) (lines : List Tree.OutlineLine)
    (isFair : fair stage.session.state.1) :
    AsksLevels fair view stage.session.state
      (stage.grow transport.logging view left depth level lines).1.session.state
      (stage.grow transport.logging view left depth level lines).2.toBool := by
  have nothing : AsksLevels fair view stage.session.state stage.session.state true :=
    ⟨[], true, Goes.nothing isFair, fun _ => rfl⟩
  induction left generalizing depth level lines stage with
  | zero => cases level <;> exact nothing
  | succ left ih =>
    cases level with
    | nil => exact nothing
    | cons entry rest =>
      have fetches := stage.asks_fetchAll orderly isFair view ((entry :: rest).map Prod.snd)
      simp only [grow]
      generalize stage.fetchAll transport.logging view ((entry :: rest).map Prod.snd) = fetched
        at fetches ⊢
      obtain ⟨after, cause | children⟩ := fetched
      · exact fetches
      · obtain ⟨here, whole, fetched, fine⟩ := fetches
        obtain rfl := fine rfl
        obtain ⟨levels, last, grown, goesOn⟩ := ih after (depth + 1)
          (Tree.Outline.nextLevel lines.length children)
          (lines ++ Tree.Outline.linesOf after.client.views view depth (entry :: rest)) fetched.fair
          ⟨[], true, Goes.nothing fetched.fair, fun _ => rfl⟩
        refine ⟨here ++ levels, last, ?_, goesOn⟩
        rw [List.map_append]
        exact fetched.trans grown

/-- An outline of a view that is not there asks nothing. -/
theorem outline_unknown (transport : Transport σ) (stage : Stage σ) {view : String}
    (unknown : stage.client.views.isLive view = false) (depth : Nat) :
    (stage.outline transport view depth).1.session = stage.session ∧
      (stage.outline transport view depth).2.toBool = false := by
  have refused : stage.client.issue stage.surroundings (.children view none) =
      stage.client.done [] (.uris (.error (.unknownView view))) := by
    simp [Client.issue, Tree.Views.askChildren, Tree.Views.requireLive, unknown, Except.map]
  obtain ⟨session, answer⟩ := perform_of_done transport stage
    (congrArg Turn.outcome refused) (congrArg Turn.notices refused)
  simp only [outline]
  generalize stage.perform transport (.children view none) = performed at session answer ⊢
  obtain ⟨after, result⟩ := performed
  obtain rfl : result = _ := answer
  exact ⟨session, rfl⟩

/-- An outline asks for the roots of its view, and then for the children of the nodes of each level
at once. -/
theorem asks_outline (orderly : transport.Orderly fair) (isFair : fair stage.session.state.1)
    {view : String} (live : stage.client.views.isLive view = true) (depth : Nat) :
    AsksLevels fair view stage.session.state
      (stage.outline transport.logging view depth).1.session.state
      (stage.outline transport.logging view depth).2.toBool := by
  have asks : stage.client.issue stage.surroundings (.children view none) =
      stage.client.waits (.children ⟨view, none⟩) (.children view) := by
    simp [Client.issue, Tree.Views.askChildren, Tree.Views.requireLive, live, Except.map]
  obtain ⟨world, reply, goes, answer⟩ := stage.goes_perform orderly isFair asks
  simp only [outline]
  generalize stage.perform transport.logging (.children view none) = performed at goes answer ⊢
  obtain ⟨after, result⟩ := performed
  obtain rfl : result = _ := answer
  cases reply with
  | error cause => exact ⟨[[none]], false, goes, id⟩
  | ok value =>
    simp only [Client.arrive]
    generalize (stage.client.views.receiveChildren view
      (Tree.childrenForm.ofReply (.ok value))).2 = received
    cases received with
    | error cause => exact ⟨[[none]], true, goes, fun _ => rfl⟩
    | ok uris =>
      obtain ⟨levels, whole, grows, fine⟩ := after.asks_grow orderly view (depth - 1) 0
        (uris.map fun uri => (0, uri)) [] goes.fair
      simp only
      generalize after.grow transport.logging view (depth - 1) 0 (uris.map fun uri => (0, uri)) [] =
        grown at grows fine ⊢
      have all := goes.trans grows
      obtain ⟨last, cause | lines⟩ := grown <;> exact ⟨[none] :: levels, whole, all, fine⟩

end Stage

/-! ## Actions -/

/-- A preview whose listing is not replied fails. -/
theorem arrive_firstPage_error (client : Client) (world : Surroundings) (id : Nat)
    (cause : LspError) :
    (client.arrive world (.firstPage id) (.error cause)).outcome =
      .ran (.error (.lsp cause)) := by
  simp only [Client.arrive, Client.receiveFirstPage]
  cases client.panels.get? id <;> rfl

/-- An action carries out one of its plans. It succeeds only if that goes well, and the plan is the
whole of it. -/
def Keeps (transport : Transport σ) (fair : σ → Prop) (views : List String)
    (stage : Stage (σ × List Dealing)) (action : Action) : Prop :=
  ∃ plan finished whole, Conversation stage.terminal.disk views action plan finished ∧
    Goes fair stage.session.state (act transport.logging stage action).1.session.state plan whole ∧
    ((act transport.logging stage action).2.toBool = true → whole = true ∧ finished = true)

section
variable (orderly : transport.Orderly fair) (views : List String)
  (stage : Stage (σ × List Dealing)) (isFair : fair stage.session.state.1)
include orderly isFair

/-- A preview carries out one of its plans. -/
theorem keeps_preview (file : Path) (out : Option Path) :
    Keeps transport fair views stage (.preview file out) := by
  cases read : readDocument stage.terminal.disk file with
  | error cause =>
    refine ⟨[], false, true, .previewUnread file out cause read, ?_, ?_⟩ <;>
      simp only [act, preview, Stage.openDocument,
        Session.openDocument_unread transport.logging read]
    · exact Goes.nothing isFair
    · exact Bool.noConfusion
  | ok found =>
    obtain ⟨document, text⟩ := found
    obtain ⟨opens, -, client, terminal⟩ := stage.goes_openDocument orderly isFair read
    simp only [Keeps, act, preview]
    generalize stage.openDocument transport.logging file = opened at opens client terminal ⊢
    obtain ⟨begun, cause | here⟩ := opened
    · exact ⟨_, true, false, .preview file out document text read, opens.stop _, Bool.noConfusion⟩
    · have leads : begun.terminal.disk.urlOf file = .ok document := by
        rw [show begun.terminal = stage.terminal from terminal]
        exact Server.Documents.urlOf_of_readDocument read
      have asks := begun.issue_startPreview leads
      obtain ⟨world, reply, goes, answer⟩ := begun.goes_perform orderly opens.fair asks
      simp only
      generalize begun.perform transport.logging (.command (.startPreview file)) = performed
        at goes answer ⊢
      obtain ⟨after, result⟩ := performed
      have all := opens.trans goes
      refine ⟨_, true, reply.toBool, .preview file out document text read, ?_, ?_⟩
      · cases result with
        | ran outcome => cases outcome <;> exact all
        | _ => exact all
      · obtain rfl : result = _ := answer
        cases reply with
        | error cause =>
          rw [arrive_firstPage_error]
          exact Bool.noConfusion
        | ok value => exact fun _ => ⟨rfl, rfl⟩

/-- Revealing a place carries out one of its plans. -/
theorem keeps_reveal (file : Path) (line column : UInt32) :
    Keeps transport fair views stage (.reveal file line column) := by
  cases read : readDocument stage.terminal.disk file with
  | error cause =>
    refine ⟨[], false, true, .revealUnread file line column cause read, ?_, ?_⟩ <;>
      simp only [act, reveal, Stage.openDocument,
        Session.openDocument_unread transport.logging read]
    · exact Goes.nothing isFair
    · exact Bool.noConfusion
  | ok found =>
    obtain ⟨document, text⟩ := found
    obtain ⟨opens, same, -, -⟩ := stage.goes_openDocument orderly isFair read
    simp only [Keeps, act, reveal]
    generalize stage.openDocument transport.logging file = opened at opens same ⊢
    cases placed : Position.ofLineColumn? line column with
    | none =>
      refine ⟨_, false, opened.2.toBool,
        .revealMisplaced file line column document text read placed, ?_, ?_⟩
      · obtain ⟨begun, cause | here⟩ := opened <;> exact opens
      · obtain ⟨begun, cause | here⟩ := opened <;> exact Bool.noConfusion
    | some position =>
      obtain ⟨begun, cause | here⟩ := opened
      · exact ⟨_, true, false, .reveal file line column document text position read placed,
          opens.stop _, Bool.noConfusion⟩
      · obtain rfl : here = document := same here rfl
        obtain ⟨world, reply, goes, answer⟩ := begun.goes_perform orderly opens.fair
          (Stage.issue_reveal begun ⟨here, position⟩)
        simp only
        generalize begun.perform transport.logging (.reveal ⟨here, position⟩) = performed
          at goes answer ⊢
        obtain ⟨after, result⟩ := performed
        have all := opens.trans goes
        refine ⟨_, true, reply.toBool, .reveal file line column here text position read placed,
          ?_, ?_⟩
        · cases result with
          | plan found => rcases found with cause | plan | plan <;> exact all
          | _ => exact all
        · obtain rfl : result = _ := answer
          cases reply with
          | error cause => exact Bool.noConfusion
          | ok value => exact fun _ => ⟨rfl, rfl⟩

/-- Printing a tree carries out one of its plans, while the live views are those that were
registered. -/
theorem keeps_tree (live : ∀ view, stage.client.views.isLive view = true ↔ view ∈ views)
    (view : String) (depth : Nat) : Keeps transport fair views stage (.tree view depth) := by
  simp only [Keeps, act, printTree]
  by_cases known : view ∈ views
  · obtain ⟨levels, whole, goes, fine⟩ :=
      stage.asks_outline orderly isFair ((live view).mpr known) depth
    generalize stage.outline transport.logging view depth = outlined at goes fine ⊢
    refine ⟨_, true, whole, .tree view depth levels known, ?_, ?_⟩
    · obtain ⟨after, cause | lines⟩ := outlined <;> exact goes
    · obtain ⟨after, cause | lines⟩ := outlined
      · exact Bool.noConfusion
      · exact fun _ => ⟨fine rfl, rfl⟩
  · have dead : stage.client.views.isLive view = false :=
      Bool.eq_false_iff.mpr fun isLive => known ((live view).mp isLive)
    obtain ⟨session, fails⟩ := Stage.outline_unknown transport.logging stage dead depth
    generalize stage.outline transport.logging view depth = outlined at session fails ⊢
    obtain ⟨after, cause | lines⟩ := outlined
    · refine ⟨[], false, true, .treeUnknown view depth known, ?_, Bool.noConfusion⟩
      show Goes fair stage.session.state after.session.state [] true
      rw [show after.session = stage.session from session]
      exact Goes.nothing isFair
    · cases fails

/-- A run carries out one of its plans. -/
theorem keeps_run : Keeps transport fair views stage .run := by
  have taken : fair (transport.logging.events stage.session.state).1.1 :=
    orderly.events stage.session.state.1 isFair
  have followed : (follow transport.logging stage).1.session =
      { stage.session with state := (transport.logging.events stage.session.state).1 } :=
    Stage.perform_serverEvents transport.logging { stage with session := { stage.session with
      state := (transport.logging.events stage.session.state).1 } } _
  refine ⟨[], true, true, .run, ?_, fun _ => ⟨rfl, rfl⟩⟩
  show Goes fair stage.session.state (follow transport.logging stage).1.session.state [] true
  rw [followed]
  exact ⟨taken, [], (List.append_nil _).symm, .done⟩

end

/-- Every action that needs a session carries out one of its plans. -/
theorem keeps_act (orderly : transport.Orderly fair) {views : List String}
    (stage : Stage (σ × List Dealing)) (isFair : fair stage.session.state.1)
    (live : ∀ view, stage.client.views.isLive view = true ↔ view ∈ views) {action : Action}
    (connects : action ≠ .config) : Keeps transport fair views stage action := by
  cases action with
  | config => exact absurd rfl connects
  | preview file out => exact keeps_preview orderly views stage isFair file out
  | tree view depth => exact keeps_tree orderly views stage isFair live view depth
  | reveal file line column => exact keeps_reveal orderly views stage isFair file line column
  | run => exact keeps_run orderly views stage isFair

end LanguageClient.CommandLine
