import LanguageClient.Proofs.DiskChanges
import LanguageClient.Proofs.PanelInvariant
import LanguageClient.Proofs.PayloadForms
import LanguageClient.Proofs.ProtocolDiscipline

/-!
# Pages that are delivered

A preview asks one question, and the page of the listing that the server replies with goes to the
file that was named. `Shows` relates the stage of a run to the listings that were replied so far;
`preview_delivers_iff` is what this says of a run at its end. Whether the page could be written has
no part in whether the run succeeds.
-/

namespace LanguageClient

namespace Server

/-- The listing that the server replied with to a single question for a preview. -/
def Dealing.listing? : Dealing → Option Preview.Listing
  | .asked ⟨[call], [(0, .ok value)]⟩ =>
    if call.method = Request.previewMethod then (Preview.Listing.form.decode value).toOption
    else none
  | _ => none

/-- The listings that the server replied with, in order. -/
def listings (dealings : List Dealing) : List Preview.Listing :=
  dealings.filterMap Dealing.listing?

/-- The listings of a run are those before, and then the one of the last dealing if it has one. -/
theorem listings_append (dealings : List Dealing) (last : Dealing) :
    listings (dealings ++ [last]) = listings dealings ++ last.listing?.toList := by
  rw [listings, List.filterMap_append, List.filterMap_cons]
  cases last.listing? <;> rfl

/-- What hands over no question for a preview brings no listing. -/
theorem Dealing.listing?_eq_none {dealing : Dealing}
    (other : ∀ call, .question call ∈ dealing.handed → call.method ≠ Request.previewMethod) :
    dealing.listing? = none := by
  unfold listing?
  split
  · rename_i call value
    rw [if_neg]
    exact other call (by simp [handed])
  · rfl

/-- No question for a preview is in a plan. -/
def Aside (plan : List (List Handed)) : Prop :=
  ∀ step ∈ plan, ∀ call, .question call ∈ step → call.method ≠ Request.previewMethod

/-- A plan without a question for a preview brings no listing. -/
theorem Goes.listings_eq {σ : Type} {fair : σ → Prop} {before after : σ × List Dealing}
    {plan : List (List Handed)} {whole : Bool} (goes : Goes fair before after plan whole)
    (aside : Aside plan) : listings after.2 = listings before.2 := by
  obtain ⟨-, dealings, log, carried⟩ := goes
  have silent : listings dealings = [] := by
    refine List.filterMap_eq_nil_iff.mpr fun dealing member => ?_
    have step := carried.handed_prefix.subset (List.mem_map_of_mem member)
    exact dealing.listing?_eq_none (aside _ step)
  unfold listings at silent ⊢
  rw [log, List.filterMap_append, silent, List.append_nil]

/-- The greeting asks for no preview. -/
theorem aside_greeting (place : Place) (processId : Nat) : Aside (greeting place processId) := by
  simp [Aside, greeting, introduction, Request.previewMethod]

/-- The farewell asks for no preview. -/
theorem aside_farewell : Aside farewell := by
  simp [Aside, farewell, Request.previewMethod]

/-- A notice asks for no preview. -/
theorem aside_notice (call : Call) : Aside [[.notice call]] := by
  simp [Aside]

namespace Session

variable {σ : Type} {transport : Transport σ} {fair : σ → Prop}

/-- The listing that is made of an outcome is the one that it brings. -/
theorem ofReply_settle (limit : Duration) (document : Url)
    (outcome : Except ExchangeFailure Json) :
    (Preview.Listing.form.ofReply (settle limit (.preview document) outcome)).toOption =
      (Dealing.asked ⟨[callOf (.preview document)], [(0, outcome)]⟩).listing? := by
  cases outcome with
  | error failure => rfl
  | ok value =>
    cases decoded : Preview.Listing.form.decode value with
    | error cause =>
      simp [settle, Request.settle, Form.ofReply, Dealing.listing?, callOf, Request.method, decoded,
        Except.bind, Except.map, Except.mapError, Except.toOption]
    | ok listing =>
      have again : Preview.Listing.form.decode (Preview.Listing.form.encode listing) =
          .ok listing := Preview.Listing.lawful listing
      simp [settle, Request.settle, Form.ofReply, Dealing.listing?, callOf, Request.method, decoded,
        again, Except.bind, Except.map, Except.mapError, Except.toOption]

/-- A question for a preview brings the listing that is made of its reply. -/
theorem listings_ask (orderly : transport.Orderly fair) (document : Url)
    (session : Session (σ × List Dealing)) (isFair : fair session.state.1) :
    listings (session.ask transport.logging (.preview document)).1.state.2 =
      listings session.state.2 ++ (Preview.Listing.form.ofReply
        (session.ask transport.logging (.preview document)).2).toOption.toList := by
  obtain ⟨outcome, answers⟩ :=
    answers_single orderly (some session.requestTimeout) (callOf (.preview document)) isFair
  have reply : (session.ask transport.logging (.preview document)).2 =
      settle session.requestTimeout (.preview document) outcome := by
    simp only [ask, askAll, List.map_cons, List.map_nil, answers]
    rfl
  have log : (session.ask transport.logging (.preview document)).1.state.2 =
      session.state.2 ++ [.asked ⟨[callOf (.preview document)], [(0, outcome)]⟩] := by
    rw [← answers]
    simp only [ask, askAll, List.map_cons, List.map_nil, answers]
    exact congrArg (fun outcomes => session.state.2 ++ [Dealing.asked ⟨_, outcomes⟩]) answers
  rw [reply, log, ofReply_settle, listings_append]

end Session

end Server

open Server (Transport Session Launch Dealing Goes Handed listings Aside)
open Preview (page rows)

/-- The bytes of the page of a listing. -/
def Preview.Listing.pageBytes (listing : Preview.Listing) : List UInt8 :=
  Utf8.ofString (page (rows listing))

namespace Disk

variable {disk : Disk} {out : Path} {arrival : Arrival} {bytes : List UInt8}

/-- The files once the page of a listing was to be written, if there is one. -/
def shown (disk : Disk) (out : Path) : Option Preview.Listing → Disk
  | none => disk
  | some listing => (disk.write out listing.pageBytes).1

/-- Whether a path leads to something that the system opens for writing. -/
def Opened (disk : Disk) (path : Path) (arrival : Arrival) : Prop :=
  disk.followShort true path = .ok arrival ∧ disk.Opens arrival

/-- Whether bytes that are written through a path are read through it. -/
inductive Takes (disk : Disk) (path : Path) (bytes : List UInt8) : Prop
  /-- A file takes all of them, and the system lets it be read. -/
  | written (arrival : Arrival) (opened : disk.Opened path arrival)
    (plain : ∀ own, arrival.node? ≠ some (.device own))
    (fits : disk.fits arrival.place bytes = true)
    (allowed : disk.refuses (.read (disk.numberFor arrival.place)) = none)
  /-- They are read through it already, and writing changes nothing there. -/
  | unchanged (reads : disk.read path = .ok bytes)
    (kept : ∀ arrival, disk.Opened path arrival → ∃ own, arrival.node? = some (.device own))

/-- A path leads to one thing. -/
theorem Opened.unique {other : Arrival} (opened : disk.Opened out arrival)
    (openedToo : disk.Opened out other) : arrival = other :=
  Except.ok.inj (opened.1.symm.trans openedToo.1)

/-- What is opened takes the beginning of what is written for which there is room. -/
theorem write_of_opened (opened : disk.Opened out arrival) (bytes : List UInt8) :
    (disk.write out bytes).1 = disk.store arrival (disk.fitting arrival.place bytes) := by
  rw [write_of_opens opened.1 opened.2]

/-- If nothing is opened nothing changes. -/
theorem write_of_not_opened (closed : ∀ arrival, ¬ disk.Opened out arrival)
    (bytes : List UInt8) : (disk.write out bytes).1 = disk := by
  obtain ⟨cause, blocked⟩ :=
    write_of_not_opens (fun arrival came opens => closed arrival ⟨came, opens⟩) bytes
  rw [blocked]

/-- What is written through a path is read through it exactly if the path takes it. -/
theorem read_write_iff (disk : Disk) (out : Path) (bytes : List UInt8) :
    (disk.write out bytes).1.read out = .ok bytes ↔ disk.Takes out bytes := by
  by_cases opened : ∃ arrival, disk.Opened out arrival
  case neg =>
    have closed (arrival : Arrival) : ¬ disk.Opened out arrival := fun found =>
      opened ⟨arrival, found⟩
    rw [write_of_not_opened closed]
    constructor
    · exact fun reads => .unchanged reads fun arrival found => absurd found (closed arrival)
    · intro takes
      cases takes with
      | written arrival found => exact absurd found (closed arrival)
      | unchanged reads => exact reads
  obtain ⟨arrival, opened⟩ := opened
  rw [write_of_opened opened, read_store_eq_ok_iff opened.1 opened.2.writable]
  obtain ⟨-, trail, -, leads⟩ := followShort_eq_ok_iff.mp opened.1
  have here := leads.node?
  have below := leads.place_ne_root opened.2.writable
  constructor
  · rintro ⟨holds, allowed⟩
    by_cases plain : ∀ own, arrival.node? ≠ some (.device own)
    · rw [rewritten_of_plain plain] at holds
      exact .written arrival opened plain (fitting_eq_iff.mp (Option.some.inj holds)) allowed
    · obtain ⟨own, device⟩ : ∃ own, arrival.node? = some (.device own) := by simpa using plain
      rw [rewritten_of_device device] at holds
      refine .unchanged ?_ fun other openedToo => ⟨own, opened.unique openedToo ▸ device⟩
      cases arrival with
      | missing place => cases device
      | found place node =>
        cases device
        exact read_eq_ok_iff.mpr
          ⟨place, _, opened.1, holds, (readable_iff below here).mpr allowed⟩
  · intro takes
    cases takes with
    | written other openedToo plain fits allowed =>
      obtain rfl := opened.unique openedToo
      rw [rewritten_of_plain plain, fitting_eq_iff.mpr fits]
      exact ⟨rfl, allowed⟩
    | unchanged reads kept =>
      obtain ⟨own, device⟩ := kept arrival opened
      rw [rewritten_of_device device]
      obtain ⟨place, node, came, holds, readable⟩ := read_eq_ok_iff.mp reads
      obtain rfl := Except.ok.inj (opened.1.symm.trans came)
      cases device
      exact ⟨holds, (readable_iff below here).mp readable⟩

end Disk

/-- In a program that runs a single call is carried out. -/
theorem Terminal.performAll_singleton {terminal : Terminal} (runs : terminal.aborted = false)
    (call : EditorCall) : terminal.performAll [call] = terminal.act call := by
  rw [performAll, List.foldl_cons, List.foldl_nil, perform, runs, if_neg Bool.false_ne_true]

/-- A terminal with a file for pages writes a page there and prints nothing. -/
theorem Terminal.render_of_output {terminal : Terminal} {out : Path}
    (output : terminal.previewOutput = some out) (listing : Preview.Listing) :
    terminal.render (page (rows listing)) =
      { terminal with disk := terminal.disk.shown out (some listing) } := by
  unfold render
  rw [output]
  rfl

namespace Client

/-- A panel takes its first page, or the user is told why there is none. -/
theorem arrive_withPanel (client : Client) (world worldThen : Surroundings) (document : Url)
    (reply : Except LspError Json) :
    let turn := (client.withPanel (client.newPanel world document)).arrive worldThen
      (.firstPage client.nextPanel) reply
    (∃ cause, Preview.Listing.form.ofReply reply = .error cause ∧
        turn.calls = [previewFailed (.lsp cause)] ∧ turn.outcome = .ran (.error (.lsp cause))) ∨
      ∃ listing panel, Preview.Listing.form.ofReply reply = .ok listing ∧
        turn.calls = [.render panel (page (rows listing))] ∧ turn.outcome = .ran (.ok ()) := by
  have found : (client.withPanel (client.newPanel world document)).panels.get? client.nextPanel =
      some (client.newPanel world document) := by
    rw [get?_withPanel, if_pos rfl]
  simp only [arrive, receiveFirstPage, found]
  cases Preview.Listing.form.ofReply reply with
  | error cause => exact .inl ⟨cause, rfl, rfl, rfl⟩
  | ok listing => exact .inr ⟨listing, _, rfl, rfl, rfl⟩

end Client

namespace CommandLine

variable {σ : Type} {transport : Transport σ} {fair : σ → Prop} {disk : Disk} {out : Path}
  {reply : Option Preview.Listing}

/-- A run has shown the listing that was replied so far, if one was, in the file that was named. -/
structure Shows (disk : Disk) (out : Path) (log : List Dealing) (terminal : Terminal)
    (reply : Option Preview.Listing) : Prop where
  /-- It was the only listing. -/
  listings : listings log = reply.toList
  /-- The program goes on. -/
  runs : terminal.aborted = false
  /-- Nothing was printed. -/
  printed : terminal.printed = []
  /-- The page was written for it. -/
  disk : terminal.disk = disk.shown out reply

/-- What brings no listing and leaves the terminal as it is shows nothing else. -/
theorem Shows.aside {before after : σ × List Dealing} {plan : List (List Handed)} {whole : Bool}
    {terminal : Terminal} (shows : Shows disk out before.2 terminal reply)
    (goes : Goes fair before after plan whole) (aside : Aside plan) :
    Shows disk out after.2 terminal reply :=
  ⟨(goes.listings_eq aside).trans shows.listings, shows.runs, shows.printed, shows.disk⟩

/-- What is said of a preview that has come to its listing, or to a failure. -/
structure Previews (fair : σ → Prop) (disk : Disk) (out : Path) (stage : Stage (σ × List Dealing))
    (succeeds : Bool) : Prop where
  /-- The state is fair. -/
  fair : fair stage.session.state.1
  /-- What was shown is the listing that was replied, if one was. -/
  shows : ∃ reply, Shows disk out stage.session.state.2 stage.terminal reply ∧
    (succeeds = true → reply.isSome = true)

namespace Stage

variable {stage : Stage (σ × List Dealing)}

/-- The first page of a preview is shown if it is replied, and else the preview fails. -/
theorem previews_startPreview (orderly : transport.Orderly fair)
    (isFair : fair stage.session.state.1)
    (shows : Shows disk out stage.session.state.2 stage.terminal none)
    (output : stage.terminal.previewOutput = some out) {file : Path} {document : Url}
    (leads : stage.terminal.disk.urlOf file = .ok document) :
    ∃ result, (stage.perform transport.logging (.command (.startPreview file))).2 = .ran result ∧
      Previews fair disk out
        (stage.perform transport.logging (.command (.startPreview file))).1 result.toBool := by
  have asks := issue_startPreview stage leads
  have listed := Session.listings_ask orderly document stage.session isFair
  have goes := Session.goes_question orderly (.preview document) stage.session isFair
  have opened := stage.client.arrive_withPanel stage.surroundings stage.surroundings document
    (stage.session.ask transport.logging (.preview document)).2
  rw [shows.listings] at listed
  rw [perform_of_waits transport.logging asks]
  generalize stage.session.ask transport.logging (.preview document) = asked at *
  rcases opened with ⟨cause, fails, calls, outcome⟩ | ⟨listing, panel, read, calls, outcome⟩
  · have told : stage.terminal.performAll [Client.previewFailed (.lsp cause)] =
        stage.terminal.act (Client.previewFailed (.lsp cause)) :=
      Terminal.performAll_singleton shows.runs _
    refine ⟨_, outcome, goes.fair, none, ⟨?_, ?_, ?_, ?_⟩, Bool.noConfusion⟩
    · rw [listed, fails]
      rfl
    · rw [calls, told]
      exact shows.runs
    · rw [calls, told]
      exact shows.printed
    · rw [calls, told]
      exact shows.disk
  · have rendered : stage.terminal.performAll [.render panel (page (rows listing))] =
        { stage.terminal with disk := stage.terminal.disk.shown out (some listing) } :=
      (Terminal.performAll_singleton shows.runs _).trans
        (Terminal.render_of_output output listing)
    refine ⟨_, outcome, goes.fair, some listing, ⟨?_, ?_, ?_, ?_⟩, fun _ => rfl⟩
    · rw [listed, read]
      rfl
    · rw [calls, rendered]
      exact shows.runs
    · rw [calls, rendered]
      exact shows.printed
    · rw [calls, rendered, shows.disk]
      rfl

/-- A preview shows the listing that is replied, or fails. -/
theorem previews_preview (orderly : transport.Orderly fair)
    (isFair : fair stage.session.state.1)
    (shows : Shows disk out stage.session.state.2 stage.terminal none)
    (output : stage.terminal.previewOutput = some out) (file : Path) :
    Previews fair disk out (preview transport.logging file stage).1
      (preview transport.logging file stage).2.toBool := by
  cases read : Server.Documents.readDocument stage.terminal.disk file with
  | error cause =>
    simp only [preview, openDocument, Session.openDocument_unread transport.logging read]
    exact ⟨isFair, none, shows, Bool.noConfusion⟩
  | ok found =>
    obtain ⟨document, text⟩ := found
    obtain ⟨opens, -, -, terminal⟩ := stage.goes_openDocument orderly isFair read
    have leads := Server.Documents.urlOf_of_readDocument read
    have still := shows.aside opens (Server.aside_notice _)
    unfold preview
    generalize stage.openDocument transport.logging file = opened at opens terminal still ⊢
    obtain ⟨begun, cause | here⟩ := opened
    · simp only at terminal still ⊢
      rw [← terminal] at still
      exact ⟨opens.fair, none, still, Bool.noConfusion⟩
    · simp only at terminal still ⊢
      rw [← terminal] at still output leads
      obtain ⟨result, answer, previews⟩ :=
        previews_startPreview orderly opens.fair still output leads
      generalize begun.perform transport.logging (.command (.startPreview file)) = performed
        at answer previews ⊢
      obtain ⟨after, answered⟩ := performed
      obtain rfl : answered = .ran result := answer
      cases result <;> exact previews

end Stage

/-- What a run with a file for its page comes to: it has shown the listing that was replied, and
one was if the run succeeds. -/
def Delivers (disk : Disk) (out : Path) (report : Report (σ × List Dealing)) : Prop :=
  ∃ reply, Shows disk out ((report.connection.map Prod.snd).getD []) report.terminal reply ∧
    (report.failure.isNone = true → reply.isSome = true)

/-- The farewell shows nothing. -/
theorem shows_leave (orderly : transport.Orderly fair) {stage : Stage (σ × List Dealing)}
    (isFair : fair stage.session.state.1)
    (shows : Shows disk out stage.session.state.2 stage.terminal reply) :
    Shows disk out (leave transport.logging stage).1.session.state.2
      (leave transport.logging stage).1.terminal reply :=
  shows.aside (goes_leave orderly stage isFair) Server.aside_farewell

/-- A preview that works over a session delivers its page. -/
theorem delivers_work (world : World σ) (orderly : world.transport.Orderly fair)
    (settings : Settings) {file out : Path} (session : Session (σ × List Dealing))
    (isFair : fair session.state.1) (silent : listings session.state.2 = []) :
    Delivers world.disk out (work world.logging settings (.preview file (some out)) session) := by
  have first : Shows world.disk out session.state.2
      (firstStage world.disk settings (.preview file (some out)) session).terminal none :=
    ⟨silent, rfl, rfl, rfl⟩
  have output : (firstStage world.disk settings (.preview file (some out))
      session).terminal.previewOutput = some out := rfl
  obtain ⟨after, reply, shows, replied⟩ :=
    Stage.previews_preview orderly isFair first output file
  rw [work_eq]
  simp only [act, World.transport_logging, World.disk_logging]
  generalize firstStage world.disk settings (.preview file (some out)) session = stage at *
  generalize preview world.transport.logging file stage = done at after shows replied ⊢
  obtain ⟨stage, message | fine⟩ := done
  · exact ⟨reply, shows, Bool.noConfusion⟩
  · exact ⟨reply, shows_leave orderly after shows, fun _ => replied rfl⟩

/-- A run that is refused shows nothing. -/
theorem delivers_refused (world : World (σ × List Dealing)) (out : Path)
    (connection : Option (σ × List Dealing)) (message : String)
    (silent : listings ((connection.map Prod.snd).getD []) = []) :
    Delivers world.disk out (refused world connection message) :=
  ⟨none, ⟨silent, rfl, rfl, rfl⟩, Bool.noConfusion⟩

/-- A preview that starts its server delivers its page. -/
theorem delivers_connect (world : World σ) (orderly : world.transport.Orderly fair)
    (spawned : ∀ place name arguments state,
      world.spawn place name arguments = .ok state → fair state)
    {arguments : Arguments} {file out : Path}
    (previews : arguments.action = .preview file (some out)) :
    Delivers world.disk out (connect world.logging arguments) := by
  unfold connect
  simp only [World.transport_logging, World.disk_logging, World.spawn_logging]
  cases world.disk.canonical arguments.workspace with
  | error cause => exact delivers_refused world.logging out none _ rfl
  | ok target =>
    cases Settings.load world.disk arguments.settingsPath with
    | error failure => exact delivers_refused world.logging out none _ rfl
    | ok settings =>
      have starts := Session.goes_start orderly spawned world.disk
        (Launch.ofSettings settings target.1.path world.processId)
      simp only [World.processId_logging]
      generalize Session.start world.transport.logging (Session.logged world.spawn) world.disk
        (Launch.ofSettings settings target.1.path world.processId) = started at starts ⊢
      rcases starts with ⟨unreached, failed, -⟩ | ⟨root, first, last, -, reached, greets, same⟩
      · obtain ⟨connection, cause | session⟩ := started
        · obtain rfl : connection = none := unreached
          exact delivers_refused world.logging out none _ rfl
        · cases failed
      · have silent : listings last.2 = [] := greets.listings_eq (Server.aside_greeting root _)
        obtain ⟨connection, cause | session⟩ := started
        · obtain rfl : connection = some last := reached
          exact delivers_refused world.logging out (some last) _ silent
        · obtain rfl := same session rfl
          rw [previews]
          exact delivers_work world orderly settings session greets.fair silent

/-- A preview delivers its page. -/
theorem delivers_run (world : World σ) (orderly : world.transport.Orderly fair)
    (spawned : ∀ place name arguments state,
      world.spawn place name arguments = .ok state → fair state)
    {arguments : Arguments} {file out : Path}
    (previews : arguments.action = .preview file (some out)) :
    Delivers world.disk out (run world.logging arguments) := by
  cases level : checkLogLevel arguments.logLevel with
  | error message =>
    simp only [run, level]
    exact delivers_refused world.logging out none message rfl
  | ok fine =>
    simp only [run, level, previews]
    exact delivers_connect world orderly spawned previews

/-- A preview with a file for its page prints nothing. If it succeeds the server has replied with
one listing, and then the page of that listing is read through the path of the file exactly if the
path takes it: if a file is opened there that has room for the page and can be read, or if the page
is read there already and writing changes nothing. What is opened holds the beginning of the page
for which there is room; if nothing is opened, or no listing was replied, no file has changed. -/
theorem preview_delivers_iff
    (script : Place → String → List String → Except FileError (Table String (List Server.Action)))
    (disk : Disk) (processId : Nat) {arguments : Arguments} {file out : Path}
    (previews : arguments.action = .preview file (some out)) :
    let world := World.scripted script disk processId
    let report := run world arguments
    let replied := listings (dealings world arguments)
    report.terminal.printed = [] ∧
      (report.exitCode = 0 → ∃ listing, replied = [listing]) ∧
      (∀ listing, replied = [listing] →
        (report.terminal.disk.read out = .ok listing.pageBytes ↔
          disk.Takes out listing.pageBytes) ∧
        ∀ arrival, disk.Opened out arrival → report.terminal.disk =
          disk.store arrival (disk.fitting arrival.place listing.pageBytes)) ∧
      (replied = [] ∨ (∀ arrival, ¬ disk.Opened out arrival) →
        report.terminal.disk = disk) := by
  intro world report replied
  obtain ⟨reply, shows, succeeds⟩ :=
    delivers_run world Server.Connection.orderly_transport World.fair_of_spawn previews
  have terminal : report.terminal = (run world.logging arguments).terminal := by
    rw [show report = (run world.logging arguments).under Prod.fst from
      run_logging world arguments]
    rfl
  have log : replied = reply.toList := shows.listings
  have files : report.terminal.disk = disk.shown out reply := by
    rw [terminal]
    exact shows.disk
  refine ⟨?_, ?_, ?_, ?_⟩
  · rw [terminal]
    exact shows.printed
  · intro success
    have isSome := succeeds ((exitCode_eq_zero_iff world arguments).mp success)
    obtain ⟨listing, rfl⟩ := Option.isSome_iff_exists.mp isSome
    exact ⟨listing, log⟩
  · intro listing one
    have same : reply = some listing := by
      cases reply <;> simp_all
    rw [files, same]
    exact ⟨Disk.read_write_iff disk out listing.pageBytes,
      fun arrival opened => Disk.write_of_opened opened listing.pageBytes⟩
  · rw [files]
    rintro (unanswered | closed)
    · have nothing : reply = none := Option.toList_eq_nil_iff.mp (log.symm.trans unanswered)
      rw [nothing]
      rfl
    · cases reply with
      | none => rfl
      | some listing => exact Disk.write_of_not_opened closed listing.pageBytes

/-- A workspace with one file in it. -/
def workspace : Disk where
  numbers := ⟨[([Utf8.ofString "w"], 0), ([Utf8.ofString "w", Utf8.ofString "a.rc"], 1)]⟩
  content
    | 0 => .directory
    | _ => .file (Utf8.ofString "x")
  workingDirectory := [Utf8.ofString "w"]

/-- The listing of a document with one line. -/
def oneLine : Preview.Listing := ⟨some [["x"]]⟩

/-- A server that has a listing. -/
def lister (_ : Place) (_ : String) (_ : List String) :
    Except FileError (Table String (List Server.Action)) :=
  .ok (.ofList [(Request.previewMethod,
    [Server.ScriptedServer.plainAction (.answer (.ok (Preview.Listing.form.encode oneLine)))])])

/-- A preview of that file, with a file for its page. -/
def previewInto (out : String) : Arguments :=
  ⟨Path.ofString ".", none, "info", .preview (Path.ofString "a.rc") (some (Path.ofString out))⟩

/-- A page that can be written is delivered. -/
theorem preview_delivers_iff_written :
    (run (World.scripted lister workspace 1) (previewInto "p.html")).exitCode = 0 ∧
      (run (World.scripted lister workspace 1)
        (previewInto "p.html")).terminal.disk.read (Path.ofString "p.html") =
          .ok oneLine.pageBytes := by
  obtain ⟨-, -, delivers, -⟩ := preview_delivers_iff lister workspace 1
    (show (previewInto "p.html").action = .preview _ _ from rfl)
  have replied : listings (dealings (World.scripted lister workspace 1) (previewInto "p.html")) =
      [oneLine] := by decide +kernel
  have opened : workspace.Opened (Path.ofString "p.html")
      (.missing [Utf8.ofString "w", Utf8.ofString "p.html"]) :=
    ⟨by decide +kernel, .missing _ rfl⟩
  refine ⟨by decide +kernel, (delivers oneLine replied).1.mpr (.written _ opened nofun rfl rfl)⟩

/-- A preview may succeed although its page was lost. -/
theorem preview_lost :
    (run (World.scripted lister workspace 1) (previewInto "q/p.html")).exitCode = 0 ∧
      (run (World.scripted lister workspace 1)
        (previewInto "q/p.html")).terminal.disk.readText (Path.ofString "q/p.html") =
          .error .notFound := by
  decide +kernel

/-- The same workspace in a system that lets no file be made there. -/
example :
    let closed : Disk := { workspace with refuses
      | .make _ => some .forbidden
      | _ => none }
    (run (World.scripted lister closed 1) (previewInto "p.html")).exitCode = 0 ∧
      (run (World.scripted lister closed 1)
        (previewInto "p.html")).terminal.disk.read (Path.ofString "p.html") =
          .error .notFound := by
  decide +kernel

end CommandLine

end LanguageClient
