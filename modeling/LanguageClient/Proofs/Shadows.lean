import LanguageClient.CommandLine.Run

/-!
# Transports that do the same

A transport shadows another one if it does the same in states that hold more, such as a record for
an onlooker. Nothing that is done over a transport tells the two apart: `run_shadow` shows it for
whole runs of the program, and the lemmas before it for every part of a run.
-/

namespace LanguageClient

namespace Server

variable {ρ σ : Type}

/-- A transport does in its states what another one does in what they hold. -/
structure Transport.Shadows (outer : Transport ρ) (inner : Transport σ) (bare : ρ → σ) :
    Prop where
  /-- Questions are answered alike. -/
  ask : ∀ limit calls state, inner.ask limit calls (bare state) =
    (bare (outer.ask limit calls state).1, (outer.ask limit calls state).2)
  /-- Notices are taken alike. -/
  tell : ∀ call state, inner.tell call (bare state) =
    (bare (outer.tell call state).1, (outer.tell call state).2)
  /-- The same events come. -/
  events : ∀ state, inner.events (bare state) =
    (bare (outer.events state).1, (outer.events state).2)

/-- Notes change nothing of what a transport does. -/
theorem Transport.shadows_noting (transport : Transport σ) :
    transport.noting.Shadows transport Prod.fst :=
  ⟨fun _ _ _ => rfl, fun _ _ => rfl, fun _ => rfl⟩

/-- Earlier notes change nothing of what is noted from now on. -/
theorem Transport.shadows_noted (transport : Transport σ) (notes : List Handed) :
    transport.noting.Shadows transport.noting (Prod.map id (notes ++ ·)) := by
  constructor
  · intro limit calls state
    simp [Transport.noting, Prod.map]
  · intro call state
    simp [Transport.noting, Prod.map]
  · intro state
    rfl

/-- The session with what a state holds. -/
def Session.under (bare : ρ → σ) (session : Session ρ) : Session σ :=
  ⟨bare session.state, session.requestTimeout, session.capabilities, session.documents⟩

variable {outer : Transport ρ} {inner : Transport σ} {bare : ρ → σ}
  (shadows : outer.Shadows inner bare)
include shadows

namespace Documents

/-- The table of open documents is the same after opening one over either transport. -/
theorem openAt_shadow (disk : Disk) (path : Path) (documents : Documents) (state : ρ) :
    documents.openAt inner disk path (bare state) =
      ((documents.openAt outer disk path state).1,
        bare (documents.openAt outer disk path state).2.1,
        (documents.openAt outer disk path state).2.2) := by
  unfold openAt
  cases readDocument disk path with
  | error cause => rfl
  | ok found =>
    simp only [shadows.tell]
    generalize outer.tell (openNotice found.1 (languageId path) found.2) state = told
    obtain ⟨after, sent | failure⟩ := told <;> rfl

/-- The table of open documents is the same after changing one over either transport. -/
theorem changeAt_shadow (disk : Disk) (path : Path) (text : String) (documents : Documents)
    (state : ρ) :
    documents.changeAt inner disk path text (bare state) =
      ((documents.changeAt outer disk path text state).1,
        bare (documents.changeAt outer disk path text state).2.1,
        (documents.changeAt outer disk path text state).2.2) := by
  unfold changeAt
  cases disk.urlOf path with
  | error cause => rfl
  | ok document =>
    cases isOpen : documents.version? document with
    | none => simp only [isOpen]
    | some version =>
      simp only [isOpen, shadows.tell]
      generalize outer.tell (changeNotice document (version + 1) text) state = told
      obtain ⟨after, sent | failure⟩ := told <;> rfl

/-- The table of open documents is the same after closing one over either transport. -/
theorem closeAt_shadow (disk : Disk) (path : Path) (documents : Documents) (state : ρ) :
    documents.closeAt inner disk path (bare state) =
      ((documents.closeAt outer disk path state).1,
        bare (documents.closeAt outer disk path state).2.1,
        (documents.closeAt outer disk path state).2.2) := by
  unfold closeAt
  cases disk.urlOf path with
  | error cause => rfl
  | ok document =>
    simp only [shadows.tell]
    generalize outer.tell (closeNotice document) state = told
    obtain ⟨after, sent | failure⟩ := told <;> rfl

end Documents

namespace Session

/-- A single question is answered alike. -/
theorem askOne_shadow (limit : Option Duration) (form : Passive) (call : Call) (state : ρ) :
    askOne inner limit form call (bare state) =
      (bare (askOne outer limit form call state).1, (askOne outer limit form call state).2) := by
  simp only [askOne, shadows.ask]

/-- A session starts alike. -/
theorem start_shadow {spawnOuter : Place → String → List String → Except FileError ρ}
    {spawn : Place → String → List String → Except FileError σ}
    (spawns : ∀ place name arguments,
      spawn place name arguments = (spawnOuter place name arguments).map bare)
    (disk : Disk) (launch : Launch) :
    start inner spawn disk launch =
      ((start outer spawnOuter disk launch).1.map bare,
        (start outer spawnOuter disk launch).2.map (under bare)) := by
  unfold start
  cases workspaceOf disk launch with
  | error cause => rfl
  | ok found =>
    obtain ⟨place, node⟩ := found
    simp only [spawns]
    cases spawnOuter place launch.command launch.arguments with
    | error cause => rfl
    | ok state =>
      simp only [Except.map, askOne_shadow shadows]
      generalize askOne outer (some launch.initTimeout) introductionForm
        (introduction place launch.processId) state = asked
      obtain ⟨after, failure | answer⟩ := asked
      · cases failure <;> rfl
      · simp only [shadows.tell]
        generalize outer.tell ⟨"initialized", .obj []⟩ after = told
        obtain ⟨last, failure | sent⟩ := told <;> rfl

/-- Questions that are asked at once are answered alike. -/
theorem askAll_shadow (requests : List Request) (session : Session ρ) :
    (session.under bare).askAll inner requests =
      ((session.askAll outer requests).1.under bare, (session.askAll outer requests).2) := by
  simp only [askAll, under, shadows.ask]

/-- A question of a session is answered alike. -/
theorem ask_shadow (request : Request) (session : Session ρ) :
    (session.under bare).ask inner request =
      ((session.ask outer request).1.under bare, (session.ask outer request).2) := by
  rw [ask, ask, askAll_shadow shadows]
  generalize session.askAll outer [request] = asked
  obtain ⟨after, _ | ⟨first, rest⟩⟩ := asked <;> rfl

/-- A notice is taken alike. -/
theorem tell_shadow (notice : Notice) (session : Session ρ) :
    (session.under bare).tell inner notice =
      ((session.tell outer notice).1.under bare, (session.tell outer notice).2) := by
  simp only [tell, under, shadows.tell]

/-- A document is opened alike. -/
theorem openDocument_shadow (disk : Disk) (path : Path) (session : Session ρ) :
    (session.under bare).openDocument inner disk path =
      ((session.openDocument outer disk path).1.under bare,
        (session.openDocument outer disk path).2) := by
  simp only [openDocument, under, Documents.openAt_shadow shadows]

/-- A document is changed alike. -/
theorem changeDocument_shadow (disk : Disk) (path : Path) (text : String) (session : Session ρ) :
    (session.under bare).changeDocument inner disk path text =
      ((session.changeDocument outer disk path text).1.under bare,
        (session.changeDocument outer disk path text).2) := by
  simp only [changeDocument, under, Documents.changeAt_shadow shadows]

/-- A document is closed alike. -/
theorem closeDocument_shadow (disk : Disk) (path : Path) (session : Session ρ) :
    (session.under bare).closeDocument inner disk path =
      ((session.closeDocument outer disk path).1.under bare,
        (session.closeDocument outer disk path).2) := by
  simp only [closeDocument, under, Documents.closeAt_shadow shadows]

/-- A session is shut down alike. -/
theorem shutdown_shadow (session : Session ρ) :
    (session.under bare).shutdown inner =
      ((session.shutdown outer).1.under bare, (session.shutdown outer).2) := by
  simp only [shutdown, under, askOne_shadow shadows]
  generalize askOne outer none .nothing ⟨"shutdown", .null⟩ session.state = asked
  obtain ⟨after, failure | answer⟩ := asked
  · rfl
  · simp only [shadows.tell]

end Session

end Server

namespace CommandLine

open Server (Transport Session Launch)

variable {ρ σ : Type}

/-- The stage with what the state of its session holds. -/
def Stage.under (bare : ρ → σ) (stage : Stage ρ) : Stage σ :=
  ⟨stage.session.under bare, stage.client, stage.terminal⟩

/-- The report with what the state of the connection holds. -/
def Report.under (bare : ρ → σ) (report : Report ρ) : Report σ :=
  ⟨report.terminal, report.connection.map bare, report.failure⟩

/-- The file that takes the page of a preview, if one is named. -/
def Action.output? : Action → Option Path
  | .preview _ out => out
  | _ => none

/-- The stage on which a run acts first. -/
def firstStage (disk : Disk) (settings : Settings) (action : Action) (session : Session σ) :
    Stage σ :=
  ⟨session, (Client.activate settings).1,
    (Terminal.blank disk action.output?).performAll (Client.activate settings).2⟩

/-- A run acts, and takes its leave if that does not fail. -/
theorem work_eq (world : World σ) (settings : Settings) (action : Action) (session : Session σ) :
    work world settings action session =
      match act world.transport (firstStage world.disk settings action session) action with
      | (stage, .error message) => reportOf stage (.error message)
      | (stage, .ok ()) =>
        reportOf (leave world.transport stage).1 (leave world.transport stage).2 := by
  cases action <;> rfl

variable {outer : Transport ρ} {inner : Transport σ} {bare : ρ → σ}
  (shadows : outer.Shadows inner bare)
include shadows

namespace Stage

/-- What a turn of the client brings is done alike. -/
theorem take_shadow {α : Type} (turn : Turn Client α) (stage : Stage ρ) :
    (stage.under bare).take inner turn = (stage.take outer turn).under bare := by
  have told (notices : List Notice) (session : Session ρ) :
      notices.foldl (fun session notice => (session.tell inner notice).1) (session.under bare) =
        (notices.foldl (fun session notice => (session.tell outer notice).1)
          session).under bare := by
    induction notices generalizing session with
    | nil => rfl
    | cons notice rest ih =>
      simp only [List.foldl_cons, Session.tell_shadow shadows]
      exact ih (session.tell outer notice).1
  simp only [take, under, told]

/-- An operation is performed alike. -/
theorem perform_shadow (operation : Operation) (stage : Stage ρ) :
    (stage.under bare).perform inner operation =
      ((stage.perform outer operation).1.under bare, (stage.perform outer operation).2) := by
  have same : (stage.under bare).client.issue (stage.under bare).surroundings operation =
      stage.client.issue stage.surroundings operation := rfl
  simp only [perform, same, take_shadow shadows]
  generalize stage.client.issue stage.surroundings operation = turn
  generalize stage.take outer turn = begun
  cases turn.outcome with
  | done answer => rfl
  | waits request pending =>
    have asked : (begun.under bare).session.ask inner request =
        ((begun.session.ask outer request).1.under bare, (begun.session.ask outer request).2) :=
      Session.ask_shadow shadows request begun.session
    simp only [asked]
    exact congrArg (·, _) (take_shadow shadows _
      { begun with session := (begun.session.ask outer request).1 })

/-- A document is opened alike at any stage. -/
theorem openDocument_shadow (path : Path) (stage : Stage ρ) :
    (stage.under bare).openDocument inner path =
      ((stage.openDocument outer path).1.under bare, (stage.openDocument outer path).2) := by
  simp only [openDocument, under, Session.openDocument_shadow shadows]

/-- The children of nodes are fetched alike. -/
theorem fetchAll_shadow (view : String) (uris : List String) (stage : Stage ρ) :
    (stage.under bare).fetchAll inner view uris =
      ((stage.fetchAll outer view uris).1.under bare, (stage.fetchAll outer view uris).2) := by
  simp only [fetchAll, under]
  cases uris.mapM fun uri => stage.client.views.askChildren view (some uri) with
  | error cause => rfl
  | ok requests => simp only [Session.askAll_shadow shadows]

/-- A tree grows alike. -/
theorem grow_shadow (view : String) (left depth : Nat) (level : List (Nat × String))
    (lines : List Tree.OutlineLine) (stage : Stage ρ) :
    (stage.under bare).grow inner view left depth level lines =
      ((stage.grow outer view left depth level lines).1.under bare,
        (stage.grow outer view left depth level lines).2) := by
  induction left generalizing depth level lines stage with
  | zero => cases level <;> rfl
  | succ left ih =>
    cases level with
    | nil => rfl
    | cons entry rest =>
      simp only [grow, fetchAll_shadow shadows]
      generalize stage.fetchAll outer view ((entry :: rest).map Prod.snd) = fetched
      obtain ⟨after, cause | children⟩ := fetched
      · rfl
      · exact ih _ _ _ after

/-- The lines of a tree are the same. -/
theorem outline_shadow (view : String) (depth : Nat) (stage : Stage ρ) :
    (stage.under bare).outline inner view depth =
      ((stage.outline outer view depth).1.under bare, (stage.outline outer view depth).2) := by
  simp only [outline, perform_shadow shadows]
  generalize stage.perform outer (.children view none) = performed
  obtain ⟨after, answer⟩ := performed
  cases answer with
  | uris result =>
    cases result with
    | error cause => rfl
    | ok roots => simp only [grow_shadow shadows]
  | _ => rfl

end Stage

/-- A preview is made alike. -/
theorem preview_shadow (file : Path) (stage : Stage ρ) :
    preview inner file (stage.under bare) =
      ((preview outer file stage).1.under bare, (preview outer file stage).2) := by
  simp only [preview, Stage.openDocument_shadow shadows]
  generalize stage.openDocument outer file = opened
  obtain ⟨begun, cause | document⟩ := opened
  · rfl
  · simp only [Stage.perform_shadow shadows]
    generalize begun.perform outer (.command (.startPreview file)) = performed
    obtain ⟨after, answer⟩ := performed
    cases answer with
    | ran result => cases result <;> rfl
    | _ => rfl

/-- A tree is printed alike. -/
theorem printTree_shadow (view : String) (depth : Nat) (stage : Stage ρ) :
    printTree inner view depth (stage.under bare) =
      ((printTree outer view depth stage).1.under bare, (printTree outer view depth stage).2) := by
  simp only [printTree, Stage.outline_shadow shadows]
  generalize stage.outline outer view depth = outlined
  obtain ⟨after, cause | lines⟩ := outlined <;> rfl

/-- A place is revealed alike. -/
theorem reveal_shadow (file : Path) (line column : UInt32) (stage : Stage ρ) :
    reveal inner file line column (stage.under bare) =
      ((reveal outer file line column stage).1.under bare,
        (reveal outer file line column stage).2) := by
  simp only [reveal, Stage.openDocument_shadow shadows]
  generalize stage.openDocument outer file = opened
  obtain ⟨begun, cause | document⟩ := opened
  · rfl
  · cases Position.ofLineColumn? line column with
    | none => rfl
    | some position =>
      simp only [Stage.perform_shadow shadows]
      generalize begun.perform outer (.reveal ⟨document, position⟩) = performed
      obtain ⟨after, answer⟩ := performed
      cases answer with
      | plan result =>
        cases result with
        | error cause => rfl
        | ok found => cases found <;> rfl
      | _ => rfl

/-- The events of a server are followed alike. -/
theorem follow_shadow (stage : Stage ρ) :
    follow inner (stage.under bare) =
      ((follow outer stage).1.under bare, (follow outer stage).2) := by
  have taken : inner.events (stage.under bare).session.state =
      (bare (outer.events stage.session.state).1, (outer.events stage.session.state).2) :=
    shadows.events stage.session.state
  simp only [follow, taken]
  exact congrArg (fun performed : Stage σ × Answer => (performed.1,
      if performed.1.terminal.aborted then Except.error Failure.aborted else Except.ok ()))
    (Stage.perform_shadow shadows _ { stage with session := { stage.session with
      state := (outer.events stage.session.state).1 } })

/-- Every action is carried out alike. -/
theorem act_shadow (stage : Stage ρ) (action : Action) :
    act inner (stage.under bare) action =
      ((act outer stage action).1.under bare, (act outer stage action).2) := by
  cases action with
  | config => rfl
  | preview file out => exact preview_shadow shadows file stage
  | tree view depth => exact printTree_shadow shadows view depth stage
  | reveal file line column => exact reveal_shadow shadows file line column stage
  | run => exact follow_shadow shadows stage

/-- A session is left alike. -/
theorem leave_shadow (stage : Stage ρ) :
    leave inner (stage.under bare) = ((leave outer stage).1.under bare, (leave outer stage).2) := by
  simp only [leave, Stage.perform_shadow shadows]
  generalize (stage.perform outer .deactivate).1 = closed
  have left : (closed.under bare).session.shutdown inner =
      ((closed.session.shutdown outer).1.under bare, (closed.session.shutdown outer).2) :=
    Session.shutdown_shadow shadows closed.session
  simp only [left]
  rfl

/-- The work over a session is the same. -/
theorem work_shadow (disk : Disk) (processId : Nat)
    {spawnOuter : Place → String → List String → Except FileError ρ}
    {spawn : Place → String → List String → Except FileError σ}
    (settings : Settings) (action : Action) (session : Session ρ) :
    work ⟨inner, spawn, disk, processId⟩ settings action (session.under bare) =
      (work ⟨outer, spawnOuter, disk, processId⟩ settings action session).under bare := by
  have acted : act inner (firstStage disk settings action (session.under bare)) action =
      ((act outer (firstStage disk settings action session) action).1.under bare,
        (act outer (firstStage disk settings action session) action).2) :=
    act_shadow shadows (firstStage disk settings action session) action
  simp only [work_eq, acted]
  generalize act outer (firstStage disk settings action session) action = done
  obtain ⟨after, message | finished⟩ := done
  · rfl
  · simp only [leave_shadow shadows]
    rfl

/-- A server is started and worked with alike. -/
theorem connect_shadow (disk : Disk) (processId : Nat)
    {spawnOuter : Place → String → List String → Except FileError ρ}
    {spawn : Place → String → List String → Except FileError σ}
    (spawns : ∀ place name arguments,
      spawn place name arguments = (spawnOuter place name arguments).map bare)
    (arguments : Arguments) :
    connect ⟨inner, spawn, disk, processId⟩ arguments =
      (connect ⟨outer, spawnOuter, disk, processId⟩ arguments).under bare := by
  simp only [connect]
  cases disk.canonical arguments.workspace with
  | error cause => rfl
  | ok found =>
    obtain ⟨place, node⟩ := found
    cases Settings.load disk arguments.settingsPath with
    | error failure => rfl
    | ok settings =>
      simp only [Session.start_shadow shadows spawns]
      generalize Session.start outer spawnOuter disk
        (Launch.ofSettings settings place.path processId) = started
      obtain ⟨connection, cause | session⟩ := started
      · rfl
      · exact work_shadow shadows disk processId settings arguments.action session

/-- A run over a transport comes to the same as one over a transport that shadows it. -/
theorem run_shadow (disk : Disk) (processId : Nat)
    {spawnOuter : Place → String → List String → Except FileError ρ}
    {spawn : Place → String → List String → Except FileError σ}
    (spawns : ∀ place name arguments,
      spawn place name arguments = (spawnOuter place name arguments).map bare)
    (arguments : Arguments) :
    run ⟨inner, spawn, disk, processId⟩ arguments =
      (run ⟨outer, spawnOuter, disk, processId⟩ arguments).under bare := by
  have connected := connect_shadow shadows disk processId spawns arguments
  simp only [run]
  cases checkLogLevel arguments.logLevel with
  | error message => rfl
  | ok fine =>
    cases arguments.action with
    | config =>
      simp only [configure]
      generalize Settings.configure disk disk.workingDirectory.path = configured
      obtain ⟨after, failure | path⟩ := configured <;> rfl
    | _ => exact connected

end CommandLine

end LanguageClient
