import LanguageClient.Proofs.Connections
import LanguageClient.Proofs.Conversations
import Mathlib.Data.List.Infix

/-!
# The protocol of a run

What a run of the program hands to its server, whatever the server answers: the greeting, what its
action hands over, and the farewell, up to the first failure. `disciplined_run` shows it together
with what the exit code tells.
-/

namespace LanguageClient

namespace Server

/-- The notice that the server may end. -/
def exitNotice : Call := ⟨"exit", .null⟩

/-- The question whether the server is ready to end. -/
def shutdownQuestion : Call := ⟨"shutdown", .null⟩

end Server

namespace CommandLine

open Server (Transport Session Launch Dealing Goes Carried Handed greeting farewell exitNotice
  shutdownQuestion introduction)
open Server.Session (logged)

variable {σ : Type}

/-- The world in which all that is handed to the server is logged. -/
def World.logging (world : World σ) : World (σ × List Dealing) where
  transport := world.transport.logging
  spawn := logged world.spawn
  disk := world.disk
  processId := world.processId

/-- A world that is logged has a logged transport. -/
@[simp]
theorem World.transport_logging (world : World σ) :
    world.logging.transport = world.transport.logging := rfl

/-- A world that is logged starts servers with an empty log. -/
@[simp]
theorem World.spawn_logging (world : World σ) : world.logging.spawn = logged world.spawn := rfl

/-- Logging changes no file. -/
@[simp]
theorem World.disk_logging (world : World σ) : world.logging.disk = world.disk := rfl

/-- Logging changes no number of a process. -/
@[simp]
theorem World.processId_logging (world : World σ) :
    world.logging.processId = world.processId := rfl

/-- All that a run hands to its server, in order, with what comes of it. -/
def dealings (world : World σ) (arguments : Arguments) : List Dealing :=
  ((run world.logging arguments).connection.map Prod.snd).getD []

/-- The arguments pass what is checked before a server is started: these are the settings, and this
is the workspace. -/
structure Accepts (disk : Disk) (arguments : Arguments) (settings : Settings) (workspace : Place) :
    Prop where
  /-- The log level is one. -/
  level : (checkLogLevel arguments.logLevel).toBool = true
  /-- The workspace is there. -/
  workspace : ∃ node, disk.canonical arguments.workspace = .ok (workspace, node)
  /-- The settings load. -/
  settings : Settings.load disk arguments.settingsPath = .ok settings

/-- The arguments ask for a server and are accepted, and the server of the settings starts in a
directory. -/
def Reaches (world : World σ) (arguments : Arguments) (settings : Settings) (root : Place) : Prop :=
  arguments.action ≠ .config ∧ ∃ workspace first, Accepts world.disk arguments settings workspace ∧
    Session.Reaches world.spawn world.disk
      (Launch.ofSettings settings workspace.path world.processId) root first

/-- What a run has to do with the protocol. -/
structure Disciplined (world : World σ) (arguments : Arguments) : Prop where
  /-- Nothing is handed over, as no server is reached, or what is handed over is the beginning of
  the greeting, a plan of the action, and the farewell if the plan is the whole of the action. If
  all goes well the greeting and the plan are handed over to their end. -/
  word : (dealings world arguments = [] ∧
      ∀ settings root, ¬ Reaches world arguments settings root) ∨
    ∃ settings root plan finished, Reaches world arguments settings root ∧
      Conversation world.disk settings.treeViews arguments.action plan finished ∧
      (dealings world arguments).flatMap Dealing.handed <+:
        (greeting root world.processId ++ plan ++ if finished then farewell else []).flatten ∧
      ((∀ dealing ∈ dealings world arguments, dealing.Good) →
        (greeting root world.processId ++ plan).flatten <+:
          (dealings world arguments).flatMap Dealing.handed)
  /-- The introduction comes first, and nothing else comes before it has gone well. -/
  introduced : ∀ first rest, dealings world arguments = first :: rest →
    (∃ root, first.handed = [.question (introduction root world.processId)]) ∧
      (rest ≠ [] → first.Good)
  /-- Nothing is handed over after a failure, and the run fails then. -/
  failed : ∀ before dealing after, dealings world arguments = before ++ dealing :: after →
    ¬ dealing.Good → after = [] ∧ (run world arguments).exitCode ≠ 0
  /-- A run in which the server is asked whether it is ready to end fails only if something that was
  handed over did not go well; after any other failure the server is not asked. -/
  ended : ∀ exchange, .asked exchange ∈ dealings world arguments →
    exchange.calls = [shutdownQuestion] → (∀ dealing ∈ dealings world arguments, dealing.Good) →
      (run world arguments).exitCode = 0
  /-- The exit is told right after the server has replied that it is ready to end. -/
  ready : ∀ before result after,
    dealings world arguments = before ++ .told exitNotice result :: after →
      ∃ earlier exchange, before = earlier ++ [.asked exchange] ∧
        exchange.calls = [shutdownQuestion] ∧ (Dealing.asked exchange).Good
  /-- A run that needs a server succeeds exactly if the exit was told. -/
  succeeds : arguments.action ≠ .config →
    ((run world arguments).exitCode = 0 ↔ .told exitNotice (.ok ()) ∈ dealings world arguments)

variable {fair : σ → Prop}

/-! ## The course of a run -/

/-- Leaving carries out the farewell, all of it if it succeeds. -/
theorem goes_leave {transport : Transport σ} (orderly : transport.Orderly fair)
    (stage : Stage (σ × List Dealing)) (isFair : fair stage.session.state.1) :
    Goes fair stage.session.state (leave transport.logging stage).1.session.state farewell
      (leave transport.logging stage).2.toBool := by
  have goes := Session.goes_shutdown orderly stage.session isFair
  simp only [leave, Stage.perform_deactivate]
  generalize stage.session.shutdown transport.logging = ended at goes ⊢
  obtain ⟨session, cause | fine⟩ := ended <;> exact goes

/-- The exit is not in the greeting. -/
theorem exit_not_mem_greeting (root : Place) (processId : Nat) :
    [.notice exitNotice] ∉ greeting root processId := by
  simp [greeting, exitNotice]

/-- Nor is the question whether the server is ready to end. -/
theorem shutdown_not_mem_greeting (root : Place) (processId : Nat) :
    [.question shutdownQuestion] ∉ greeting root processId := by
  simp [greeting, shutdownQuestion, introduction]

/-- The exit is in no plan of an action. -/
theorem exit_not_mem {disk : Disk} {views : List String} {action : Action}
    {plan : List (List Handed)} {finished : Bool}
    (conversation : Conversation disk views action plan finished) :
    [.notice exitNotice] ∉ plan := by
  cases conversation <;> simp [exitNotice, Server.Documents.openNotice]

/-- Nor is the question whether the server is ready to end. -/
theorem shutdown_not_mem {disk : Disk} {views : List String} {action : Action}
    {plan : List (List Handed)} {finished : Bool}
    (conversation : Conversation disk views action plan finished) :
    [.question shutdownQuestion] ∉ plan := by
  cases conversation <;>
    simp [shutdownQuestion, Server.childrenCall, Session.callOf, Request.method,
      Request.childrenMethod, Request.revealMethod, Request.previewMethod]

/-- There is a conversation for every action that needs a server. -/
theorem exists_conversation (disk : Disk) (views : List String) {action : Action}
    (connects : action ≠ .config) :
    ∃ plan finished, Conversation disk views action plan finished := by
  cases action with
  | config => exact absurd rfl connects
  | preview file out =>
    cases read : Server.Documents.readDocument disk file with
    | error cause => exact ⟨_, _, .previewUnread file out cause read⟩
    | ok found => exact ⟨_, _, .preview file out found.1 found.2 read⟩
  | tree view depth =>
    by_cases known : view ∈ views
    · exact ⟨_, _, .tree view depth [] known⟩
    · exact ⟨_, _, .treeUnknown view depth known⟩
  | reveal file line column =>
    cases read : Server.Documents.readDocument disk file with
    | error cause => exact ⟨_, _, .revealUnread file line column cause read⟩
    | ok found =>
      cases placed : Position.ofLineColumn? line column with
      | none => exact ⟨_, _, .revealMisplaced file line column found.1 found.2 read placed⟩
      | some position =>
        exact ⟨_, _, .reveal file line column found.1 found.2 position read placed⟩
  | run => exact ⟨_, _, .run⟩

/-- What follows the greeting: a plan of the action is carried out, and then the farewell if the
action succeeds with all of it. The run succeeds if that goes well to its end. -/
def Works (fair : σ → Prop) (disk : Disk) (views : List String) (action : Action)
    (before after : σ × List Dealing) (success : Bool) : Prop :=
  ∃ plan finished ends whole, Conversation disk views action plan finished ∧
    Goes fair before after (plan ++ if ends then farewell else []) whole ∧
    (ends = true → finished = true) ∧ success = (whole && ends)

/-- The run in a session that has begun. -/
theorem works_work (world : World σ) (orderly : world.transport.Orderly fair)
    (settings : Settings) {action : Action} (connects : action ≠ .config)
    (session : Session (σ × List Dealing)) (isFair : fair session.state.1) :
    ∃ last, (work world.logging settings action session).connection = some last ∧
      Works fair world.disk settings.treeViews action session.state last
        (work world.logging settings action session).failure.isNone := by
  have live (view : String) : (firstStage world.disk settings action session).client.views.isLive
      view = true ↔ view ∈ settings.treeViews := Tree.Views.isLive_start settings.treeViews view
  obtain ⟨plan, finished, whole, conversation, goes, succeeds⟩ := keeps_act orderly
    (firstStage world.disk settings action session) isFair live connects
  change Conversation world.disk _ _ _ _ at conversation
  change Goes fair session.state _ _ _ at goes
  simp only [work_eq, World.transport_logging, World.disk_logging]
  generalize act world.transport.logging (firstStage world.disk settings action session) action =
    acted at goes succeeds ⊢
  obtain ⟨stage, message | fine⟩ := acted
  -- The action may fail by itself although its whole plan went well; no leave is taken then either.
  · refine ⟨stage.session.state, rfl, plan, finished, false, whole, conversation, ?_,
      Bool.noConfusion, (Bool.and_false whole).symm⟩
    rw [if_neg Bool.false_ne_true, List.append_nil]
    exact goes
  · obtain ⟨rfl, rfl⟩ := succeeds rfl
    have all := goes.trans (goes_leave orderly stage goes.fair)
    simp only
    generalize leave world.transport.logging stage = left at all ⊢
    refine ⟨left.1.session.state, rfl, plan, true, true, left.2.toBool, conversation, all,
      fun _ => rfl, ?_⟩
    obtain ⟨last, message | gone⟩ := left <;> rfl

/-- What a run comes to that reaches a server: the greeting fails, or the action follows it. -/
def Follows (fair : σ → Prop) (world : World σ) (arguments : Arguments) (settings : Settings)
    (root : Place) (last : σ × List Dealing) (success : Bool) : Prop :=
  ∃ first, (Goes fair (first, []) last (greeting root world.processId) false ∧ success = false) ∨
    ∃ begun, Goes fair (first, []) begun (greeting root world.processId) true ∧
      Works fair world.disk settings.treeViews arguments.action begun last success

/-- A run whose log level is right reaches no server, or greets one. -/
theorem follows_connect (world : World σ) (orderly : world.transport.Orderly fair)
    (spawned : ∀ place name arguments state,
      world.spawn place name arguments = .ok state → fair state)
    {arguments : Arguments} (connects : arguments.action ≠ .config)
    (level : (checkLogLevel arguments.logLevel).toBool = true) :
    ((connect world.logging arguments).connection = none ∧
        (connect world.logging arguments).failure.isNone = false ∧
        ∀ settings root, ¬ Reaches world arguments settings root) ∨
      ∃ settings root last, Reaches world arguments settings root ∧
        (connect world.logging arguments).connection = some last ∧
        Follows fair world arguments settings root last
          (connect world.logging arguments).failure.isNone := by
  unfold connect
  simp only [World.transport_logging, World.disk_logging]
  cases found : world.disk.canonical arguments.workspace with
  | error cause =>
    refine .inl ⟨rfl, rfl, ?_⟩
    rintro settings root ⟨-, workspace, first, accepts, -⟩
    obtain ⟨node, leads⟩ := accepts.workspace
    rw [found] at leads
    cases leads
  | ok target =>
    obtain ⟨workspace, node⟩ := target
    cases loads : Settings.load world.disk arguments.settingsPath with
    | error failure =>
      refine .inl ⟨rfl, rfl, ?_⟩
      rintro settings root ⟨-, other, first, accepts, -⟩
      rw [accepts.settings] at loads
      cases loads
    | ok settings =>
      have accepts : Accepts world.disk arguments settings workspace :=
        ⟨level, ⟨node, found⟩, loads⟩
      have starts := Session.goes_start orderly spawned world.disk
        (Launch.ofSettings settings workspace.path world.processId)
      simp only [World.spawn_logging, World.processId_logging]
      generalize Session.start world.transport.logging (logged world.spawn) world.disk
        (Launch.ofSettings settings workspace.path world.processId) = started at starts ⊢
      rcases starts with ⟨unreached, failed, never⟩ |
        ⟨root, first, last, reaches, reached, greets, same⟩
      · obtain ⟨connection, cause | session⟩ := started
        · refine .inl ⟨unreached, rfl, ?_⟩
          rintro other root ⟨-, place, first, acceptsToo, reaches⟩
          obtain ⟨nodeToo, foundToo⟩ := acceptsToo.workspace
          obtain ⟨rfl, -⟩ := Prod.mk.inj (Except.ok.inj (found.symm.trans foundToo))
          obtain rfl := Except.ok.inj (loads.symm.trans acceptsToo.settings)
          exact never root first reaches
        · cases failed
      · right
        have whole : Reaches world arguments settings root :=
          ⟨connects, workspace, first, accepts, reaches⟩
        obtain ⟨connection, cause | session⟩ := started
        · exact ⟨settings, root, last, whole, reached, first, .inl ⟨greets, rfl⟩⟩
        · obtain rfl := same session rfl
          obtain ⟨final, connected, works⟩ :=
            works_work world orderly settings connects session greets.fair
          exact ⟨settings, root, final, whole, connected, first,
            .inr ⟨session.state, greets, works⟩⟩

/-- A run comes to the same with and without a log. -/
theorem run_logging (world : World σ) (arguments : Arguments) :
    run world arguments = (run world.logging arguments).under Prod.fst := by
  refine run_shadow world.transport.shadows_logging world.disk world.processId ?_ arguments
  intro place name given
  simp only [logged]
  cases world.spawn place name given <;> rfl

/-- A run that does not fail exits with zero, and no other run does. -/
theorem exitCode_eq_zero_iff (world : World σ) (arguments : Arguments) :
    (run world arguments).exitCode = 0 ↔
      (run world.logging arguments).failure.isNone = true := by
  rw [run_logging]
  show (run world.logging arguments).failure.elim 0 Failure.code = 0 ↔ _
  cases (run world.logging arguments).failure with
  | none => exact iff_of_true rfl rfl
  | some failure => cases failure <;> exact iff_of_false (by simp [Failure.code]) Bool.false_ne_true

/-- What was carried out in a run that reaches a server. -/
structure Summary (world : World σ) (arguments : Arguments) (settings : Settings) (root : Place)
    (plan : List (List Handed)) (finished ends whole : Bool) : Prop where
  /-- The run has reached a server. -/
  reaches : Reaches world arguments settings root
  /-- The action has a conversation. -/
  conversation : Conversation world.disk settings.treeViews arguments.action plan finished
  /-- It is carried out between the greeting and the farewell. -/
  carried : Carried (greeting root world.processId ++ (plan ++ if ends then farewell else []))
    (dealings world arguments) whole
  /-- The farewell comes only after the action has finished. -/
  finished : ends = true → finished = true
  /-- The run succeeds if all was carried out to the end. -/
  success : (run world arguments).exitCode = 0 ↔ whole = true ∧ ends = true

/-- A run that needs a server reaches none and fails, or it has a summary. -/
theorem run_summary (world : World σ) (orderly : world.transport.Orderly fair)
    (spawned : ∀ place name arguments state,
      world.spawn place name arguments = .ok state → fair state)
    {arguments : Arguments} (connects : arguments.action ≠ .config) :
    (dealings world arguments = [] ∧ (run world arguments).exitCode ≠ 0 ∧
        ∀ settings root, ¬ Reaches world arguments settings root) ∨
      ∃ settings root plan finished ends whole,
        Summary world arguments settings root plan finished ends whole := by
  have exits := exitCode_eq_zero_iff world arguments
  cases level : checkLogLevel arguments.logLevel with
  | error message =>
    have refusal : run world.logging arguments = refused world.logging none message := by
      simp only [run, level]
    left
    rw [ne_eq, exits, dealings, refusal]
    refine ⟨rfl, Bool.false_ne_true, ?_⟩
    rintro settings root ⟨-, workspace, first, accepts, -⟩
    have fine := accepts.level
    rw [level] at fine
    cases fine
  | ok fine =>
    have connected : run world.logging arguments = connect world.logging arguments := by
      simp only [run, level]
    have follows := follows_connect world orderly spawned connects (by rw [level]; rfl)
    rw [connected] at exits
    generalize connect world.logging arguments = report at connected exits follows
    rcases follows with ⟨unreached, failed, never⟩ |
      ⟨settings, root, last, reaches, reached, first, follows⟩
    · left
      rw [ne_eq, exits, dealings, connected, unreached, failed]
      exact ⟨rfl, Bool.false_ne_true, never⟩
    · right
      have log : dealings world arguments = last.2 := by
        rw [dealings, connected, reached]
        rfl
      rcases follows with ⟨⟨-, sent, whole, carried⟩, failed⟩ |
        ⟨begun, greets, plan, finished, ends, whole, conversation, goes, isWhole, success⟩
      -- The greeting failed, so it does not matter which plan would have followed.
      · obtain ⟨plan, finished, conversation⟩ :=
          exists_conversation world.disk settings.treeViews connects
        refine ⟨settings, root, plan, finished, false, false, reaches, conversation, ?_,
          Bool.noConfusion, ?_⟩
        · rw [log, whole]
          exact carried.append_of_false _
        · rw [exits, failed]
          simp
      · obtain ⟨-, sent, all, carried⟩ := greets.trans goes
        refine ⟨settings, root, plan, finished, ends, whole, reaches, conversation, ?_, isWhole, ?_⟩
        · rw [log, all]
          exact carried
        · rw [exits, success, Bool.and_eq_true]

/-- If a list begins as another one does that ends in an element, and has that element, which stands
nowhere else, it is all of the other one. -/
theorem eq_of_ends {α : Type} {front before after : List α} {last : α} (absent : last ∉ front)
    (split : before ++ last :: after <+: front ++ [last]) : before = front ∧ after = [] := by
  obtain ⟨rest, whole⟩ := split
  rw [List.append_assoc, List.cons_append] at whole
  rcases List.append_eq_append_iff.mp whole with ⟨between, rfl, tail⟩ | ⟨between, rfl, tail⟩
  · cases between with
    | nil =>
      have nothing : after ++ rest = [] := (List.cons.inj tail).2
      exact ⟨(List.append_nil _).symm, (List.append_eq_nil_iff.mp nothing).1⟩
    | cons first others =>
      obtain rfl := (List.cons.inj tail).1
      exact absurd (by simp) absent
  · cases between with
    | nil =>
      have nothing : [] = after ++ rest := (List.cons.inj tail).2
      exact ⟨List.append_nil _, (List.append_eq_nil_iff.mp nothing.symm).1⟩
    | cons first others => simp at tail

namespace Summary

variable {world : World σ} {arguments : Arguments} {settings : Settings} {root : Place}
  {plan : List (List Handed)} {finished ends whole : Bool}
  (summary : Summary world arguments settings root plan finished ends whole)
include summary

/-- What is in the farewell alone is handed over only in the farewell. -/
theorem ends_of_mem {dealing : Dealing} (member : dealing ∈ dealings world arguments)
    (ungreeted : dealing.handed ∉ greeting root world.processId)
    (unplanned : dealing.handed ∉ plan) : ends = true := by
  have step : dealing.handed ∈ (dealings world arguments).map Dealing.handed :=
    List.mem_map_of_mem member
  have planned := summary.carried.handed_prefix.subset step
  cases ends with
  | true => rfl
  | false =>
    rw [if_neg Bool.false_ne_true, List.append_nil] at planned
    rcases List.mem_append.mp planned with early | later
    · exact absurd early ungreeted
    · exact absurd later unplanned

/-- The exit stands at the end, behind all else that was planned. -/
theorem exit_at_end {before after : List Dealing} {result : Except Server.ExchangeFailure Unit}
    (split : dealings world arguments = before ++ .told exitNotice result :: after) :
    ends = true ∧ after = [] ∧ before.map Dealing.handed =
      greeting root world.processId ++ plan ++ [[.question shutdownQuestion]] := by
  have ungreeted := exit_not_mem_greeting root world.processId
  have unplanned := exit_not_mem summary.conversation
  have told : .told exitNotice result ∈ dealings world arguments := by
    rw [split]
    exact List.mem_append_right _ List.mem_cons_self
  obtain rfl : ends = true := summary.ends_of_mem told ungreeted unplanned
  have elsewhere : [.notice exitNotice] ∉
      greeting root world.processId ++ plan ++ [[.question shutdownQuestion]] := by
    simp only [List.mem_append, not_or]
    exact ⟨⟨ungreeted, unplanned⟩, by simp⟩
  have handed := summary.carried.handed_prefix
  rw [split, List.map_append, List.map_cons] at handed
  have all : before.map Dealing.handed ++ [.notice exitNotice] :: after.map Dealing.handed <+:
      greeting root world.processId ++ plan ++ [[.question shutdownQuestion]] ++
        [[.notice exitNotice]] := by
    rw [List.append_assoc, List.append_assoc]
    exact handed
  obtain ⟨same, nothing⟩ := eq_of_ends elsewhere all
  exact ⟨rfl, List.map_eq_nil_iff.mp nothing, same⟩

/-- Nothing follows a failure, and the run fails. -/
theorem failed {before after : List Dealing} {dealing : Dealing}
    (split : dealings world arguments = before ++ dealing :: after) (bad : ¬ dealing.Good) :
    after = [] ∧ (run world arguments).exitCode ≠ 0 := by
  obtain ⟨last, broken⟩ := summary.carried.last_of_bad split bad
  refine ⟨last, fun success => ?_⟩
  rw [(summary.success.mp success).1] at broken
  cases broken

/-- What is followed by something has gone well. -/
theorem good_of_followed {before after : List Dealing} {dealing : Dealing}
    (split : dealings world arguments = before ++ dealing :: after) (more : after ≠ []) :
    dealing.Good := by
  by_contra bad
  exact more (summary.failed split bad).1

/-- What is handed over is the beginning of what the action needs, and if all goes well it is more
than the plan. -/
theorem word : (dealings world arguments).flatMap Dealing.handed <+:
      (greeting root world.processId ++ plan ++ if finished then farewell else []).flatten ∧
    ((∀ dealing ∈ dealings world arguments, dealing.Good) →
      (greeting root world.processId ++ plan).flatten <+:
        (dealings world arguments).flatMap Dealing.handed) := by
  rw [List.flatMap_def]
  constructor
  · have farewells : (if ends then farewell else []) <+: if finished then farewell else [] := by
      cases ends with
      | true => rw [summary.finished rfl]
      | false => exact List.nil_prefix
    have longer : greeting root world.processId ++ (plan ++ if ends then farewell else []) <+:
        greeting root world.processId ++ (plan ++ if finished then farewell else []) := by
      rw [List.prefix_append_right_inj, List.prefix_append_right_inj]
      exact farewells
    rw [List.append_assoc]
    exact (summary.carried.handed_prefix.trans longer).flatten
  · intro good
    have carried := summary.carried
    rw [carried.whole_of_good good] at carried
    rw [carried.handed_eq, ← List.append_assoc]
    exact (List.prefix_append _ _).flatten

/-- After the question whether the server is ready to end only a dealing can fail. -/
theorem ended {exchange : Server.Exchange} (asked : .asked exchange ∈ dealings world arguments)
    (calls : exchange.calls = [shutdownQuestion])
    (good : ∀ dealing ∈ dealings world arguments, dealing.Good) :
    (run world arguments).exitCode = 0 := by
  have step : (Dealing.asked exchange).handed = [.question shutdownQuestion] := by
    rw [Dealing.handed, calls]
    rfl
  refine summary.success.mpr ⟨summary.carried.whole_of_good good, summary.ends_of_mem asked ?_ ?_⟩
  · rw [step]
    exact shutdown_not_mem_greeting root world.processId
  · rw [step]
    exact shutdown_not_mem summary.conversation

/-- The run succeeds exactly if the exit is told. -/
theorem succeeds : (run world arguments).exitCode = 0 ↔
    .told exitNotice (.ok ()) ∈ dealings world arguments := by
  rw [summary.success]
  constructor
  · rintro ⟨rfl, rfl⟩
    have told : [.notice exitNotice] ∈ (dealings world arguments).map Dealing.handed := by
      rw [summary.carried.handed_eq]
      simp [farewell, exitNotice]
    obtain ⟨dealing, member, handed⟩ := List.mem_map.mp told
    have good : dealing.Good := by
      by_contra bad
      obtain ⟨before, after, split⟩ := List.append_of_mem member
      cases (summary.carried.last_of_bad split bad).2
    obtain ⟨result, rfl⟩ := Dealing.eq_told handed
    rw [show result = .ok () from good] at member
    exact member
  · intro told
    obtain ⟨before, after, split⟩ := List.append_of_mem told
    obtain ⟨isEnd, rfl, -⟩ := summary.exit_at_end split
    refine ⟨?_, isEnd⟩
    -- What was not carried out to its end ends badly, but the exit is at the end and was taken.
    by_contra broken
    have carried := summary.carried
    rw [Bool.eq_false_iff.mpr broken] at carried
    obtain ⟨earlier, last, splitToo, bad⟩ := carried.bad_at_end
    obtain rfl := List.singleton_inj.mp (List.append_inj' (split.symm.trans splitToo) rfl).2
    exact bad rfl

/-- A run with a summary keeps to the protocol. -/
theorem disciplined : Disciplined world arguments where
  word := .inr ⟨settings, root, plan, finished, summary.reaches, summary.conversation, summary.word⟩
  introduced first rest split := by
    have handed := summary.carried.handed_prefix
    rw [split] at handed
    have front : dealings world arguments = [] ++ first :: rest := split
    exact ⟨⟨root, (List.cons_prefix_cons.mp handed).1⟩, summary.good_of_followed front⟩
  failed before dealing after split bad := summary.failed split bad
  ended exchange asked calls good := summary.ended asked calls good
  ready before result after split := by
    obtain ⟨-, -, front⟩ := summary.exit_at_end split
    obtain ⟨earlier, ready, rfl, -, last⟩ := List.map_eq_append_iff.mp front
    obtain ⟨dealing, rfl, asked⟩ := List.map_eq_singleton_iff.mp last
    obtain ⟨exchange, rfl, calls⟩ := Dealing.eq_asked asked
    rw [List.append_assoc] at split
    exact ⟨earlier, exchange, rfl, calls, summary.good_of_followed split (by simp)⟩
  succeeds _ := summary.succeeds

end Summary

/-- A run that hands nothing over keeps to the protocol if it reaches no server and fails. -/
theorem disciplined_of_nil {world : World σ} {arguments : Arguments}
    (nothing : dealings world arguments = [])
    (never : ∀ settings root, ¬ Reaches world arguments settings root)
    (fails : arguments.action ≠ .config → (run world arguments).exitCode ≠ 0) :
    Disciplined world arguments := by
  constructor
  · exact .inl ⟨nothing, never⟩
  · intro first rest split
    rw [nothing] at split
    cases split
  · intro before dealing after split
    rw [nothing] at split
    simp at split
  · intro exchange asked
    rw [nothing] at asked
    cases asked
  · intro before result after split
    rw [nothing] at split
    simp at split
  · intro connects
    rw [nothing]
    exact iff_of_false (fails connects) (by simp)

/-- Over a transport that brings every question to an end, every run keeps to the protocol. -/
theorem disciplined_of_orderly (world : World σ) (orderly : world.transport.Orderly fair)
    (spawned : ∀ place name arguments state,
      world.spawn place name arguments = .ok state → fair state)
    (arguments : Arguments) : Disciplined world arguments := by
  by_cases connects : arguments.action = .config
  · refine disciplined_of_nil ?_ (fun settings root reaches => reaches.1 connects)
      fun needs => absurd connects needs
    unfold dealings
    cases level : checkLogLevel arguments.logLevel with
    | error message =>
      rw [show run world.logging arguments = refused world.logging none message by
        simp only [run, level]]
      rfl
    | ok fine =>
      rw [show run world.logging arguments = configure world.disk by
        simp only [run, level, connects, World.disk_logging]]
      unfold configure
      generalize Settings.configure world.disk world.disk.workingDirectory.path = configured
      obtain ⟨disk, failure | path⟩ := configured <;> rfl
  · rcases run_summary world orderly spawned connects with
      ⟨nothing, fails, never⟩ | ⟨settings, root, plan, finished, ends, whole, summary⟩
    · exact disciplined_of_nil nothing never fun _ => fails
    · exact summary.disciplined

/-- A world in which every server does what is written down for it. -/
def World.scripted
    (script : Place → String → List String → Except FileError (Table String (List Server.Action)))
    (disk : Disk) (processId : Nat) : World Server.Connection where
  transport := Server.Connection.transport
  spawn place name given := (script place name given).map Server.Connection.start
  disk := disk
  processId := processId

/-- The connections to scripted servers are fair when they begin. -/
theorem World.fair_of_spawn
    {script : Place → String → List String → Except FileError (Table String (List Server.Action))}
    {disk : Disk} {processId : Nat} (place : Place) (name : String) (given : List String)
    (connection : Server.Connection)
    (started : (World.scripted script disk processId).spawn place name given = .ok connection) :
    connection.Fair := by
  change (script place name given).map Server.Connection.start = .ok connection at started
  cases written : script place name given with
  | error cause =>
    rw [written] at started
    cases started
  | ok actions =>
    rw [written] at started
    cases started
    exact Server.Connection.fair_start actions

/-- Whatever the command line, the files and the script of the server, a run keeps to the
protocol. -/
theorem disciplined_run
    (script : Place → String → List String → Except FileError (Table String (List Server.Action)))
    (disk : Disk) (processId : Nat) (arguments : Arguments) :
    Disciplined (World.scripted script disk processId) arguments :=
  disciplined_of_orderly _ Server.Connection.orderly_transport World.fair_of_spawn arguments

/-- A server that exits when it is introduced to is handed nothing more, and the run fails. -/
example :
    let script : Table String (List Server.Action) :=
      .ofList [("initialize", [Server.ScriptedServer.plainAction .exit])]
    let world := World.scripted (fun _ _ _ => .ok script) (Disk.bare []) 1
    let arguments : Arguments := ⟨Path.ofString "/", none, "info", .tree "rcAst" 1⟩
    (((dealings world arguments).flatMap Server.Dealing.handed).map fun
        | .question call | .notice call => call.method) = ["initialize"] ∧
      (run world arguments).exitCode = 1 := by decide +kernel

end CommandLine

end LanguageClient
