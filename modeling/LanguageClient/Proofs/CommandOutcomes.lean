import LanguageClient.Proofs.Courses
import LanguageClient.Proofs.PanelInvariant
import LanguageClient.Proofs.SoundPayloads

/-!
# Outcomes of commands

A command that the user calls ends in one way that the user can see: a preview is rendered or a
session is started, or the user is told that it is not. `command_has_one_outcome` says so for
every run of the client, whatever the server replies, whatever the editor makes of it, and
whatever comes in between.
-/

namespace LanguageClient

/-! ## The port of an address -/

namespace Url

/-- A port that is read is a number of sixteen bits. -/
theorem readPort_lt {text rest : List Char} {port : Nat}
    (read : readPort text = .ok (some port, rest)) : port < 65536 := by
  obtain ⟨-, refused⟩ | ⟨accepted, taken⟩ := ite_eq_iff.mp read
  · cases refused
  · obtain ⟨small, -⟩ := not_or.mp accepted
    obtain ⟨spelled, -⟩ := Prod.mk.inj (Except.ok.inj taken)
    split at spelled
    · cases spelled
    · obtain rfl := Option.some.inj spelled
      exact Nat.lt_succ_of_le (Nat.le_of_not_lt small)

/-- The port of an authority that is read is a number of sixteen bits. -/
theorem port_lt_of_readAuthority [Idna] {scheme : String} {family : Family} {text rest : List Char}
    {authority : Authority} {port : Nat}
    (read : readAuthority scheme family text = .ok (authority, rest))
    (spelled : authority.port = some port) : port < 65536 := by
  unfold readAuthority at read
  obtain ⟨⟨username, password, afterUser⟩, -, read⟩ := ok_of_bind read
  dsimp only at read
  split at read
  · cases read
  · split at read
    all_goals
      obtain ⟨host, -, read⟩ := ok_of_bind read
      split at read
      all_goals split at read
      any_goals cases read
    -- without a colon after the host there is no port
    any_goals cases spelled
    all_goals
      obtain ⟨⟨found, others⟩, ports, same⟩ := ok_of_bind read
      cases same
      dsimp only at spelled
      split at spelled
      · cases spelled
      · exact readPort_lt (spelled ▸ ports)

/-- The port of a URL that is read is a number of sixteen bits. -/
theorem port_lt_of_read [Idna] {text : String} {url : Url} {port : Nat}
    (read : Url.read text = .ok url) (spelled : url.port? = some port) : port < 65536 := by
  obtain ⟨⟨scheme, rest⟩, -, read⟩ := ok_of_bind read
  unfold readRest at read
  dsimp only at read
  split at read
  · obtain ⟨⟨host, path, marks⟩, -, same⟩ := ok_of_bind read
    cases same
    cases spelled
  · obtain ⟨⟨authority, after⟩, found, same⟩ := ok_of_bind read
    cases same
    exact port_lt_of_readAuthority found spelled
  · obtain ⟨⟨authority, after⟩, found, same⟩ := ok_of_bind read
    cases same
    exact port_lt_of_readAuthority found spelled
  · cases read
    cases spelled
  · cases read
    cases spelled

end Url

/-! ## Sessions -/

namespace Debug

/-- The port of an address that has a host and a port. -/
def portOf? (address : String) : Option Nat :=
  (Url.read address).toOption.bind fun url => url.host?.bind fun _ => url.port?

/-- What a reply offers: the name of a session and the port of its adapter, if the reply is a
session and its address has a host and a port. -/
def offered? (reply : Except LspError Json) : Option (String × Nat) :=
  reply.toOption.bind fun value => (Session.form.decode value).toOption.bind fun session =>
    (portOf? session.uri).map fun port => (session.name, port)

/-- The configuration launches a session by its name and port. -/
structure Configuration.Launches (noDebug : Bool) (name : String) (port : Nat)
    (configuration : Configuration) : Prop where
  /-- It is one for the server's own debugger. -/
  kind : configuration.kind = some configurationType
  /-- It launches a program. -/
  request : configuration.request = some "launch"
  /-- It has the name of the session. -/
  name : configuration.name = some name
  /-- It debugs or just runs. -/
  noDebug : configuration.noDebug = some noDebug
  /-- It has the port of the session. -/
  port : configuration.port.map UInt16.toNat = some port

/-- What the editor is called for after a reply to the question for an adapter. -/
inductive SessionCalls (noDebug : Bool) (reply : Except LspError Json)
    (debugging : Except EditorError Bool) : List EditorCall → Prop
  /-- The session is started. -/
  | started (name : String) (port : Nat) (configuration : Configuration)
    (offered : offered? reply = some (name, port))
    (launches : configuration.Launches noDebug name port) (accepted : debugging = .ok true) :
    SessionCalls noDebug reply debugging [.startDebugging configuration]
  /-- The editor does not start the session, and the user is told. -/
  | refused (name : String) (port : Nat) (configuration : Configuration)
    (offered : offered? reply = some (name, port))
    (launches : configuration.Launches noDebug name port) (refused : debugging ≠ .ok true) :
    SessionCalls noDebug reply debugging
      [.startDebugging configuration, .showError (notStarted noDebug)]
  /-- There is no session to start, and the user is told. -/
  | missing (nothing : offered? reply = none) :
    SessionCalls noDebug reply debugging [.showError (notStarted noDebug)]

/-- An address leads to an endpoint if it has a host and a port. -/
theorem portOf?_eq (address : String) :
    portOf? address =
      (Endpoint.ofUri address).toOption.map fun endpoint => endpoint.port.toNat := by
  unfold portOf? Endpoint.ofUri
  cases read : Url.read address with
  | error reason => rfl
  | ok url =>
    cases host : url.host? with
    | none =>
      simp only [Except.toOption, Option.bind_some, host]
      rfl
    | some name =>
      cases port : url.port? with
      | none =>
        simp only [Except.toOption, Option.bind_some, host, port]
        rfl
      | some number =>
        have small : number < 65536 := Url.port_lt_of_read read port
        have same : (UInt16.ofNat number).toNat = number := UInt16.toNat_ofNat_of_lt small
        simp only [Except.toOption, Option.bind_some, host, port]
        exact congrArg some same.symm

/-- A reply tells of a session if it is one; null is none. -/
theorem session_sessionOfReply (value : Json) :
    (sessionOfReply value).toOption.join = (Session.form.decode value).toOption := by
  unfold sessionOfReply
  split
  · rfl
  · cases Session.form.decode value <;> rfl

/-- What a reply offers is the session that is received, if its address leads to an endpoint. -/
theorem offered?_eq (reply : Except LspError Json) :
    offered? reply = match receiveSession reply with
      | .ok (some session) => (Endpoint.ofUri session.uri).toOption.map fun endpoint =>
        (session.name, endpoint.port.toNat)
      | _ => none := by
  cases reply with
  | error cause => rfl
  | ok value =>
    have offered : offered? (.ok value) = (sessionOfReply value).toOption.join.bind fun session =>
        (portOf? session.uri).map fun port => (session.name, port) := by
      rw [session_sessionOfReply]
      rfl
    have received : receiveSession (.ok value) = (sessionOfReply value).mapError .lsp := rfl
    rw [offered, received]
    rcases sessionOfReply value with cause | _ | session
    · rfl
    · rfl
    · simp only [Except.toOption, Option.join_some, Option.bind_some, Except.mapError, portOf?_eq,
        Option.map_map]
      rfl

/-- What a reply to the question for an adapter leads to. -/
inductive Attempt (noDebug : Bool) (reply : Except LspError Json)
    (debugging : Except EditorError Bool) : List EditorCall × Except DebugError Bool → Prop
  /-- The editor is asked for the session that is offered, and decides. -/
  | asked (name : String) (port : Nat) (configuration : Configuration)
    (offered : offered? reply = some (name, port))
    (launches : configuration.Launches noDebug name port) :
    Attempt noDebug reply debugging
      ([.startDebugging configuration], debugging.mapError .editor)
  /-- There is no session to ask for. -/
  | missing (result : Except DebugError Bool) (nothing : offered? reply = none)
    (failed : result ≠ .ok true) : Attempt noDebug reply debugging ([], result)

/-- The editor is asked for a session if and only if the reply offers one. -/
theorem attempt_receiveStart (noDebug : Bool) (reply : Except LspError Json) (editor : Editor) :
    Attempt noDebug reply editor.debugging (receiveStart editor noDebug reply) := by
  have offers := offered?_eq reply
  unfold receiveStart
  cases received : receiveSession reply with
  | error cause =>
    rw [received] at offers
    exact .missing _ offers nofun
  | ok found =>
    rw [received] at offers
    cases found with
    | none => exact .missing _ offers nofun
    | some session =>
      cases address : Endpoint.ofUri session.uri with
      | error cause =>
        simp only [address] at offers ⊢
        exact .missing _ offers nofun
      | ok endpoint =>
        simp only [address] at offers ⊢
        exact .asked _ _ _ offers ⟨rfl, rfl, rfl, rfl, rfl⟩

/-- After a reply the editor is called as the reply and the editor allow. -/
theorem sessionCalls (noDebug : Bool) (reply : Except LspError Json) (editor : Editor) :
    SessionCalls noDebug reply editor.debugging (receiveStartOrTell editor noDebug reply).1 := by
  have attempt := attempt_receiveStart noDebug reply editor
  unfold receiveStartOrTell
  generalize receiveStart editor noDebug reply = taken at attempt ⊢
  cases attempt with
  | asked name port configuration offered launches =>
    rcases debugging : editor.debugging with cause | _ | _
    · exact .refused _ _ _ offered launches nofun
    · exact .refused _ _ _ offered launches nofun
    · exact .started _ _ _ offered launches rfl
  | missing result nothing failed =>
    split
    · rename_i same
      exact absurd (Prod.mk.inj same).2 failed
    · rename_i calls _ _ same
      obtain ⟨rfl, -⟩ := Prod.mk.inj same
      exact .missing nothing

end Debug

/-! ## Commands -/

/-- Whether a command that starts a session runs it without debugging; other commands start
none. -/
def EditorCommand.noDebug? : EditorCommand → Option Bool
  | .startDebugSession _ => some false
  | .startRunSession _ => some true
  | .startPreview _ | .unrecognized _ => none

/-- The steps of a command show how it ended. -/
inductive EditorCommand.Settled (steps : List ClientHappening) : EditorCommand → Prop
  /-- A page was rendered. -/
  | previewed (path : Path) (panel : WebPanel) (html : String)
    (calls : callsIn steps = [.render panel html]) (answers : answersIn steps = [.ran (.ok ())]) :
    Settled steps (.startPreview path)
  /-- The user was told that no page was rendered. -/
  | unpreviewed (path : Path) (cause : ClientError)
    (calls : callsIn steps = [Client.previewFailed cause])
    (answers : answersIn steps = [.ran (.error cause)]) : Settled steps (.startPreview path)
  /-- The server replied, and a session was started, or the user was told that none was. -/
  | replied (command : EditorCommand) (noDebug : Bool) (asking ending : ClientHappening)
    (number : Nat) (reply : Except LspError Json) (starts : command.noDebug? = some noDebug)
    (both : steps = [asking, ending])
    (cause : ending.cause = .answered (.command command) number reply)
    (calls : Debug.SessionCalls noDebug reply ending.world.editor.debugging (callsIn steps))
    (answers : answersIn steps = [.ran (.ok ())]) : Settled steps command
  /-- Nothing was done. -/
  | unrecognized (name : String) (calls : callsIn steps = [])
    (answers : answersIn steps = [.ran (.ok ())]) : Settled steps (.unrecognized name)

namespace Client

/-- The panel whose page is awaited is known. -/
def KnowsPanel (pending : Pending) (client : Client) : Prop :=
  ∀ id, pending.panel? = some id → ∃ panel, client.panels.get? id = some panel

/-- Each operation of a run has one of the courses. -/
theorem traced_run (settings : Settings) (events : List (Event Operation)) :
    (run settings events).Traced machine KnowsPanel := by
  apply Run.traced_follow Sound sound_step ?known (sound_run settings []) (Run.traced_start _)
    events
  case known =>
    intro run sound number asked isOpen id awaited
    exact sound.awaited number asked id isOpen awaited

variable {world : Surroundings} {client : Client} {command : EditorCommand}

/-- Nothing is to be seen of a command that waits. -/
theorem unseen_of_waits {request : Request} {pending : Pending}
    (outcome : (client.issue world (.command command)).outcome = .waits request pending) :
    let asking : ClientHappening :=
      .ofIssue world (.command command) (client.issue world (.command command))
    asking.calls = [] ∧ asking.answer = none := by
  refine ⟨?_, Happening.answer_ofIssue_of_waits outcome⟩
  rw [Happening.calls_ofIssue]
  cases command with
  | startPreview path =>
    simp only [issue, startPreview] at outcome ⊢
    split at outcome
    · cases outcome
    · rfl
  | startDebugSession discovery | startRunSession discovery | unrecognized name => rfl

/-- A command that does not wait is a preview of a file that has no URL, or is not recognised. -/
theorem settled_atOnce {answer : Answer}
    (outcome : (client.issue world (.command command)).outcome = .done answer) :
    command.Settled
      [.ofIssue world (.command command) (client.issue world (.command command))] := by
  cases command with
  | startPreview path =>
    cases located : world.disk.urlOf path with
    | error cause =>
      simp only [issue, startPreview, located]
      exact .unpreviewed path (.lsp cause) rfl rfl
    | ok document =>
      simp only [issue, startPreview, located] at outcome
      cases outcome
  | startDebugSession discovery | startRunSession discovery => cases outcome
  | unrecognized name => exact .unrecognized name rfl rfl

/-- The answer to the question of a command settles the command, if nothing was to be seen of it
before. -/
theorem settled_answered {asking : ClientHappening} {request : Request} {pending : Pending}
    (silent : asking.calls = []) (unanswered : asking.answer = none)
    (awaits : (Operation.command command).Awaits request pending)
    (known : KnowsPanel pending client) (number : Nat) (reply : Except LspError Json) :
    command.Settled [asking,
      .ofArrival world (.command command) number reply (client.arrive world pending reply)] := by
  have calls : callsIn [asking, .ofArrival world (.command command) number reply
      (client.arrive world pending reply)] = (client.arrive world pending reply).calls := by
    simp [callsIn, silent, Happening.ofArrival]
  have answers : answersIn [asking, .ofArrival world (.command command) number reply
      (client.arrive world pending reply)] = [(client.arrive world pending reply).outcome] := by
    simp [answersIn, unanswered, Happening.ofArrival]
  cases awaits with
  | firstPage path document id =>
    obtain ⟨panel, found⟩ := known id rfl
    cases read : Preview.Listing.form.ofReply reply with
    | error cause =>
      simp only [arrive, receiveFirstPage, found, read] at calls answers ⊢
      exact .unpreviewed path (.lsp cause) calls answers
    | ok listing =>
      simp only [arrive, receiveFirstPage, found, read] at calls answers ⊢
      exact .previewed path panel.web _ calls answers
  | debugCommand discovery =>
    have shown := Debug.sessionCalls false reply world.editor
    exact .replied _ false _ _ number reply rfl rfl rfl (calls ▸ shown) answers
  | runCommand discovery =>
    have shown := Debug.sessionCalls true reply world.editor
    exact .replied _ true _ _ number reply rfl rfl rfl (calls ▸ shown) answers

/-- A command that begins lists no panel. -/
theorem listed_issue_command (world : Surroundings) (client : Client) (command : EditorCommand) :
    (client.issue world (.command command)).state.listed = client.listed := by
  cases command with
  | startPreview path =>
    simp only [issue, startPreview]
    split <;> rfl
  | startDebugSession discovery | startRunSession discovery | unrecognized name => rfl

/-- An answer to the question of a command lists the panels that it renders. -/
theorem listed_arrive_command (world : Surroundings) {request : Request} {pending : Pending}
    (awaits : (Operation.command command).Awaits request pending)
    (numbered : ∀ id panel, client.panels.get? id = some panel → panel.web.id = id)
    (reply : Except LspError Json) :
    (client.arrive world pending reply).state.listed =
      client.listed ++ (client.arrive world pending reply).calls.filterMap
        EditorCall.rendered? := by
  have how := panelArrival world client pending reply
  generalize client.arrive world pending reply = turn at how ⊢
  cases how with
  | aside panels listed next silent useless =>
    rw [listed, List.filterMap_eq_nil_iff.mpr silent, List.append_nil]
  | first id panel listing reply found read =>
    have own := numbered id panel found
    simp [EditorCall.rendered?, own]
  | again id panel listing reply found read => cases awaits

/-- A command that is not recognised is seen, and changes nothing. -/
theorem step_unrecognized (run : ClientRun) (world : Surroundings) (name : String) :
    run.step machine (.issue world (.command (.unrecognized name))) =
      { run with log := run.log ++ [⟨.issued (.command (.unrecognized name)), world, none, [], [],
        some (.ran (.ok ()))⟩] } := rfl

/-- In every run of the client, whatever the server replies, whatever the editor makes of it and
whatever operations and answers come in between: each command that was called either waits for the
server, and nothing is to be seen of it, or has ended in one of the ways of `Settled`. A panel is
appended to the list for the page that a command renders, and for nothing else that a command does;
and a command that is not recognised does nothing. -/
theorem command_has_one_outcome (settings : Settings) (events : List (Event Operation)) :
    (∀ number command, (run settings events).Issued number (.command command) →
        let steps := (run settings events).stepsOf number
        (run settings events).waiting.contains number = true ∧ callsIn steps = [] ∧
            answersIn steps = [] ∨
          (run settings events).waiting.contains number = false ∧ command.Settled steps) ∧
      (∀ world command, ((run settings events).step machine
          (.issue world (.command command))).state.listed = (run settings events).state.listed) ∧
      (∀ number asked command, (run settings events).waiting.get? number = some asked →
        asked.operation = .command command → ∀ world reply,
          let later := (run settings events).step machine (.arrive world number reply)
          later.state.listed = (run settings events).state.listed ++
            (callsIn ((run settings events).since later)).filterMap EditorCall.rendered?) ∧
      ∀ world name,
        (run settings events).step machine (.issue world (.command (.unrecognized name))) =
          { run settings events with
            log := (run settings events).log ++
              [⟨.issued (.command (.unrecognized name)), world, none, [], [],
                some (.ran (.ok ()))⟩] } := by
  have sound := sound_run settings events
  refine ⟨?_, fun world => listed_issue_command world _, ?_, step_unrecognized _⟩
  · intro number command issued steps
    cases (traced_run settings events).course number _ issued with
    | atOnce world state answer outcome closed own =>
      right
      refine ⟨by simp [Table.contains, closed], ?_⟩
      rw [show steps = _ from own]
      exact settled_atOnce outcome
    | waits world state request pending outcome isOpen own =>
      left
      obtain ⟨silent, unanswered⟩ := unseen_of_waits outcome
      refine ⟨by simp [Table.contains, isOpen], ?_, ?_⟩
      · rw [show steps = _ from own, callsIn, List.flatMap_singleton]
        exact silent
      · rw [show steps = _ from own, answersIn]
        exact List.filterMap_cons_none unanswered
    | answered world worldThen state stateThen request pending reply outcome known closed own =>
      right
      obtain ⟨silent, unanswered⟩ := unseen_of_waits outcome
      refine ⟨by simp [Table.contains, closed], ?_⟩
      rw [show steps = _ from own]
      exact settled_answered silent unanswered (awaits_of_issue outcome) known number reply
  · intro number asked command isOpen asks world reply
    have awaits := awaits_of_honest (honest_run settings events) isOpen
    rw [asks] at awaits
    have listed := listed_arrive_command world awaits
      (fun id panel found => (sound.made id panel found).2) reply
    rw [Run.step_arrive machine _ world reply isOpen]
    simpa [Run.since, Run.ended, callsIn, Happening.ofArrival, machine] using listed

/-- The command of the user that runs a program. -/
def runProgram : EditorCommand := .startRunSession ⟨"/demo/a.rx", .run⟩

/-- A program is to be run; a view is disposed, the server starts an adapter, and the editor
declines the session. -/
def declinedRun : List (Event Operation) :=
  let declining : Surroundings := { Surroundings.quiet with
    editor := { Editor.idle with debugging := .ok false } }
  [.issue .quiet (.command runProgram),
    .issue .quiet (.dispose "rcAst"),
    .arrive declining 0 (.ok (Debug.Session.form.encode ⟨"a.rx", "tcp://localhost:7000"⟩))]

/-- The user is told that a session that the editor declines was not started. -/
theorem command_has_one_outcome_declined :
    (run .standard declinedRun).Issued 0 (.command runProgram) ∧
      runProgram.Settled ((run .standard declinedRun).stepsOf 0) ∧
      (callsIn ((run .standard declinedRun).stepsOf 0)).getLast? =
        some (.showError "Run session not started") := by
  have issued : (run .standard declinedRun).Issued 0 (.command runProgram) := rfl
  have ended := (command_has_one_outcome .standard declinedRun).1 0 runProgram issued
  have closed : (run .standard declinedRun).waiting.contains 0 = false := rfl
  rw [closed] at ended
  obtain ⟨isOpen, -⟩ | ⟨-, settled⟩ := ended
  · cases isOpen
  · exact ⟨issued, settled, rfl⟩

end Client

end LanguageClient
