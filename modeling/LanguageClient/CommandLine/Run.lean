import LanguageClient.CommandLine.Arguments
import LanguageClient.CommandLine.Stage
import LanguageClient.Settings.File
import LanguageClient.Text.Lowercase

/-!
# Runs of the program

A run carries out one action. All actions but the first settings file need a session: the run
begins it, acts, and takes its leave of the server. The first failure ends a run; nothing is asked
or told after it.
-/

namespace LanguageClient.CommandLine

open Server (Transport Session Launch)

/-- What lies around a run. -/
structure World (σ : Type) where
  /-- How servers are talked to. -/
  transport : Transport σ
  /-- How servers are started. -/
  spawn : Place → String → List String → Except FileError σ
  /-- The files. -/
  disk : Disk
  /-- The number of the process. -/
  processId : Nat

/-- Why a run failed. -/
inductive Failure
  /-- A failure of which the user is told. -/
  | told (message : String)
  /-- The program was aborted. -/
  | aborted
deriving Repr, DecidableEq

/-- The exit code of a run that failed. -/
def Failure.code : Failure → Nat
  | .told _ => 1
  | .aborted => 101

/-- What the user is told of a failure. -/
def Failure.line? : Failure → Option String
  | .told message => some ("Error: " ++ message)
  | .aborted => none

/-- What a run came to. -/
structure Report (σ : Type) where
  /-- The terminal, with the files as they are after the run. -/
  terminal : Terminal
  /-- The connection to the server, if one was started. -/
  connection : Option σ
  /-- Why the run failed, if it did. -/
  failure : Option Failure

namespace Report

variable {σ : Type}

/-- The exit code of a run. -/
def exitCode (report : Report σ) : Nat := report.failure.elim 0 Failure.code

/-- What a run reports as errors; the failure comes last. -/
def errors (report : Report σ) : List String :=
  report.terminal.reported ++ (report.failure.bind Failure.line?).toList

end Report

/-- The exit code when the arguments have no meaning. -/
def misuseCode : Nat := 2

/-- The line that tells the version. -/
def versionLine : String := Server.clientName ++ " " ++ Server.clientVersion

/-- How much can be logged. -/
def logLevels : List String := ["trace", "debug", "info", "warn", "error"]

/-- Checks the log level, whose letters may be large or small. -/
def checkLogLevel (level : String) : Except String Unit :=
  let level := Lowercase.ofString level
  if logLevels.contains level then .ok () else .error ("invalid log level: " ++ level)

/-- The settings file of the arguments. -/
def Arguments.settingsPath (arguments : Arguments) : Path :=
  arguments.config.getD (arguments.workspace.join (Path.ofString Settings.fileName))

/-- The line between the parts of what is printed about a first settings file. -/
def rule : String := String.ofList (List.replicate 60 '=')

/-- What is printed about a first settings file. -/
def configuredLines (path : Path) : List String :=
  ["", rule, "✓ Created " ++ path.display, rule, "", "Next steps:",
    "  1. Point server.command/server.args at your rclang language server",
    "  2. Run: rclang-client tree rcAst", "  3. Run: rclang-client preview src/main.rc", ""]

variable {σ : Type}

/-- Gives the working directory a first settings file. -/
def configure (disk : Disk) : Report σ :=
  match Settings.configure disk disk.workingDirectory.path with
  | (disk, .error failure) => ⟨.blank disk none, none, some (.told failure.message)⟩
  | (disk, .ok path) =>
    ⟨(configuredLines path).foldl Terminal.print (.blank disk none), none, none⟩

/-- Shows the preview of a file. -/
def preview (transport : Transport σ) (file : Path) (stage : Stage σ) :
    Stage σ × Except Failure Unit :=
  match stage.openDocument transport file with
  | (stage, .error cause) => (stage, .error (.told cause.message))
  | (stage, .ok _) =>
    match stage.perform transport (.command (.startPreview file)) with
    | (stage, .ran (.error cause)) => (stage, .error (.told cause.message))
    | (stage, _) => (stage, .ok ())

/-- Prints the outline of a view; if that fails nothing is printed. -/
def printTree (transport : Transport σ) (view : String) (depth : Nat) (stage : Stage σ) :
    Stage σ × Except Failure Unit :=
  match stage.outline transport view depth with
  | (stage, .error cause) => (stage, .error (.told cause.message))
  | (stage, .ok lines) =>
    ({ stage with terminal := lines.foldl Terminal.print stage.terminal }, .ok ())

/-- The line that tells that no node belongs to a place in a file. -/
def nothingThereLine (file : Path) (line column : UInt32) : String :=
  "no tree node at " ++ file.display ++ ":" ++ toString line ++ ":" ++ toString column

/-- Reveals the node that belongs to a line and a column of a file. -/
def reveal (transport : Transport σ) (file : Path) (line column : UInt32) (stage : Stage σ) :
    Stage σ × Except Failure Unit :=
  match stage.openDocument transport file with
  | (stage, .error cause) => (stage, .error (.told cause.message))
  | (stage, .ok document) =>
    match Position.ofLineColumn? line column with
    | none => (stage, .error (.told (LspError.invalidPosition line column).message))
    | some position =>
      match stage.perform transport (.reveal ⟨document, position⟩) with
      | (stage, .plan (.error cause)) => (stage, .error (.told cause.message))
      | (stage, .plan (.ok none)) =>
        ({ stage with terminal := stage.terminal.print (nothingThereLine file line column) },
          .ok ())
      | (stage, _) => (stage, .ok ())

/-- Acts on what the server tells until the connection ends, or the program is aborted. -/
def follow (transport : Transport σ) (stage : Stage σ) : Stage σ × Except Failure Unit :=
  let (state, events) := transport.events stage.session.state
  let stage := { stage with session := { stage.session with state := state } }
  let stage := (stage.perform transport (.serverEvents events)).1
  (stage, if stage.terminal.aborted then .error .aborted else .ok ())

/-- Carries out an action in a session. -/
def act (transport : Transport σ) (stage : Stage σ) : Action → Stage σ × Except Failure Unit
  | .config => (stage, .ok ())
  | .preview file _ => preview transport file stage
  | .tree view depth => printTree transport view depth stage
  | .reveal file line column => reveal transport file line column stage
  | .run => follow transport stage

/-- Closes everything and takes leave of the server. -/
def leave (transport : Transport σ) (stage : Stage σ) : Stage σ × Except Failure Unit :=
  let stage := (stage.perform transport .deactivate).1
  let (session, result) := stage.session.shutdown transport
  ({ stage with session := session }, result.mapError fun cause => .told cause.message)

/-- The report of a stage on which a run ended. -/
def reportOf (stage : Stage σ) (result : Except Failure Unit) : Report σ where
  terminal := stage.terminal
  connection := some stage.session.state
  failure := match result with
    | .ok _ => none
    | .error failure => some failure

/-- Carries out an action in a session that has begun. -/
def work (world : World σ) (settings : Settings) (action : Action) (session : Session σ) :
    Report σ :=
  let output := match action with
    | .preview _ out => out
    | _ => none
  let (client, calls) := Client.activate settings
  let stage : Stage σ := ⟨session, client, (Terminal.blank world.disk output).performAll calls⟩
  match act world.transport stage action with
  | (stage, .error failure) => reportOf stage (.error failure)
  | (stage, .ok ()) =>
    let (stage, result) := leave world.transport stage
    reportOf stage result

/-- A run that fails before a session has begun. -/
def refused (world : World σ) (connection : Option σ) (message : String) : Report σ :=
  ⟨.blank world.disk none, connection, some (.told message)⟩

/-- Begins a session and carries out an action in it. -/
def connect (world : World σ) (arguments : Arguments) : Report σ :=
  match world.disk.canonical arguments.workspace with
  | .error _ => refused world none
      ("failed to canonicalize workspace path: " ++ arguments.workspace.display)
  | .ok (place, _) =>
    match Settings.load world.disk arguments.settingsPath with
    | .error failure => refused world none failure.message
    | .ok settings =>
      match Session.start world.transport world.spawn world.disk
          (Launch.ofSettings settings place.path world.processId) with
      | (connection, .error _) => refused world connection "failed to start LSP client"
      | (_, .ok session) => work world settings arguments.action session

/-- Carries out what the arguments ask for. -/
def run (world : World σ) (arguments : Arguments) : Report σ :=
  match checkLogLevel arguments.logLevel with
  | .error message => refused world none message
  | .ok () =>
    match arguments.action with
    | .config => configure world.disk
    | _ => connect world arguments

end LanguageClient.CommandLine
