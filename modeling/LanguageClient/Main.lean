import LanguageClient.CommandLine.Run
import LanguageClient.Files.Program

/-!
# The program

The outermost layer: it looks at the files that a run can need, carries the run out, prints what
the run printed and keeps the files that the run wrote. No server is installed here, so a run that
needs one reports that it could not be started.
-/

namespace LanguageClient.Program

/-- A connection that nobody ever holds. -/
def noTransport : Server.Transport Empty where
  ask _ _ state := (state, [])
  tell _ state := (state, .ok ())
  events state := (state, [])

/-- How the program is used. -/
def usageLines : List String := [
  "Usage: rclang-client [OPTIONS] <COMMAND>",
  "",
  "Commands:",
  "  config                        Write a default settings file",
  "  preview <FILE>                Render the IR preview of a file",
  "  tree <VIEW>                   Print a tree view",
  "  reveal <FILE> <LINE> <COLUMN> Reveal the tree node at a position",
  "  run                           Stay connected and act on server pushes",
  "",
  "Options:",
  "  -w, --workspace <WORKSPACE>   Workspace root directory",
  "  -c, --config <CONFIG>         Settings file",
  "      --log-level <LOG_LEVEL>   Log level: trace, debug, info, warn, error",
  "  -h, --help                    Print help",
  "  -V, --version                 Print version"]

/-- The paths that a run looks at before it needs a server. -/
def relevant (arguments : CommandLine.Arguments) : List Path :=
  [Path.ofString Settings.fileName, Path.ofString Settings.temporaryName, arguments.workspace,
    arguments.settingsPath]

/-- Puts what lies at a path onto a disk: a file with its bytes, or a directory. -/
def observe (disk : Disk) (path : Path) : IO Disk := do
  let name := path.display
  try
    let bytes ← IO.FS.readBinFile name
    return disk.install path (.file bytes.toList)
  catch _ =>
    try
      discard <| IO.FS.realPath name
      return disk.install path .directory
    catch _ => return disk

/-- The files that a disk holds. -/
def filesOf (disk : Disk) : List (Place × List UInt8) :=
  disk.numbers.entries.filterMap fun (place, number) =>
    match disk.content number with
    | .file bytes => some (place, bytes)
    | _ => none

/-- Writes the files that are new or changed on a disk, and removes those that are gone. -/
def keep (before after : Disk) : IO Unit := do
  for (place, bytes) in filesOf after do
    if before.node? place ≠ some (.file bytes) then
      IO.FS.writeBinFile place.path.display ⟨bytes.toArray⟩
  for (place, _) in filesOf before do
    if (after.node? place).isNone then
      IO.FS.removeFile place.path.display

/-- Carries out what the arguments ask for. The answer is the exit code. -/
def perform (arguments : CommandLine.Arguments) : IO UInt32 := do
  let directory ← IO.currentDir
  let start := Disk.bare (Path.ofString directory.toString).steps
  let disk ← (relevant arguments).foldlM observe start
  let report := CommandLine.run ⟨noTransport, disk.spawn fun _ => none, disk, 0⟩ arguments
  keep disk report.terminal.disk
  for line in report.terminal.printed do
    IO.println line
  for line in report.errors do
    IO.eprintln line
  return .ofNat report.exitCode

end LanguageClient.Program

/-- Runs the program with its arguments. -/
def main (arguments : List String) : IO UInt32 := do
  match LanguageClient.CommandLine.read arguments with
  | .run arguments => LanguageClient.Program.perform arguments
  | .version =>
    IO.println LanguageClient.CommandLine.versionLine
    return 0
  | .help =>
    LanguageClient.Program.usageLines.forM IO.println
    return 0
  | .misuse =>
    LanguageClient.Program.usageLines.forM IO.eprintln
    return .ofNat LanguageClient.CommandLine.misuseCode
