import LanguageClient.Files.Disk
import LanguageClient.Settings.Reader

/-!
# The settings file

Settings are loaded from a file, and a directory is given a first settings file. A file that does
not exist stands for the defaults; a file that exists is never ignored.
-/

namespace LanguageClient.Settings

/-- What lies behind a failure to use a settings file. -/
inductive Cause
  /-- The disk. -/
  | file (error : FileError)
  /-- The text of the file. -/
  | text (fault : Json.Fault)
deriving Repr, DecidableEq

/-- A failure to use a settings file. -/
structure FileFailure where
  /-- What could not be done. -/
  message : String
  /-- What lies behind it, if anything does. -/
  cause : Option Cause
deriving Repr, DecidableEq

/-- The settings that a file holds, or the defaults if there is no such file. -/
def load (disk : Disk) (path : Path) : Except FileFailure Settings :=
  if !disk.exists? path then .ok standard
  else
    match disk.readText path with
    | .error error => .error ⟨"failed to read " ++ path.display, some (.file error)⟩
    | .ok text =>
      (read text.toList).mapError fun fault =>
        ⟨"failed to parse " ++ path.display ++ " - invalid JSON", some (.text fault)⟩

/-- The text of a first settings file. -/
def starterText : String :=
  let server := ServerSettings.fields.write standard.server
  let entries := (fields.write standard).map fun (key, value) =>
    (key, if key = "server" then Json.obj server else value)
  (Json.obj entries).pretty

/-- The name under which a settings file is written before it gets its own. -/
def temporaryName : String := ".rclang.tmp"

/-- Gives a directory a settings file with the defaults. The file is written under another name
and renamed, so that nobody sees half of it. The answer is the disk as it is then, with the path
of the file or the failure. -/
def configure (disk : Disk) (directory : Path) : Disk × Except FileFailure Path :=
  let file := directory.join (Path.ofString fileName)
  let temporary := directory.join (Path.ofString temporaryName)
  if disk.exists? file then
    (disk, .error ⟨"rclang-client is already configured in " ++ file.display
      ++ "\n\nTo reconfigure, remove the file, then run:\n  rclang-client config", none⟩)
  else
    match disk.write temporary (Utf8.ofString starterText) with
    | (written, .error error) =>
      (written, .error ⟨"failed to write temporary settings file", some (.file error)⟩)
    | (written, .ok ()) =>
      match written.rename temporary file with
      | .error error =>
        (written, .error ⟨"failed to rename temporary settings file", some (.file error)⟩)
      | .ok renamed => (renamed, .ok file)

end LanguageClient.Settings
