import LanguageClient.Files.Disk

/-!
# Programs

A program is started by its name in a directory. A name with a slash is a path from that
directory; any other name is that of an installed program. Files on the disk are no programs.
-/

namespace LanguageClient.Disk

/-- Why a name with a slash starts no program in a directory. -/
def pathFailure (disk : Disk) (directory : Place) (name : Path) : FileError :=
  match { disk with workingDirectory := directory }.followShort true name with
  | .ok (.found _ _) => .refused .forbidden
  | .ok (.missing _) => .notFound
  | .error error => error

/-- Starts a program in a directory: `installed` gives the program that has a name. -/
def spawn {σ : Type} (disk : Disk) (installed : String → Option σ) (directory : Place)
    (name : String) (arguments : List String) : Except FileError σ :=
  if (name :: arguments).any fun text => text.contains '\x00' then .error .nullArgument
  else if disk.node? directory ≠ some .directory then .error .notDirectory
  else
    match installed name with
    | some program => .ok program
    | none =>
      if name.contains '/' then .error (disk.pathFailure directory (Path.ofString name))
      else if maximalName < (Utf8.ofString name).length then .error .nameTooLong
      else .error .notFound

end LanguageClient.Disk
