import LanguageClient.Error
import LanguageClient.Files.Disk

/-!
# Documents on disk

A document is known to the server by the URL of its canonical place, so every path to one file
gives one URL.
-/

namespace LanguageClient.Disk

/-- The URL of the file that a path leads to. -/
def urlOf (disk : Disk) (path : Path) : Except LspError Url :=
  match disk.canonical (disk.workingDirectory.path.join path) with
  | .ok (place, _) => .ok place.url
  | .error error =>
    .error (.documentNotFound
      ("failed to canonicalize path '" ++ path.display ++ "': " ++ error.message))

end LanguageClient.Disk
