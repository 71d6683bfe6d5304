import LanguageClient.Text.Utf8
import LanguageClient.Url.Basic
import LanguageClient.Url.Percent

/-!
# Paths of files

A path is any sequence of bytes, cut into components by slashes. A path that starts with a slash
is absolute. The canonical place of a file is a list of names from the root, and each place has
one URL.
-/

namespace LanguageClient

/-- A path as it was given. -/
structure Path where
  /-- The bytes of the path. -/
  bytes : List UInt8
deriving Repr, DecidableEq, Inhabited

/-- The name of a file in its directory. -/
abbrev FileName := List UInt8

/-- The canonical place of a file: the names of the directories above it and its own, from the
root. -/
abbrev Place := List FileName

namespace Path

/-- The byte that separates components. -/
def slash : UInt8 := 0x2f

/-- The path that a text spells. -/
def ofString (text : String) : Path := ⟨Utf8.ofString text⟩

/-- The path as it is shown. -/
def display (path : Path) : String := Utf8.display path.bytes

/-- Whether a path starts at the root. -/
def isAbsolute (path : Path) : Bool := path.bytes.head? = some slash

/-- A path seen from another one; an absolute path stays as it is. -/
def join (path other : Path) : Path :=
  if other.isAbsolute then other
  else if path.bytes.isEmpty ∨ path.bytes.getLast? = some slash then ⟨path.bytes ++ other.bytes⟩
  else ⟨path.bytes ++ slash :: other.bytes⟩

/-- The components of a path, a component being what stands between slashes. -/
def pieces (path : Path) : List FileName := path.bytes.splitOn slash

/-- The name of the current directory. -/
def here : FileName := [0x2e]

/-- The name of the directory above. -/
def above : FileName := [0x2e, 0x2e]

/-- The steps that a path asks for, one after the other. A final slash asks for a directory, as a
single dot does. -/
def steps (path : Path) : List FileName :=
  let proper := path.pieces.filter (· ≠ [])
  if proper ≠ [] ∧ path.bytes.getLast? = some slash then proper ++ [here] else proper

/-- The name that a path ends in, if it is the name of a file. -/
def fileName? (path : Path) : Option FileName :=
  match (path.pieces.filter fun piece => piece ≠ [] ∧ piece ≠ here).getLast? with
  | some name => if name = above then none else some name
  | none => none

/-- The byte that separates a name from its extension. -/
def dot : UInt8 := 0x2e

/-- What follows the last dot of the file name, unless that dot is its first character. -/
def extension? (path : Path) : Option (List UInt8) := do
  let name ← path.fileName?
  let tail := (name.reverse.takeWhile (· ≠ dot)).reverse
  if tail.length + 1 < name.length then some tail else none

end Path

namespace Place

/-- The absolute path of a place. -/
def path (place : Place) : Path :=
  if place.isEmpty then ⟨[Path.slash]⟩ else ⟨place.flatMap (Path.slash :: ·)⟩

/-- The URL of a place: every name with those characters encoded that a name may hold and a path
may not. -/
def url (place : Place) : Url where
  scheme := "file"
  authority := some ⟨"", none, .name "", none⟩
  path :=
    if place.isEmpty then "/"
    else String.ofList (place.flatMap fun name => '/' :: Percent.encodeBytes Percent.fileName name)
  query := none
  fragment := none

end Place

end LanguageClient
