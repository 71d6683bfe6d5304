import LanguageClient.Url.Percent

/-!
# The path of a URL

A path is read segment by segment. A single dot is left out, a double dot takes back the segment
before it, except a drive letter, and every other segment is appended with its characters encoded.
-/

namespace LanguageClient.Url

/-- The family of rules that the scheme of a URL follows. -/
inductive Family
  /-- Files of the local machine. -/
  | file
  /-- Schemes with a host and a usual port. -/
  | special
  /-- All other schemes. -/
  | plain
deriving Repr, DecidableEq

/-- Whether a character separates segments. -/
def Family.separates (family : Family) (c : Char) : Bool := c = '/' || (c = '\\' && family ≠ .plain)

/-- Whether a text begins with a drive letter that is followed by nothing or by a separator. -/
def startsWithDrive : List Char → Bool
  | letter :: colon :: rest =>
    letter.isAlpha && (colon = ':' || colon = '|') &&
      match rest with
      | [] => true
      | c :: _ => ['/', '\\', '?', '#'].contains c
  | _ => false

/-- Whether a text is a drive letter and a colon. -/
def isDrive : List Char → Bool
  | [letter, ':'] => letter.isAlpha
  | _ => false

/-- The characters up to and with the last slash. -/
def throughLastSlash (path : List Char) : List Char :=
  (path.reverse.dropWhile (· ≠ '/')).reverse

/-- The characters after the last slash. -/
def afterLastSlash (path : List Char) : List Char := (path.reverse.takeWhile (· ≠ '/')).reverse

/-- Takes the final slash from a path unless it is the only one or belongs to a drive letter. -/
def dropFinalSlash (path : List Char) : List Char :=
  if path.getLast? ≠ some '/' then path
  else
    let front := throughLastSlash path.dropLast
    if front.isEmpty then path
    else if startsWithDrive (path.drop front.length) then path
    else path.dropLast

/-- A path without what stands after its last slash, except a drive letter of a file. -/
def shorten (family : Family) (path : List Char) : List Char :=
  if family = .file ∧ (isDrive path ∨ isDrive (afterLastSlash path)) then path
  else throughLastSlash path

/-- Whether a segment is a single dot. -/
def isDot (segment : List Char) : Bool :=
  segment = ['.'] || segment.map Char.toLower = ['%', '2', 'e']

/-- Whether a segment is a double dot. -/
def isDoubleDot (segment : List Char) : Bool :=
  let segment := segment.map Char.toLower
  [['.', '.'], ['.', '%', '2', 'e'], ['%', '2', 'e', '.'],
    ['%', '2', 'e', '%', '2', 'e']].contains segment

/-- A path with a slash at its end. -/
def closed (path : List Char) : List Char :=
  if path.getLast? = some '/' then path else path ++ ['/']

/-- A path with one more segment, which a slash may follow. -/
def append (family : Family) (path segment : List Char) (slash : Bool) : List Char :=
  let segment := Percent.encodeBytes Percent.path (Utf8.encode segment)
  if isDoubleDot segment then
    let path := shorten family (dropFinalSlash path)
    if slash then closed path else path
  else if isDot segment then closed path
  else path ++ segment ++ if slash then ['/'] else []

/-- A path with the segments of a text; `fuel` bounds the length of the text. -/
def appendAll (family : Family) : Nat → List Char → List Char → List Char
  | 0, path, _ => path
  | fuel + 1, path, text =>
    let segment := text.takeWhile fun c => !family.separates c
    match text.drop segment.length with
    | [] => append family path segment false
    | _ :: rest => appendAll family fuel (append family path segment true) rest

/-- The path that a text spells when the given one stands before it. -/
def readPath (family : Family) (before text : List Char) : List Char :=
  let path := appendAll family (text.length + 1) before text
  if family = .file then '/' :: path.dropWhile (· = '/') else path

/-- The path of a text that follows an authority. -/
def readRootedPath (family : Family) (text : List Char) : List Char :=
  match family, text with
  | .plain, [] => []
  | .plain, '/' :: text => readPath family [] ('/' :: text)
  | .plain, text => readPath family ['/'] text
  | _, c :: rest => if family.separates c then readPath family ['/'] rest
    else readPath family ['/'] (c :: rest)
  | _, [] => readPath family ['/'] []

end LanguageClient.Url
