import LanguageClient.Url.Host
import LanguageClient.Url.Path

/-!
# Reading URLs

A text is read as scheme, authority, path, query and fragment. Blank characters around the text
and line breaks and tabs within it do not count.
-/

namespace LanguageClient.Url

variable [Idna]

/-- The port that a scheme uses when a URL spells none. -/
def usualPort? : String → Option Nat
  | "http" | "ws" => some 80
  | "https" | "wss" => some 443
  | "ftp" => some 21
  | _ => none

/-- The family of a scheme. -/
def familyOf (scheme : String) : Family :=
  if scheme = "file" then .file
  else if (usualPort? scheme).isSome then .special
  else .plain

/-- Characters that do not count at either end of a URL. -/
def isPadding (c : Char) : Bool := c.toNat ≤ 0x20

/-- The characters of a text that count. -/
def significant (text : List Char) : List Char :=
  let trimmed := ((text.dropWhile isPadding).reverse.dropWhile isPadding).reverse
  trimmed.filter fun c => c ≠ '\t' && c ≠ '\n' && c ≠ '\r'

/-- Whether a character may stand in a scheme after its first letter. -/
def isSchemeCharacter (c : Char) : Bool := c.isAlphanum || c = '+' || c = '-' || c = '.'

/-- The scheme of a text, in lower case, and what follows its colon. -/
def readScheme (text : List Char) : Except UrlError (String × List Char) :=
  match text.head?, text.span isSchemeCharacter with
  | some first, (scheme, ':' :: rest) =>
    if first.isAlpha then .ok (String.ofList (scheme.map Char.toLower), rest)
    else .error .relative
  | _, _ => .error .relative

/-- A text up to and from the first query or fragment mark. -/
def splitMarks (text : List Char) : List Char × List Char :=
  text.span fun c => c ≠ '?' && c ≠ '#'

/-- Query and fragment of a text that is empty or begins with one of their marks. -/
def readMarks (family : Family) (text : List Char) : Option String × Option String :=
  let fragmentOf : List Char → Option String
    | _ :: rest => some (Percent.encode Percent.fragment rest)
    | [] => none
  match text with
  | '?' :: rest =>
    let (query, rest) := rest.span (· ≠ '#')
    let encoded := if family = .plain then Percent.query else Percent.specialQuery
    (some (Percent.encode encoded query), fragmentOf rest)
  | text => (none, fragmentOf text)

/-- User and password before the last at sign of an authority, and what follows it. -/
def readUser (family : Family) (text : List Char) :
    Except UrlError (String × Option String × List Char) :=
  let authority := text.takeWhile fun c => !(family.separates c || c = '?' || c = '#')
  if !authority.contains '@' then .ok ("", none, text)
  else
    let length := (authority.reverse.dropWhile (· ≠ '@')).length - 1
    let user := authority.take length
    let rest := text.drop (length + 1)
    if user.isEmpty ∧ rest ≠ [] ∧ authority.length = 1 then .error .emptyHost
    else
      let encode := Percent.encode Percent.userinfo
      match user.span (· ≠ ':') with
      | (name, _ :: password) =>
        .ok (encode name, if password.isEmpty then none else some (encode password), rest)
      | (name, []) => .ok (encode name, none, rest)

/-- The characters of a host, up to the colon of a port or the end of the authority. -/
def hostLength (family : Family) : Bool → List Char → Nat
  | _, [] => 0
  | bracketed, c :: rest =>
    if (c = ':' && !bracketed) || family.separates c || c = '?' || c = '#' then 0
    else hostLength family (if c = '[' then true else if c = ']' then false else bracketed) rest + 1

/-- The port that follows a colon, unless it is missing, and what follows it. -/
def readPort (text : List Char) : Except UrlError (Option Nat × List Char) :=
  let (digits, rest) := text.span Char.isDigit
  let port := digits.foldl (fun n c => min 65536 (n * 10 + (c.toNat - '0'.toNat))) 0
  let ends := match rest with
    | [] => true
    | c :: _ => ['/', '\\', '?', '#'].contains c
  if 65535 < port ∨ !ends then .error .invalidPort
  else .ok (if digits.isEmpty then none else some port, rest)

/-- The authority at the front of a text, and what follows it. -/
def readAuthority (scheme : String) (family : Family) (text : List Char) :
    Except UrlError (Authority × List Char) := do
  let (username, password, text) ← readUser family text
  let length := hostLength family false text
  let (spelled, rest) := (text.take length, text.drop length)
  if family = .special ∧ spelled.isEmpty then throw .emptyHost
  let host ← if family = .plain then Host.readOpaque spelled else Host.readDomain spelled
  let named := !(username.isEmpty && password.isNone)
  match rest with
  | ':' :: rest =>
    if host = .name "" then throw .emptyHost
    let (port, rest) ← readPort rest
    return (⟨username, password, host, if port = usualPort? scheme then none else port⟩, rest)
  | rest =>
    if host = .name "" ∧ named then throw .emptyHost
    return (⟨username, password, host, none⟩, rest)

/-- The host and the path of a file, and what follows them. -/
def readFile (text : List Char) : Except UrlError (Host × List Char × List Char) :=
  let separates := Family.file.separates
  let ofPath (host : Host) (path : List Char → List Char) (text : List Char) :=
    let (spelled, rest) := splitMarks text
    (host, path spelled, rest)
  match text with
  | a :: b :: rest =>
    if separates a && separates b then do
      let spelled := rest.takeWhile fun c => !(separates c || c = '?' || c = '#')
      if spelled.length = 2 ∧ startsWithDrive spelled then
        return ofPath (.name "") (readPath .file ['/']) rest
      let host ← if spelled.isEmpty then pure (Host.name "") else Host.readDomain spelled
      let host := if host = .name "localhost" then .name "" else host
      return ofPath host (readRootedPath .file) (rest.drop spelled.length)
    else if separates a then .ok (ofPath (.name "") (readPath .file []) text)
    else .ok (ofPath (.name "") (readPath .file ['/']) text)
  | text => .ok (ofPath (.name "") (readPath .file ['/']) text)

/-- Reads the part of a URL that follows its scheme. -/
def readRest (scheme : String) (text : List Char) : Except UrlError Url := do
  let family := familyOf scheme
  let whole (authority : Option Authority) (path rest : List Char) : Url :=
    let (query, fragment) := readMarks family rest
    ⟨scheme, authority, String.ofList path, query, fragment⟩
  let afterSlashes (text : List Char) : Except UrlError Url := do
    let (authority, rest) ← readAuthority scheme family text
    let (path, rest) := splitMarks rest
    return whole (some authority) (readRootedPath family path) rest
  match family, text with
  | .file, text =>
    let (host, path, rest) ← readFile text
    return whole (some ⟨"", none, host, none⟩) path rest
  | .special, text => afterSlashes (text.dropWhile family.separates)
  | .plain, '/' :: '/' :: text => afterSlashes text
  | .plain, '/' :: text =>
    let (path, rest) := splitMarks text
    return whole none (readPath .plain ['/'] path) rest
  | .plain, text =>
    let (path, rest) := splitMarks text
    return whole none (Percent.encode Percent.control path).toList rest

/-- Reads a text as a URL. -/
def read (text : String) : Except UrlError Url := do
  let (scheme, rest) ← readScheme (significant text.toList)
  readRest scheme rest

end LanguageClient.Url
