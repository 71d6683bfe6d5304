/-!
# URLs

A URL as its parts, each already in the form in which it is written. The text of a URL is put
together from its parts alone.
-/

namespace LanguageClient

/-- Who is addressed at the far end of a URL. -/
inductive Host
  /-- A name; the empty name stands for no host. -/
  | name (text : String)
  /-- An address of four bytes, as one number. -/
  | v4 (address : Nat)
  /-- An address of eight pieces of sixteen bits each. -/
  | v6 (pieces : List Nat)
deriving Repr, DecidableEq

/-- The part of a URL that says who is addressed, and as whom. -/
structure Authority where
  /-- The name of the user; empty for none. -/
  username : String
  /-- The password of the user. -/
  password : Option String
  /-- The host. -/
  host : Host
  /-- The port, unless it is the usual one of the scheme. -/
  port : Option Nat
deriving Repr, DecidableEq

/-- A URL in normal form. -/
structure Url where
  /-- The scheme, in lower case. -/
  scheme : String
  /-- The authority, if the scheme is followed by two slashes. -/
  authority : Option Authority
  /-- The path. -/
  path : String
  /-- What follows the question mark. -/
  query : Option String
  /-- What follows the number sign. -/
  fragment : Option String
deriving Repr, DecidableEq

/-- The longest run of zeros in a list of pieces: where it starts and how long it is. Of equally
long runs it is the first. -/
def Host.longestZeros (pieces : List Nat) : Nat × Nat :=
  let runs := (List.range pieces.length).map fun start =>
    (start, ((pieces.drop start).takeWhile (· = 0)).length)
  runs.foldl (fun best run => if best.2 < run.2 then run else best) (0, 0)

/-- Pieces of an address in base sixteen, separated by colons. -/
def Host.pieces (pieces : List Nat) : String :=
  ":".intercalate (pieces.map fun piece => String.ofList (Nat.toDigits 16 piece))

/-- The text of an address of eight pieces; the longest run of at least two zeros is left out. -/
def Host.renderPieces (pieces : List Nat) : String :=
  let (start, length) := longestZeros pieces
  if length < 2 then Host.pieces pieces
  else Host.pieces (pieces.take start) ++ "::" ++ Host.pieces (pieces.drop (start + length))

/-- The text of a host. -/
def Host.render : Host → String
  | .name text => text
  | .v4 address => ".".intercalate ([address / 0x1000000 % 256, address / 0x10000 % 256,
      address / 0x100 % 256, address % 256].map toString)
  | .v6 pieces => "[" ++ renderPieces pieces ++ "]"

/-- The text of an authority. -/
def Authority.render (authority : Authority) : String :=
  let password := authority.password.elim "" fun password => ":" ++ password
  let user := authority.username ++ password
  (if user.isEmpty then "" else user ++ "@") ++ authority.host.render ++
    authority.port.elim "" fun port => ":" ++ toString port

namespace Url

/-- The text of a URL. A path that starts with two slashes gets a dot segment in front where it
could be read as an authority. -/
def render (url : Url) : String :=
  let authority := match url.authority with
    | some authority => "//" ++ authority.render
    | none => if url.path.startsWith "//" then "/." else ""
  url.scheme ++ ":" ++ authority ++ url.path ++ (url.query.elim "" fun query => "?" ++ query)
    ++ url.fragment.elim "" fun fragment => "#" ++ fragment

/-- The host of a URL as text, if it has one. -/
def host? (url : Url) : Option String :=
  match url.authority with
  | some ⟨_, _, .name "", _⟩ => none
  | some authority => some authority.host.render
  | none => none

/-- The port that a URL spells out. -/
def port? (url : Url) : Option Nat := url.authority.bind Authority.port

end Url

end LanguageClient
