/-!
# Names of domains

The name of a domain is written in lower-case ASCII. A plain name only has its letters lowered; a
name with other characters, or with a part that stands for them, is converted by the rules for
international names. These rules are a parameter (`Idna`): all that the library relies on is that
a converted name is written in the characters of domains.
-/

namespace LanguageClient

namespace Host

/-- Characters that no host may hold. -/
def isForbidden (c : Char) : Bool :=
  ['\x00', '\t', '\n', '\r', ' ', '#', '/', ':', '<', '>', '?', '@', '[', '\\', ']', '^',
    '|'].contains c

/-- Characters in which the name of a domain is written. -/
def isDomainCharacter (c : Char) : Bool :=
  0x20 ≤ c.toNat && c.toNat < 0x7f && c ≠ '%' && !isForbidden c && !c.isUpper

/-- The parts of a name between its dots. -/
def labels (name : List Char) : List (List Char) := name.splitOn '.'

/-- The letters before a part that stands for other characters than its own. -/
def conversionMark : List Char := ['x', 'n', '-', '-']

/-- Whether a name needs no conversion: it is in ASCII, and none of its parts stands for other
characters. -/
def isPlain (name : List Char) : Bool :=
  name.all (·.toNat < 0x80) && (labels (name.map Char.toLower)).all fun label =>
    !conversionMark.isPrefixOf label

end Host

/-- The rules by which international names are written in ASCII. -/
class Idna where
  /-- The name of a domain in ASCII, unless the rules refuse it. -/
  toAscii? : List Char → Option (List Char)
  /-- What is converted is written in the characters of domains. -/
  isDomainCharacter_of_toAscii? : ∀ {name ascii : List Char}, toAscii? name = some ascii →
    ∀ c ∈ ascii, Host.isDomainCharacter c = true

namespace Host

/-- The name of a domain with its letters lowered, if all its characters are those of domains. -/
def lower? (name : List Char) : Option (List Char) :=
  let lower := name.map Char.toLower
  if lower.all isDomainCharacter then some lower else none

/-- The name of a domain as it is written. -/
def domain? [Idna] (name : List Char) : Option (List Char) :=
  if isPlain name then lower? name else Idna.toAscii? name

/-- A lowered name is written in the characters of domains. -/
theorem isDomainCharacter_of_lower? {name lower : List Char} (lowered : lower? name = some lower) :
    ∀ c ∈ lower, isDomainCharacter c = true := by
  unfold lower? at lowered
  dsimp only at lowered
  split at lowered
  · rename_i all
    cases lowered
    exact List.all_eq_true.mp all
  · cases lowered

/-- Whatever its rules, the name of a domain is written in the characters of domains. -/
theorem isDomainCharacter_of_domain? [Idna] {name written : List Char}
    (converted : domain? name = some written) : ∀ c ∈ written, isDomainCharacter c = true := by
  unfold domain? at converted
  split at converted
  · exact isDomainCharacter_of_lower? converted
  · exact Idna.isDomainCharacter_of_toAscii? converted

end Host

/-- The rules of a program that knows no international names: names in ASCII stay as they are. -/
instance Idna.asciiOnly : Idna where
  toAscii? := Host.lower?
  isDomainCharacter_of_toAscii? := Host.isDomainCharacter_of_lower?

end LanguageClient
