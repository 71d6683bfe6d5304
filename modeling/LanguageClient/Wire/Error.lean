import LanguageClient.Json.Printer
import LanguageClient.Url.Host

/-!
# What is wrong with a payload

A payload that does not have the form of its message is refused with one cause, and every cause
has its text.
-/

namespace LanguageClient

/-- A value as a message about it names it. -/
def Json.describe : Json → String
  | .null => "null"
  | .bool value => "boolean `" ++ (if value then "true" else "false") ++ "`"
  | .int value => "integer `" ++ toString value ++ "`"
  | .float value => "floating point `" ++ value.positional ++ "`"
  | .str value => "string " ++ Quoted.quote value
  | .arr _ => "sequence"
  | .obj _ => "map"

/-- Why a payload does not have the form that was wanted. -/
inductive DecodeError
  /-- A value of another kind. -/
  | wrongType (found : Json) (wanted : String)
  /-- A value of the right kind that is not allowed. -/
  | wrongValue (found : Json) (wanted : String)
  /-- A field that has to be there is not. -/
  | missing (field : String)
  /-- A record written as a list that ends before one of its fields. -/
  | tooShort (index : Nat) (record : String) (fields : Nat)
  /-- A record written as a list that goes on after its last field. -/
  | tooLong (length : Nat)
  /-- A name that is none of the known ones. -/
  | unknownVariant (name : String) (known : List String)
  /-- A text that is no URL. -/
  | notUrl (reason : UrlError) (text : String)
  /-- A value that has none of the forms of a type. -/
  | noMatch (type : String)
  /-- A problem told in the words of the one who met it. -/
  | told (message : String)
deriving Repr

/-- A name between backquotes. -/
def backquoted (name : String) : String := "`" ++ name ++ "`"

/-- The names that would have been known, as the end of a sentence. -/
def expectedVariants : List String → String
  | [] => "there are no variants"
  | [a] => "expected " ++ backquoted a
  | [a, b] => "expected " ++ backquoted a ++ " or " ++ backquoted b
  | names => "expected one of " ++ ", ".intercalate (names.map backquoted)

/-- The cause as a text. -/
def DecodeError.message : DecodeError → String
  | .wrongType found wanted => "invalid type: " ++ found.describe ++ ", expected " ++ wanted
  | .wrongValue found wanted => "invalid value: " ++ found.describe ++ ", expected " ++ wanted
  | .missing field => "missing field " ++ backquoted field
  | .tooShort index record fields =>
    "invalid length " ++ toString index ++ ", expected struct " ++ record ++ " with "
      ++ toString fields ++ (if fields = 1 then " element" else " elements")
  | .tooLong length =>
    "invalid length " ++ toString length ++ ", expected fewer elements in array"
  | .unknownVariant name known =>
    "unknown variant " ++ backquoted name ++ ", " ++ expectedVariants known
  | .notUrl reason text => reason.message ++ ": " ++ Quoted.quote text
  | .noMatch type => "data did not match any variant of untagged enum " ++ type
  | .told message => message

end LanguageClient
