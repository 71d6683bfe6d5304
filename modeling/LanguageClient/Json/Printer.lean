import LanguageClient.Json.Basic
import LanguageClient.Text.Quoted

/-!
# Printing JSON

Three forms of a value: on one line without blanks, indented by two spaces a level, and as the
dump that a transport failure shows.
-/

namespace LanguageClient.Json

/-- How one character is written inside a JSON text. -/
def escape (c : Char) : List Char :=
  match c with
  | '"' => ['\\', '"']
  | '\\' => ['\\', '\\']
  | '\n' => ['\\', 'n']
  | '\r' => ['\\', 'r']
  | '\t' => ['\\', 't']
  | '\x08' => ['\\', 'b']
  | '\x0c' => ['\\', 'f']
  | c =>
    if c.toNat < 0x20 then
      '\\' :: 'u' :: '0' :: '0' :: (if c.toNat < 0x10 then ['0'] else []) ++ Quoted.hex c.toNat
    else [c]

/-- A text as JSON writes it. -/
def quote (text : String) : String :=
  String.ofList ('"' :: text.toList.flatMap escape ++ ['"'])

/-- The text of a value that holds no other values. -/
def scalar : Json → String
  | .null => "null"
  | .bool value => if value then "true" else "false"
  | .int value => toString value
  | .float value => value.render
  | .str value => quote value
  | .arr _ => "[]"
  | .obj _ => "\x7b\x7d"

mutual

/-- A value on one line without blanks. -/
def compact : Json → String
  | .arr items => "[" ++ ",".intercalate (compactItems items) ++ "]"
  | .obj entries => "\x7b" ++ ",".intercalate (compactEntries entries) ++ "\x7d"
  | .null => scalar .null
  | .bool value => scalar (.bool value)
  | .int value => scalar (.int value)
  | .float value => scalar (.float value)
  | .str value => scalar (.str value)

/-- The items of a list, each on one line. -/
def compactItems : List Json → List String
  | [] => []
  | item :: rest => compact item :: compactItems rest

/-- The entries of an object, each on one line. -/
def compactEntries : List (String × Json) → List String
  | [] => []
  | (key, value) :: rest => (quote key ++ ":" ++ compact value) :: compactEntries rest

end

/-- The indentation of a level. -/
def margin (level : Nat) : String := String.ofList (List.replicate (2 * level) ' ')

/-- Lines between an opening and a closing bracket, one level deeper than the brackets. -/
def block (level : Nat) (opening closing : String) (lines : List String) : String :=
  if lines.isEmpty then opening ++ closing
  else
    opening ++ "\n" ++ margin (level + 1) ++ (",\n" ++ margin (level + 1)).intercalate lines
      ++ "\n" ++ margin level ++ closing

mutual

/-- A value whose first line stands at a level of indentation. -/
def indented (level : Nat) : Json → String
  | .arr items => block level "[" "]" (indentedItems (level + 1) items)
  | .obj entries => block level "\x7b" "\x7d" (indentedEntries (level + 1) entries)
  | .null => scalar .null
  | .bool value => scalar (.bool value)
  | .int value => scalar (.int value)
  | .float value => scalar (.float value)
  | .str value => scalar (.str value)

/-- The items of a list at a level of indentation. -/
def indentedItems (level : Nat) : List Json → List String
  | [] => []
  | item :: rest => indented level item :: indentedItems level rest

/-- The entries of an object at a level of indentation. -/
def indentedEntries (level : Nat) : List (String × Json) → List String
  | [] => []
  | (key, value) :: rest =>
    (quote key ++ ": " ++ indented level value) :: indentedEntries level rest

end

/-- A value over several lines, two spaces a level. -/
def pretty (value : Json) : String := indented 0 value

mutual

/-- A value with the kind of each part before it. -/
def dump : Json → String
  | .null => "Null"
  | .bool value => "Bool(" ++ (if value then "true" else "false") ++ ")"
  | .int value => "Number(" ++ toString value ++ ")"
  | .float value => "Number(" ++ value.render ++ ")"
  | .str value => "String(" ++ Quoted.quote value ++ ")"
  | .arr items => "Array [" ++ ", ".intercalate (dumpItems items) ++ "]"
  | .obj entries => "Object \x7b" ++ ", ".intercalate (dumpEntries entries) ++ "\x7d"

/-- The items of a list with their kinds. -/
def dumpItems : List Json → List String
  | [] => []
  | item :: rest => dump item :: dumpItems rest

/-- The entries of an object with their kinds. -/
def dumpEntries : List (String × Json) → List String
  | [] => []
  | (key, value) :: rest => (Quoted.quote key ++ ": " ++ dump value) :: dumpEntries rest

end

end LanguageClient.Json
