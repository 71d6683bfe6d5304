import LanguageClient.Json.Basic
import LanguageClient.Json.Scanner

/-!
# Reading JSON values

A whole text is read as one value; values nest to a fixed depth. The same grammar without a value
skips what nobody wants, to any depth.
-/

namespace LanguageClient.Json

/-- How deep values may nest in a text that is read. -/
def maximalDepth : Nat := 127

/-- The value of a numeral. -/
def ofNumeral : Numeral → Json
  | .whole value => .int value
  | .fraction value => .float value

mutual

/-- Takes one value that nests at most `depth` levels; `fuel` bounds the length of the text. -/
def scanValue (depth : Nat) : Nat → Scanner Json
  | 0, _ => .error .ended
  | fuel + 1, text =>
    match skipBlanks text with
    | [] => .error .ended
    | 'n' :: text => do
      let (_, text) ← scanWord ['u', 'l', 'l'] text
      return (.null, text)
    | 't' :: text => do
      let (_, text) ← scanWord ['r', 'u', 'e'] text
      return (.bool true, text)
    | 'f' :: text => do
      let (_, text) ← scanWord ['a', 'l', 's', 'e'] text
      return (.bool false, text)
    | '"' :: text => do
      let (value, text) ← scanText text
      return (.str value, text)
    | '-' :: text => do
      let (value, text) ← scanNumber true text
      return (ofNumeral value, text)
    | '[' :: text =>
      match depth with
      | 0 => .error .malformed
      | depth + 1 => scanItems depth fuel true [] text
    | '\x7b' :: text =>
      match depth with
      | 0 => .error .malformed
      | depth + 1 => scanEntries depth fuel true [] text
    | c :: text => do
      if !c.isDigit then throw .malformed
      let (value, text) ← scanNumber false (c :: text)
      return (ofNumeral value, text)

/-- Takes the rest of a list whose opening bracket has been taken. -/
def scanItems (depth : Nat) : Nat → Bool → List Json → Scanner Json
  | 0, _, _, _ => .error .ended
  | fuel + 1, first, taken, text =>
    match skipBlanks text with
    | [] => .error .ended
    | ']' :: text => .ok (.arr taken.reverse, text)
    | c :: text => do
      let text ←
        if first then pure (c :: text)
        else if c = ',' then
          match skipBlanks text with
          | ']' :: _ => throw .malformed
          | text => pure text
        else throw .malformed
      let (item, text) ← scanValue depth fuel text
      scanItems depth fuel false (item :: taken) text

/-- Takes the rest of an object whose opening brace has been taken. -/
def scanEntries (depth : Nat) : Nat → Bool → List (String × Json) → Scanner Json
  | 0, _, _, _ => .error .ended
  | fuel + 1, first, taken, text =>
    match skipBlanks text with
    | [] => .error .ended
    | '\x7d' :: text => .ok (object taken.reverse, text)
    | c :: text => do
      let text ←
        if first then pure (c :: text)
        else if c = ',' then pure (skipBlanks text)
        else throw .malformed
      match text with
      | [] => throw .ended
      | '"' :: text =>
        let (key, text) ← scanText text
        match skipBlanks text with
        | [] => throw .ended
        | ':' :: text =>
          let (value, text) ← scanValue depth fuel text
          scanEntries depth fuel false ((key, value) :: taken) text
        | _ => throw .malformed
      | _ => throw .malformed

end

/-- Reads a whole text as one value. -/
def read (text : List Char) : Except Fault Json := do
  let (value, rest) ← scanValue maximalDepth (2 * text.length + 2) text
  if (skipBlanks rest).isEmpty then return value else throw .malformed

/-- The value of a whole text. -/
def read? (text : String) : Option Json := (read text.toList).toOption

mutual

/-- Takes one value that nobody wants; `fuel` bounds the length of the text. -/
def skipValue : Nat → Scanner Unit
  | 0, _ => .error .ended
  | fuel + 1, text =>
    match skipBlanks text with
    | [] => .error .ended
    | 'n' :: text => scanWord ['u', 'l', 'l'] text
    | 't' :: text => scanWord ['r', 'u', 'e'] text
    | 'f' :: text => scanWord ['a', 'l', 's', 'e'] text
    | '"' :: text => skipText text
    | '-' :: text => skipNumber text
    | '[' :: text => skipItems fuel true text
    | '\x7b' :: text => skipEntries fuel true text
    | c :: text => if c.isDigit then skipNumber (c :: text) else .error .malformed

/-- Takes the rest of a list that nobody wants. -/
def skipItems : Nat → Bool → Scanner Unit
  | 0, _, _ => .error .ended
  | fuel + 1, first, text =>
    match skipBlanks text with
    | [] => .error .ended
    | ']' :: text => .ok ((), text)
    | c :: text => do
      let text ←
        if first then pure (c :: text)
        else if c = ',' then pure text
        else throw .malformed
      let (_, text) ← skipValue fuel text
      skipItems fuel false text

/-- Takes the rest of an object that nobody wants. -/
def skipEntries : Nat → Bool → Scanner Unit
  | 0, _, _ => .error .ended
  | fuel + 1, first, text =>
    match skipBlanks text with
    | [] => .error .ended
    | '\x7d' :: text => .ok ((), text)
    | c :: text => do
      let text ←
        if first then pure (c :: text)
        else if c = ',' then pure (skipBlanks text)
        else throw .malformed
      match text with
      | [] => throw .ended
      | '"' :: text =>
        let (_, text) ← skipText text
        match skipBlanks text with
        | [] => throw .ended
        | ':' :: text =>
          let (_, text) ← skipValue fuel text
          skipEntries fuel false text
        | _ => throw .malformed
      | _ => throw .malformed

end

end LanguageClient.Json
