import LanguageClient.Json.Printer
import LanguageClient.Json.Reader
import LanguageClient.Server.Envelope

/-!
# Frames

A message travels as a number of header lines, an empty line, and as many bytes as the headers
say. A stream that breaks this form cannot be read any further.
-/

namespace LanguageClient.Server

namespace Frame

/-- A text as the body of a frame. -/
def encode (body : String) : List UInt8 :=
  let bytes := Utf8.ofString body
  Utf8.ofString ("Content-Length: " ++ toString bytes.length ++ "\r\n\r\n") ++ bytes

/-- What stands at the front of a stream. -/
inductive Front
  /-- The beginning of a frame whose rest has not come yet. -/
  | incomplete
  /-- Something that is no frame. -/
  | broken
  /-- A frame with its body, and the stream after it. -/
  | body (bytes rest : List UInt8)
deriving Repr

/-- The characters of a header line without its end, if the line has its proper end. -/
def headerText? (line : List UInt8) : Option (List Char) := do
  let characters ← Utf8.decode? line
  match characters.reverse with
  | '\n' :: '\r' :: reversed => some reversed.reverse
  | _ => none

/-- The name and the value of a header. -/
def splitHeader? : List Char → Option (List Char × List Char)
  | ':' :: ' ' :: value => some ([], value)
  | c :: rest => (splitHeader? rest).map fun (name, value) => (c :: name, value)
  | [] => none

/-- The length that a header states. -/
def length? (value : List Char) : Option Nat :=
  let digits := match value with
    | '+' :: digits => digits
    | digits => digits
  if digits.isEmpty ∨ !digits.all Char.isDigit then none
  else
    let length := Json.digitsValue digits
    if length < 0x10000000000000000 then some length else none

/-- Reads the headers of a frame and takes its body; `fuel` bounds the number of headers. -/
def readHeaders : Nat → Option Nat → List UInt8 → Front
  | 0, _, _ => .broken
  | fuel + 1, length, stream =>
    let line := stream.takeWhile (· ≠ 0x0a)
    match stream.drop line.length with
    | [] => .incomplete
    | newline :: rest =>
      match headerText? (line ++ [newline]) with
      | none => .broken
      | some [] =>
        match length with
        | none => .broken
        | some length =>
          if rest.length < length then .incomplete
          else .body (rest.take length) (rest.drop length)
      | some header =>
        match splitHeader? header with
        | none => .broken
        | some (name, value) =>
          if name.map Char.toLower = "content-length".toList then
            match length? value with
            | none => .broken
            | some length => readHeaders fuel (some length) rest
          else readHeaders fuel length rest

/-- Reads what stands at the front of a stream. -/
def front (stream : List UInt8) : Front := readHeaders (stream.length + 1) none stream

/-- The envelope in the body of a frame. -/
def envelope? (body : List UInt8) : Option Envelope := do
  let characters ← Utf8.decode? body
  let value ← (Json.read characters).toOption
  Envelope.decode? value

end Frame

end LanguageClient.Server
