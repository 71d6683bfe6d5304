import LanguageClient.Command

/-!
# Envelopes

Every message between client and server is a question, the answer to a question, or a notice.
Questions and answers carry the same identifier.
-/

namespace LanguageClient.Server

/-- The answer that a question was refused. -/
structure Refusal where
  /-- The kind of the refusal. -/
  code : Int
  /-- The reason. -/
  message : String
  /-- Anything else there is to say. -/
  data : Option Json
deriving Repr

/-- A message. -/
inductive Envelope
  /-- A question. -/
  | question (id : Token) (method : String) (params : Json)
  /-- The answer to a question. -/
  | answer (id : Token) (outcome : Except Refusal Json)
  /-- A notice. -/
  | notice (method : String) (params : Json)

namespace Refusal

/-- A whole number of thirty-two bits with a sign. -/
def codeForm : Form Int where
  encode := .int
  decode := Form.wholeBetween (-0x80000000) 0x80000000 "i32"

/-- A refusal on the wire. -/
def form : Form Refusal :=
  .record "ResponseError" <| .as (fun (code, message, data) => ⟨code, message, data⟩)
    (fun r => (r.code, r.message, r.data)) <|
    (Fields.required "code" codeForm).both <| (Fields.required "message" .text).both
    (.optional "data" .json)

/-- There is no such method. -/
def unknownMethod (method : String) : Refusal := ⟨-32601, "No such method " ++ method, none⟩

/-- The payload does not have the form of the method. -/
def wrongParams (cause : DecodeError) : Refusal :=
  ⟨-32602, "Failed to deserialize parameters: " ++ cause.message, none⟩

/-- The refusal with all that it says. -/
def text (refusal : Refusal) : String :=
  "Response(ResponseError \x7b code: ErrorCode(" ++ toString refusal.code ++ "), message: "
    ++ Quoted.quote refusal.message ++ ", data: "
    ++ (refusal.data.elim "None" fun data => "Some(" ++ data.dump ++ ")") ++ " \x7d)"

end Refusal

namespace Envelope

/-- The version that every envelope names. -/
def version : String := "2.0"

/-- An envelope as JSON. -/
def encode : Envelope → Json
  | .question id method params => Json.object [("jsonrpc", .str version),
      ("id", Token.form.encode id), ("method", .str method), ("params", params)]
  | .answer id (.ok result) => Json.object [("jsonrpc", .str version),
      ("id", Token.form.encode id), ("result", result)]
  | .answer id (.error refusal) => Json.object [("jsonrpc", .str version),
      ("id", Token.form.encode id), ("error", Refusal.form.encode refusal)]
  | .notice method params => Json.object [("jsonrpc", .str version), ("method", .str method),
      ("params", params)]

/-- The outcome that an answer carries. -/
def outcome? (entries : List (String × Json)) : Option (Except Refusal Json) :=
  match (Refusal.form.nullable.decode ((Json.entry? "error" entries).getD .null)).toOption with
  | none => none
  | some (some refusal) => some (.error refusal)
  | some none => some (.ok ((Json.entry? "result" entries).getD .null))

/-- The envelope that a JSON value is. What has an identifier and a method is a question, what has
an identifier alone an answer, and what has a method alone a notice. -/
def decode? : Json → Option Envelope
  | .obj entries =>
    if Json.entry? "jsonrpc" entries ≠ some (.str version) then none
    else
      let id := (Json.entry? "id" entries).bind fun id => (Token.form.decode id).toOption
      let params := (Json.entry? "params" entries).getD .null
      match id, Json.entry? "method" entries with
      | some id, some (.str method) => some (.question id method params)
      | some id, method =>
        match outcome? entries, method with
        | some outcome, _ => some (.answer id outcome)
        | none, some (.str method) => some (.notice method params)
        | none, _ => none
      | none, some (.str method) => some (.notice method params)
      | none, _ => none
  | _ => none

end Envelope

end LanguageClient.Server
