import LanguageClient.Wire.Record

/-!
# Commands

A command that a tree node carries, and the call of a command by its identifier with arguments of
any shape.
-/

namespace LanguageClient

/-- A command with a title for the user. -/
structure Command where
  /-- The title. -/
  title : String
  /-- The identifier. -/
  identifier : String
  /-- The arguments, if there are any. -/
  arguments : Option (List Json)
deriving Repr, DecidableEq

/-- A command on the wire. -/
def Command.form : Form Command :=
  .record "Command" <| .as (fun (title, identifier, arguments) => ⟨title, identifier, arguments⟩)
    (fun c => (c.title, c.identifier, c.arguments)) <|
    (Fields.required "title" .text).both <| (Fields.required "command" .text).both
    (.optionalInObject "arguments" (.list .json))

/-- A number or a text that one message is matched with another by. -/
inductive Token
  /-- A number. -/
  | number (value : Int32)
  /-- A text. -/
  | text (value : String)
deriving Repr, DecidableEq

/-- A token on the wire. -/
def Token.form : Form Token where
  encode
    | .number value => .int value.toInt
    | .text value => .str value
  decode value :=
    match value with
    | .str value => .ok (.text value)
    | .int n =>
      if -0x80000000 ≤ n ∧ n < 0x80000000 then .ok (.number (Int32.ofInt n))
      else .error (.noMatch "NumberOrString")
    | _ => .error (.noMatch "NumberOrString")

/-- The call of a command. -/
structure CommandCall where
  /-- The identifier of the command. -/
  command : String
  /-- Its arguments. -/
  arguments : List Json
  /-- What reports of its progress are matched by. -/
  progress : Option Token
deriving Repr, DecidableEq

namespace CommandCall

/-- The identifier and the arguments of a call. -/
def ownFields : Fields (String × List Json) :=
  (Fields.required "command" .text).both (.defaulted "arguments" (.list .json) [])

/-- The progress token of a call. -/
def progressFields : Fields (Option Token) :=
  .optional "workDoneToken" Token.form

/-- A call on the wire. The token stands beside the other fields but is looked at last, and a list
is no call. -/
def form : Form CommandCall where
  encode call :=
    Json.object (ownFields.write (call.command, call.arguments)
      ++ progressFields.write call.progress)
  decode
    | .obj entries => do
      let (command, arguments) ← ownFields.ofEntries entries
      let progress ← progressFields.ofEntries entries
      return ⟨command, arguments, progress⟩
    | other => .error (.wrongType other "struct ExecuteCommandParams")

/-- The call of a command with one argument. -/
def withArgument (command : String) (argument : Json) : CommandCall := ⟨command, [argument], none⟩

end CommandCall

end LanguageClient
