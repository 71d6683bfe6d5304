import LanguageClient.Files.Path

/-!
# Arguments of the command line

The arguments name one action and the settings around it. Options may be written with their value
in the same argument or in the next one; each option may stand there once.
-/

namespace LanguageClient.CommandLine

/-- What the program is asked to do. -/
inductive Action
  /-- To write a first settings file. -/
  | config
  /-- To show the preview of a file, in a file if one is named. -/
  | preview (file : Path) (out : Option Path)
  /-- To print a tree down to a depth. -/
  | tree (view : String) (depth : Nat)
  /-- To reveal the node that belongs to a line and a column. -/
  | reveal (file : Path) (line column : UInt32)
  /-- To act on what the server tells until the connection ends. -/
  | run
deriving Repr, DecidableEq

/-- The arguments of the program. -/
structure Arguments where
  /-- The directory that the session is about. -/
  workspace : Path
  /-- The settings file, if it is not that of the workspace. -/
  config : Option Path
  /-- How much is logged. -/
  logLevel : String
  /-- What is to be done. -/
  action : Action
deriving Repr, DecidableEq

/-- What the arguments ask for. -/
inductive Request
  /-- To do something. -/
  | run (arguments : Arguments)
  /-- To tell the version. -/
  | version
  /-- To explain the arguments. -/
  | help
  /-- The arguments have no meaning. -/
  | misuse
deriving Repr, DecidableEq

/-- An option that takes a value. -/
structure OptionName where
  /-- Its long name. -/
  long : String
  /-- Its short name, if it has one. -/
  short : Option Char
  /-- Whether its value may be empty. -/
  emptyAllowed : Bool
deriving Repr, DecidableEq

/-- What an argument is. -/
inductive Token
  /-- An option with its value. -/
  | value (option : OptionName) (value : String)
  /-- A value that belongs to no option. -/
  | plain (text : String)
  /-- The question for the version. -/
  | version
  /-- The question for help. -/
  | help
  /-- Something without meaning. -/
  | misuse
deriving Repr, DecidableEq

/-- Whether an argument could be an option. -/
def looksLikeOption (argument : String) : Bool :=
  match argument.toList with
  | '-' :: _ :: _ => true
  | _ => false

/-- The option with the value that follows it, and the arguments after it. -/
def withNext (option : OptionName) : List String → Token × List String
  | value :: rest =>
    if looksLikeOption value ∨ (value.isEmpty ∧ !option.emptyAllowed) then (.misuse, [])
    else (.value option value, rest)
  | [] => (.misuse, [])

/-- The option with a value in the same argument. -/
def withValue (option : OptionName) (value : List Char) (rest : List String) :
    Token × List String :=
  if value.isEmpty ∧ !option.emptyAllowed then (.misuse, [])
  else (.value option (String.ofList value), rest)

/-- Reads a long option, its dashes taken. -/
def readLong (options : List OptionName) (hasVersion : Bool) (text : List Char)
    (rest : List String) : Token × List String :=
  let (name, value) := text.span (· ≠ '=')
  match options.find? fun option => option.long.toList = name, value with
  | some option, _ :: value => withValue option value rest
  | some option, [] => withNext option rest
  | none, [] =>
    if name = "help".toList then (.help, rest)
    else if name = "version".toList ∧ hasVersion then (.version, rest)
    else (.misuse, [])
  | none, _ :: _ => (.misuse, [])

/-- Reads a short option, its dash taken. -/
def readShort (options : List OptionName) (hasVersion : Bool) (name : Char) (text : List Char)
    (rest : List String) : Token × List String :=
  match options.find? fun option => option.short = some name, text with
  | some option, [] => withNext option rest
  | some option, '=' :: value => withValue option value rest
  | some option, value => withValue option value rest
  | none, _ =>
    if name = 'h' then (.help, rest)
    else if name = 'V' ∧ hasVersion then (.version, rest)
    else (.misuse, [])

/-- Reads the first of some arguments. -/
def readToken (options : List OptionName) (hasVersion : Bool) (argument : String)
    (rest : List String) : Token × List String :=
  match argument.toList with
  | '-' :: '-' :: text => readLong options hasVersion text rest
  | '-' :: name :: text => readShort options hasVersion name text rest
  | _ => (.plain argument, rest)

/-- What was read of the arguments of an action or of those before it. -/
structure Draft where
  /-- The values of options. -/
  values : List (String × String)
  /-- The values that belong to no option. -/
  plain : List String
deriving Repr, DecidableEq

/-- The value of an option. -/
def Draft.value? (draft : Draft) (name : String) : Option String :=
  (draft.values.find? fun entry => entry.1 = name).map Prod.snd

/-- Where the reading of arguments ended. -/
inductive Reading
  /-- At the end, or at the first plain value if only options were wanted. -/
  | done (draft : Draft) (rest : List String)
  /-- At a question for the version. -/
  | version
  /-- At a question for help. -/
  | help
  /-- At something without meaning. -/
  | misuse
deriving Repr, DecidableEq

/-- Reads arguments; `fuel` bounds their number. With `plainLimit` plain values at most, or up to
the first plain value if that is zero and `stops` holds. After two dashes all values are plain. -/
def readAll (options : List OptionName) (stops : Bool) (plainLimit : Nat) :
    Nat → Draft → List String → Reading
  | 0, draft, rest => .done draft rest
  | _ + 1, draft, [] => .done draft []
  | fuel + 1, draft, argument :: rest =>
    if argument = "--" then
      if stops ∨ plainLimit < draft.plain.length + rest.length then
        if stops ∧ rest.isEmpty then .done draft [] else .misuse
      else .done { draft with plain := draft.plain ++ rest } []
    else
      match readToken options stops argument rest with
      | (.misuse, _) => .misuse
      | (.version, _) => .version
      | (.help, _) => .help
      | (.value option value, rest) =>
        if (draft.value? option.long).isSome then .misuse
        else readAll options stops plainLimit fuel
          { draft with values := draft.values ++ [(option.long, value)] } rest
      | (.plain text, after) =>
        if stops then .done draft (argument :: rest)
        else if plainLimit ≤ draft.plain.length then .misuse
        else readAll options stops plainLimit fuel
          { draft with plain := draft.plain ++ [text] } after

/-- The number that a text spells in base ten, with a sign in front if one is allowed. -/
def number? (minusAllowed : Bool) (text : String) : Option Int :=
  let (negative, digits) := match text.toList with
    | '+' :: digits => (false, digits)
    | '-' :: digits => if minusAllowed then (true, digits) else (false, '-' :: digits)
    | digits => (false, digits)
  if digits.isEmpty ∨ !digits.all Char.isDigit then none
  else
    let value : Int := digits.foldl (fun n c => n * 10 + (c.toNat - '0'.toNat)) 0
    some (if negative then -value else value)

/-- A number of thirty-two bits. -/
def word32? (text : String) : Option UInt32 := do
  let value ← number? true text
  if 0 ≤ value ∧ value < 0x100000000 then some (.ofNat value.toNat) else none

/-- A number of sixty-four bits. -/
def word64? (text : String) : Option Nat := do
  let value ← number? false text
  if value < 0x10000000000000000 then some value.toNat else none

/-- A path, which is not empty. -/
def path? (text : String) : Option Path :=
  if text.isEmpty then none else some (Path.ofString text)

/-- The options before the action. -/
def commonOptions : List OptionName :=
  [⟨"workspace", some 'w', false⟩, ⟨"config", some 'c', false⟩, ⟨"log-level", none, true⟩]

/-- The options of an action with a name, and how many plain values it takes. -/
def actionOptions? : String → Option (List OptionName × Nat)
  | "config" | "run" => some ([], 0)
  | "preview" => some ([⟨"out", some 'o', false⟩], 1)
  | "tree" => some ([⟨"depth", some 'd', true⟩], 1)
  | "reveal" => some ([], 3)
  | _ => none

/-- The action with a name and arguments. -/
def actionOf? (name : String) (draft : Draft) : Option Action :=
  match name, draft.plain with
  | "config", [] => some .config
  | "run", [] => some .run
  | "preview", [file] =>
    match draft.value? "out" with
    | none => do return .preview (← path? file) none
    | some out => do return .preview (← path? file) (some (← path? out))
  | "tree", [view] =>
    match draft.value? "depth" with
    | none => some (.tree view 3)
    | some depth => do return .tree view (← word64? depth)
  | "reveal", [file, line, column] => do
    return .reveal (← path? file) (← word32? line) (← word32? column)
  | _, _ => none

/-- Reads the action and its arguments. -/
def readAction (common : Draft) : List String → Request
  | [] => .misuse
  | "help" :: topics =>
    match topics with
    | [] | ["help"] => .help
    | [topic] => if (actionOptions? topic).isSome then .help else .misuse
    | _ => .misuse
  | name :: rest =>
    match actionOptions? name with
    | none => .misuse
    | some (options, limit) =>
      match readAll options false limit (rest.length + 1) ⟨[], []⟩ rest with
      | .misuse | .version => .misuse
      | .help => .help
      | .done draft _ =>
        match actionOf? name draft with
        | none => .misuse
        | some action => .run {
            workspace := Path.ofString ((common.value? "workspace").getD ".")
            config := (common.value? "config").map Path.ofString
            logLevel := (common.value? "log-level").getD "info"
            action := action }

/-- Reads the arguments of the program. -/
def read (arguments : List String) : Request :=
  match readAll commonOptions true 0 (arguments.length + 1) ⟨[], []⟩ arguments with
  | .misuse => .misuse
  | .version => .version
  | .help => .help
  | .done common rest => readAction common rest

end LanguageClient.CommandLine
