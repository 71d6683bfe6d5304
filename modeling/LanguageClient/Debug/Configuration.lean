import LanguageClient.Wire.Record

/-!
# Debug configurations

A configuration as the editor and the server exchange it. Some keys have a meaning here; all
others are kept as they are and handed on.
-/

namespace LanguageClient.Debug

/-- What a configuration asks the server to debug. -/
inductive Target
  /-- A class with an entry point. -/
  | mainClass (name : String)
  /-- A class of tests. -/
  | testClass (name : String)
  /-- A machine that runs already. -/
  | attach (host : String)
deriving Repr, DecidableEq

/-- A debug configuration. -/
structure Configuration where
  /-- The type; none when the user has no configuration. -/
  kind : Option String
  /-- The name of the session. -/
  name : Option String
  /-- Whether to launch or to attach. -/
  request : Option String
  /-- Whether to run without debugging. -/
  noDebug : Option Bool
  /-- The port of a debug adapter that runs already. -/
  port : Option UInt16
  /-- The class to launch. -/
  mainClass : Option String
  /-- The class of tests to run. -/
  testClass : Option String
  /-- The machine to attach to. -/
  hostName : Option String
  /-- All other keys with their values. -/
  others : List (String × Json)
deriving Repr, DecidableEq

namespace Configuration

/-- The configuration without any key. -/
def empty : Configuration := ⟨none, none, none, none, none, none, none, none, []⟩

/-- The keys with a meaning. -/
def fields : Fields Configuration :=
  .as (fun (kind, name, request, noDebug, port, mainClass, testClass, hostName) =>
      ⟨kind, name, request, noDebug, port, mainClass, testClass, hostName, []⟩)
    (fun c => (c.kind, c.name, c.request, c.noDebug, c.port, c.mainClass, c.testClass,
      c.hostName)) <|
    (Fields.optional "type" .text).both <| (Fields.optional "name" .text).both <|
    (Fields.optional "request" .text).both <| (Fields.optional "noDebug" .truth).both <|
    (Fields.optional "debugServer" .word16).both <| (Fields.optional "mainClass" .text).both <|
    (Fields.optional "testClass" .text).both (.optional "hostName" .text)

/-- A configuration on the wire; a list is no configuration. -/
def form : Form Configuration where
  encode configuration := Json.object (fields.write configuration ++ configuration.others)
  decode
    | .obj entries => do
      let known ← fields.ofEntries entries
      return { known with others := entries.filter fun entry => !fields.names.contains entry.1 }
    | other => .error (.wrongType other "struct DebugConfiguration")

/-- What a configuration names to debug; a class to launch goes before a class of tests, and that
before a machine. -/
def target? (configuration : Configuration) : Option Target :=
  match configuration.mainClass, configuration.testClass with
  | some name, _ => some (.mainClass name)
  | none, some name => some (.testClass name)
  | none, none => configuration.hostName.map .attach

end Configuration

end LanguageClient.Debug
