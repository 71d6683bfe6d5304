import LanguageClient.Wire.Record

/-!
# Settings

How the server is started, which trees are shown, where the resources of the client lie, and how
long the client waits for answers. Every setting has a default.
-/

namespace LanguageClient

/-- How the server is started. -/
structure ServerSettings where
  /-- The program. -/
  command : String
  /-- The arguments of the program. -/
  arguments : List String
deriving Repr, DecidableEq

/-- All settings of the client. -/
structure Settings where
  /-- How the server is started. -/
  server : ServerSettings
  /-- The identifiers of the trees. -/
  treeViews : List String
  /-- The directory that holds the resources of the client. -/
  extensionRoot : Path
  /-- How many seconds the server has for its introduction. -/
  initTimeout : UInt64
  /-- How many seconds the server has for any other answer. -/
  requestTimeout : UInt64
deriving Repr, DecidableEq

namespace ServerSettings

/-- The server that is started when nothing else is set. -/
def standard : ServerSettings :=
  ⟨"java", ["-Dfile.encoding=UTF-8", "-jar", "rclang-language-server.jar"]⟩

/-- The fields of the server's settings. -/
def fields : Fields ServerSettings :=
  .as (fun (command, arguments) => ⟨command, arguments⟩) (fun s => (s.command, s.arguments)) <|
    (Fields.required "command" .text).both (.defaulted "args" (.list .text) [])

/-- The server's settings on the wire. -/
def form : Form ServerSettings := .record "ServerSettings" fields

end ServerSettings

namespace Settings

/-- The name of the file that holds the settings of a workspace. -/
def fileName : String := ".rclang.json"

/-- The settings that hold when nothing is set. -/
def standard : Settings := ⟨.standard, ["rcAst"], Path.ofString ".", 30, 10⟩

/-- The fields of the settings. -/
def fields : Fields Settings :=
  .as (fun (server, treeViews, extensionRoot, initTimeout, requestTimeout) =>
      ⟨server, treeViews, extensionRoot, initTimeout, requestTimeout⟩)
    (fun s => (s.server, s.treeViews, s.extensionRoot, s.initTimeout, s.requestTimeout)) <|
    (Fields.defaulted "server" ServerSettings.form standard.server).both <|
    (Fields.defaulted "treeViews" (.list .text) standard.treeViews).both <|
    (Fields.defaulted "extensionRoot" .path standard.extensionRoot).both <|
    (Fields.defaulted "initTimeoutSecs" .word64 standard.initTimeout).both
    (.defaulted "requestTimeoutSecs" .word64 standard.requestTimeout)

/-- The settings on the wire. -/
def form : Form Settings := .record "Settings" fields

end Settings

end LanguageClient
