import LanguageClient.Duration

/-!
# Failures

What can go wrong between the client, the server and the editor. Each failure is a cause; a
failure of one part keeps the failure of another part that led to it, and its text contains the
text of that one. An answer that there is nothing to be found is never a failure.
-/

namespace LanguageClient

/-- A failure in dealing with the language server. -/
inductive LspError
  /-- The server did not start. -/
  | startFailed (reason : String)
  /-- The server did not introduce itself. -/
  | initializationFailed (reason : String)
  /-- An answer did not come in time. -/
  | timeout (limit : Duration)
  /-- A request or notification could not be delivered, or the server refused it. -/
  | requestFailed (reason : String)
  /-- A payload does not have the form of its message. -/
  | parseError (reason : String)
  /-- A line or a column is zero. -/
  | invalidPosition (line column : UInt32)
  /-- A document does not exist or is not open. -/
  | documentNotFound (reason : String)
deriving Repr, DecidableEq

/-- The failure as a text. -/
def LspError.message : LspError → String
  | .startFailed reason => "failed to start language server: " ++ reason
  | .initializationFailed reason => "language server initialization failed: " ++ reason
  | .timeout limit => "language server request timed out after " ++ limit.text
  | .requestFailed reason => "failed to send request to language server: " ++ reason
  | .parseError reason => "failed to parse language server payload: " ++ reason
  | .invalidPosition line column =>
    "invalid position: line " ++ toString line ++ ", column " ++ toString column
  | .documentNotFound reason => "document not found: " ++ reason

/-- A failure in a tree view. -/
inductive TreeError
  /-- No view has that identifier. -/
  | unknownView (view : String)
  /-- The server could not be asked. -/
  | lsp (cause : LspError)
deriving Repr, DecidableEq

/-- The failure as a text. -/
def TreeError.message : TreeError → String
  | .unknownView view => "unknown tree view: " ++ view
  | .lsp cause => "tree view request failed: " ++ cause.message

/-- A command that was called in a wrong way. -/
inductive CommandError
  /-- The command needs an argument and has none. -/
  | missingArgument (command : String)
  /-- The argument does not have the form that the command needs. -/
  | invalidArgument (command reason : String)
deriving Repr, DecidableEq

/-- The failure as a text. -/
def CommandError.message : CommandError → String
  | .missingArgument command => "command '" ++ command ++ "' is missing its argument"
  | .invalidArgument command reason =>
    "invalid argument for command '" ++ command ++ "': " ++ reason

/-- A failure that the editor reports about an action of its own. -/
structure EditorError where
  /-- The report. -/
  message : String
deriving Repr, DecidableEq

/-- A failure in starting a debug session. -/
inductive DebugError
  /-- The address of the debug adapter names no host and port. -/
  | invalidAdapterUri (reason : String)
  /-- The server could not be asked. -/
  | lsp (cause : LspError)
  /-- The editor could not start the session. -/
  | editor (cause : EditorError)
deriving Repr, DecidableEq

/-- The failure as a text. -/
def DebugError.message : DebugError → String
  | .invalidAdapterUri reason => "invalid debug adapter uri: " ++ reason
  | .lsp cause => "debug adapter start failed: " ++ cause.message
  | .editor cause => "editor host failed to start debugging: " ++ cause.message

/-- A failure in any part of the client. -/
inductive ClientError
  /-- A failure in dealing with the server. -/
  | lsp (cause : LspError)
  /-- A failure in a tree view. -/
  | tree (cause : TreeError)
  /-- A command that was called in a wrong way. -/
  | command (cause : CommandError)
  /-- A failure in starting a debug session. -/
  | debug (cause : DebugError)
  /-- A failure of the editor. -/
  | editor (cause : EditorError)
deriving Repr, DecidableEq

/-- The failure as a text. -/
def ClientError.message : ClientError → String
  | .lsp cause => "LSP error: " ++ cause.message
  | .tree cause => "tree view error: " ++ cause.message
  | .command cause => "command error: " ++ cause.message
  | .debug cause => "debug error: " ++ cause.message
  | .editor cause => "editor host error: " ++ cause.message

end LanguageClient
