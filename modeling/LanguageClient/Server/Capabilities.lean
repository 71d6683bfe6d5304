import LanguageClient.Command
import LanguageClient.Document
import LanguageClient.Wire.Passive

/-!
# Payloads of the protocol that are only checked

What the server tells of itself when it introduces itself, and the notices that the client takes
without acting on them. A notice whose payload does not have its form ends the connection.
-/

namespace LanguageClient.Server

open Passive

/-- Whether reports of progress are sent. -/
def progressField : String × Passive := ("workDoneProgress", truth)

/-- A record of options that shares its object with the option for progress reports. -/
def options (name : String) (fields : List (String × Passive)) : Passive :=
  record name (allowed (fields ++ [progressField])) true

/-- A truth value or options. -/
def flagOr (name : String) (fields : List (String × Passive)) : Passive :=
  oneOf "OneOf" [truth, options name fields]

/-- A truth value or one of several kinds of options, under the name of their union. -/
def union (name : String) (forms : List Passive) : Passive := oneOf name (truth :: forms)

/-- A pattern that documents are selected by. -/
def documentFilter : Passive :=
  record "DocumentFilter" (allowed [("language", text), ("scheme", text), ("pattern", text)]) false

/-- The documents that a registration is for. -/
def registration (name : String) (fields : List (String × Passive)) : Passive :=
  record name (shown [("documentSelector", list documentFilter)]
    ++ allowed (("id", text) :: fields)) (!fields.isEmpty)

/-- Options of which none are known. -/
def noOptions (name : String) : Passive := record name [] false

/-- How documents are kept up to date. -/
def documentSync : Passive :=
  oneOf "TextDocumentSyncCapability" [int32, record "TextDocumentSyncOptions" (allowed [
    ("openClose", truth), ("change", int32), ("willSave", truth), ("willSaveWaitUntil", truth),
    ("save", oneOf "TextDocumentSyncSaveOptions" [truth,
      record "SaveOptions" (allowed [("includeText", truth)]) false])]) false]

/-- How completions are offered. -/
def completion : Passive :=
  options "CompletionOptions" [("resolveProvider", truth), ("triggerCharacters", texts),
    ("allCommitCharacters", texts), ("completionItem",
      record "CompletionOptionsCompletionItem" (allowed [("labelDetailsSupport", truth)]) false)]

/-- The kind of the files that a pattern is for. -/
def fileKind : Form String := .choice [("file", "file"), ("folder", "folder")] id

/-- How file operations are told. -/
def fileOperations : Passive :=
  let pattern := record "FileOperationPattern" (needed [("glob", text)] ++ allowed [
    ("matches", of fileKind), ("options",
      record "FileOperationPatternOptions" (allowed [("ignoreCase", truth)]) false)]) false
  let filter := record "FileOperationFilter" (shown [("scheme", text)]
    ++ needed [("pattern", pattern)]) false
  let registration := record "FileOperationRegistrationOptions"
    (needed [("filters", list filter)]) false
  record "WorkspaceFileOperationsServerCapabilities" (allowed [("didCreate", registration),
    ("willCreate", registration), ("didRename", registration), ("willRename", registration),
    ("didDelete", registration), ("willDelete", registration)]) false

/-- What the server does with workspaces. -/
def workspace : Passive :=
  record "WorkspaceServerCapabilities" (allowed [
    ("workspaceFolders", record "WorkspaceFoldersServerCapabilities" (allowed [
      ("supported", truth), ("changeNotifications", oneOf "OneOf" [truth, text])]) false),
    ("fileOperations", fileOperations)]) false

/-- How the meaning of words is told. -/
def semanticTokens : Passive :=
  let legend := record "SemanticTokensLegend" (needed [("tokenTypes", texts),
    ("tokenModifiers", texts)]) false
  let full := oneOf "SemanticTokensFullOptions" [truth,
    record "Delta" (allowed [("delta", truth)]) false]
  let fields := needed [("legend", legend)] ++ allowed [("range", truth), ("full", full),
    progressField]
  oneOf "SemanticTokensServerCapabilities" [record "SemanticTokensOptions" fields true]

/-- How diagnostics are asked for. -/
def diagnosticOptions : Passive :=
  oneOf "DiagnosticServerCapabilities" [record "DiagnosticOptions" (allowed [("identifier", text),
    progressField] ++ needed [("interFileDependencies", truth), ("workspaceDiagnostics", truth)])
    true]

/-- What the server can do. -/
def capabilities : Passive :=
  record "ServerCapabilities" (allowed [
    ("positionEncoding", text),
    ("textDocumentSync", documentSync),
    ("selectionRangeProvider", union "SelectionRangeProviderCapability"
      [options "SelectionRangeOptions" []]),
    ("hoverProvider", union "HoverProviderCapability" [options "HoverOptions" []]),
    ("completionProvider", completion),
    ("signatureHelpProvider", options "SignatureHelpOptions" [("triggerCharacters", texts),
      ("retriggerCharacters", texts)]),
    ("definitionProvider", flagOr "DefinitionOptions" []),
    ("typeDefinitionProvider", union "TypeDefinitionProviderCapability"
      [registration "StaticTextDocumentRegistrationOptions" []]),
    ("implementationProvider", union "ImplementationProviderCapability"
      [registration "StaticTextDocumentRegistrationOptions" []]),
    ("referencesProvider", flagOr "ReferencesOptions" []),
    ("documentHighlightProvider", flagOr "DocumentHighlightOptions" []),
    ("documentSymbolProvider", flagOr "DocumentSymbolOptions" [("label", text)]),
    ("workspaceSymbolProvider", flagOr "WorkspaceSymbolOptions" [("resolveProvider", truth)]),
    ("codeActionProvider", union "CodeActionProviderCapability"
      [options "CodeActionOptions" [("codeActionKinds", texts), ("resolveProvider", truth)]]),
    ("codeLensProvider", record "CodeLensOptions" (allowed [("resolveProvider", truth)]) false),
    ("documentFormattingProvider", flagOr "DocumentFormattingOptions" []),
    ("documentRangeFormattingProvider", flagOr "DocumentRangeFormattingOptions" []),
    ("documentOnTypeFormattingProvider", record "DocumentOnTypeFormattingOptions"
      (needed [("firstTriggerCharacter", text)] ++ allowed [("moreTriggerCharacter", texts)])
      false),
    ("renameProvider", flagOr "RenameOptions" [("prepareProvider", truth)]),
    ("documentLinkProvider", options "DocumentLinkOptions" [("resolveProvider", truth)]),
    ("colorProvider", union "ColorProviderCapability"
      [noOptions "ColorProviderOptions",
        registration "StaticTextDocumentColorProviderOptions" []]),
    ("foldingRangeProvider", union "FoldingRangeProviderCapability"
      [noOptions "FoldingProviderOptions",
        registration "StaticTextDocumentColorProviderOptions" []]),
    ("declarationProvider", union "DeclarationCapability"
      [registration "DeclarationRegistrationOptions" [progressField]]),
    ("executeCommandProvider", record "ExecuteCommandOptions" (needed [("commands", texts)]
      ++ allowed [progressField]) true),
    ("workspace", workspace),
    ("callHierarchyProvider", union "CallHierarchyServerCapability"
      [options "CallHierarchyOptions" []]),
    ("semanticTokensProvider", semanticTokens),
    ("monikerProvider", flagOr "MonikerOptions" []),
    ("linkedEditingRangeProvider", union "LinkedEditingRangeServerCapabilities"
      [options "LinkedEditingRangeOptions" []]),
    ("inlineValueProvider", flagOr "InlineValueOptions" []),
    ("inlayHintProvider", flagOr "InlayHintOptions" [("resolveProvider", truth)]),
    ("diagnosticProvider", diagnosticOptions),
    ("experimental", any)]) false

/-- What the server answers when it introduces itself. -/
def introductionForm : Passive :=
  record "InitializeResult" (needed [("capabilities", capabilities)] ++ allowed [("serverInfo",
    record "ServerInfo" (needed [("name", text)] ++ allowed [("version", text)]) false)]) false

/-- A message for the log or for the user. -/
def logMessage : Passive :=
  record "LogMessageParams" (needed [("type", int32), ("message", text)]) false

/-- The diagnostics of a document. -/
def diagnostics : Passive :=
  let range := of TextRange.form
  let location := record "Location" (needed [("uri", of .url), ("range", range)]) false
  let diagnostic := record "Diagnostic" (needed [("range", range)] ++ allowed [
    ("severity", int32), ("code", of Token.form),
    ("codeDescription", record "CodeDescription" (needed [("href", of .url)]) false),
    ("source", text)] ++ needed [("message", text)] ++ allowed [
    ("relatedInformation", list (record "DiagnosticRelatedInformation"
      (needed [("location", location), ("message", text)]) false)),
    ("tags", list int32), ("data", any)]) false
  record "PublishDiagnosticsParams" (needed [("uri", of .url), ("diagnostics", list diagnostic)]
    ++ allowed [("version", int32)]) false

/-- A report of progress, of the kind that it names. -/
def progressValue : Passive := fun value =>
  let common := allowed [("cancellable", truth), ("message", text), ("percentage", of .word32)]
  match value.get? "kind" with
  | some (.str "begin") =>
    record "WorkDoneProgressBegin" (needed [("title", text)] ++ common) true value
  | some (.str "report") => record "WorkDoneProgressReport" common true value
  | some (.str "end") => record "WorkDoneProgressEnd" (allowed [("message", text)]) true value
  | _ => .error (.noMatch "ProgressParamsValue")

/-- A report of progress with its token. -/
def progress : Passive :=
  record "ProgressParams" (needed [("token", of Token.form), ("value", progressValue)]) false

/-- The announcement of reports of progress. -/
def progressAnnouncement : Passive :=
  record "WorkDoneProgressCreateParams" (needed [("token", of Token.form)]) false

/-- The form of a notice that is taken without acting on it, if its method is known. -/
def passiveNotice? : String → Option Passive
  | "window/logMessage" | "window/showMessage" => some logMessage
  | "textDocument/publishDiagnostics" => some diagnostics
  | "$/progress" => some progress
  | _ => none

end LanguageClient.Server
