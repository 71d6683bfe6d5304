import LanguageClient.Document
import LanguageClient.Files.Address
import LanguageClient.Server.Transport
import LanguageClient.Table

/-!
# Open documents

The client tells the server which documents are open and what they hold. Each open document has a
version, which is zero when it is opened and grows by one with each change.
-/

namespace LanguageClient.Server

/-- The open documents with their versions. -/
structure Documents where
  /-- The version of each document. -/
  versions : Table Url Nat

namespace Documents

/-- No document is open. -/
def empty : Documents := ⟨.empty⟩

/-- The version of a document, if it is open. -/
def version? (documents : Documents) (document : Url) : Option Nat :=
  documents.versions.get? document

/-- The documents with one of them in a version. -/
def setVersion (documents : Documents) (document : Url) (version : Nat) : Documents :=
  ⟨documents.versions.insert document version⟩

/-- The documents without one of them. -/
def remove (documents : Documents) (document : Url) : Documents :=
  ⟨documents.versions.erase document⟩

/-- The notice that a document was opened. -/
def openNotice (document : Url) (language text : String) : Call :=
  ⟨"textDocument/didOpen", Json.object [("textDocument", Json.object [
    ("uri", Form.url.encode document), ("languageId", .str language), ("version", .int 0),
    ("text", .str text)])]⟩

/-- The notice that a document has a new text. -/
def changeNotice (document : Url) (version : Nat) (text : String) : Call :=
  ⟨"textDocument/didChange", Json.object [
    ("textDocument", Json.object [("uri", Form.url.encode document), ("version", .nat version)]),
    ("contentChanges", .arr [Json.object [("text", .str text)]])]⟩

/-- The notice that a document was closed. -/
def closeNotice (document : Url) : Call :=
  ⟨"textDocument/didClose", Json.object [
    ("textDocument", Json.object [("uri", Form.url.encode document)])]⟩

/-- The document at a path, with its text. -/
def readDocument (disk : Disk) (path : Path) : Except LspError (Url × String) := do
  let document ← disk.urlOf path
  match disk.readText path with
  | .ok text => return (document, text)
  | .error error => throw (.documentNotFound
      ("failed to read '" ++ path.display ++ "': " ++ error.message))

/-- The failure to send a notice. -/
def notSent (name : String) (failure : ExchangeFailure) : LspError :=
  .requestFailed (name ++ " notification failed: " ++ failure.text)

variable {σ : Type}

/-- Opens the document at a path. A document that is open already is opened again. -/
def openAt (transport : Transport σ) (disk : Disk) (path : Path) (documents : Documents)
    (state : σ) : Documents × σ × Except LspError Url :=
  match readDocument disk path with
  | .error cause => (documents, state, .error cause)
  | .ok (document, text) =>
    match transport.tell (openNotice document (languageId path) text) state with
    | (state, .ok ()) => (documents.setVersion document 0, state, .ok document)
    | (state, .error failure) => (documents, state, .error (notSent "didOpen" failure))

/-- Gives the document at a path a new text. The document has to be open. -/
def changeAt (transport : Transport σ) (disk : Disk) (path : Path) (text : String)
    (documents : Documents) (state : σ) : Documents × σ × Except LspError Unit :=
  match disk.urlOf path with
  | .error cause => (documents, state, .error cause)
  | .ok document =>
    match documents.version? document with
    | none =>
      (documents, state, .error (.documentNotFound ("document not open: " ++ path.display)))
    | some version =>
      let documents := documents.setVersion document (version + 1)
      match transport.tell (changeNotice document (version + 1) text) state with
      | (state, .ok ()) => (documents, state, .ok ())
      | (state, .error failure) => (documents, state, .error (notSent "didChange" failure))

/-- Closes the document at a path, whether it is open or not. -/
def closeAt (transport : Transport σ) (disk : Disk) (path : Path) (documents : Documents)
    (state : σ) : Documents × σ × Except LspError Unit :=
  match disk.urlOf path with
  | .error cause => (documents, state, .error cause)
  | .ok document =>
    match transport.tell (closeNotice document) state with
    | (state, .ok ()) => (documents.remove document, state, .ok ())
    | (state, .error failure) => (documents, state, .error (notSent "didClose" failure))

end Documents

end LanguageClient.Server
