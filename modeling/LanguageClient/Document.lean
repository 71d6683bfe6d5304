import LanguageClient.Wire.Record

/-!
# Positions in documents

Lines and characters are counted from zero on the wire and from one for the user.
-/

namespace LanguageClient

/-- A place between two characters of a document. -/
structure Position where
  /-- The number of lines before it. -/
  line : UInt32
  /-- The number of characters before it in its line. -/
  character : UInt32
deriving Repr, DecidableEq

/-- A part of a document. -/
structure TextRange where
  /-- Where the part starts. -/
  first : Position
  /-- Where the part ends. -/
  last : Position
deriving Repr, DecidableEq

/-- A place in a document that is named by its URL. -/
structure DocumentPosition where
  /-- The document. -/
  document : Url
  /-- The place in it. -/
  position : Position
deriving Repr, DecidableEq

namespace Position

/-- A position on the wire. -/
def form : Form Position :=
  .record "Position" <| .as (fun (line, character) => ⟨line, character⟩)
    (fun p => (p.line, p.character)) <|
    (Fields.required "line" .word32).both (.required "character" .word32)

/-- The position at a line and a column counted from one; none if either is zero. -/
def ofLineColumn? (line column : UInt32) : Option Position :=
  if line = 0 ∨ column = 0 then none else some ⟨line - 1, column - 1⟩

end Position

/-- A range on the wire. -/
def TextRange.form : Form TextRange :=
  .record "Range" <| .as (fun (first, last) => ⟨first, last⟩) (fun r => (r.first, r.last)) <|
    (Fields.required "start" Position.form).both (.required "end" Position.form)

/-- The name of a document on the wire. -/
def documentForm : Form Url := .record "TextDocumentIdentifier" (.required "uri" .url)

/-- A place in a document on the wire. -/
def DocumentPosition.form : Form DocumentPosition :=
  .record "TextDocumentPositionParams" <|
    .as (fun (document, position) => ⟨document, position⟩) (fun p => (p.document, p.position)) <|
    (Fields.required "textDocument" documentForm).both (.required "position" Position.form)

/-- The language of the document at a path, as its extension tells. -/
def languageId (path : Path) : String :=
  if path.extension? = some [0x72, 0x63] then "rclang" else "plaintext"

end LanguageClient
