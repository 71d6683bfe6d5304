import LanguageClient.Wire.Record

/-!
# The preview page

The server lists, for each line of a document, the fragments that the line compiles to. The
page shows one row per line, in a table of one column.
-/

namespace LanguageClient

namespace Preview

/-- The fragments of each line of a document; none when there is nothing to show. -/
structure Listing where
  /-- The fragments of each line. -/
  lines : Option (List (List String))
deriving Repr, DecidableEq

/-- The document whose listing is wanted, on the wire. -/
def queryForm : Form Url := .record "IrPreviewUpdateParams" (.required "documentUri" .url)

/-- A listing on the wire. -/
def Listing.form : Form Listing :=
  .record "IrPreviewUpdateResult" <| .as (fun lines => ⟨lines⟩) (fun listing => listing.lines) <|
    .optional "irs" (.list (.list .text))

/-- The rows of the page: the fragments of each line, put together. -/
def rows (listing : Listing) : List String := (listing.lines.getD []).map String.join

/-- How one character is written in a page. -/
def escape (c : Char) : List Char :=
  match c with
  | '&' => "&amp;".toList
  | '<' => "&lt;".toList
  | '>' => "&gt;".toList
  | '"' => "&quot;".toList
  | c => [c]

/-- A text as a page shows it. -/
def escapeText (text : String) : String := String.ofList (text.toList.flatMap escape)

/-- A row of the table. -/
def tableRow (row : String) : String := "<tr><td>" ++ escapeText row ++ "</td></tr>"

/-- What stands before the rows of a page. -/
def pageHead : String :=
  "<!DOCTYPE html>\n<html lang=\"en\">\n<head>\n    <meta charset=\"UTF-8\">\n" ++
  "    <title>IR Preview</title>\n</head>\n<body>\n    <table border=\"1\">\n"

/-- What stands after the rows of a page. -/
def pageFoot : String := "\n    </table>\n</body>\n</html>"

/-- The page of some rows. -/
def page (rows : List String) : String :=
  pageHead ++ "\n".intercalate (rows.map tableRow) ++ pageFoot

end Preview

end LanguageClient
