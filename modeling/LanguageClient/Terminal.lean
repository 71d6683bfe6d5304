import LanguageClient.Editor
import LanguageClient.Files.Disk

/-!
# A terminal in place of an editor

Without an editor around it the client reports what it would have done: on the terminal, and for a
preview in a file if one was named. A terminal shows no document and no pane. A position whose line
or character has no number after it cannot be shown: it aborts the program.
-/

namespace LanguageClient

/-- A terminal, with the files around it. -/
structure Terminal where
  /-- The file that takes the pages of previews, if there is one. -/
  previewOutput : Option Path
  /-- The files. -/
  disk : Disk
  /-- What was printed, line by line; a line may hold line breaks of its own. -/
  printed : List String
  /-- What was reported as an error, line by line. -/
  reported : List String
  /-- Whether the program was aborted. -/
  aborted : Bool

namespace Terminal

/-- A terminal on which nothing was printed. -/
def blank (disk : Disk) (previewOutput : Option Path) : Terminal :=
  ⟨previewOutput, disk, [], [], false⟩

/-- The terminal with one more line. -/
def print (terminal : Terminal) (line : String) : Terminal :=
  { terminal with printed := terminal.printed ++ [line] }

/-- The terminal with one more error. -/
def report (terminal : Terminal) (line : String) : Terminal :=
  { terminal with reported := terminal.reported ++ [line] }

/-- The editor that a terminal stands for. -/
def editor : Editor := .idle

/-- Whether a debug session can be started with a configuration: if an adapter listens. -/
def startsDebugging (configuration : Debug.Configuration) : Bool := configuration.port.isSome

/-- The number after a word, if it is a word. -/
def after? (word : UInt32) : Option UInt32 := if word = 0xffffffff then none else some (word + 1)

/-- The line that tells of a document that was opened; lines and columns count from one. -/
def openingLine? (uri : Url) (range : TextRange) (column : ViewColumn) : Option String := do
  let line ← after? range.first.line
  let character ← after? range.first.character
  return "open " ++ uri.render ++ ":" ++ toString line ++ ":" ++ toString character
    ++ " (" ++ column.text ++ ")"

/-- The line that tells of a debug adapter. -/
def adapterLine (name : Option String) (port : UInt16) : String :=
  "debug adapter for '" ++ name.getD "rc-lang" ++ "' listening on port " ++ toString port

/-- Shows the page of a preview. Nobody learns of a page that cannot be written. -/
def render (terminal : Terminal) (html : String) : Terminal :=
  match terminal.previewOutput with
  | none => terminal.print html
  | some path =>
    { terminal with disk := (terminal.disk.write path (Utf8.ofString html)).1 }

/-- Shows a document, or aborts the program. -/
def showDocument (terminal : Terminal) (uri : Url) (range : TextRange) (column : ViewColumn) :
    Terminal :=
  match openingLine? uri range column with
  | some line => terminal.print line
  | none => { terminal with aborted := true }

/-- Does what the client asks of the editor in a program that runs. -/
def act (terminal : Terminal) : EditorCall → Terminal
  | .refresh _ _ => terminal
  | .expand view node => terminal.print ("[" ++ view ++ "] expand " ++ node)
  | .select view node => terminal.print ("[" ++ view ++ "] select " ++ node)
  | .render _ html => terminal.render html
  | .showDocument uri range column => terminal.showDocument uri range column
  | .showError message => terminal.report ("error: " ++ message)
  | .showStatus _ => terminal
  | .startDebugging configuration =>
    match configuration.port with
    | some port => terminal.print (adapterLine configuration.name port)
    | none => terminal

/-- Does what the client asks of the editor. After an abort nothing is done any more. -/
def perform (terminal : Terminal) (call : EditorCall) : Terminal :=
  if terminal.aborted then terminal else terminal.act call

/-- Does all that the client asks of the editor, in order. -/
def performAll (terminal : Terminal) (calls : List EditorCall) : Terminal :=
  calls.foldl perform terminal

/-- Lines as they stand on a terminal. -/
def text (lines : List String) : String := String.join (lines.map fun line => line ++ "\n")

end Terminal

end LanguageClient
