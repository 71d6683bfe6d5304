import LanguageClient.Json.Reader
import LanguageClient.Settings.Basic

/-!
# Reading the settings file

The text of a settings file is read from front to back, and the first fault decides. A key with a
meaning may stand there once; the values of other keys are skipped, however deep they nest. What
the file leaves out has its default.
-/

namespace LanguageClient.Settings

open Json

/-- The fault of a text at whose front stands a value of another kind than was wanted. -/
def mismatch (text : List Char) : Fault :=
  let after {α : Type} (result : Except Fault α) : Fault :=
    match result with
    | .error fault => fault
    | .ok _ => .unsuitable
  match text with
  | [] => .malformed
  | 'n' :: text => after (scanWord ['u', 'l', 'l'] text)
  | 't' :: text => after (scanWord ['r', 'u', 'e'] text)
  | 'f' :: text => after (scanWord ['a', 'l', 's', 'e'] text)
  | '"' :: text => after (scanText text)
  | '-' :: text => after (scanNumber true text)
  | '[' :: _ => .unsuitable
  | '\x7b' :: _ => .unsuitable
  | c :: text => if c.isDigit then after (scanNumber false (c :: text)) else .malformed

/-- Takes a text. -/
def scanTextValue : Scanner String := fun text =>
  match skipBlanks text with
  | [] => .error .ended
  | '"' :: text => scanText text
  | text => .error (mismatch text)

/-- Takes a natural number of sixty-four bits. -/
def scanWord64 : Scanner UInt64 := fun text =>
  match skipBlanks text with
  | [] => .error .ended
  | c :: text =>
    if c.isDigit then
      match scanNumber false (c :: text) with
      | .ok (.whole value, text) => .ok (UInt64.ofNat value.toNat, text)
      | .ok (.fraction _, _) => .error .unsuitable
      | .error fault => .error fault
    else .error (mismatch (c :: text))

/-- Finds out whether another item of a list follows; `none` at its closing bracket. -/
def nextItem (first : Bool) (text : List Char) : Except Fault (Option (List Char)) :=
  match skipBlanks text with
  | [] => .error .ended
  | ']' :: _ => .ok none
  | c :: text =>
    if first then .ok (some (c :: text))
    else if c = ',' then
      match skipBlanks text with
      | [] => .error .ended
      | ']' :: _ => .error .malformed
      | text => .ok (some text)
    else .error .malformed

/-- Takes the closing bracket of a list. -/
def closeList (text : List Char) : Except Fault (List Char) :=
  match skipBlanks text with
  | [] => .error .ended
  | ']' :: text => .ok text
  | _ => .error .malformed

/-- Takes the rest of a list of texts; `fuel` bounds the length of the text. -/
def scanTextsFrom : Nat → Bool → List String → Scanner (List String)
  | 0, _, _, _ => .error .ended
  | fuel + 1, first, taken, text => do
    match ← nextItem first text with
    | none => return (taken.reverse, ← closeList text)
    | some text =>
      let (item, text) ← scanTextValue text
      scanTextsFrom fuel false (item :: taken) text

/-- Takes a list of texts. -/
def scanTexts : Scanner (List String) := fun text =>
  match skipBlanks text with
  | [] => .error .ended
  | '[' :: text => scanTextsFrom (text.length + 1) true [] text
  | text => .error (mismatch text)

/-- A field of a record that is read piece by piece into a draft. -/
structure Slot (σ : Type) where
  /-- The key of the field. -/
  key : String
  /-- Whether the draft has the field already. -/
  filled : σ → Bool
  /-- Takes the value of the field into the draft. -/
  fill : σ → Scanner σ

/-- Takes the rest of an object; `fuel` bounds the length of the text. -/
def scanMembers {σ : Type} (slots : List (Slot σ)) : Nat → Bool → σ → Scanner σ
  | 0, _, _, _ => .error .ended
  | fuel + 1, first, draft, text =>
    match skipBlanks text with
    | [] => .error .ended
    | '\x7d' :: text => .ok (draft, text)
    | c :: text => do
      let text ←
        if first then pure (c :: text)
        else if c = ',' then pure (skipBlanks text)
        else throw .malformed
      match text with
      | [] => throw .ended
      | '"' :: text =>
        let (key, text) ← scanText text
        let slot := slots.find? fun slot => slot.key = key
        if slot.any fun slot => slot.filled draft then throw .unsuitable
        match skipBlanks text with
        | [] => throw .ended
        | ':' :: text =>
          match slot with
          | some slot =>
            let (draft, text) ← slot.fill draft text
            scanMembers slots fuel false draft text
          | none =>
            let (_, text) ← skipValue (2 * text.length + 2) text
            scanMembers slots fuel false draft text
        | _ => throw .malformed
      | _ => throw .malformed

/-- Takes the items of a list into the slots in their order. -/
def scanPositions {σ : Type} : List (Slot σ) → Bool → σ → Scanner σ
  | [], _, draft, text => .ok (draft, text)
  | slot :: slots, first, draft, text => do
    match ← nextItem first text with
    | none => return (draft, text)
    | some text =>
      let (draft, text) ← slot.fill draft text
      scanPositions slots false draft text

/-- Takes a record that is written as an object or as a list, and finishes the draft of it. -/
def scanRecord {σ α : Type} (slots : List (Slot σ)) (blank : σ) (finish : σ → Except Fault α) :
    Scanner α := fun text =>
  match skipBlanks text with
  | [] => .error .ended
  | '\x7b' :: text => do
    let (draft, text) ← scanMembers slots (text.length + 1) true blank text
    return (← finish draft, text)
  | '[' :: text => do
    let (draft, text) ← scanPositions slots true blank text
    let record ← finish draft
    return (record, ← closeList text)
  | text => .error (mismatch text)

/-- A slot that holds an optional part of a draft. -/
def slot {σ α : Type} (key : String) (part : σ → Option α) (set : σ → α → σ)
    (scan : Scanner α) : Slot σ where
  key := key
  filled draft := (part draft).isSome
  fill draft text := do
    let (value, text) ← scan text
    return (set draft value, text)

/-- What has been read of the server's settings. -/
structure ServerDraft where
  /-- The program. -/
  command : Option String
  /-- The arguments of the program. -/
  arguments : Option (List String)

/-- Takes the server's settings; the program has to be there. -/
def scanServer : Scanner ServerSettings :=
  scanRecord
    [slot "command" ServerDraft.command (fun d v => { d with command := some v }) scanTextValue,
      slot "args" ServerDraft.arguments (fun d v => { d with arguments := some v }) scanTexts]
    ⟨none, none⟩ fun draft =>
      match draft.command with
      | some command => .ok ⟨command, draft.arguments.getD []⟩
      | none => .error .unsuitable

/-- What has been read of the settings. -/
structure Draft where
  /-- How the server is started. -/
  server : Option ServerSettings
  /-- The identifiers of the trees. -/
  treeViews : Option (List String)
  /-- The directory that holds the resources of the client. -/
  extensionRoot : Option String
  /-- How many seconds the server has for its introduction. -/
  initTimeout : Option UInt64
  /-- How many seconds the server has for any other answer. -/
  requestTimeout : Option UInt64

/-- The settings of a draft, with the default of everything that is not in it. -/
def Draft.finish (draft : Draft) : Settings where
  server := draft.server.getD standard.server
  treeViews := draft.treeViews.getD standard.treeViews
  extensionRoot := (draft.extensionRoot.map Path.ofString).getD standard.extensionRoot
  initTimeout := draft.initTimeout.getD standard.initTimeout
  requestTimeout := draft.requestTimeout.getD standard.requestTimeout

/-- Takes the settings. -/
def scan : Scanner Settings :=
  scanRecord
    [slot "server" Draft.server (fun d v => { d with server := some v }) scanServer,
      slot "treeViews" Draft.treeViews (fun d v => { d with treeViews := some v }) scanTexts,
      slot "extensionRoot" Draft.extensionRoot (fun d v => { d with extensionRoot := some v })
        scanTextValue,
      slot "initTimeoutSecs" Draft.initTimeout (fun d v => { d with initTimeout := some v })
        scanWord64,
      slot "requestTimeoutSecs" Draft.requestTimeout
        (fun d v => { d with requestTimeout := some v }) scanWord64]
    ⟨none, none, none, none, none⟩ fun draft => .ok draft.finish

/-- Reads the text of a settings file. -/
def read (text : List Char) : Except Fault Settings := do
  let (settings, rest) ← scan text
  if (skipBlanks rest).isEmpty then return settings else throw .malformed

end LanguageClient.Settings
