import LanguageClient.Debug.Start
import LanguageClient.EditorCommand
import LanguageClient.Files.Address
import LanguageClient.Navigation
import LanguageClient.Preview.Panel
import LanguageClient.Settings.Basic
import LanguageClient.Tree.Views

/-!
# The client

The client owns the tree views, the preview panels and the item in the status bar. An operation
either is done at once or asks the server one question and is done when the answer arrives; other
operations may come in between. What an operation does is a turn: the new state, the calls of the
editor and what the server is told, in order.
-/

namespace LanguageClient

/-- What a part of an operation does, and what comes of it. -/
structure Turn (σ α : Type) where
  /-- The state afterwards. -/
  state : σ
  /-- The calls of the editor in their order. -/
  calls : List EditorCall
  /-- What the server is told, in order. -/
  notices : List Notice
  /-- What comes of it. -/
  outcome : α

/-- What comes of an operation at first. -/
inductive Next (π α : Type)
  /-- The operation is done. -/
  | done (answer : α)
  /-- The operation waits for the answer to a question. -/
  | waits (request : Request) (pending : π)

/-- What lies around the client while an operation runs. -/
structure Surroundings where
  /-- The editor. -/
  editor : Editor
  /-- The files. -/
  disk : Disk
  /-- Why the server cannot be told anything, if that is so. -/
  muted : Option String

/-- What the client can be asked to do. -/
inductive Operation
  /-- To fetch the children of a node, or the roots of a view. -/
  | children (view : String) (parent : Option String)
  /-- To find the parent of a node. -/
  | parent (view node : String)
  /-- To reveal the node that belongs to a place in a document. -/
  | reveal (position : DocumentPosition)
  /-- To take note of what the user did to a widget. -/
  | widget (event : Tree.WidgetEvent)
  /-- To dispose a view. -/
  | dispose (view : String)
  /-- To dispose all views. -/
  | disposeAll
  /-- To act on what the server told of its own accord. -/
  | serverEvents (events : List ServerEvent)
  /-- To run a command of the user. -/
  | command (command : EditorCommand)
  /-- To take note that a preview was shown or hidden. -/
  | showPreview (panel : Nat) (visible : Bool)
  /-- To close a preview. -/
  | closePreview (panel : Nat)
  /-- To start a session with what is found in a file. -/
  | start (noDebug : Bool) (discovery : Debug.Discovery)
  /-- To start a session with what is found in a file, and tell the user if it does not start. -/
  | startOrTell (noDebug : Bool) (discovery : Debug.Discovery)
  /-- To complete a configuration before the editor launches it. -/
  | resolve (configuration : Debug.Configuration)
  /-- To find the adapter for a session that the editor started. -/
  | describe (configuration : Debug.Configuration)
  /-- To close everything. -/
  | deactivate
deriving Repr

/-- An operation that waits for an answer of the server. -/
inductive Pending
  /-- For the children of a node of a view. -/
  | children (view : String)
  /-- For the parent of a node. -/
  | parent
  /-- For a node to reveal. -/
  | reveal
  /-- For the first page of a panel. -/
  | firstPage (panel : Nat)
  /-- For the page of a panel that is shown again. -/
  | page (panel : Nat)
  /-- For an adapter. -/
  | start (noDebug : Bool)
  /-- For an adapter, to tell the user if no session starts. -/
  | startOrTell (noDebug : Bool)
  /-- For an adapter that a command of the user needs. -/
  | sessionCommand (noDebug : Bool)
  /-- For an adapter, while a configuration is completed. -/
  | resolve (configuration : Debug.Configuration)
  /-- For the adapter of a configuration. -/
  | describe
deriving Repr

/-- The answer of an operation. -/
inductive Answer
  /-- The URIs of children. -/
  | uris (result : Except TreeError (List String))
  /-- The parent of a node. -/
  | parent (result : Except TreeError (Option String))
  /-- The steps of a reveal. -/
  | plan (result : Except TreeError (Option Tree.RevealPlan))
  /-- Whether the server could be told. -/
  | told (result : Except LspError Unit)
  /-- Whether a view was live. -/
  | wasLive (live : Bool)
  /-- Whether a command did what it should. -/
  | ran (result : Except ClientError Unit)
  /-- Whether a session was started. -/
  | started (result : Except DebugError Bool)
  /-- Whether a session was started; if not, the user knows. -/
  | startedOrTold (started : Bool)
  /-- A configuration. -/
  | configuration (configuration : Debug.Configuration)
  /-- Where an adapter listens. -/
  | endpoint (result : Except DebugError (Option Debug.Endpoint))
  /-- Nothing. -/
  | nothing

/-- The state of the client. -/
structure Client where
  /-- The directory that holds the resources of the client. -/
  extensionRoot : Path
  /-- The tree views. -/
  views : Tree.Views
  /-- All panels that were made, under their numbers. -/
  panels : Table Nat Preview.Panel
  /-- The numbers of the panels that are open, in the order in which they were first rendered. -/
  listed : List Nat
  /-- The number of the next panel. -/
  nextPanel : Nat
  /-- The item in the status bar. -/
  status : StatusItem

/-- The form in which an answer of the server was wanted, or the failure that came instead. -/
def Form.ofReply {α : Type} (form : Form α) (reply : Except LspError Json) : Except LspError α :=
  reply.bind fun value => (form.decode value).mapError fun cause => .parseError cause.message

namespace Client

/-- The client when it starts, and the calls of the editor that this takes. -/
def activate (settings : Settings) : Client × List EditorCall :=
  (⟨settings.extensionRoot, .start settings.treeViews, .empty, [], 1, .initial⟩,
    [.showStatus .initial])

/-- The operation is done with calls of the editor and an answer. -/
def done (client : Client) (calls : List EditorCall) (answer : Answer) :
    Turn Client (Next Pending Answer) :=
  ⟨client, calls, [], .done answer⟩

/-- The operation asks a question and waits. -/
def waits (client : Client) (request : Request) (pending : Pending) :
    Turn Client (Next Pending Answer) :=
  ⟨client, [], [], .waits request pending⟩

/-- The client with other views. -/
def withViews (client : Client) (views : Tree.Views) : Client := { client with views := views }

/-- The client with one panel changed. -/
def changePanel (client : Client) (id : Nat) (change : Preview.Panel → Preview.Panel) : Client :=
  { client with panels := client.panels.modify id change }

/-- What the user is told when a preview could not be opened. -/
def previewFailed (cause : ClientError) : EditorCall :=
  .showError ("IR preview failed: " ++ cause.message)

/-- Makes a panel for a file and asks for its first page. -/
def startPreview (client : Client) (world : Surroundings) (path : Path) :
    Turn Client (Next Pending Answer) :=
  match world.disk.urlOf path with
  | .error cause => client.done [previewFailed (.lsp cause)] (.ran (.error (.lsp cause)))
  | .ok document =>
    let id := client.nextPanel
    let panel := Preview.Panel.create world.editor client.extensionRoot id document
    let client := { client with panels := client.panels.insert id panel, nextPanel := id + 1 }
    client.waits (.preview document) (.firstPage id)

/-- Takes note that a preview was shown or hidden; only open previews count. -/
def showPreview (client : Client) (id : Nat) (visible : Bool) :
    Turn Client (Next Pending Answer) :=
  match if client.listed.contains id then client.panels.get? id else none with
  | none => client.done [] (.ran (.ok ()))
  | some panel =>
    if !visible then (client.changePanel id .hide).done [] (.ran (.ok ()))
    else
      match panel.askShown? with
      | some request => client.waits request (.page id)
      | none => (client.changePanel id .shown).done [] (.ran (.ok ()))

/-- The client without a preview in its list. -/
def closePreview (client : Client) (id : Nat) : Client :=
  if client.listed.contains id then
    { client.changePanel id .dispose with listed := client.listed.erase id }
  else client

/-- Acts on what the server told of its own accord. A command that cannot be done changes
nothing. -/
def handleEvent (client : Client) (editor : Editor) : ServerEvent → Client × List EditorCall
  | .clientCommand call =>
    match Navigation.Request.ofCall call with
    | .ok request => (client, (Navigation.perform editor request).1)
    | .error _ => (client, [])
  | .treeChange nodes =>
    let (views, calls) := client.views.change nodes
    (client.withViews views, calls)

/-- Acts on all that the server told, in order. -/
def handleEvents (editor : Editor) : Client → List ServerEvent → Client × List EditorCall
  | client, [] => (client, [])
  | client, event :: rest =>
    let (client, first) := client.handleEvent editor event
    let (client, others) := handleEvents editor client rest
    (client, first ++ others)

/-- The client with all views disposed and all open previews closed to the server; they stay in
the list. -/
def deactivate (client : Client) : Client :=
  { client with
    views := .empty
    panels := client.listed.foldl (fun panels id => panels.modify id .dispose) client.panels }

/-- Begins an operation. -/
def issue (world : Surroundings) (operation : Operation) (client : Client) :
    Turn Client (Next Pending Answer) :=
  match operation with
  | .children view parent =>
    match client.views.askChildren view parent with
    | .error cause => client.done [] (.uris (.error cause))
    | .ok request => client.waits request (.children view)
  | .parent view node =>
    match client.views.askParent view node with
    | .error cause => client.done [] (.parent (.error cause))
    | .ok request => client.waits request .parent
  | .reveal position => client.waits (.reveal position) .reveal
  | .widget event =>
    match client.views.notice? event with
    | none => client.done [] (.told (.ok ()))
    | some notice =>
      let result := match world.muted with
        | some reason => .error (.requestFailed reason)
        | none => .ok ()
      ⟨client, [], [notice], .done (.told result)⟩
  | .dispose view =>
    let (views, live) := client.views.dispose view
    (client.withViews views).done [] (.wasLive live)
  | .disposeAll => (client.withViews .empty).done [] .nothing
  | .serverEvents events =>
    let (client, calls) := handleEvents world.editor client events
    client.done calls .nothing
  | .command (.startPreview path) => client.startPreview world path
  | .command (.startDebugSession discovery) =>
    client.waits (Debug.startRequest discovery) (.sessionCommand false)
  | .command (.startRunSession discovery) =>
    client.waits (Debug.startRequest discovery) (.sessionCommand true)
  | .command (.unrecognized _) => client.done [] (.ran (.ok ()))
  | .showPreview id visible => client.showPreview id visible
  | .closePreview id => (client.closePreview id).done [] .nothing
  | .start noDebug discovery => client.waits (Debug.startRequest discovery) (.start noDebug)
  | .startOrTell noDebug discovery =>
    client.waits (Debug.startRequest discovery) (.startOrTell noDebug)
  | .resolve configuration =>
    match Debug.discoveryFor? world.editor configuration with
    | none => client.done [] (.configuration configuration)
    | some discovery => client.waits (Debug.startRequest discovery) (.resolve configuration)
  | .describe configuration =>
    match configuration.target? with
    | none => client.done [] (.endpoint (.ok none))
    | some _ => client.waits (Debug.describeRequest configuration) .describe
  | .deactivate => client.deactivate.done [] .nothing

/-- Takes the first page of a panel; with it the panel is open. -/
def receiveFirstPage (client : Client) (id : Nat) (listing : Except LspError Preview.Listing) :
    Turn Client Answer :=
  match client.panels.get? id, listing with
  | _, .error cause => ⟨client, [previewFailed (.lsp cause)], [], .ran (.error (.lsp cause))⟩
  | none, .ok _ => ⟨client, [], [], .ran (.ok ())⟩
  | some panel, .ok listing =>
    ⟨{ client with listed := client.listed ++ [id] }, (panel.receive (.ok listing)).1, [],
      .ran (.ok ())⟩

/-- Takes the page of a panel that is shown again; with it the panel counts as shown. -/
def receivePage (client : Client) (id : Nat) (listing : Except LspError Preview.Listing) :
    Turn Client Answer :=
  match client.panels.get? id, listing with
  | _, .error cause => ⟨client, [], [], .ran (.error (.lsp cause))⟩
  | none, .ok _ => ⟨client, [], [], .ran (.ok ())⟩
  | some panel, .ok listing =>
    ⟨client.changePanel id .shown, (panel.receive (.ok listing)).1, [], .ran (.ok ())⟩

/-- Ends an operation with the answer of the server, or the failure that came instead. -/
def arrive (world : Surroundings) (pending : Pending) (reply : Except LspError Json)
    (client : Client) : Turn Client Answer :=
  match pending with
  | .children view =>
    let (views, result) := client.views.receiveChildren view (Tree.childrenForm.ofReply reply)
    ⟨client.withViews views, [], [], .uris result⟩
  | .parent => ⟨client, [], [], .parent (Tree.Views.receiveParent (Tree.parentForm.ofReply reply))⟩
  | .reveal =>
    let (calls, result) := client.views.receiveReveal (Tree.Chain.form.nullable.ofReply reply)
    ⟨client, calls, [], .plan result⟩
  | .firstPage id => client.receiveFirstPage id (Preview.Listing.form.ofReply reply)
  | .page id => client.receivePage id (Preview.Listing.form.ofReply reply)
  | .start noDebug =>
    let (calls, result) := Debug.receiveStart world.editor noDebug reply
    ⟨client, calls, [], .started result⟩
  | .startOrTell noDebug =>
    let (calls, started) := Debug.receiveStartOrTell world.editor noDebug reply
    ⟨client, calls, [], .startedOrTold started⟩
  | .sessionCommand noDebug =>
    let (calls, _) := Debug.receiveStartOrTell world.editor noDebug reply
    ⟨client, calls, [], .ran (.ok ())⟩
  | .resolve configuration =>
    let (calls, _) := Debug.receiveStart world.editor false reply
    ⟨client, calls, [], .configuration configuration⟩
  | .describe => ⟨client, [], [], .endpoint (Debug.receiveEndpoint reply)⟩

end Client

end LanguageClient
