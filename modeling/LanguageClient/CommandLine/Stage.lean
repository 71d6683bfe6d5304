import LanguageClient.Client
import LanguageClient.Server.Session
import LanguageClient.Terminal
import LanguageClient.Tree.Outline

/-!
# The client at a terminal

A session with a server, the client that acts in it and the terminal on which it acts. An
operation of the client runs to its end here: its question is asked in the session, its notices
are told there, and its calls of the editor go to the terminal.
-/

namespace LanguageClient.CommandLine

open Server (Transport Session)

/-- A client at work. -/
structure Stage (σ : Type) where
  /-- The session with the server. -/
  session : Session σ
  /-- The client. -/
  client : Client
  /-- The terminal. -/
  terminal : Terminal

namespace Stage

variable {σ : Type}

/-- What lies around the client. -/
def surroundings (stage : Stage σ) : Surroundings := ⟨Terminal.editor, stage.terminal.disk, none⟩

/-- The stage after what a turn of the client brought. -/
def take {α : Type} (transport : Transport σ) (turn : Turn Client α) (stage : Stage σ) :
    Stage σ where
  session := turn.notices.foldl (fun session notice => (session.tell transport notice).1)
    stage.session
  client := turn.state
  terminal := stage.terminal.performAll turn.calls

/-- Runs an operation of the client to its end. -/
def perform (transport : Transport σ) (operation : Operation) (stage : Stage σ) :
    Stage σ × Answer :=
  let turn := stage.client.issue stage.surroundings operation
  let stage := stage.take transport turn
  match turn.outcome with
  | .done answer => (stage, answer)
  | .waits request pending =>
    let (session, reply) := stage.session.ask transport request
    let stage := { stage with session := session }
    let turn := stage.client.arrive stage.surroundings pending reply
    (stage.take transport turn, turn.outcome)

/-- Opens the document at a path. -/
def openDocument (transport : Transport σ) (path : Path) (stage : Stage σ) :
    Stage σ × Except LspError Url :=
  let (session, result) := stage.session.openDocument transport stage.terminal.disk path
  ({ stage with session := session }, result)

/-- Takes answers about the children of nodes in the order in which they arrived, up to the first
failure. The answer names the children by the place of their question. -/
def receiveAll (view : String) : Tree.Views → List (Nat × Except LspError Json) →
    Tree.Views × Except TreeError (List (Nat × List String))
  | views, [] => (views, .ok [])
  | views, (place, reply) :: rest =>
    match views.receiveChildren view (Tree.childrenForm.ofReply reply) with
    | (views, .error cause) => (views, .error cause)
    | (views, .ok uris) =>
      let (views, others) := receiveAll view views rest
      (views, others.map fun others => (place, uris) :: others)

/-- Fetches the children of several nodes of a view at once. The answer lists them in the order
of the nodes. -/
def fetchAll (transport : Transport σ) (view : String) (uris : List String) (stage : Stage σ) :
    Stage σ × Except TreeError (List (List String)) :=
  match uris.mapM fun uri => stage.client.views.askChildren view (some uri) with
  | .error cause => (stage, .error cause)
  | .ok requests =>
    let (session, replies) := stage.session.askAll transport requests
    let (views, result) := receiveAll view stage.client.views replies
    ({ stage with session := session, client := stage.client.withViews views },
      result.map fun found => (List.range uris.length).map fun place =>
        ((found.find? fun entry => entry.1 = place).map Prod.snd).getD [])

/-- Grows an outline by a level and the levels below it; the nodes of the level stand below lines
that are in the list already. Children are fetched as long as levels are left. -/
def grow (transport : Transport σ) (view : String) :
    Nat → Nat → List (Nat × String) → List Tree.OutlineLine → Stage σ →
      Stage σ × Except TreeError (List Tree.OutlineLine)
  | _, _, [], lines, stage => (stage, .ok lines)
  | 0, depth, level, lines, stage =>
    (stage, .ok (lines ++ Tree.Outline.linesOf stage.client.views view depth level))
  | left + 1, depth, level, lines, stage =>
    match stage.fetchAll transport view (level.map Prod.snd) with
    | (stage, .error cause) => (stage, .error cause)
    | (stage, .ok children) =>
      grow transport view left (depth + 1) (Tree.Outline.nextLevel lines.length children)
        (lines ++ Tree.Outline.linesOf stage.client.views view depth level) stage

/-- The outline of a view down to a depth; the roots are always in it. -/
def outline (transport : Transport σ) (view : String) (depth : Nat) (stage : Stage σ) :
    Stage σ × Except TreeError (List String) :=
  match stage.perform transport (.children view none) with
  | (stage, .uris (.ok roots)) =>
    let (stage, lines) :=
      stage.grow transport view (depth - 1) 0 (roots.map fun uri => (0, uri)) []
    (stage, lines.map Tree.Outline.render)
  | (stage, .uris (.error cause)) => (stage, .error cause)
  | (stage, _) => (stage, .ok [])

end Stage

end LanguageClient.CommandLine
