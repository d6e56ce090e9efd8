import PageBuilder.Editing.History
import PageBuilder.Editing.View
import PageBuilder.Editing.Shortcut
import PageBuilder.Gallery.Premade
import PageBuilder.Assistant.Intent
import PageBuilder.Assistant.Command
import PageBuilder.Assistant.Conversation
import PageBuilder.Page.Interchange
import PageBuilder.Storage.Store

/-!
# The editor

An editing session over one document. Every change builds the next document and goes through
`commit`, which records the replaced one and writes the new one to the store; a change that gives an
equal document, or none, leaves no trace in the history.
-/

namespace PageBuilder

/-- The name of a project before it is given one. -/
def defaultProjectName : String := "My Project"

/-- An editing session. -/
structure Editor where
  document : Document := {}
  history : History Document := {}
  view : View := {}
  ids : IdSource
  store : Store := {}
  catalog : Catalog := {}
  projectName : String := defaultProjectName
  chat : Conversation := .new

namespace Editor

/-! ## Opening -/

/-- What a store holds of something; if it cannot be loaded it is set aside, and the default stands
in. -/
def recover {α : Type} (store : Store) (file : String) (loaded : Except StoreFault α)
    (default : α) : α × Store :=
  match loaded with
  | .ok value => (value, store)
  | .error _ => (default, (store.setAside file).2)

/-- Opens a session on a store, with ids from the given source. -/
def openOn (store : Store) (ids : IdSource) : Editor :=
  let (document, store) := recover store stateFile (store.loadDocument.map (·.getD {})) {}
  let (catalog, store) := recover store projectsFile store.loadCatalog {}
  { document, catalog, store, ids }

/-- The selected element, if it is in the document. -/
def selected? (e : Editor) : Option Element := e.view.selected.bind e.document.element?

/-! ## Changing the document -/

/-- Makes a document the current one, as one undo step. Nothing happens if it equals the current
one. Tells whether anything changed. -/
def commit (e : Editor) (next : Document) : Bool × Editor :=
  if next == e.document then (false, e)
  else
    (true,
      { e with
        document := next
        history := e.history.commit e.document
        store := e.store.persistDocument next })

def commit? (e : Editor) : Option Document → Bool × Editor
  | some next => e.commit next
  | none => (false, e)

/-- Goes to a document of the history. -/
def travel (e : Editor) : Option (Document × History Document) → Bool × Editor
  | some (document, history) =>
    (true,
      { e with
        document, history
        view := e.view.reconcile document
        store := e.store.persistDocument document })
  | none => (false, e)

def undo (e : Editor) : Bool × Editor := e.travel (e.history.undo? e.document)

/-- Makes the change taken back last again. -/
def redo (e : Editor) : Bool × Editor := e.travel (e.history.redo? e.document)

/-! ## Elements -/

/-- Adds a new element behind the others and selects it. -/
def add (e : Editor) (kind : Kind) : ElementId × Editor :=
  let (id, ids) := e.ids.next .node
  -- The document always changes: it gets longer.
  let e := ({ e with ids }.commit (e.document.append [Element.new id kind])).2
  (id, { e with view := e.view.select id })

def relabel (e : Editor) (id : ElementId) (label : String) : Bool × Editor :=
  e.commit? (e.document.relabel? id label)

/-- Lays a patch over the properties of an element. -/
def patch (e : Editor) (id : ElementId) (patch : Props) : Bool × Editor :=
  e.commit? (e.document.patch? id patch)

/-- Takes out an element, and deselects it if it was selected. -/
def delete (e : Editor) (id : ElementId) : Bool × Editor :=
  let (deleted, e) := e.commit? (e.document.remove? id)
  if deleted && e.view.isSelected id then (deleted, { e with view := e.view.deselect })
  else (deleted, e)

/-- Puts a copy of an element behind it; gives the id of the copy, none if there is no such element.
-/
def duplicate (e : Editor) (id : ElementId) : Option ElementId × Editor :=
  if e.document.contains id then
    -- An id is only drawn for a copy that will be made.
    let (newId, ids) := e.ids.next .node
    let (changed, e) := { e with ids }.commit? (e.document.duplicate? id newId)
    (if changed then some newId else none, e)
  else (none, e)

/-- Exchanges an element with its neighbour. -/
def move (e : Editor) (id : ElementId) (direction : Direction) : Bool × Editor :=
  e.commit? (e.document.move? id direction)

/-- Moves an element to the place of another one. -/
def reorder (e : Editor) (source target : ElementId) : Bool × Editor :=
  e.commit? (e.document.reorder? source target)

def clear (e : Editor) : Bool × Editor :=
  { e with view := e.view.deselect }.commit e.document.clear

/-- Adds a batch of elements as one undo step; an empty one is none. -/
def append (e : Editor) (batch : List Element) : Bool × Editor :=
  if batch.isEmpty then (false, e) else e.commit (e.document.append batch)

/-- Adds the elements of blueprints; gives their ids. -/
def addBlueprints (e : Editor) (scope : Scope) (blueprints : List Blueprint) :
    List ElementId × Editor :=
  let (batch, ids) := Blueprint.build e.ids scope blueprints
  (batch.map (·.id), ({ e with ids }.append batch).2)

/-- Adds the elements of a template; gives their ids. -/
def insertTemplate (e : Editor) (template : Template) : List ElementId × Editor :=
  e.addBlueprints .template template.blueprints

/-- Adds the elements of a prompt and closes the prompt panel; gives their ids. Nothing becomes of a
blank prompt. -/
def synthesize (e : Editor) (prompt : String) : List ElementId × Editor :=
  if Text.isBlank prompt then ([], e)
  else
    let (added, e) := e.addBlueprints .synthesis (Intent.plan prompt)
    (added, { e with view := e.view.closePanel .prompt })

/-! ## The page -/

def setTheme (e : Editor) (theme : Theme) : Bool × Editor :=
  { e with view := e.view.closePanel .themes }.commit { e.document with theme }

def setColumns (e : Editor) (columns : Columns) : Bool × Editor :=
  e.commit { e.document with columns }

def setBrand (e : Editor) (brand : Brand) : Bool × Editor := e.commit { e.document with brand }

/-- Pushes brand tokens into the properties of every element. -/
def syncBrand (e : Editor) (fields : List BrandField) : Bool × Editor :=
  e.commit (e.document.syncBrand fields)

/-- Replaces elements, theme and columns by those of a premade page, which also names the project.
-/
def loadPremade (e : Editor) (premade : Premade) : Bool × Editor :=
  let (elements, ids) := Blueprint.build e.ids .template premade.blueprints
  { e with ids, projectName := Choice.name premade, view := e.view.deselect }.commit
    { elements, theme := premade.theme, columns := premade.columns, brand := e.document.brand }

/-- Replaces the document by that of a text. -/
def importText (e : Editor) (text : String) : Except Failure Unit × Editor :=
  match e.document.importText text with
  | .ok next => (.ok (), ({ e with view := e.view.deselect }.commit next).2)
  | .error failure => (.error failure, e)

/-! ## Projects -/

def rename (e : Editor) (name : String) : Editor := { e with projectName := name }

/-- Saves the document under the name of the current project. -/
def saveProject (e : Editor) (stamp : Stamp) : Editor :=
  let catalog := e.catalog.save e.projectName e.document stamp
  { e with catalog, store := e.store.persistCatalog catalog }

/-- Makes the document of a saved project the current one, with nothing selected and all panels
closed. -/
def loadProject (e : Editor) (name : String) : Except Failure Unit × Editor :=
  match e.catalog.get? name with
  | some project =>
    (.ok (), ({ e with projectName := name, view := e.view.escape }.commit project.document).2)
  | none => (.error (.projectNotFound name), e)

/-- Takes a saved project out of the catalog. -/
def deleteProject (e : Editor) (name : String) : Except Failure Unit × Editor :=
  match e.catalog.remove? name with
  | some catalog => (.ok (), { e with catalog, store := e.store.persistCatalog catalog })
  | none => (.error (.projectNotFound name), e)

/-! ## The assistant -/

/-- Carries out a command of the assistant. -/
def apply (e : Editor) : Command → Bool × Editor
  | .recolor swatch => e.commit (e.document.patchAll { background := some swatch.hex })
  | .centerAll => e.commit (e.document.patchAll { align := some .center })
  | .clear => e.clear
  | .setTheme theme => e.setTheme theme
  | .help => (false, e)

/-- Sends a message; tells whether it was taken. -/
def sendChat (e : Editor) (text : String) (now : Nat) : Bool × Editor :=
  match e.chat.send? text now with
  | some chat => (true, { e with chat })
  | none => (false, e)

/-- Carries out the command of a message and answers it. -/
def answer (e : Editor) (input : String) : Editor :=
  let command := Command.interpret input
  let e := (e.apply command).2
  { e with chat := e.chat.reply command.reply }

def answerAll (e : Editor) (pending : List Pending) : Nat × Editor :=
  (pending.length, pending.foldl (fun e p => e.answer p.input) e)

/-- Answers the messages whose answers are due; gives their number. -/
def resolveReplies (e : Editor) (now : Nat) : Nat × Editor :=
  let (due, chat) := e.chat.takeDue now
  { e with chat }.answerAll due

/-- Answers all messages; gives their number. -/
def resolveAllReplies (e : Editor) : Nat × Editor :=
  let (pending, chat) := e.chat.takeAll
  { e with chat }.answerAll pending

/-! ## The keyboard -/

/-- Does what a shortcut stands for; the stamp is for a project that is saved. -/
def invoke (e : Editor) (stamp : Stamp) : Shortcut → Editor
  | .undo => e.undo.2
  | .redo => e.redo.2
  | .duplicate =>
    match e.view.selected with
    | some id => (e.duplicate id).2
    | none => e
  | .saveProject => e.saveProject stamp
  | .deleteSelected =>
    match e.view.selected with
    | some id => (e.delete id).2
    | none => e
  | .escape => { e with view := e.view.escape }
  | .zoomIn => { e with view := e.view.zoomIn }
  | .zoomOut => { e with view := e.view.zoomOut }
  | .zoomReset => { e with view := e.view.resetZoom }

/-- Handles a key press; gives the shortcut it stands for. -/
def press (e : Editor) (key : KeyPress) (typing : Bool) (stamp : Stamp) :
    Option Shortcut × Editor :=
  match Shortcut.ofKeyPress? key typing with
  | some shortcut => (some shortcut, e.invoke stamp shortcut)
  | none => (none, e)

end Editor

end PageBuilder
