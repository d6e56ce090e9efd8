import PageBuilder.CommandLine.Invocation
import PageBuilder.Editing.Editor
import PageBuilder.Page.Naming
import PageBuilder.Render.Export

/-!
# Sessions

An editor opened on a data directory, and how it carries out a request. What a request asks for is
done part by part, and each part that fails ends it. Nothing is taken back then, so everything that
can fail comes before what changes the session or writes.
-/

namespace PageBuilder.CommandLine

/-- Where a session works, and the project it saves to unless told otherwise. -/
structure Config where
  dataDirectory : String := ".pagewright"
  project : String := defaultProjectName
  deriving DecidableEq

instance : Inhabited Config := ⟨{}⟩

/-- The configuration of options; what is not given is as by default. -/
def Globals.config (g : Globals) : Config where
  dataDirectory := g.dataDirectory.getD ({} : Config).dataDirectory
  project := g.project.getD ({} : Config).project

/-- The files of a data directory, and those they are set aside as. -/
def Config.files (c : Config) : List String :=
  [stateFile, projectsFile].flatMap fun file =>
    [Path.join c.dataDirectory file, Path.join c.dataDirectory (asideName file)]

def Request.files : Request → List String
  | .exportPage _ (some file) => [file]
  | .importPage file => [file]
  | _ => []

/-- Why a request could not be carried out. -/
inductive RunFault
  | cannotOpen (directory : String)
  | noSuchElement (id : ElementId)
  | badColumns (count : Nat)
  | cannotRead (file : String)
  | cannotWrite (file : String)
  | cannotImport (file : String) (failure : Failure)
  | failed (failure : Failure)

/-- The report of a request that could not be carried out, without its causes. -/
def RunFault.message : RunFault → String
  | cannotOpen directory => s!"Failed to open data directory {directory}"
  | noSuchElement id => s!"No element with id {id}"
  | badColumns count => (Json.Fault.badColumns count).message
  | cannotRead file => s!"Failed to read {file}"
  | cannotWrite file => s!"Failed to write {file}"
  | cannotImport file _ => s!"Failed to import {file}"
  | failed failure => failure.message

/-- What brought it about, the nearest cause first. What the system says of its files is not kept.
-/
def RunFault.causes : RunFault → List String
  | cannotImport _ failure => failure.message :: failure.causes
  | failed failure => failure.causes
  | _ => []

/-- An editor on a data directory. -/
structure Session where
  editor : Editor
  config : Config

namespace Session

/-- Opens a session; the data directory is made if it is missing. If that fails the disk is given as
it is then. -/
def openOn (disk : Disk) (config : Config) (ids : IdSource) : Except (RunFault × Disk) Session :=
  match Store.inDirectory disk config.dataDirectory with
  | .ok store => .ok ⟨(Editor.openOn store ids).rename config.project, config⟩
  | .error disk => .error (.cannotOpen config.dataDirectory, disk)

def disk (s : Session) : Disk := s.editor.store.disk

/-- The session with another disk. -/
def onDisk (s : Session) (disk : Disk) : Session :=
  { s with editor := { s.editor with store := { s.editor.store with disk } } }

end Session

/-! ## Actions -/

/-- How far a request has come: the session, and what was written. -/
structure Progress where
  session : Session
  output : String := ""

/-- A part of what a request asks for. It can look at the session, change it, write, and fail; what
was done before it fails stays as it is. -/
abbrev Action := ExceptT RunFault (StateM Progress)

namespace Action

/-- What a result holds; if it is a failure, the action fails. -/
def value {ε α : Type} (report : ε → RunFault) : Except ε α → Action α
  | .ok a => pure a
  | .error failure => throw (report failure)

/-- What is there; if nothing is, the action fails. -/
def present {α : Type} (fault : RunFault) : Option α → Action α
  | some a => pure a
  | none => throw fault

def look {α : Type} (read : Session → α) : Action α := fun p => (.ok (read p.session), p)

/-- Goes on if there is an element with the given id. -/
def existing (id : ElementId) : Action Unit := do
  if ← look (·.editor.document.contains id) then pure () else throw (.noSuchElement id)

/-- Has the editor do something; gives what that gives. -/
def edit {α : Type} (operation : Editor → α × Editor) : Action α := fun p =>
  let (result, editor) := operation p.session.editor
  (.ok result, { p with session := { p.session with editor } })

def change (operation : Editor → Editor) : Action Unit := edit fun e => ((), operation e)

/-- Has the editor do something that can fail. The editor is then what that has made of it. -/
def attempt (report : Failure → RunFault) (operation : Editor → Except Failure Unit × Editor) :
    Action Unit := do
  value report (← edit operation)

/-- Writes a text behind what was written before. -/
def write (text : String) : Action Unit := fun p => (.ok (), { p with output := p.output ++ text })

def writeLines (lines : List String) : Action Unit := write (Text.unlines lines)

def readFile (file : String) : Action String := do
  present (.cannotRead file) (← look (·.disk.readText? file))

def writeFile (file text : String) : Action Unit := do
  let disk ← present (.cannotWrite file) (← look (·.disk.write? file text.toUTF8))
  fun p => (.ok (), { p with session := p.session.onDisk disk })

end Action

/-! ## Requests -/

def elementLine (e : Element) : String := s!"{e.id}\t{Choice.name e.kind}\t{e.label}"

def projectLine (p : Project) : String :=
  s!"{p.name}\t{p.document.elements.length} elements\t{p.savedAt.toNat}"

def latestReply (c : Conversation) : Option String :=
  (c.messages.reverse.find? (·.role = .assistant)).map (·.text)

open CommandLine.Action in
/-- What a request asks for. The stamp is for a project that is saved, and its time that of the
request. -/
def Request.action (stamp : Stamp) : Request → Action Unit
  | .add kind => do
    let kind ← value .failed (Kind.parse kind)
    let id ← edit (·.add kind)
    writeLines [id]
  | .relabel id label => do
    existing id
    change fun e => (e.relabel id label).2
  | .delete id => do
    existing id
    change fun e => (e.delete id).2
  | .duplicate id => do
    existing id
    let copy ← edit (·.duplicate id)
    writeLines copy.toList
  | .move id direction => do
    existing id
    change fun e => (e.move id direction).2
  | .reorder source target => do
    existing source
    existing target
    change fun e => (e.reorder source target).2
  | .prompt words => do
    let ids ← edit (·.synthesize (" ".intercalate words))
    writeLines ids
  | .chat words => do
    change fun e => (e.sendChat (" ".intercalate words) (stamp.time.toNat * millisecond)).2
    change fun e => e.resolveAllReplies.2
    let reply ← look (latestReply ·.editor.chat)
    writeLines reply.toList
  | .template name => do
    let template ← value .failed (Template.parse name)
    let ids ← edit (·.insertTemplate template)
    writeLines ids
  | .premade name => do
    let premade ← value .failed (Premade.parse name)
    change fun e => (e.loadPremade premade).2
    writeLines [s!"Loaded {Choice.name premade}"]
  | .theme name => do
    let theme ← value .failed (Theme.parse name)
    change fun e => (e.setTheme theme).2
  | .columns count => do
    let columns ← present (.badColumns count) (Columns.ofCount? count)
    change fun e => (e.setColumns columns).2
  | .clear => change fun e => e.clear.2
  | .brand tokens => change fun e => (e.setBrand (tokens.applyTo e.document.brand)).2
  | .syncBrand fields =>
    change fun e => (e.syncBrand (if fields.isEmpty then Choice.all else fields)).2
  | .exportPage format output => do
    let format ← value .failed (ExportFormat.parse format)
    let text ← look (format.render ·.editor.document)
    match output with
    | none => write text
    | some file => do
      writeFile file text
      writeLines [s!"Wrote {file}"]
  | .importPage file => do
    let text ← readFile file
    attempt (.cannotImport file) (·.importText text)
    let count ← look (·.editor.document.elements.length)
    writeLines [s!"Imported {count} elements"]
  | .save name => do
    let name ← look fun s => name.getD s.config.project
    change (·.rename name)
    change (·.saveProject stamp)
    writeLines [s!"Saved {name}"]
  | .load name => do
    attempt .failed (·.loadProject name)
    writeLines [s!"Loaded {name}"]
  | .projects => do
    let projects ← look (·.editor.catalog.projects)
    writeLines (projects.map projectLine)
  | .deleteProject name => attempt .failed (·.deleteProject name)
  | .list => do
    let elements ← look (·.editor.document.elements)
    writeLines (elements.map elementLine)

/-- What becomes of a request: what is written, why it failed if it did, and the session afterwards.
-/
structure Answer where
  output : String := ""
  fault : Option RunFault := none
  session : Session

def Answer.of : Except RunFault Unit × Progress → Answer
  | (.ok (), p) => { output := p.output, session := p.session }
  | (.error fault, p) => { output := p.output, fault := some fault, session := p.session }

/-- Carries out a request. -/
def Session.run (s : Session) (stamp : Stamp) (request : Request) : Answer :=
  .of (request.action stamp { session := s })

end PageBuilder.CommandLine
