import PageBuilder.CommandLine.Session
import PageBuilder.Proofs.Selection
import PageBuilder.Proofs.Snapshots

/-!
# A request that is refused has done nothing

A request is checked first and carried out then. The parts that only look come first; at most one
part can then fail while it acts, and it leaves everything as it was if it does; what comes behind
it goes through. Each rule below says so for one way to put parts together, and says along with it on
which sessions the whole goes through.
-/

namespace PageBuilder

/-! ## Operations of the editor that can fail -/

namespace Catalog

variable {c : Catalog} {name : String}

theorem get?_of_mem (there : name ∈ c.names) : ∃ project, c.get? name = some project := by
  rcases List.mem_map.1 there with ⟨project, saved, same⟩
  exact Option.isSome_iff_exists.1 (List.find?_isSome.2 ⟨project, saved, by simp [same]⟩)

theorem remove?_of_mem (there : name ∈ c.names) : c.remove? name = some (c.without name) := by
  rcases List.mem_map.1 there with ⟨project, saved, same⟩
  exact if_pos (List.any_eq_true.2 ⟨project, saved, by simp [same]⟩)

end Catalog

namespace Editor

/-- An operation succeeds on the editors that fit, and keeps any other one as it is. -/
structure Tries (operation : Editor → Except Failure Unit × Editor) (fits : Editor → Bool) :
    Prop where
  passes : ∀ e, fits e = true → ∃ t, operation e = (.ok (), t)
  refuses : ∀ e, fits e = false → ∃ failure, operation e = (.error failure, e)

theorem tries_importText (text : String) :
    Tries (·.importText text) fun _ => (Payload.parse text).isOk where
  passes := by
    intro e fit
    cases parsed : Payload.parse text with
    | ok page => exact ⟨_, by rw [importText, Document.importText, parsed]; rfl⟩
    | error failure => simp [parsed, Except.isOk, Except.toBool] at fit
  refuses := by
    intro e unfit
    cases parsed : Payload.parse text with
    | ok page => simp [parsed, Except.isOk, Except.toBool] at unfit
    | error failure => exact ⟨failure, by rw [importText, Document.importText, parsed]; rfl⟩

theorem tries_loadProject (name : String) :
    Tries (·.loadProject name) fun e => e.catalog.names.contains name where
  passes := by
    intro e fit
    rcases Catalog.get?_of_mem (List.contains_iff_mem.1 fit) with ⟨project, saved⟩
    exact ⟨_, by rw [loadProject, saved]⟩
  refuses := by
    intro e unfit
    exact ⟨_, loadProject_of_not_mem (by simpa using unfit)⟩

theorem tries_deleteProject (name : String) :
    Tries (·.deleteProject name) fun e => e.catalog.names.contains name where
  passes := by
    intro e fit
    exact ⟨_, by rw [deleteProject, Catalog.remove?_of_mem (List.contains_iff_mem.1 fit)]⟩
  refuses := by
    intro e unfit
    exact ⟨_, deleteProject_of_not_mem (by simpa using unfit)⟩

end Editor

namespace CommandLine

/-! ## Actions that fail before they act -/

namespace Action

variable {α β ε : Type} {a : Action α} {f : α → Action β} {fits : Session → Bool}

theorem bind_apply (a : Action α) (f : α → Action β) (p : Progress) :
    (a >>= f) p =
      match a p with
      | (.ok x, q) => f x q
      | (.error fault, q) => (.error fault, q) := by
  simp only [bind, ExceptT.bind, ExceptT.mk, StateT.bind, ExceptT.bindCont]
  rcases a p with ⟨x | fault, q⟩ <;> rfl

/-- An action goes through on the sessions that fit, and on any other one it fails and everything
stays as it was. -/
structure Guarded (a : Action α) (fits : Session → Bool) : Prop where
  passes : ∀ p, fits p.session = true → ∃ x q, a p = (.ok x, q)
  refuses : ∀ p, fits p.session = false → ∃ fault, a p = (.error fault, p)

/-- An action that goes through on every session. -/
abbrev Sure (a : Action α) : Prop := Guarded a fun _ => true

theorem Guarded.congr {other : Session → Bool} (h : Guarded a fits)
    (same : ∀ s, other s = fits s) : Guarded a other := by
  cases (funext same : other = fits)
  exact h

theorem Sure.of_ok (done : ∀ p, ∃ x q, a p = (.ok x, q)) : Sure a where
  passes p _ := done p
  refuses _ h := nomatch h

/-- What can fail is followed by what cannot. -/
theorem Guarded.bind (ha : Guarded a fits) (hf : ∀ x, Sure (f x)) : Guarded (a >>= f) fits where
  passes := by
    intro p h
    rcases ha.passes p h with ⟨x, q, first⟩
    rcases (hf x).passes q rfl with ⟨y, r, second⟩
    exact ⟨y, r, by rw [bind_apply, first]; exact second⟩
  refuses := by
    intro p h
    rcases ha.refuses p h with ⟨fault, failed⟩
    exact ⟨fault, by rw [bind_apply, failed]⟩

/-- An action that only looks at the session. -/
def Reading (a : Action α) (found : Session → Except RunFault α) : Prop :=
  ∀ p, a p = (found p.session, p)

/-- What only looks can stand before anything. -/
theorem Reading.bind {found : Session → Except RunFault α} {next : α → Session → Bool}
    (ha : Reading a found) (hf : ∀ x, Guarded (f x) (next x)) :
    Guarded (a >>= f) fun s =>
      match found s with
      | .ok x => next x s
      | .error _ => false where
  passes := by
    intro p h
    rw [bind_apply, ha p]
    cases here : found p.session with
    | ok x =>
      rw [here] at h
      exact (hf x).passes p h
    | error fault =>
      rw [here] at h
      cases h
  refuses := by
    intro p h
    rw [bind_apply, ha p]
    cases here : found p.session with
    | ok x =>
      rw [here] at h
      exact (hf x).refuses p h
    | error fault => exact ⟨fault, rfl⟩

/-! ## The parts of requests -/

theorem reading_value (report : ε → RunFault) (r : Except ε α) :
    Reading (value report r) fun _ => r.mapError report := by
  intro p
  cases r <;> rfl

theorem reading_present (fault : RunFault) (o : Option α) :
    Reading (present fault o) fun _ => o.elim (.error fault) .ok := by
  intro p
  cases o <;> rfl

theorem reading_look (read : Session → α) : Reading (look read) fun s => .ok (read s) :=
  fun _ => rfl

theorem reading_existing (id : ElementId) :
    Reading (existing id) fun s =>
      if s.editor.document.contains id then .ok () else .error (.noSuchElement id) := by
  intro p
  rw [existing, bind_apply, reading_look]
  cases there : p.session.editor.document.contains id with
  | true => simp only [there]; rfl
  | false => simp only [there]; rfl

theorem reading_readFile (file : String) :
    Reading (readFile file) fun s =>
      (s.disk.readText? file).elim (.error (.cannotRead file)) .ok := by
  intro p
  rw [readFile, bind_apply, reading_look]
  exact reading_present _ _ p

theorem sure_look (read : Session → α) : Sure (look read) := .of_ok fun _ => ⟨_, _, rfl⟩

theorem sure_edit (operation : Editor → α × Editor) : Sure (edit operation) :=
  .of_ok fun _ => ⟨_, _, rfl⟩

theorem sure_change (operation : Editor → Editor) : Sure (change operation) := sure_edit _

theorem sure_write (text : String) : Sure (write text) := .of_ok fun _ => ⟨_, _, rfl⟩

theorem sure_writeLines (lines : List String) : Sure (writeLines lines) := sure_write _

theorem guarded_writeFile (file text : String) :
    Guarded (writeFile file text) fun s => (s.disk.write? file text.toUTF8).isSome := by
  refine Guarded.congr ((reading_look _).bind fun disk => (reading_present _ disk).bind fun _ =>
    Sure.of_ok fun _ => ⟨_, _, rfl⟩) fun s => ?_
  cases s.disk.write? file text.toUTF8 <;> rfl

theorem guarded_attempt (report : Failure → RunFault)
    {operation : Editor → Except Failure Unit × Editor} {fits : Editor → Bool}
    (h : Editor.Tries operation fits) :
    Guarded (attempt report operation) fun s => fits s.editor where
  passes := by
    intro p fit
    rcases h.passes p.session.editor fit with ⟨t, done⟩
    rw [attempt, bind_apply, edit, done]
    exact ⟨_, _, rfl⟩
  refuses := by
    intro p unfit
    rcases h.refuses p.session.editor unfit with ⟨failure, failed⟩
    rw [attempt, bind_apply, edit, failed]
    exact ⟨report failure, rfl⟩

/-- A check of a text, and then what cannot fail. -/
theorem guarded_value (report : ε → RunFault) (r : Except ε α) (hf : ∀ x, Sure (f x)) :
    Guarded (value report r >>= f) fun _ => r.isOk := by
  refine ((reading_value report r).bind hf).congr fun s => ?_
  cases r <;> rfl

/-- A check of an element, and then more. -/
theorem guarded_existing {id : ElementId} {f : Unit → Action β} (hf : Guarded (f ()) fits) :
    Guarded (existing id >>= f) fun s => s.editor.document.contains id && fits s := by
  refine ((reading_existing id).bind fun _ => hf).congr fun s => ?_
  cases s.editor.document.contains id <;> rfl

theorem guarded_element {id : ElementId} {f : Unit → Action β} (hf : Sure (f ())) :
    Guarded (existing id >>= f) fun s => s.editor.document.contains id :=
  (guarded_existing hf).congr fun _ => (Bool.and_true _).symm

end Action

/-! ## What a session accepts -/

/-- Whether a request can be carried out: the names it gives mean something, the elements and the
project it is about are there, the file it reads holds a page and the file it writes can be written.
-/
def Session.accepts (s : Session) : Request → Bool
  | .add kind => (Kind.parse kind).isOk
  | .relabel id _ | .delete id | .duplicate id | .move id _ => s.editor.document.contains id
  | .reorder source target =>
    s.editor.document.contains source && s.editor.document.contains target
  | .template name => (Template.parse name).isOk
  | .premade name => (Premade.parse name).isOk
  | .theme name => (Theme.parse name).isOk
  | .columns count => 1 ≤ count && count ≤ 3
  | .exportPage format output =>
    match ExportFormat.parse format with
    | .ok format =>
      output.all fun file => (s.disk.write? file (format.render s.editor.document).toUTF8).isSome
    | .error _ => false
  | .importPage file => (s.disk.readText? file).any fun text => (Payload.parse text).isOk
  | .load name | .deleteProject name => s.editor.catalog.names.contains name
  | .prompt _ | .chat _ | .clear | .brand _ | .syncBrand _ | .save _ | .projects | .list => true

open CommandLine.Action

theorem guarded_action (stamp : Stamp) (request : Request) :
    Guarded (request.action stamp) (·.accepts request) := by
  cases request with
  | add kind =>
    exact guarded_value _ _ fun _ => (sure_edit _).bind fun _ => sure_writeLines _
  | relabel id label =>
    exact guarded_element (sure_change _)
  | delete id =>
    exact guarded_element (sure_change _)
  | duplicate id =>
    exact guarded_element ((sure_edit _).bind fun _ => sure_writeLines _)
  | move id direction =>
    exact guarded_element (sure_change _)
  | reorder source target =>
    exact guarded_existing (guarded_element (sure_change _))
  | prompt words =>
    exact (sure_edit _).bind fun _ => sure_writeLines _
  | chat words =>
    exact (sure_change _).bind fun _ => (sure_change _).bind fun _ =>
      (sure_look _).bind fun _ => sure_writeLines _
  | template name =>
    exact guarded_value _ _ fun _ => (sure_edit _).bind fun _ => sure_writeLines _
  | premade name =>
    exact guarded_value _ _ fun _ => (sure_change _).bind fun _ => sure_writeLines _
  | theme name =>
    exact guarded_value _ _ fun _ => sure_change _
  | columns count =>
    refine ((reading_present _ _).bind fun _ => sure_change _).congr fun s => ?_
    match count with
    | 0 | 1 | 2 | 3 | _ + 4 => rfl
  | clear =>
    exact sure_change _
  | brand tokens =>
    exact sure_change _
  | syncBrand fields =>
    exact sure_change _
  | exportPage format output =>
    cases output with
    | none =>
      refine ((reading_value _ _).bind fun format => (sure_look _).bind fun text =>
        sure_write text).congr fun s => ?_
      simp only [Session.accepts]
      cases ExportFormat.parse format <;> rfl
    | some file =>
      refine ((reading_value _ _).bind fun format => (reading_look _).bind fun text =>
        (guarded_writeFile file text).bind fun _ => sure_writeLines _).congr fun s => ?_
      simp only [Session.accepts]
      cases ExportFormat.parse format <;> rfl
  | importPage file =>
    refine ((reading_readFile file).bind fun text =>
      (guarded_attempt _ (Editor.tries_importText text)).bind fun _ =>
        (sure_look _).bind fun _ => sure_writeLines _).congr fun s => ?_
    simp only [Session.accepts]
    cases s.disk.readText? file <;> rfl
  | save name =>
    exact (sure_look _).bind fun _ => (sure_change _).bind fun _ =>
      (sure_change _).bind fun _ => sure_writeLines _
  | load name =>
    exact (guarded_attempt _ (Editor.tries_loadProject name)).bind fun _ => sure_writeLines _
  | projects =>
    exact (sure_look _).bind fun _ => sure_writeLines _
  | deleteProject name =>
    exact guarded_attempt _ (Editor.tries_deleteProject name)
  | list =>
    exact (sure_look _).bind fun _ => sure_writeLines _

/-- **Requests are atomic.** A request is carried out exactly if the session accepts it. If it fails
it has written nothing, and the session is as it was before: the editor with its document, history,
view, ids, catalog, project name and conversation, and the disk with the data files. -/
theorem Session.unchanged_of_fault (s : Session) (stamp : Stamp) (request : Request) :
    (s.run stamp request).fault.isNone = s.accepts request ∧
      ∀ fault, (s.run stamp request).fault = some fault →
        s.run stamp request = { output := "", fault := some fault, session := s } := by
  have guarded := guarded_action stamp request
  cases fit : s.accepts request with
  | true =>
    rcases guarded.passes { session := s } fit with ⟨x, q, done⟩
    have answer : s.run stamp request = { output := q.output, session := q.session } := by
      rw [run, done]
      rfl
    rw [answer]
    exact ⟨rfl, nofun⟩
  | false =>
    rcases guarded.refuses { session := s } fit with ⟨fault, failed⟩
    have answer : s.run stamp request = { fault := some fault, session := s } := by
      rw [run, failed]
      rfl
    rw [answer]
    refine ⟨rfl, ?_⟩
    rintro other ⟨⟩
    rfl

/-- A page is imported from a file with a number of columns that there is not. -/
theorem Session.unchanged_of_four_columns :
    let file := "\x7b\"elements\": [], \"columns\": 4\x7d"
    let disk : Disk := ⟨[(["site"], .directory), (["page.json"], .file file.toUTF8)]⟩
    let editor := (Editor.openOn ⟨disk, some "site"⟩ ⟨"t", 0⟩).run
      [.add .hero, .saveProject ⟨"p-1", 7⟩, .add .text, .undo]
    let s : Session := ⟨editor, { dataDirectory := "site" }⟩
    let answer := s.run ⟨"p-2", 8⟩ (.importPage "page.json")
    ∃ fault, answer.fault = some fault ∧ fault.message = "Failed to import page.json" ∧
      answer = { output := "", fault := some fault, session := s } := by
  intro file disk editor s answer
  have report : answer.fault.map (·.message) = some "Failed to import page.json" := by
    decide +kernel
  rcases Option.map_eq_some_iff.1 report with ⟨fault, failed, message⟩
  exact ⟨fault, failed, message,
    (s.unchanged_of_fault ⟨"p-2", 8⟩ (.importPage "page.json")).2 fault failed⟩

end CommandLine
end PageBuilder
