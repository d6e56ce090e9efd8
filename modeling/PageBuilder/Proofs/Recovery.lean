import Mathlib.Logic.Relation
import PageBuilder.Proofs.DataFiles
import PageBuilder.Proofs.Preservation

/-!
# What cannot be loaded is kept

Opening an editor takes one data file after the other: one that loads stays, one that does not is
set aside and the default stands in. Each file has only two names, its own and that under which it
is set aside, and they are not names of the other one. So what becomes of a file can be told apart
from the other one. What is set aside stays as long as its file is not set aside again: editors
write to data files only.
-/

namespace PageBuilder

/-! ## The two data files -/

inductive DataFile
  | state
  | projects
  deriving DecidableEq

namespace DataFile

def name : DataFile → String
  | state => stateFile
  | projects => projectsFile

def other : DataFile → DataFile
  | state => projects
  | projects => state

/-- The path of a file in a directory. -/
def path (home : String) (file : DataFile) : String := Path.join home file.name

/-- The path of a file that is set aside. -/
def asidePath (home : String) (file : DataFile) : String := Path.join home (asideName file.name)

/-- The names that belong to a file. -/
def names (file : DataFile) : List String := [file.name, asideName file.name]

theorem name_mem (file : DataFile) : file.name ∈ dataFiles := by
  cases file <;> simp [name, dataFiles]

theorem mem_names (file : DataFile) : file.name ∈ file.names := List.mem_cons_self ..

theorem aside_mem_names (file : DataFile) : asideName file.name ∈ file.names :=
  List.mem_cons_of_mem _ (List.mem_cons_self ..)

/-- A name belongs to one file only. -/
theorem not_mem_names {file other : DataFile} (ne : file ≠ other) {name : String}
    (own : name ∈ file.names) : name ∉ other.names := by
  cases file with
  | state =>
    cases other with
    | state => exact absurd rfl ne
    | projects =>
      simp only [names, List.mem_pair] at own
      rcases own with rfl | rfl <;> decide
  | projects =>
    cases other with
    | projects => exact absurd rfl ne
    | state =>
      simp only [names, List.mem_pair] at own
      rcases own with rfl | rfl <;> decide

end DataFile

namespace Store

/-- Whether a data file can be loaded. One that is missing can be. -/
def loads (s : Store) : DataFile → Bool
  | .state => s.loadDocument.isOk
  | .projects => s.loadCatalog.isOk

/-- The store after a data file had its turn: if it does not load it is set aside. -/
def recovered (s : Store) (file : DataFile) : Store :=
  if s.loads file then s else (s.setAside file.name).2

/-- What stands for a result: what it holds, and the default if it is a fault. -/
def shown {α : Type} (default : α) : Except StoreFault α → α
  | .ok value => value
  | .error _ => default

def document (s : Store) : Document := shown {} (s.loadDocument.map (·.getD {}))

def catalog (s : Store) : Catalog := shown {} s.loadCatalog

section Shown

variable {α : Type} {loaded : Except StoreFault α} (default : α)

theorem eq_ok_shown (ok : loaded.isOk = true) : loaded = .ok (shown default loaded) := by
  cases loaded with
  | ok value => rfl
  | error fault => cases ok

theorem shown_of_fault (failed : loaded.isOk = false) : shown default loaded = default := by
  cases loaded with
  | ok value => cases failed
  | error fault => rfl

theorem isOk_map {β : Type} (f : α → β) (loaded : Except StoreFault α) :
    (loaded.map f).isOk = loaded.isOk := by
  cases loaded <;> rfl

theorem recover_eq (s : Store) (file : String) (loaded : Except StoreFault α) :
    Editor.recover s file loaded default =
      (shown default loaded, if loaded.isOk then s else (s.setAside file).2) := by
  cases loaded <;> rfl

end Shown

end Store

theorem Editor.openOn_eq (s : Store) (ids : IdSource) :
    Editor.openOn s ids =
      { document := s.document
        catalog := (s.recovered .state).catalog
        store := (s.recovered .state).recovered .projects
        ids } := by
  simp only [openOn, Store.recover_eq, Store.isOk_map]
  rfl

namespace Store

/-! ## One file -/

namespace Ready

variable {s s' : Store} {home : String} {here : Place} {file : DataFile}

theorem loadDocument_congr (ready : s.Ready home here) (ready' : s'.Ready home here)
    (same : s'.disk.entryAt? (stateFile :: here) = s.disk.entryAt? (stateFile :: here)) :
    s'.loadDocument = s.loadDocument :=
  ready.load_congr ready' DataFile.state.name_mem same

theorem loadCatalog_congr (ready : s.Ready home here) (ready' : s'.Ready home here)
    (same : s'.disk.entryAt? (projectsFile :: here) = s.disk.entryAt? (projectsFile :: here)) :
    s'.loadCatalog = s.loadCatalog := by
  have loaded : s'.load projectsFile Catalog.read = s.load projectsFile Catalog.read :=
    ready.load_congr ready' DataFile.projects.name_mem same
  rw [loadCatalog, loadCatalog, loaded]

theorem loads_congr (ready : s.Ready home here) (ready' : s'.Ready home here)
    (same : s'.disk.entryAt? (file.name :: here) = s.disk.entryAt? (file.name :: here)) :
    s'.loads file = s.loads file := by
  cases file with
  | state =>
    exact congrArg (·.isOk) (ready.loadDocument_congr ready' same)
  | projects =>
    exact congrArg (·.isOk) (ready.loadCatalog_congr ready' same)

theorem recovered (ready : s.Ready home here) (file : DataFile) :
    (s.recovered file).Ready home here ∧
      ∀ name ∉ file.names,
        (s.recovered file).disk.entryAt? (name :: here) = s.disk.entryAt? (name :: here) := by
  unfold Store.recovered
  split
  · exact ⟨ready, fun _ _ => rfl⟩
  · rcases ready.movable_or_stays file.name_mem with movable | stays
    · rcases ready.setAside file.name_mem movable with ⟨ready', aside⟩
      refine ⟨ready', fun name foreign => ?_⟩
      simp only [DataFile.names, List.mem_pair, not_or] at foreign
      exact aside.other name foreign.1 foreign.2
    · rw [stays]
      exact ⟨ready, fun _ _ => rfl⟩

/-- A file that can be renamed has its new name after its turn, unless it loads. -/
theorem recovered_damaged (ready : s.Ready home here) (movable : Movable s home here file.name)
    (damaged : s.loads file = false) :
    (s.recovered file).disk.entryAt? (asideName file.name :: here) =
        s.disk.entryAt? (file.name :: here) ∧
      (s.recovered file).disk.entryAt? (file.name :: here) = none := by
  rcases ready.setAside file.name_mem movable with ⟨-, aside⟩
  simp only [Store.recovered, damaged, Bool.false_eq_true, if_false]
  exact ⟨aside.moved, aside.gone⟩

/-- What does not load is there. -/
theorem pathExists_of_damaged (ready : s.Ready home here) (damaged : s.loads file = false) :
    s.disk.pathExists (file.path home) = true := by
  cases file with
  | state =>
    cases loaded : s.load stateFile Document.read with
    | ok found =>
      rw [loads, loadDocument, loaded] at damaged
      cases damaged
    | error fault => exact ready.exists_of_load_error loaded
  | projects =>
    cases loaded : s.load projectsFile Catalog.read with
    | ok found =>
      rw [loads, loadCatalog, loaded] at damaged
      cases damaged
    | error fault => exact ready.exists_of_load_error loaded

theorem movable_of_damaged (ready : s.Ready home here) (serves : s.Serves)
    (damaged : s.loads file = false) : Movable s home here file.name :=
  ready.movable_of_setAside file.name_mem <|
    serves.renames file.name file.name_mem _ ready.path?_eq (ready.pathExists_of_damaged damaged)

end Ready

/-- Whether a file can be renamed depends on what stands at its names. -/
theorem Movable.congr {s s' : Store} {home : String} {here : Place} {file : DataFile}
    (movable : Movable s home here file.name)
    (same : ∀ name ∈ file.names, s'.disk.entryAt? (name :: here) = s.disk.entryAt? (name :: here)) :
    Movable s' home here file.name where
  usable := movable.usable
  named := movable.named
  source := by
    rw [same file.name file.mem_names]
    exact movable.source
  target := by
    rw [same (asideName file.name) file.aside_mem_names]
    exact movable.target

end Store

/-! ## Opening -/

namespace Editor

variable {s : Store} {home : String} {here : Place} {file : DataFile}

theorem ready_openOn (ready : s.Ready home here) (ids : IdSource) :
    (openOn s ids).store.Ready home here := by
  rw [openOn_eq]
  exact ((ready.recovered .state).1.recovered .projects).1

/-- A file has its turn on a store in which its own names are as at first, and what becomes of them
there stays. -/
theorem openOn_passes (ready : s.Ready home here) (ids : IdSource) (file : DataFile) :
    ∃ turn : Store, turn.Ready home here ∧
      (∀ name ∈ file.names, turn.disk.entryAt? (name :: here) = s.disk.entryAt? (name :: here)) ∧
      ∀ name ∈ file.names, (openOn s ids).store.disk.entryAt? (name :: here) =
        (turn.recovered file).disk.entryAt? (name :: here) := by
  rcases ready.recovered .state with ⟨ready₁, frame₁⟩
  rcases ready₁.recovered .projects with ⟨-, frame₂⟩
  rw [openOn_eq]
  cases file with
  | state =>
    exact ⟨s, ready, fun _ _ => rfl,
      fun name own => frame₂ name (DataFile.not_mem_names (by decide) own)⟩
  | projects =>
    exact ⟨s.recovered .state, ready₁,
      fun name own => frame₁ name (DataFile.not_mem_names (by decide) own), fun _ _ => rfl⟩

/-- A file that loads stays as it is, and so does what was set aside of it before. -/
theorem entryAt?_openOn (ready : s.Ready home here) (ids : IdSource)
    (loads : s.loads file = true) {name : String} (own : name ∈ file.names) :
    (openOn s ids).store.disk.entryAt? (name :: here) = s.disk.entryAt? (name :: here) := by
  rcases openOn_passes ready ids file with ⟨turn, ready', before, after⟩
  have still : turn.recovered file = turn := by
    have same := ready.loads_congr ready' (before file.name file.mem_names)
    rw [Store.recovered, same, loads, if_pos rfl]
  rw [after name own, still]
  exact before name own

theorem aside_openOn (ready : s.Ready home here) (ids : IdSource)
    (movable : Store.Movable s home here file.name) (damaged : s.loads file = false) :
    (openOn s ids).store.disk.entryAt? (asideName file.name :: here) =
        s.disk.entryAt? (file.name :: here) ∧
      (openOn s ids).store.disk.entryAt? (file.name :: here) = none := by
  rcases openOn_passes ready ids file with ⟨turn, ready', before, after⟩
  have damaged' := (ready.loads_congr ready' (before file.name file.mem_names)).trans damaged
  rcases ready'.recovered_damaged (movable.congr before) damaged' with ⟨moved, gone⟩
  exact ⟨(after _ file.aside_mem_names).trans (moved.trans (before _ file.mem_names)),
    (after _ file.mem_names).trans gone⟩

/-- What an editor shows at first does not depend on whether the other file was set aside. -/
theorem shown_openOn (ready : s.Ready home here) (ids : IdSource) :
    (openOn s ids).document = s.document ∧ (openOn s ids).catalog = s.catalog := by
  rcases ready.recovered .state with ⟨ready', frame⟩
  have foreign : projectsFile ∉ DataFile.state.names := by decide
  rw [openOn_eq]
  refine ⟨rfl, ?_⟩
  exact congrArg (Store.shown {}) (ready.loadCatalog_congr ready' (frame projectsFile foreign))

/-! ## Afterwards -/

/-- What can happen next to the editor on a data directory and its disk: the editor does something,
a data file is written by someone else, be it an editor opened before, or the directory is opened
again. That happens only while a given file loads or is missing. -/
inductive Next (home : String) (file : DataFile) : Editor → Editor → Prop
  | operation (e : Editor) (operation : Operation) : Next home file e (e.perform operation).2
  | written (e : Editor) (target : DataFile) (contents : ByteArray) (disk : Disk)
      (done : e.store.disk.write? (target.path home) contents = some disk) :
      Next home file e { e with store := { e.store with disk } }
  | opening (e : Editor) (store : Store) (ids : IdSource)
      (opened : Store.inDirectory e.store.disk home = .ok store)
      (intact : store.loads file = true) : Next home file e (openOn store ids)

/-- Whatever an editor does comes next. -/
theorem next_run (e : Editor) (operations : List Operation) :
    Relation.ReflTransGen (Next home file) e (e.run operations) := by
  induction operations generalizing e with
  | nil =>
    exact .refl
  | cons operation rest ih =>
    exact .head (.operation e operation) (ih _)

/-- A data directory in place, with given bytes set aside in it. -/
structure Holding (home : String) (here : Place) (file : DataFile) (bytes : ByteArray)
    (e : Editor) : Prop where
  ready : e.store.Ready home here
  aside : e.store.disk.entryAt? (asideName file.name :: here) = some (.file bytes)

variable {bytes : ByteArray} {e t : Editor}

theorem Holding.put (h : Holding home here file bytes e) (target : DataFile)
    (contents : ByteArray)
    (store : t.store =
      { e.store with disk := e.store.disk.put (target.name :: here) (.file contents) }) :
    Holding home here file bytes t := by
  refine ⟨store ▸ h.ready.put target.name_mem contents, ?_⟩
  have apart : asideName file.name :: here ≠ target.name :: here := fun same =>
    asideName_ne file.name_mem target.name_mem (List.cons.inj same).1.symm
  rw [store]
  exact (Disk.entryAt?_put_of_ne _ apart).trans h.aside

theorem Holding.persist (h : Holding home here file bytes e) (target : DataFile) (value : Json)
    (store : t.store = e.store.persist target.name value) : Holding home here file bytes t :=
  h.put target _ (store.trans (h.ready.persist_eq target.name_mem value))

theorem kept_holding (home : String) (here : Place) (file : DataFile) (bytes : ByteArray) :
    Kept (Holding home here file bytes) where
  toFirm := .of_shown (fun _ _ _ h => ⟨h.ready, h.aside⟩) fun _ _ _ h => h.persist .state _ rfl
  chat _ h := ⟨h.ready, h.aside⟩
  catalog _ h := h.persist .projects _ rfl

/-- Step lemma. -/
theorem Holding.next (h : Holding home here file bytes e) (next : Next home file e t) :
    Holding home here file bytes t := by
  cases next with
  | operation operation =>
    exact (kept_holding home here file bytes).perform operation h
  | written target contents disk done =>
    refine h.put target contents ?_
    rw [DataFile.path, h.ready.write?_join target.name_mem] at done
    rw [← Option.some.inj done]
  | opening store ids opened intact =>
    obtain rfl : e.store = store := Except.ok.inj (h.ready.inDirectory_eq.symm.trans opened)
    refine ⟨ready_openOn h.ready ids, ?_⟩
    rw [entryAt?_openOn h.ready ids intact file.aside_mem_names]
    exact h.aside

/-- Run lemma. -/
theorem Holding.later (h : Holding home here file bytes e)
    (later : Relation.ReflTransGen (Next home file) e t) : Holding home here file bytes t := by
  induction later with
  | refl => exact h
  | tail _ next ih => exact ih.next next

theorem Holding.read?_aside (h : Holding home here file bytes e)
    (usable : Path.isUsable (file.asidePath home) = true) :
    e.store.disk.read? (file.asidePath home) = some bytes := by
  have target := Disk.target?_join (plain_asideName file.name_mem) usable h.ready.walked
  simp only [Disk.read?, Disk.entry?, DataFile.asidePath, target, Option.bind_some, h.aside]

/-- How an editor starts on a store whose given file does not load: with the default in its place,
and with what the other file holds if that loads. -/
def StartsWithout (e : Editor) (s : Store) : DataFile → Prop
  | .state => e.document = {} ∧ ∀ saved, s.loadCatalog = .ok saved → e.catalog = saved
  | .projects => e.catalog = {} ∧ ∀ found, s.loadDocument = .ok found → e.document = found.getD {}

theorem starts_openOn (ready : s.Ready home here) (ids : IdSource)
    (damaged : s.loads file = false) : (openOn s ids).StartsWithout s file := by
  rcases shown_openOn ready ids with ⟨document, catalog⟩
  cases file with
  | state =>
    have failed := (Store.isOk_map (·.getD {}) s.loadDocument).trans damaged
    refine ⟨document.trans (Store.shown_of_fault _ failed), fun saved loaded => ?_⟩
    rw [catalog, Store.catalog, loaded, Store.shown]
  | projects =>
    refine ⟨catalog.trans (Store.shown_of_fault _ damaged), fun found loaded => ?_⟩
    rw [document, Store.document, loaded, Except.map, Store.shown]

/-- **What cannot be loaded is kept.** An editor is opened on a data directory whose files can be
written and renamed, and a data file does not load. Then its bytes are moved to the name under which
it is set aside, and the editor starts with the default in its place; the other file is used and
left alone if it loads. The bytes stay set aside whatever the editor does afterwards, whatever
others write to the data files, and however often the directory is opened again while the file loads
or is missing; and it can always be opened again. -/
theorem aside_of_damaged {disk : Disk} {home : String} {store : Store}
    (opened : Store.inDirectory disk home = .ok store) (serves : store.Serves) (ids : IdSource)
    {file : DataFile} (damaged : store.loads file = false) :
    let e := openOn store ids
    ∃ bytes, store.disk.read? (file.path home) = some bytes ∧
      e.store.disk.read? (file.asidePath home) = some bytes ∧
      e.store.disk.pathExists (file.path home) = false ∧
      e.StartsWithout store file ∧
      (store.loads file.other = true →
        e.store.disk.entry? (file.other.path home) =
          store.disk.entry? (file.other.path home)) ∧
      ∀ t, Relation.ReflTransGen (Next home file) e t →
        t.store.disk.read? (file.asidePath home) = some bytes ∧
          Store.inDirectory t.store.disk home = .ok t.store := by
  intro e
  rcases Store.ready_of_inDirectory opened serves with ⟨here, ready⟩
  have movable := ready.movable_of_damaged serves damaged
  rcases movable.source with ⟨bytes, there⟩
  rcases aside_openOn ready ids movable damaged with ⟨moved, gone⟩
  have ready' : e.store.Ready home here := ready_openOn ready ids
  have holding : Holding home here file bytes e := ⟨ready', moved.trans there⟩
  refine ⟨bytes, ?_, holding.read?_aside movable.usable, ?_, starts_openOn ready ids damaged, ?_, ?_⟩
  · simp only [Disk.read?, DataFile.path, ready.entry?_join file.name_mem, there]
  · simp only [Disk.pathExists, DataFile.path, ready'.entry?_join file.name_mem, e, gone]
    rfl
  · intro loads
    simp only [DataFile.path, ready'.entry?_join file.other.name_mem,
      ready.entry?_join file.other.name_mem]
    exact entryAt?_openOn ready ids loads file.other.mem_names
  · intro t later
    have holding' := holding.later later
    exact ⟨holding'.read?_aside movable.usable, holding'.ready.inDirectory_eq⟩

/-- A state file that cannot be loaded is set aside; then someone damages the projects, the directory
is opened again, and the page is edited and saved. -/
theorem aside_of_damaged_state :
    let disk : Disk := ⟨[(["state.json", "data"], .file "[".toUTF8),
      (["projects.json", "data"], .file "[]".toUTF8), (["data"], .directory)]⟩
    let store : Store := ⟨disk, some "data"⟩
    let e := openOn store ⟨"a", 0⟩
    let damaged := e.store.disk.put ["projects.json", "data"] (.file "]".toUTF8)
    let t := (openOn { e.store with disk := damaged } ⟨"b", 0⟩).run
      [.add .card, .saveProject ⟨"p-1", 7⟩, .undo]
    Store.inDirectory disk "data" = .ok store ∧ store.Serves ∧ store.loads .state = false ∧
      ∃ bytes, store.disk.read? "data/state.json" = some bytes ∧
        t.store.disk.read? "data/state.json.corrupt" = some bytes := by
  intro disk store e damaged t
  have opened : Store.inDirectory disk "data" = .ok store := by decide +kernel
  have serves : store.Serves := by
    constructor
    · intro file h path there contents
      obtain rfl : Path.join "data" file = path := Option.some.inj there
      simp only [dataFiles, List.mem_cons, List.not_mem_nil, or_false] at h
      rcases h with rfl | rfl <;> rfl
    · intro file h path there exist
      obtain rfl : Path.join "data" file = path := Option.some.inj there
      simp only [dataFiles, List.mem_cons, List.not_mem_nil, or_false] at h
      rcases h with rfl | rfl <;> decide +kernel
  have unreadable : store.loads .state = false := by decide +kernel
  have overwritten : Next "data" .state e { e with store := { e.store with disk := damaged } } :=
    .written e .projects "]".toUTF8 damaged (by decide +kernel)
  have again : Next "data" .state { e with store := { e.store with disk := damaged } }
      (openOn { e.store with disk := damaged } ⟨"b", 0⟩) :=
    .opening _ _ ⟨"b", 0⟩ (by decide +kernel) (by decide +kernel)
  have later : Relation.ReflTransGen (Next "data" .state) e t :=
    .head overwritten (.head again (next_run _ _))
  rcases aside_of_damaged opened serves ⟨"a", 0⟩ unreadable with
    ⟨bytes, before, -, -, -, -, always⟩
  have path : DataFile.path "data" .state = "data/state.json" := by decide +kernel
  have aside : DataFile.asidePath "data" .state = "data/state.json.corrupt" := by decide +kernel
  exact ⟨opened, serves, unreadable, bytes, path ▸ before, aside ▸ (always t later).1⟩

end Editor
end PageBuilder
