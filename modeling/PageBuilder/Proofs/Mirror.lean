import PageBuilder.Proofs.PageForm
import PageBuilder.Proofs.Recovery

/-!
# The data directory mirrors the editor

Whoever opens the data directory of an editor, at any point of a session, finds the document and the
saved projects of that editor. Either a data file has the text that the editor wrote last, or the
editor has not written it yet and shows what it was opened with.
-/

namespace PageBuilder

open Json

namespace Editor

/-- The data directory holds what the editor shows: each file has the text written last, or it has
not been written and is loaded as what the editor shows. -/
structure Mirrored (home : String) (here : Place) (e : Editor) : Prop where
  ready : e.store.Ready home here
  document : e.store.disk.entryAt? (stateFile :: here) =
      some (.file e.document.write.pretty.toUTF8) ∨
    (e.store.load stateFile Document.read).map (·.getD {}) = .ok e.document
  catalog : e.store.disk.entryAt? (projectsFile :: here) =
      some (.file e.catalog.write.pretty.toUTF8) ∨
    (e.store.load projectsFile Catalog.read).map (·.getD {}) = .ok e.catalog

variable {home : String} {here : Place} {e : Editor}

/-- A file that loads stays as it is; one that does not is gone, and a missing one is loaded as the
default that stands in. -/
theorem loadDocument_openOn {s : Store} (ready : s.Ready home here) (serves : s.Serves)
    (ids : IdSource) :
    (openOn s ids).store.loadDocument.map (·.getD {}) = .ok (openOn s ids).document := by
  have ready' := ready_openOn ready ids
  have same := Store.isOk_map (·.getD {}) s.loadDocument
  rw [(shown_openOn ready ids).1]
  cases loads : s.loads .state with
  | true =>
    have stays := entryAt?_openOn ready ids loads DataFile.state.mem_names
    rw [ready.loadDocument_congr ready' stays]
    exact Store.eq_ok_shown _ (same.trans loads)
  | false =>
    have aside := aside_openOn ready ids (ready.movable_of_damaged serves loads) loads
    have none : (openOn s ids).store.loadDocument = .ok none :=
      ready'.load_none DataFile.state.name_mem aside.2
    rw [Store.document, Store.shown_of_fault _ (same.trans loads), none]
    rfl

theorem loadCatalog_openOn {s : Store} (ready : s.Ready home here) (serves : s.Serves)
    (ids : IdSource) : (openOn s ids).store.loadCatalog = .ok (openOn s ids).catalog := by
  have ready' := ready_openOn ready ids
  rw [(shown_openOn ready ids).2]
  cases loads : s.loads .projects with
  | true =>
    have stays := entryAt?_openOn ready ids loads DataFile.projects.mem_names
    rw [ready.loadCatalog_congr ready' stays]
    exact Store.eq_ok_shown _ loads
  | false =>
    have aside := aside_openOn ready ids (ready.movable_of_damaged serves loads) loads
    have none : (openOn s ids).store.load projectsFile Catalog.read = .ok none :=
      ready'.load_none DataFile.projects.name_mem aside.2
    rw [Store.catalog, Store.shown_of_fault _ loads, Store.loadCatalog, none]
    rfl

theorem mirrored_openOn {s : Store} (ready : s.Ready home here) (serves : s.Serves)
    (ids : IdSource) : Mirrored home here (openOn s ids) :=
  ⟨ready_openOn ready ids, Or.inr (loadDocument_openOn ready serves ids),
    Or.inr (loadCatalog_openOn ready serves ids)⟩

/-! ## Steps -/

theorem Mirrored.persistDocument (mirrored : Mirrored home here e) {e' : Editor}
    (store : e'.store = e.store.persistDocument e'.document) (catalog : e'.catalog = e.catalog) :
    Mirrored home here e' := by
  have state : stateFile ∈ dataFiles := by simp [dataFiles]
  have projects : projectsFile ∈ dataFiles := by simp [dataFiles]
  -- The state file gets the new text; the projects file is not touched.
  have ready' := mirrored.ready.persist state e'.document.write
  have other := mirrored.ready.entryAt?_persist_other state e'.document.write
    (by decide : projectsFile ≠ stateFile)
  refine ⟨store ▸ ready', Or.inl ?_, ?_⟩
  · rw [store]
    exact mirrored.ready.entryAt?_persist_self state _
  · rw [store, catalog]
    rcases mirrored.catalog with written | loaded
    · exact Or.inl (other.trans written)
    · exact Or.inr ((congrArg _ (mirrored.ready.load_congr ready' projects other)).trans loaded)

theorem Mirrored.persistCatalog (mirrored : Mirrored home here e) (catalog : Catalog) :
    Mirrored home here { e with catalog, store := e.store.persistCatalog catalog } := by
  have state : stateFile ∈ dataFiles := by simp [dataFiles]
  have projects : projectsFile ∈ dataFiles := by simp [dataFiles]
  have ready' := mirrored.ready.persist projects catalog.write
  have other := mirrored.ready.entryAt?_persist_other projects catalog.write
    (by decide : stateFile ≠ projectsFile)
  refine ⟨ready', ?_, Or.inl ?_⟩
  · rcases mirrored.document with written | loaded
    · exact Or.inl (other.trans written)
    · exact Or.inr ((congrArg _ (mirrored.ready.load_congr ready' state other)).trans loaded)
  · exact mirrored.ready.entryAt?_persist_self projects _

theorem kept_mirrored (home : String) (here : Place) : Kept (Mirrored home here) where
  toFirm := .of_shown
    (fun _ _ _ mirrored => ⟨mirrored.ready, mirrored.document, mirrored.catalog⟩)
    fun _ _ _ mirrored => mirrored.persistDocument rfl rfl
  chat _ mirrored := ⟨mirrored.ready, mirrored.document, mirrored.catalog⟩
  catalog catalog mirrored := mirrored.persistCatalog catalog

/-! ## Opening again -/

theorem Mirrored.openOn_eq (mirrored : Mirrored home here e) (document : e.document.Durable)
    (catalog : e.catalog.Durable) (ids : IdSource) :
    openOn e.store ids =
      { document := e.document, catalog := e.catalog, store := e.store, ids } := by
  have state : stateFile ∈ dataFiles := by simp [dataFiles]
  have projects : projectsFile ∈ dataFiles := by simp [dataFiles]
  -- Where a file was written, its text is read back; otherwise it is loaded as before.
  have first : e.store.loadDocument.map (·.getD {}) = .ok e.document := by
    rcases mirrored.document with written | loaded
    · have load := mirrored.ready.load_text state written (Document.whole_write document 0).writable
        (Document.read_write document)
      simp [Store.loadDocument, load, Except.map]
    · exact loaded
  have second : e.store.loadCatalog = .ok e.catalog := by
    rcases mirrored.catalog with written | loaded
    · have load := mirrored.ready.load_text projects written (Catalog.writable_write catalog)
        (Catalog.read_write catalog)
      simp [Store.loadCatalog, load, Except.map]
    · exact loaded
  simp [openOn, first, recover, second]

/-- **The data directory mirrors the editor.** An editor is opened on a data directory whose files
can be written and renamed, whatever is in them, and then does any operations. If the durations of
its document and of its saved projects are read back, then opening the directory again gives its
document and its saved projects, with nothing to undo or to redo. -/
theorem reopen_of_run {disk : Disk} {home : String} {store : Store}
    (opened : Store.inDirectory disk home = .ok store) (serves : store.Serves)
    (ids later : IdSource) (operations : List Operation)
    (document : ((openOn store ids).run operations).document.Durable)
    (catalog : ((openOn store ids).run operations).catalog.Durable) :
    let e := (openOn store ids).run operations
    Store.inDirectory e.store.disk home = .ok e.store ∧
      (openOn e.store later).document = e.document ∧
      (openOn e.store later).catalog = e.catalog ∧ (openOn e.store later).history = {} := by
  intro e
  rcases Store.ready_of_inDirectory opened serves with ⟨here, ready⟩
  have mirrored : Mirrored home here e :=
    (kept_mirrored home here).run operations (mirrored_openOn ready serves ids)
  have again := mirrored.openOn_eq document catalog later
  rw [again]
  exact ⟨mirrored.ready.inDirectory_eq, rfl, rfl, rfl⟩

/-- A session on a directory with a state file that cannot be loaded. -/
theorem reopen_of_damaged_directory :
    let disk : Disk := ⟨[(["state.json", "data"], .file "[".toUTF8), (["data"], .directory)]⟩
    let store : Store := ⟨disk, some "data"⟩
    let operations : List Operation :=
      [.add .card, .saveProject ⟨"p-1", 7⟩, .setTheme .light, .undo, .relabel "ghost" "x"]
    let e := (openOn store ⟨"a", 0⟩).run operations
    Store.inDirectory disk "data" = .ok store ∧ store.Serves ∧ e.document.Durable ∧
      e.catalog.Durable ∧ Store.inDirectory e.store.disk "data" = .ok e.store ∧
      (openOn e.store ⟨"b", 0⟩).document = e.document ∧
      (openOn e.store ⟨"b", 0⟩).catalog = e.catalog ∧
      (openOn e.store ⟨"b", 0⟩).history = {} := by
  intro disk store operations
  have opened : Store.inDirectory disk "data" = .ok store := by decide +kernel
  have serves : store.Serves := by
    constructor
    · intro file h path there contents
      obtain rfl : Path.join "data" file = path := Option.some.inj there
      simp only [dataFiles, List.mem_cons, List.not_mem_nil, or_false] at h
      rcases h with rfl | rfl <;> rfl
    · intro file h path there exist
      obtain rfl : Path.join "data" file = path := Option.some.inj there
      simp only [dataFiles, List.mem_cons, List.not_mem_nil, or_false] at h
      rcases h with rfl | rfl
      · decide +kernel
      · revert exist
        decide +kernel
  have document : ((openOn store ⟨"a", 0⟩).run operations).document.Durable := by
    decide +kernel
  have catalog : ((openOn store ⟨"a", 0⟩).run operations).catalog.Durable := by
    decide +kernel
  exact ⟨opened, serves, document, catalog,
    reopen_of_run opened serves ⟨"a", 0⟩ ⟨"b", 0⟩ operations document catalog⟩

end Editor
end PageBuilder
