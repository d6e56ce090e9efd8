import PageBuilder.Proofs.UndoRedo

/-!
# Saved projects are snapshots

A catalog has what was saved under a name until something else is saved under it or the name is
deleted. What an editor saves depends on the name of the current project, which renaming, premade
pages and loading change; so whether an operation spares a name is asked of the editor before it.
As long as a name is spared, the saved document comes back when it is loaded, as one undo step.
-/

namespace PageBuilder

/-! ## Entries of a catalog -/

namespace Catalog

variable {name other : String}

theorem get?_without (c : Catalog) (apart : name ≠ other) :
    (c.without other).get? name = c.get? name := by
  rw [get?, get?, without, List.find?_filter]
  congr 1
  funext project
  by_cases here : project.name = name
  · simp [here, apart]
  · simp [here]

theorem get?_save_of_ne (c : Catalog) (apart : name ≠ other) (document : Document)
    (stamp : Stamp) : (c.save other document stamp).get? name = c.get? name := by
  have rest := get?_without c apart
  rw [get?] at rest
  rw [get?, save, List.find?_append, rest]
  have behind : [(⟨stamp.id, other, document, stamp.time⟩ : Project)].find? (·.name == name) =
      none := by
    simpa using apart.symm
  rw [behind, Option.or_none]

theorem get?_save_self (c : Catalog) (name : String) (document : Document) (stamp : Stamp) :
    (c.save name document stamp).get? name = some ⟨stamp.id, name, document, stamp.time⟩ := by
  have gone : (c.without name).projects.find? (·.name == name) = none := by
    simp [without]
  rw [get?, save, List.find?_append, gone]
  simp

theorem get?_remove? {c next : Catalog} (apart : name ≠ other)
    (removed : c.remove? other = some next) : next.get? name = c.get? name := by
  unfold remove? at removed
  split at removed
  · cases removed
    exact get?_without c apart
  · cases removed

/-- A name that is not in the catalog is not found. -/
theorem get?_of_not_mem {c : Catalog} (missing : name ∉ c.names) : c.get? name = none := by
  refine List.find?_eq_none.2 fun project there same => missing ?_
  exact beq_iff_eq.1 same ▸ List.mem_map_of_mem there

theorem remove?_of_not_mem {c : Catalog} (missing : name ∉ c.names) : c.remove? name = none := by
  have none : c.projects.any (·.name == name) = false := by
    refine List.any_eq_false.2 fun project there same => missing ?_
    exact beq_iff_eq.1 same ▸ List.mem_map_of_mem there
  rw [remove?, none]
  rfl

end Catalog

theorem Document.brand_eq_of_beq {d d' : Document} (same : (d == d') = true) :
    d.brand = d'.brand := by
  cases d
  cases d'
  simp only [BEq.beq, instBEqDocument.beq, Bool.and_eq_true, decide_eq_true_eq] at same
  exact same.2.2.2

/-- The state that a commit records is the one a step back goes to. -/
theorem History.undo?_commit {α : Type} {h : History α} (room : 0 < h.limit)
    (replaced current : α) :
    (h.commit replaced).undo? current =
      some (replaced, { h with past := h.past.take (h.limit - 1), future := [current] }) := by
  have pushed : h.pushed replaced = replaced :: h.past.take (h.limit - 1) :=
    List.take_cons room
  simp only [commit, undo?, pushed]

namespace Editor

variable {e : Editor} {name : String}

/-! ## Operations that spare a name -/

/-- Whether an operation neither saves under a name nor deletes it. -/
def spares (name : String) (e : Editor) : Operation → Bool
  | .saveProject _ => e.projectName ≠ name
  | .deleteProject other => other ≠ name
  | .press key typing _ =>
    Shortcut.ofKeyPress? key typing ≠ some .saveProject || e.projectName ≠ name
  | _ => true

/-- Whether every operation of a run spares a name when its turn comes. -/
def sparesAll (name : String) (e : Editor) : List Operation → Bool
  | [] => true
  | operation :: rest => e.spares name operation && (e.perform operation).2.sparesAll name rest

theorem steady_catalog (c : Catalog) : Steady (fun e => e.catalog = c) where
  toFirm := .of_shown (fun _ _ _ same => same) fun _ _ _ same => same
  chat _ same := same

theorem catalog_perform {operation : Operation} (apart : operation.keepsCatalog = true) :
    (e.perform operation).2.catalog = e.catalog :=
  (steady_catalog e.catalog).perform apart rfl

theorem get?_saveProject (e : Editor) (apart : e.projectName ≠ name) (stamp : Stamp) :
    (e.saveProject stamp).catalog.get? name = e.catalog.get? name :=
  e.catalog.get?_save_of_ne apart.symm e.document stamp

theorem get?_deleteProject (e : Editor) {other : String} (apart : other ≠ name) :
    (e.deleteProject other).2.catalog.get? name = e.catalog.get? name := by
  unfold deleteProject
  split
  · next removed => exact Catalog.get?_remove? apart.symm removed
  · rfl

/-- Step lemma: an operation that spares a name leaves what is saved under it. -/
theorem get?_perform {operation : Operation} (spared : e.spares name operation = true) :
    (e.perform operation).2.catalog.get? name = e.catalog.get? name := by
  cases apart : operation.keepsCatalog with
  | true =>
    exact congrArg (·.get? name) (catalog_perform apart)
  | false =>
    cases operation with
    | saveProject stamp =>
      exact e.get?_saveProject (of_decide_eq_true spared) stamp
    | deleteProject other =>
      exact e.get?_deleteProject (of_decide_eq_true spared)
    | press key typing stamp =>
      have saves : Shortcut.ofKeyPress? key typing = some .saveProject := by
        simpa [Operation.keepsCatalog] using apart
      have other : e.projectName ≠ name := by
        simpa [spares, saves] using spared
      rw [perform, press, saves]
      exact e.get?_saveProject other stamp
    | _ => cases apart

/-- Run lemma: as long as a name is spared, the catalog has what was saved under it. -/
theorem get?_run {operations : List Operation} (spared : e.sparesAll name operations = true) :
    (e.run operations).catalog.get? name = e.catalog.get? name := by
  induction operations generalizing e with
  | nil =>
    rfl
  | cons operation rest ih =>
    have parts := Bool.and_eq_true_iff.1 spared
    calc
      (e.run (operation :: rest)).catalog.get? name
          = (e.perform operation).2.catalog.get? name := ih parts.2
      _ = e.catalog.get? name := get?_perform parts.1

/-! ## Loading -/

theorem loadProject_of_not_mem (missing : name ∉ e.catalog.names) :
    e.loadProject name = (.error (.projectNotFound name), e) := by
  rw [loadProject, Catalog.get?_of_not_mem missing]

theorem deleteProject_of_not_mem (missing : name ∉ e.catalog.names) :
    e.deleteProject name = (.error (.projectNotFound name), e) := by
  rw [deleteProject, Catalog.remove?_of_not_mem missing]

theorem beq_commit (e : Editor) (next : Document) :
    (next == (e.commit next).2.document) = true := by
  unfold commit
  cases same : next == e.document with
  | true => exact same
  | false => exact ReflBEq.rfl

theorem commit_of_beq {next : Document} (same : (next == e.document) = true) :
    (e.commit next).2 = e := by
  simp [commit, same]

theorem commit_of_differs {next : Document} (differs : (next == e.document) = false) :
    e.commit next = (true, { e with
      document := next
      history := e.history.commit e.document
      store := e.store.persistDocument next }) := by
  simp [commit, differs]

/-- A commit of another document is a step back from it. -/
theorem undo_commit (bounded : e.Bounded) {next : Document}
    (differs : (next == e.document) = false) :
    let t := (e.commit next).2
    t.document = next ∧ t.history = e.history.commit e.document ∧ t.undo.1 = true ∧
      t.undo.2.document = e.document := by
  rw [commit_of_differs differs]
  refine ⟨rfl, rfl, ?_, ?_⟩
  all_goals
    simp only [undo, History.undo?_commit bounded.room]
    rfl

/-- What loading a document under a name makes of an editor. If the document before was another
one, that is one step whose undo brings it back; otherwise the document and the history stay. -/
structure Loaded (name : String) (document : Document) (e u : Editor) : Prop where
  equal : (document == u.document) = true
  brand : document.brand = u.document.brand
  named : u.projectName = name
  deselected : u.view.selected = none
  closed : u.view.openPanels = []
  kept : (document == e.document) = true → u.document = e.document ∧ u.history = e.history
  step : (document == e.document) = false →
    u.document = document ∧ u.history = e.history.commit e.document ∧ u.undo.1 = true ∧
      u.undo.2.document = e.document

theorem loaded_of_get? (bounded : e.Bounded) {project : Project}
    (saved : e.catalog.get? name = some project) :
    (e.loadProject name).1 = .ok () ∧
      Loaded name project.document e (e.loadProject name).2 := by
  let start : Editor := { e with projectName := name, view := e.view.escape }
  have loaded : e.loadProject name = (.ok (), (start.commit project.document).2) := by
    rw [loadProject, saved]
  have equal := start.beq_commit project.document
  have session : (start.commit project.document).2.view = e.view.escape ∧
      (start.commit project.document).2.projectName = name := by
    unfold commit
    split <;> exact ⟨rfl, rfl⟩
  rw [loaded]
  refine ⟨rfl, equal, Document.brand_eq_of_beq equal, session.2, ?_, ?_, ?_, ?_⟩
  · rw [session.1]
    rfl
  · rw [session.1]
    rfl
  · intro same
    have still : (start.commit project.document).2 = start := commit_of_beq same
    rw [still]
    exact ⟨rfl, rfl⟩
  · exact undo_commit (e := start) bounded

/-- **A saved project is a snapshot.** An editor saves its document under the name of its project,
and then does any operations that spare the name. Loading the name succeeds and gives a document
equal to the saved one under that name, as one step back if the document was another one. A name
that is not in the catalog is neither loaded nor deleted. -/
theorem load_of_saved (store : Store) (ids : IdSource) (before operations : List Operation)
    (stamp : Stamp)
    (spared : (((openOn store ids).run before).saveProject stamp).sparesAll
      ((openOn store ids).run before).projectName operations = true) :
    let s := (openOn store ids).run before
    let t := (s.saveProject stamp).run operations
    (t.loadProject s.projectName).1 = .ok () ∧
    Loaded s.projectName s.document t (t.loadProject s.projectName).2 ∧
    ∀ (e : Editor) (missing : String), missing ∉ e.catalog.names →
      e.loadProject missing = (.error (.projectNotFound missing), e) ∧
      e.deleteProject missing = (.error (.projectNotFound missing), e) := by
  intro s t
  have bounded : t.Bounded :=
    kept_bounded.run operations (kept_bounded.saveProject stamp (bounded_run store ids before))
  have saved : t.catalog.get? s.projectName =
      some ⟨stamp.id, s.projectName, s.document, stamp.time⟩ :=
    (get?_run spared).trans (s.catalog.get?_save_self s.projectName s.document stamp)
  have loaded := loaded_of_get? bounded saved
  refine ⟨loaded.1, loaded.2, ?_⟩
  intro e missing gone
  exact ⟨loadProject_of_not_mem gone, deleteProject_of_not_mem gone⟩

/-- A project is saved; then the page is cleared and saved under another name with the keyboard,
that project is deleted, and the brand is changed and the change taken back. -/
theorem load_of_saved_hero :
    let before : List Operation := [.add .hero, .rename "A"]
    let operations : List Operation :=
      [.clear, .rename "B", .press ⟨"S", { control := true }⟩ true ⟨"p-2", 8⟩, .deleteProject "B",
        .setBrand { glass := false }, .undo]
    let s := (openOn {} ⟨"t", 0⟩).run before
    let t := (s.saveProject ⟨"p-1", 7⟩).run operations
    (s.saveProject ⟨"p-1", 7⟩).sparesAll s.projectName operations = true ∧
    (t.loadProject "A").1 = .ok () ∧ Loaded "A" s.document t (t.loadProject "A").2 := by
  intro before operations s t
  have spared : (s.saveProject ⟨"p-1", 7⟩).sparesAll s.projectName operations = true := by
    decide +kernel
  have loaded := load_of_saved {} ⟨"t", 0⟩ before operations ⟨"p-1", 7⟩ spared
  exact ⟨spared, loaded.1, loaded.2.1⟩

end Editor
end PageBuilder
