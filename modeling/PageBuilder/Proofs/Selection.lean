import PageBuilder.Proofs.Ids
import PageBuilder.Editing.Operation

/-!
# The selection is in the document

Every operation leaves the selection on an element that is there, or drops it. Most keep all ids of
the document, or deselect before they replace it; a deletion drops the selection of what it took
out, and undo and redo drop one that is not in the document they lead to. Nothing here needs ids to
be distinct: of several elements with the selected id one may go while another stays, and the
selection of a deleted id is dropped all the same.

A document that is committed as it is may hold anything, so that entry point is excluded, and so is
the selection of an element that is not there.
-/

namespace PageBuilder

/-! ## Ids of the documents an operation leads to -/

/-- Lists that count as equal do so item by item. -/
theorem forall₂_of_beq {α : Type} [BEq α] {xs ys : List α} (same : (xs == ys) = true) :
    List.Forall₂ (fun x y => (x == y) = true) xs ys := by
  induction xs generalizing ys with
  | nil =>
    cases ys with
    | nil => exact .nil
    | cons y ys => cases same
  | cons x xs ih =>
    cases ys with
    | nil => cases same
    | cons y ys =>
      simp only [List.cons_beq_cons, Bool.and_eq_true] at same
      exact .cons same.1 (ih same.2)

theorem Element.id_eq_of_beq {a b : Element} (same : (a == b) = true) : a.id = b.id := by
  cases a
  cases b
  simp only [BEq.beq, instBEqElement.beq, Bool.and_eq_true, decide_eq_true_eq] at same
  exact same.1

namespace Document

variable {d d' : Document} {id : ElementId}

theorem forall₂_elements_of_beq (same : (d == d') = true) :
    List.Forall₂ (fun a b => (a == b) = true) d.elements d'.elements := by
  have fields : instBEqDocument.beq d d' = true := same
  simp only [instBEqDocument.beq, Bool.and_eq_true] at fields
  exact forall₂_of_beq fields.1

/-- Documents that count as equal have the same ids. -/
theorem ids_eq_of_beq (same : (d == d') = true) : d.ids = d'.ids := by
  have alike := forall₂_elements_of_beq same
  simp only [ids]
  generalize d.elements = xs at alike ⊢
  generalize d'.elements = ys at alike ⊢
  induction alike with
  | nil => rfl
  | cons head _ ih => simp only [List.map_cons, Element.id_eq_of_beq head, ih]

theorem beq_eq_false_of_ids (differ : d.ids ≠ d'.ids) : (d == d') = false :=
  Bool.eq_false_iff.2 fun same => differ (ids_eq_of_beq same)

theorem contains_iff : d.contains id = true ↔ id ∈ d.ids := by
  simp [contains, ids]

theorem element?_of_mem (h : id ∈ d.ids) :
    ∃ element, d.element? id = some element ∧ element ∈ d.elements ∧ element.id = id := by
  rcases List.mem_map.1 h with ⟨a, there, rfl⟩
  have found : (d.elements.find? (·.id == a.id)).isSome :=
    List.find?_isSome.2 ⟨a, there, by simp⟩
  rcases Option.isSome_iff_exists.1 found with ⟨element, first⟩
  exact ⟨element, first, List.mem_of_find?_eq_some first, by simpa using List.find?_some first⟩

/-- Only the id of the element that is taken out can be lost. -/
theorem mem_ids_remove? (h : d.remove? id = some d') {other : ElementId} (differs : other ≠ id)
    (there : other ∈ d.ids) : other ∈ d'.ids := by
  simp only [remove?, Order.removeAt?, Option.bind_eq_bind, Option.bind_eq_some_iff,
    Option.ite_none_right_eq_some, Option.some.injEq, Option.pure_def] at h
  rcases h with ⟨index, first, elements, ⟨bound, rfl⟩, rfl⟩
  rcases List.mem_map.1 there with ⟨element, member, rfl⟩
  rcases List.getElem_of_mem member with ⟨place, inside, rfl⟩
  have taken : d.elements[index].id = id := by
    simpa using (List.findIdx?_eq_some_iff_getElem.1 first).2.1
  have apart : place ≠ index := by
    intro same
    subst same
    exact differs taken
  exact List.mem_map_of_mem (List.mem_eraseIdx_iff_getElem.2 ⟨place, inside, apart, rfl⟩)

end Document

theorem View.selected_closePanel (v : View) (panel : Panel) :
    (v.closePanel panel).selected = v.selected := rfl

theorem View.selected_openPanel (v : View) (panel : Panel) :
    (v.openPanel panel).selected = v.selected := by
  unfold View.openPanel
  split <;> rfl

namespace Editor

/-- A commit leads to a document with the given ids, also when it finds it equal and does nothing. -/
theorem ids_commit (e : Editor) (next : Document) : (e.commit next).2.document.ids = next.ids := by
  unfold commit
  split
  · next same => exact (Document.ids_eq_of_beq same).symm
  · rfl

theorem view_commit (e : Editor) (next : Document) : (e.commit next).2.view = e.view := by
  unfold commit
  split <;> rfl

/-! ## Selections -/

/-- What is selected is in the document. -/
def Anchored (e : Editor) : Prop := ∀ id, e.view.selected = some id → id ∈ e.document.ids

variable {e t : Editor}

theorem anchored_of_none (none : t.view.selected = none) : Anchored t := by
  intro id selected
  rw [none] at selected
  cases selected

/-- What belongs to the session alone may change, but for the selection. -/
theorem Anchored.session (h : Anchored e) {view : View} (same : view.selected = e.view.selected)
    (ids : IdSource) (projectName : String) (chat : Conversation) :
    Anchored { e with view, ids, projectName, chat } := by
  intro id selected
  exact h id (same ▸ selected)

theorem Anchored.commit (h : Anchored e) {next : Document} (ids : e.document.ids ⊆ next.ids) :
    Anchored (e.commit next).2 := by
  intro id selected
  rw [view_commit] at selected
  rw [ids_commit]
  exact ids (h id selected)

theorem Anchored.commit? (h : Anchored e) {next : Option Document}
    (ids : ∀ d, next = some d → e.document.ids ⊆ d.ids) : Anchored (e.commit? next).2 := by
  cases next with
  | none =>
    exact h
  | some d =>
    exact h.commit (ids d rfl)

/-- Any document may be committed when nothing is selected. -/
theorem anchored_commit_of_none (next : Document) (none : e.view.selected = none) :
    Anchored (e.commit next).2 := by
  have same : (e.commit next).2.view.selected = e.view.selected := by rw [view_commit]
  exact anchored_of_none (same.trans none)

theorem Anchored.travel (h : Anchored e) (target : Option (Document × History Document)) :
    Anchored (e.travel target).2 := by
  cases target with
  | none =>
    exact h
  | some target =>
    intro id selected
    -- What is still selected has passed the test of the document that is shown now.
    have kept := (Option.filter_eq_some_iff.1 selected).2
    exact Document.contains_iff.1 kept

/-! ## Operations -/

theorem anchored_add (e : Editor) (kind : Kind) : Anchored (e.add kind).2 := by
  intro id selected
  have added : (e.add kind).1 = id := Option.some.inj selected
  have ids : (e.add kind).2.document.ids = e.document.ids ++ [(e.add kind).1] :=
    (ids_commit _ _).trans (Document.ids_append _ _)
  rw [ids, added]
  exact List.mem_append_right _ (List.mem_singleton_self id)

theorem Anchored.delete (h : Anchored e) (id : ElementId) : Anchored (e.delete id).2 := by
  cases removed : e.document.remove? id with
  | none =>
    simpa [Editor.delete, removed, Editor.commit?] using h
  | some d =>
    cases same : d == e.document with
    | true =>
      simpa [Editor.delete, removed, Editor.commit?, Editor.commit, same] using h
    | false =>
      simp only [Editor.delete, removed, Editor.commit?, Editor.commit, same, Bool.false_eq_true,
        if_false, Bool.true_and]
      split
      · exact anchored_of_none rfl
      · next other =>
        intro chosen selected
        -- Something else is selected, and it is not what was taken out.
        have differs : chosen ≠ id := by
          intro equal
          exact other (by simpa [View.isSelected, ← equal] using selected)
        exact Document.mem_ids_remove? removed differs (h chosen selected)

theorem Anchored.duplicate (h : Anchored e) (id : ElementId) : Anchored (e.duplicate id).2 := by
  unfold Editor.duplicate
  split
  · refine (h.session rfl _ _ _).commit? ?_
    intro d copied
    exact fun other there =>
      (Document.ids_duplicate? copied).mem_iff.2 (List.mem_append_left _ there)
  · exact h

theorem anchored_clear (e : Editor) : Anchored e.clear.2 :=
  anchored_commit_of_none _ rfl

theorem Anchored.append (h : Anchored e) (batch : List Element) : Anchored (e.append batch).2 := by
  unfold Editor.append
  split
  · exact h
  · refine h.commit ?_
    rw [Document.ids_append]
    exact List.subset_append_left _ _

theorem Anchored.addBlueprints (h : Anchored e) (scope : Scope) (blueprints : List Blueprint) :
    Anchored (e.addBlueprints scope blueprints).2 :=
  (h.session rfl _ _ _).append _

theorem Anchored.setTheme (h : Anchored e) (theme : Theme) : Anchored (e.setTheme theme).2 :=
  (h.session (View.selected_closePanel _ _) _ _ _).commit (List.Subset.refl _)

/-! ### The assistant and the keyboard -/

theorem Anchored.apply (h : Anchored e) (command : Command) : Anchored (e.apply command).2 := by
  have patched : ∀ patch, e.document.ids ⊆ (e.document.patchAll patch).ids := by
    intro patch
    have same : (e.document.patchAll patch).ids = e.document.ids := Document.ids_map fun _ => rfl
    rw [same]
    exact List.Subset.refl _
  cases command with
  | recolor swatch =>
    exact h.commit (patched _)
  | centerAll =>
    exact h.commit (patched _)
  | clear =>
    exact anchored_clear e
  | setTheme theme =>
    exact h.setTheme theme
  | help =>
    exact h

theorem Anchored.answerAll (h : Anchored e) (pending : List Pending) :
    Anchored (e.answerAll pending).2 := by
  induction pending generalizing e with
  | nil =>
    exact h
  | cons p rest ih =>
    have answered : Anchored (e.answer p.input) := (h.apply _).session rfl _ _ _
    exact ih answered

theorem Anchored.invoke (h : Anchored e) (stamp : Stamp) (shortcut : Shortcut) :
    Anchored (e.invoke stamp shortcut) := by
  cases shortcut with
  | undo =>
    exact h.travel _
  | redo =>
    exact h.travel _
  | duplicate =>
    simp only [Editor.invoke]
    split
    · exact h.duplicate _
    · exact h
  | saveProject =>
    exact h
  | deleteSelected =>
    simp only [Editor.invoke]
    split
    · exact h.delete _
    · exact h
  | escape =>
    exact anchored_of_none rfl
  | zoomIn =>
    exact h
  | zoomOut =>
    exact h
  | zoomReset =>
    exact h

/-! ### Every operation -/

/-- Whether an operation neither commits a document as it is nor selects what is not there. -/
def permits (e : Editor) : Operation → Bool
  | .commit _ => false
  | .view (.select id) => e.document.contains id
  | _ => true

/-- Whether every operation of a run is permitted when its turn comes. -/
def permitsAll (e : Editor) : List Operation → Bool
  | [] => true
  | operation :: rest => e.permits operation && (e.perform operation).2.permitsAll rest

theorem Anchored.changeView (h : Anchored e) {change : ViewChange}
    (permitted : e.permits (.view change) = true) : Anchored (e.changeView change) := by
  cases change with
  | select id =>
    intro chosen selected
    cases selected
    exact Document.contains_iff.1 permitted
  | deselect =>
    exact anchored_of_none rfl
  | openPanel panel =>
    exact h.session (View.selected_openPanel _ _) _ _ _
  | escape =>
    exact anchored_of_none rfl
  | zoomIn =>
    exact h
  | zoomOut =>
    exact h
  | resetZoom =>
    exact h
  | closePanel panel =>
    exact h

/-- Step lemma: every operation that is permitted leaves the selection in the document. -/
theorem Anchored.perform (h : Anchored e) {operation : Operation}
    (permitted : e.permits operation = true) : Anchored (e.perform operation).2 := by
  cases operation with
  | add kind =>
    exact anchored_add e kind
  | relabel id label =>
    refine h.commit? fun d changed => ?_
    have same : d.ids = e.document.ids :=
      Document.ids_modify? (f := fun e => { e with label }) (fun _ => rfl) changed
    rw [same]
    exact List.Subset.refl _
  | patch id patch =>
    refine h.commit? fun d changed => ?_
    have same : d.ids = e.document.ids :=
      Document.ids_modify? (f := (·.patched patch)) (fun _ => rfl) changed
    rw [same]
    exact List.Subset.refl _
  | delete id =>
    exact h.delete id
  | duplicate id =>
    exact h.duplicate id
  | move id direction =>
    exact h.commit? fun d moved => (Document.ids_move? moved).symm.subset
  | reorder source target =>
    exact h.commit? fun d moved => (Document.ids_reorder? moved).symm.subset
  | clear =>
    exact anchored_clear e
  | append batch =>
    exact h.append batch
  | insertTemplate template =>
    exact h.addBlueprints _ _
  | synthesize prompt =>
    simp only [Editor.perform, Editor.synthesize]
    split
    · exact h
    · exact (h.addBlueprints _ _).session (View.selected_closePanel _ _) _ _ _
  | setTheme theme =>
    exact h.setTheme theme
  | setColumns columns =>
    exact h.commit (List.Subset.refl _)
  | setBrand brand =>
    exact h.commit (List.Subset.refl _)
  | syncBrand fields =>
    refine h.commit ?_
    have same : (e.document.syncBrand fields).ids = e.document.ids :=
      Document.ids_map fun _ => rfl
    rw [same]
    exact List.Subset.refl _
  | loadPremade premade =>
    exact anchored_commit_of_none _ rfl
  | commit document =>
    cases permitted
  | undo =>
    exact h.travel _
  | redo =>
    exact h.travel _
  | importText text =>
    simp only [Editor.perform, Editor.importText]
    split
    · exact anchored_commit_of_none _ rfl
    · exact h
  | rename name =>
    exact h
  | saveProject stamp =>
    exact h
  | loadProject name =>
    simp only [Editor.perform, Editor.loadProject]
    split
    · exact anchored_commit_of_none _ rfl
    · exact h
  | deleteProject name =>
    simp only [Editor.perform, Editor.deleteProject]
    split
    · exact h
    · exact h
  | sendChat text now =>
    simp only [Editor.perform, Editor.sendChat]
    split
    · exact h
    · exact h
  | resolveReplies now =>
    exact (h.session rfl _ _ _).answerAll _
  | resolveAllReplies =>
    exact (h.session rfl _ _ _).answerAll _
  | apply command =>
    exact h.apply command
  | press key typing stamp =>
    simp only [Editor.perform, Editor.press]
    split
    · exact h.invoke stamp _
    · exact h
  | view change =>
    exact h.changeView permitted

/-! ## Runs -/

theorem Anchored.run (h : Anchored e) {operations : List Operation}
    (permitted : e.permitsAll operations = true) : Anchored (e.run operations) := by
  induction operations generalizing e with
  | nil =>
    exact h
  | cons operation rest ih =>
    have parts := Bool.and_eq_true_iff.1 permitted
    exact ih (h.perform parts.1) parts.2

/-- **The selection never dangles.** At any point of a run of permitted operations from an editor
that was just opened, what is selected is an element of the document. -/
theorem selected?_of_run (store : Store) (ids : IdSource) (operations : List Operation)
    (permitted : (openOn store ids).permitsAll operations = true) :
    let e := (openOn store ids).run operations
    ∀ id, e.view.selected = some id →
      ∃ element, e.selected? = some element ∧ element ∈ e.document.elements ∧ element.id = id := by
  intro e id selected
  have anchored : Anchored e := (anchored_of_none rfl).run permitted
  have same : e.selected? = e.document.element? id := by
    rw [selected?, selected]
    rfl
  rw [same]
  exact Document.element?_of_mem (anchored id selected)

/-- A page with an id twice is taken in; an element with that id is selected, a copy of it is made
and taken back, and a text that is no page is refused. -/
theorem selected?_of_repeated_ids :
    let page := "\x7b\"elements\":[[\"a\",\"card\"],[\"a\",\"hero\"]]\x7d"
    let operations : List Operation :=
      [.importText page, .view (.select "a"), .press ⟨"d", { control := true }⟩ false ⟨"p", 7⟩,
        .undo, .importText "["]
    let e := (openOn {} ⟨"s", 0⟩).run operations
    (openOn {} ⟨"s", 0⟩).permitsAll operations = true ∧ e.view.selected = some "a" ∧
    ∃ element, e.selected? = some element ∧ element ∈ e.document.elements ∧ element.id = "a" := by
  intro page operations e
  have permitted : (openOn {} ⟨"s", 0⟩).permitsAll operations = true := by decide +kernel
  have selected : e.view.selected = some "a" := by decide +kernel
  exact ⟨permitted, selected,
    selected?_of_run {} ⟨"s", 0⟩ operations permitted "a" selected⟩

end Editor
end PageBuilder
