import PageBuilder.Proofs.Snapshots
import PageBuilder.Proofs.Selection
import PageBuilder.Proofs.Targets

/-!
# Addresses of imported elements

An operation on an element is told its id, and finds the first element that has it. So every element
can be reached if and only if no id is repeated. Elements that are created in the editor have
distinct ids; an imported page has the ids that its text gives, and nothing there asks for distinct
ones. Hence its elements are addressable exactly if those of the text have distinct ids.
-/

namespace PageBuilder

namespace Document

variable {d : Document}

/-- If no id is repeated, an id stands for the element that has it. -/
theorem splits_of_nodup (nodup : d.ids.Nodup) {i : Nat} (inside : i < d.elements.length) :
    d.Splits d.elements[i].id (d.elements.take i) d.elements[i] (d.elements.drop (i + 1)) := by
  refine ⟨?_, rfl, ?_⟩
  · simp
  · intro e before same
    rcases List.getElem_of_mem before with ⟨j, bound, rfl⟩
    have earlier : j < i := by
      simp only [List.length_take] at bound
      omega
    have apart := List.pairwise_iff_getElem.1 nodup j i (by simp [ids]; omega)
      (by simpa [ids] using inside) earlier
    exact apart (by simpa [ids] using same)

theorem nodup_of_position?
    (found : ∀ i (inside : i < d.elements.length), d.position? d.elements[i].id = some i) :
    d.ids.Nodup := by
  refine List.pairwise_iff_getElem.2 ?_
  intro i j hi hj before same
  simp only [ids, List.length_map] at hi hj
  have first := found i hi
  have second := found j hj
  have equal : d.elements[i].id = d.elements[j].id := by simpa [ids] using same
  rw [equal, second] at first
  exact absurd (Option.some.inj first) (Nat.ne_of_gt before)

end Document

/-- The operation of an editor that makes an edit. -/
def ElementEdit.operation (id : ElementId) : ElementEdit → Operation
  | relabel label => .relabel id label
  | patch above => .patch id above
  | remove => .delete id
  | duplicate => .duplicate id
  | move direction => .move id direction
  | reorder other => .reorder id other

namespace Editor

theorem beq_commit? (e : Editor) (next : Option Document) :
    (next.getD e.document == (e.commit? next).2.document) = true := by
  cases next with
  | none => exact ReflBEq.rfl
  | some next => exact beq_commit e next

/-- An operation on an element leads to the document of its edit, or leaves the one there is. -/
theorem beq_perform_operation (e : Editor) (id : ElementId) (edit : ElementEdit) :
    ((e.document.edit? id (e.ids.next .node).1 edit).getD e.document ==
      (e.perform (edit.operation id)).2.document) = true := by
  cases edit with
  | remove =>
    have committed := beq_commit? e (e.document.remove? id)
    have same : (e.delete id).2.document = (e.commit? (e.document.remove? id)).2.document := by
      simp only [delete]
      split <;> rfl
    simpa only [ElementEdit.operation, perform, Document.edit?, same] using committed
  | duplicate =>
    cases there : e.document.contains id with
    | true =>
      have committed := beq_commit? { e with ids := (e.ids.next .node).2 }
        (e.document.duplicate? id (e.ids.next .node).1)
      simpa [ElementEdit.operation, perform, Document.edit?, duplicate, there] using committed
    | false =>
      have missing : id ∉ e.document.ids := by simp [← Document.contains_iff, there]
      have none := Document.edit?_of_not_mem missing (e.ids.next .node).1 .duplicate
      simp [ElementEdit.operation, perform, duplicate, there, none]
  | relabel label => exact beq_commit? e _
  | patch above => exact beq_commit? e _
  | move direction => exact beq_commit? e _
  | reorder other => exact beq_commit? e _

/-- What it means that the element at a place can be addressed: its id stands for it, every edit by
that id is an edit of this element, and the operation for it leads to what the edit gives. -/
structure Addressable (e : Editor) (i : Nat) (inside : i < e.document.elements.length) : Prop where
  position : e.document.position? e.document.elements[i].id = some i
  settled : ∀ copyId edit, e.document.Settled e.document.elements[i].id copyId
    (e.document.elements.take i) e.document.elements[i] (e.document.elements.drop (i + 1)) edit
  performed : ∀ edit,
    ((e.document.edit? e.document.elements[i].id (e.ids.next .node).1 edit).getD e.document ==
      (e.perform (edit.operation e.document.elements[i].id)).2.document) = true

theorem addressable_iff_nodup (e : Editor) :
    (∀ i inside, e.Addressable i inside) ↔ e.document.ids.Nodup := by
  refine ⟨?_, ?_⟩
  · intro all
    exact Document.nodup_of_position? fun i inside => (all i inside).position
  · intro nodup i inside
    have splits := Document.splits_of_nodup nodup inside
    refine ⟨?_, splits.edit?, beq_perform_operation e _⟩
    simpa [Nat.min_eq_left (Nat.le_of_lt inside)] using splits.position?

theorem eq_ok_of_isOk {result : Except Failure Unit} (h : result.isOk = true) :
    result = .ok () := by
  cases result with
  | error failure => cases h
  | ok done => rfl

/-- **An imported page is addressable if its text repeats no id.** A text that is taken in gives the
page exactly the ids of its elements. So all elements of the page can be addressed if and only if
the ids of the text are distinct. -/
theorem addressable_of_import (s : Editor) (text : String)
    (taken : (s.importText text).1 = .ok ()) :
    let e := (s.importText text).2
    ∃ payload, Payload.parse text = .ok payload ∧
      e.document.ids = payload.elements.map (·.id) ∧
      ((∀ i inside, e.Addressable i inside) ↔ (payload.elements.map (·.id)).Nodup) := by
  intro e
  cases parsed : Payload.parse text with
  | error failure =>
    simp [importText, Document.importText, parsed, Except.map] at taken
  | ok payload =>
    have given : e.document.ids = payload.elements.map (·.id) := by
      simp only [e, importText, Document.importText, parsed, Except.map, ids_commit]
      rfl
    refine ⟨payload, rfl, given, ?_⟩
    rw [addressable_iff_nodup, given]

/-- A page whose ids are distinct. -/
theorem addressable_of_two_ids :
    let page := "\x7b\"elements\":[[\"a\",\"card\"],[\"b\",\"hero\"]]\x7d"
    let s := openOn {} ⟨"s", 0⟩
    let e := (s.importText page).2
    (s.importText page).1 = .ok () ∧ ∀ i inside, e.Addressable i inside := by
  intro page s e
  have taken : (s.importText page).1 = .ok () := eq_ok_of_isOk (by decide +kernel)
  rcases addressable_of_import s page taken with ⟨payload, -, given, addressable⟩
  refine ⟨taken, addressable.2 ?_⟩
  rw [← given]
  decide +kernel

/-- A page that repeats an id is taken in. The id of its second element stands for the first one,
and an edit of the second element changes the first one. -/
theorem not_addressable_of_repeated_id :
    let page := "\x7b\"elements\":[[\"a\",\"card\"],[\"a\",\"hero\"]]\x7d"
    let s := openOn {} ⟨"s", 0⟩
    let e := (s.importText page).2
    (s.importText page).1 = .ok () ∧ e.document.ids = ["a", "a"] ∧ ¬ e.document.ids.Nodup ∧
      (e.document.elements[1]?.map (·.id)).bind e.document.position? = some 0 ∧
      (e.relabel "a" "x").2.document.elements.map (·.label) = ["x", ""] := by
  intro page s e
  have taken : (s.importText page).1 = .ok () := eq_ok_of_isOk (by decide +kernel)
  have ids : e.document.ids = ["a", "a"] := by decide +kernel
  refine ⟨taken, ids, ?_, ?_, ?_⟩
  · rw [ids]
    decide
  · decide +kernel
  · decide +kernel

end Editor
end PageBuilder
