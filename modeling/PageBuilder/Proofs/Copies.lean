import PageBuilder.Proofs.Creation
import PageBuilder.Proofs.Targets

/-!
# Copies

To duplicate an element is to put a copy of it behind it, under the next id, as one step. To take
that step back restores the document, and so does to take out the copy. For the latter the new id
has to stand for the copy, which it does if nothing in the document had it; an imported page may
have any ids, also those that are still to be given out.
-/

namespace PageBuilder

/-! ## The copy in the document -/

namespace Document

variable {d : Document} {id copyId : ElementId} {front back : List Element} {target : Element}

/-- The document with a copy behind the target. -/
def copied (d : Document) (copyId : ElementId) (front : List Element) (target : Element)
    (back : List Element) : Document :=
  { d with elements := front ++ target :: { target with id := copyId } :: back }

theorem Splits.id_mem_ids (splits : d.Splits id front target back) : id ∈ d.ids := by
  have member : target ∈ d.elements := by simp [splits.elements]
  exact splits.id_target ▸ List.mem_map_of_mem member

/-- A copy is one id more, so that the document with it counts as another one. -/
theorem Splits.ids_copied_ne (splits : d.Splits id front target back) :
    (d.copied copyId front target back).ids ≠ d.ids := by
  intro same
  have count := congrArg List.length same
  simp [Document.ids, copied, splits.elements] at count

/-- An id that is new in a document stands for the copy that gets it. -/
theorem Splits.copied (splits : d.Splits id front target back) (fresh : copyId ∉ d.ids) :
    (d.copied copyId front target back).Splits copyId (front ++ [target])
      { target with id := copyId } back := by
  refine ⟨by simp [Document.copied], rfl, ?_⟩
  intro e earlier same
  have member : e ∈ d.elements := by
    rw [splits.elements, List.append_cons]
    exact List.mem_append_left back earlier
  exact fresh (same ▸ List.mem_map_of_mem member)

/-- To take out the copy restores the document. -/
theorem Splits.remove?_copied (splits : d.Splits id front target back) (fresh : copyId ∉ d.ids) :
    (d.copied copyId front target back).remove? copyId = some d := by
  calc
    (d.copied copyId front target back).remove? copyId
        = some { d with elements := front ++ [target] ++ back } := (splits.copied fresh).remove?
    _ = some d := by
      rw [List.append_assoc, List.singleton_append, ← splits.elements]

end Document

/-! ## The copy in the editor -/

namespace Editor

variable {e : Editor} {id : ElementId} {front back : List Element} {target : Element}

theorem duplicate_of_splits (splits : e.document.Splits id front target back) :
    let copyId := (e.ids.next .node).1
    let next := e.document.copied copyId front target back
    e.duplicate id = (some copyId, { e with
      ids := (e.ids.next .node).2
      document := next
      history := e.history.commit e.document
      store := e.store.persistDocument next }) := by
  intro copyId next
  let start : Editor := { e with ids := (e.ids.next .node).2 }
  have there : e.document.contains id = true := Document.contains_iff.2 splits.id_mem_ids
  have copy : e.document.duplicate? id copyId = some next := splits.duplicate? copyId
  have differs : (next == start.document) = false :=
    Document.beq_eq_false_of_ids splits.ids_copied_ne
  calc
    e.duplicate id =
        let made := start.commit? (e.document.duplicate? id copyId)
        (if made.1 then some copyId else none, made.2) := by
      simp only [duplicate, there, if_true]
      rfl
    _ = (if (start.commit next).1 then some copyId else none, (start.commit next).2) := by
      rw [copy]
      rfl
    _ = (some copyId, { start with
          document := next
          history := e.history.commit e.document
          store := e.store.persistDocument next }) := by
      rw [commit_of_differs differs]
      rfl

theorem delete_of_remove? {next : Document} (removed : e.document.remove? id = some next)
    (differs : (next == e.document) = false) :
    (e.delete id).1 = true ∧ (e.delete id).2.document = next := by
  have committed : e.commit? (e.document.remove? id) = e.commit next := by
    rw [removed]
    rfl
  simp only [delete, committed, commit_of_differs differs, Bool.true_and]
  -- Whether the element was selected makes no difference to the document.
  split <;> exact ⟨rfl, rfl⟩

/-- What it means that one editor has got a copy of an element of another one, under some id. -/
structure Copied (e t : Editor) (id copyId : ElementId) : Prop where
  drawn : e.ids.next .node = (copyId, t.ids)
  grown : t.document.elements.length = e.document.elements.length + 1
  /-- The copy stands behind the first element with the id and differs from it in its own id alone;
  nothing else in the document is changed. -/
  placed : ∃ front target back, e.document.Splits id front target back ∧
    t.document = { e.document with
      elements := front ++ target :: { target with id := copyId } :: back }
  selected : t.view.selected = e.view.selected
  step : OneStep e t
  /-- To delete what has the id of the copy is to delete the copy, if nothing had that id before. -/
  deleted : copyId ∉ e.document.ids →
    (t.delete copyId).1 = true ∧ (t.delete copyId).2.document = e.document

theorem copied_duplicate (bounded : e.Bounded) (splits : e.document.Splits id front target back) :
    (e.duplicate id).1 = some (e.ids.next .node).1 ∧
      Copied e (e.duplicate id).2 id (e.ids.next .node).1 := by
  rw [duplicate_of_splits splits]
  refine ⟨rfl, rfl, ?_, ⟨front, target, back, splits, rfl⟩, rfl, .of_recorded bounded rfl, ?_⟩
  · simp [Document.copied, splits.elements, Nat.add_assoc]
  · intro fresh
    exact delete_of_remove? (splits.remove?_copied fresh)
      (Document.beq_eq_false_of_ids splits.ids_copied_ne.symm)

/-- **A copy can be taken back.** To duplicate an element of a reachable editor gives the next id
and puts the copy with this id behind the first element with the given one; the others stay as they
are, and so does the selection. It is one step, whose undo restores the document. To delete the copy
by its id restores the document as well, if no element had that id before. -/
theorem duplicate_of_run (store : Store) (ids : IdSource) (before : List Operation) (id : ElementId)
    (there : id ∈ ((openOn store ids).run before).document.ids) :
    let e := (openOn store ids).run before
    (e.duplicate id).1 = some (e.ids.next .node).1 ∧
      Copied e (e.duplicate id).2 id (e.ids.next .node).1 := by
  intro e
  have bounded : e.Bounded := bounded_run store ids before
  rcases Document.exists_splits there with ⟨front, target, back, splits⟩
  exact copied_duplicate bounded splits

/-- A page has an id twice; the first element with it is duplicated while it is selected, and the new
id is none of the page. -/
theorem duplicate_of_repeated_id :
    let page : Document :=
      { elements := [⟨"a", .card, "first", {}⟩, ⟨"a", .hero, "second", {}⟩, ⟨"b", .text, "", {}⟩] }
    let e := (openOn {} ⟨"s", 0⟩).run [.commit page, .view (.select "a")]
    let t := (e.duplicate "a").2
    "a" ∈ e.document.ids ∧ "node-s-1" ∉ e.document.ids ∧
      (e.duplicate "a").1 = some "node-s-1" ∧ Copied e t "a" "node-s-1" ∧
      t.document.ids = ["a", "node-s-1", "a", "b"] ∧
      (t.delete "node-s-1").2.document = e.document := by
  intro page e t
  have there : "a" ∈ e.document.ids := by decide +kernel
  have fresh : "node-s-1" ∉ e.document.ids := by decide +kernel
  have next : (e.ids.next .node).1 = "node-s-1" := by decide +kernel
  have order : t.document.ids = ["a", "node-s-1", "a", "b"] := by decide +kernel
  rcases duplicate_of_run {} ⟨"s", 0⟩ [.commit page, .view (.select "a")] "a" there with
    ⟨given, copied⟩
  have copied : Copied e t "a" "node-s-1" := next ▸ copied
  exact ⟨there, fresh, next ▸ given, copied, order, (copied.deleted fresh).2⟩

end Editor

end PageBuilder
