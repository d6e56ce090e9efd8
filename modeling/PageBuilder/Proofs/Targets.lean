import PageBuilder.Proofs.Ids
import PageBuilder.Proofs.Properties

/-!
# Edits touch only their target

An edit is made to the first element with an id. `Document.Splits` says which one that is, by the
elements before and behind it, and `ElementEdit.Leads` says what becomes of these three parts, so
that it shows what stays: everything else keeps its place among the others. An edit is refused only
if there is no such element, or if there is no way to move it.

Ids may be repeated; then the later elements with an id are among those that stay.
-/

namespace PageBuilder

/-! ## Edits -/

/-- A change of the element with some id. -/
inductive ElementEdit
  | relabel (label : String)
  | patch (patch : Props)
  | remove
  | duplicate
  | move (direction : Direction)
  /-- A move to the place of the element with the given id. -/
  | reorder (other : ElementId)

/-- Makes an edit; the copy that a duplication puts in gets the id `copyId`. -/
def Document.edit? (d : Document) (id copyId : ElementId) : ElementEdit → Option Document
  | .relabel label => d.relabel? id label
  | .patch patch => d.patch? id patch
  | .remove => d.remove? id
  | .duplicate => d.duplicate? id copyId
  | .move direction => d.move? id direction
  | .reorder other => d.reorder? id other

namespace ElementEdit

/-- Whether an edit only rearranges the elements. -/
def rearranges : ElementEdit → Bool
  | move _ => true
  | reorder _ => true
  | _ => false

/-- Whether an element that is there cannot be moved as an edit asks: it stands at that end already,
or the place to go to is its own or nowhere. -/
def Blocked (d : Document) (id : ElementId) : ElementEdit → Prop
  | move .up => d.position? id = some 0
  | move .down => d.position? id = some (d.elements.length - 1)
  | reorder other => other ∉ d.ids ∨ d.position? other = d.position? id
  | _ => False

/-- What an edit of `target` makes of the elements of a document, which were those of `front`, the
target and those of `back`. -/
def Leads (d : Document) (copyId : ElementId) (front : List Element) (target : Element)
    (back : List Element) : ElementEdit → List Element → Prop
  | relabel label, elements => elements = front ++ { target with label } :: back
  | patch above, elements => ∃ props, elements = front ++ { target with props } :: back ∧
      ∀ name, props.get name = (above.get name).or (target.props.get name)
  | remove, elements => elements = front ++ back
  | duplicate, elements => elements = front ++ target :: { target with id := copyId } :: back
  | move .up, elements => ∃ before above, front = before ++ [above] ∧
      elements = before ++ target :: above :: back
  | move .down, elements => ∃ below behind, back = below :: behind ∧
      elements = front ++ below :: target :: behind
  | reorder other, elements => ∃ before behind, before ++ behind = front ++ back ∧
      d.position? other = some before.length ∧ elements = before ++ target :: behind

/-- An edit that rearranges leaves the same elements, in another order. -/
theorem Leads.perm {d : Document} {copyId : ElementId} {front back elements : List Element}
    {target : Element} {edit : ElementEdit} (leads : edit.Leads d copyId front target back elements)
    (rearranges : edit.rearranges = true) : elements.Perm (front ++ target :: back) := by
  cases edit with
  | move direction =>
    cases direction with
    | up =>
      rcases leads with ⟨before, above, rfl, rfl⟩
      simpa using (List.Perm.swap above target back).append_left before
    | down =>
      rcases leads with ⟨below, behind, rfl, rfl⟩
      exact (List.Perm.swap target below behind).append_left front
  | reorder other =>
    rcases leads with ⟨before, behind, others, -, rfl⟩
    calc
      List.Perm (before ++ target :: behind) (target :: (before ++ behind)) := List.perm_middle
      _ = target :: (front ++ back) := by rw [others]
      List.Perm _ (front ++ target :: back) := List.perm_middle.symm
  | _ => cases rearranges

end ElementEdit

namespace Order

variable {α : Type}

/-! ### Items by what stands around them -/

theorem replaceAt?_append (front back : List α) (a b : α) :
    replaceAt? (front ++ a :: back) front.length b = some (front ++ b :: back) := by
  simp [replaceAt?]

theorem removeAt?_append (front back : List α) (a : α) :
    removeAt? (front ++ a :: back) front.length = some (front ++ back) := by
  simp [removeAt?, List.eraseIdx_append_of_length_le]

theorem insertIdx_append (front back : List α) (a : α) :
    (front ++ back).insertIdx front.length a = front ++ a :: back := by
  induction front with
  | nil => rfl
  | cons c front ih => simpa using ih

theorem insertAfter?_append (front back : List α) (a b : α) :
    insertAfter? (front ++ a :: back) front.length b = some (front ++ a :: b :: back) := by
  have behind := insertIdx_append (front ++ [a]) back b
  simp only [List.append_assoc, List.singleton_append, List.length_append, List.length_cons,
    List.length_nil] at behind
  simp [insertAfter?, behind]

theorem swapWithNext_append (front back : List α) (a b : α) :
    swapWithNext (front ++ a :: b :: back) front.length = front ++ b :: a :: back := by
  induction front with
  | nil => rfl
  | cons c front ih =>
    have later : swapWithNext (c :: (front ++ a :: b :: back)) (front.length + 1) =
        c :: swapWithNext (front ++ a :: b :: back) front.length := by
      cases front <;> rfl
    simpa [ih] using later

theorem swapNeighbor_up_append (front back : List α) (above a : α) :
    swapNeighbor (front ++ [above] ++ a :: back) (front ++ [above]).length .up =
      .moved (front ++ a :: above :: back) := by
  simp [swapNeighbor, swapWithNext_append]

theorem swapNeighbor_down_append (front back : List α) (a below : α) :
    swapNeighbor (front ++ a :: below :: back) front.length .down =
      .moved (front ++ below :: a :: back) := by
  simp [swapNeighbor, swapWithNext_append]

/-- The item that is moved stands at its new place, and the others keep their order. -/
theorem moveTo?_append (front back : List α) (a : α) {target : Nat}
    (inside : target < (front ++ a :: back).length) :
    ∃ before behind, before ++ behind = front ++ back ∧ before.length = target ∧
      moveTo? (front ++ a :: back) front.length target = some (before ++ a :: behind) := by
  have room : target ≤ (front ++ back).length := by
    simp only [List.length_append, List.length_cons] at inside ⊢
    omega
  let before := (front ++ back).take target
  let behind := (front ++ back).drop target
  have others : before ++ behind = front ++ back := List.take_append_drop _ _
  have place : before.length = target := List.length_take_of_le room
  have there : (front ++ a :: back)[front.length]? = some a := by simp
  have taken : (front ++ a :: back).eraseIdx front.length = before ++ behind := by
    simp [others, List.eraseIdx_append_of_length_le]
  have put : (before ++ behind).insertIdx target a = before ++ a :: behind := by
    simpa only [place] using insertIdx_append before behind a
  refine ⟨before, behind, others, place, ?_⟩
  simp only [moveTo?, there, inside, if_true, taken, put]

end Order

/-! ## The target -/

namespace Document

/-- Which element an id stands for: the first one that has it. -/
structure Splits (d : Document) (id : ElementId) (front : List Element) (target : Element)
    (back : List Element) : Prop where
  elements : d.elements = front ++ target :: back
  id_target : target.id = id
  first : ∀ e ∈ front, e.id ≠ id

/-- What an edit comes to: it is refused for a reason, or it leads to a document that differs from
the one before in its elements alone. -/
inductive Settled (d : Document) (id copyId : ElementId) (front : List Element) (target : Element)
    (back : List Element) (edit : ElementEdit) : Prop
  | refused (blocked : edit.Blocked d id) (none : d.edit? id copyId edit = none)
  | made (free : ¬ edit.Blocked d id) (elements : List Element)
      (some : d.edit? id copyId edit = some { d with elements })
      (leads : edit.Leads d copyId front target back elements)

variable {d : Document} {id : ElementId} {front back : List Element} {target : Element}

theorem position?_eq_none_iff : d.position? id = none ↔ id ∉ d.ids := by
  simp [position?, ids]

theorem exists_splits (h : id ∈ d.ids) : ∃ front target back, d.Splits id front target back := by
  rcases List.mem_map.1 h with ⟨e, there, same⟩
  have found : (d.elements.find? (·.id == id)).isSome :=
    List.find?_isSome.2 ⟨e, there, beq_iff_eq.2 same⟩
  rcases Option.isSome_iff_exists.1 found with ⟨target, first⟩
  rcases List.find?_eq_some_iff_append.1 first with ⟨same, front, back, whole, others⟩
  exact ⟨front, target, back, whole, beq_iff_eq.1 same, by simpa using others⟩

namespace Splits

theorem position? (splits : d.Splits id front target back) :
    d.position? id = some front.length := by
  have there : front.length < d.elements.length := by simp [splits.elements]
  refine List.findIdx?_eq_some_iff_getElem.2 ⟨there, ?_, ?_⟩
  · simp [splits.elements, splits.id_target]
  · intro place before
    have member : front[place] ∈ front := List.getElem_mem before
    have earlier : d.elements[place] = front[place] := by
      simp [splits.elements, List.getElem_append_left before]
    simpa [earlier] using splits.first _ member

theorem modify? (splits : d.Splits id front target back) (f : Element → Element) :
    d.modify? id f = some { d with elements := front ++ f target :: back } := by
  simp [Document.modify?, splits.position?, splits.elements, Order.replaceAt?_append]

theorem remove? (splits : d.Splits id front target back) :
    d.remove? id = some { d with elements := front ++ back } := by
  simp [Document.remove?, splits.position?, splits.elements, Order.removeAt?_append]

theorem duplicate? (splits : d.Splits id front target back) (copyId : ElementId) :
    d.duplicate? id copyId =
      some { d with elements := front ++ target :: { target with id := copyId } :: back } := by
  simp [Document.duplicate?, splits.position?, splits.elements, Order.insertAfter?_append]

theorem move_up (splits : d.Splits id front target back) (copyId : ElementId) :
    Settled d id copyId front target back (.move .up) := by
  -- There is an element above if and only if the front is not empty.
  rcases List.eq_nil_or_concat front with rfl | ⟨before, above, rfl⟩
  · refine .refused splits.position? ?_
    simp [edit?, move?, splits.position?, splits.elements, Order.swapNeighbor]
  · refine .made ?_ (before ++ target :: above :: back) ?_ ⟨before, above, by simp, rfl⟩
    · simp [ElementEdit.Blocked, splits.position?]
    · have swapped := Order.swapNeighbor_up_append before back above target
      simp only [edit?, move?, splits.position?, splits.elements, Option.bind_eq_bind,
        Option.bind_some, List.concat_eq_append, swapped]

theorem move_down (splits : d.Splits id front target back) (copyId : ElementId) :
    Settled d id copyId front target back (.move .down) := by
  cases back with
  | nil =>
    refine .refused ?_ ?_
    · simp [ElementEdit.Blocked, splits.position?, splits.elements]
    · simp [edit?, move?, splits.position?, splits.elements, Order.swapNeighbor]
  | cons below behind =>
    refine .made ?_ (front ++ below :: target :: behind) ?_ ⟨below, behind, rfl, rfl⟩
    · simp [ElementEdit.Blocked, splits.position?, splits.elements]
    · simp [edit?, move?, splits.position?, splits.elements, Order.swapNeighbor_down_append]

theorem reorder (splits : d.Splits id front target back) (copyId other : ElementId) :
    Settled d id copyId front target back (.reorder other) := by
  cases place : d.position? other with
  | none =>
    refine .refused (Or.inl (position?_eq_none_iff.1 place)) ?_
    simp [edit?, reorder?, splits.position?, place]
  | some index =>
    by_cases same : index = front.length
    · refine .refused (Or.inr ?_) ?_
      · rw [place, splits.position?, same]
      · simp [edit?, reorder?, splits.position?, place, same]
    · have inside : index < (front ++ target :: back).length := by
        rw [← splits.elements]
        exact (List.findIdx?_eq_some_iff_getElem.1 place).1
      rcases Order.moveTo?_append front back target inside with
        ⟨before, behind, others, stands, moved⟩
      refine .made ?_ (before ++ target :: behind) ?_ ⟨before, behind, others, ?_, rfl⟩
      · rintro (missing | equal)
        · rw [position?_eq_none_iff.2 missing] at place
          cases place
        · rw [place, splits.position?] at equal
          exact same (Option.some.inj equal)
      · have apart : front.length ≠ index := fun equal => same equal.symm
        simp [edit?, reorder?, splits.position?, place, apart, splits.elements, moved]
      · rw [place, stands]

/-- One lemma for all edits: what an edit of the target comes to. -/
theorem edit? (splits : d.Splits id front target back) (copyId : ElementId) (edit : ElementEdit) :
    Settled d id copyId front target back edit := by
  cases edit with
  | relabel label =>
    exact .made not_false _ (splits.modify? _) rfl
  | patch patch =>
    refine .made not_false _ (splits.modify? _) ⟨target.props.merge patch, rfl, ?_⟩
    exact Props.get_merge target.props patch
  | remove =>
    exact .made not_false _ splits.remove? rfl
  | duplicate =>
    exact .made not_false _ (splits.duplicate? copyId) rfl
  | move direction =>
    cases direction with
    | up => exact splits.move_up copyId
    | down => exact splits.move_down copyId
  | reorder other =>
    exact splits.reorder copyId other

end Splits

theorem edit?_of_not_mem (missing : id ∉ d.ids) (copyId : ElementId) (edit : ElementEdit) :
    d.edit? id copyId edit = none := by
  have none : d.position? id = none := position?_eq_none_iff.2 missing
  cases edit <;>
    simp [edit?, relabel?, patch?, modify?, remove?, duplicate?, move?, reorder?, none]

/-- **Edits touch only their target.** An edit gives no document exactly if there is no element with
the id or the way is blocked. If it gives one, the settings of the page are as before, the target of
the edit is the first element with the id, and only the target is changed, taken out, copied or
moved; an edit that moves it leaves the same elements in another order. -/
theorem edit_of_target (d : Document) (id copyId : ElementId) (edit : ElementEdit) :
    (d.edit? id copyId edit = none ↔ id ∉ d.ids ∨ edit.Blocked d id) ∧
    ∀ d', d.edit? id copyId edit = some d' →
      d'.theme = d.theme ∧ d'.columns = d.columns ∧ d'.brand = d.brand ∧
      (∃ front target back, d.Splits id front target back ∧
        edit.Leads d copyId front target back d'.elements) ∧
      (edit.rearranges = true → d'.elements.Perm d.elements) := by
  by_cases there : id ∈ d.ids
  · rcases exists_splits there with ⟨front, target, back, splits⟩
    cases splits.edit? copyId edit with
    | refused blocked none =>
      simp [there, blocked, none]
    | made free elements some leads =>
      refine ⟨by simp [there, free, some], ?_⟩
      intro d' given
      cases some.symm.trans given
      refine ⟨rfl, rfl, rfl, ⟨front, target, back, splits, leads⟩, ?_⟩
      intro rearranges
      rw [splits.elements]
      exact leads.perm rearranges
  · have none := edit?_of_not_mem there copyId edit
    simp [there, none]

/-- Of two elements with an id the first one is moved, here to the place of the last element. -/
theorem edit_of_repeated_id :
    let b : Element := ⟨"b", .text, "", {}⟩
    let a : Element := ⟨"a", .card, "first", {}⟩
    let again : Element := ⟨"a", .hero, "second", {}⟩
    let c : Element := ⟨"c", .badge, "", {}⟩
    let d : Document := { elements := [b, a, again, c] }
    let d' : Document := { elements := [b, again, c, a] }
    d.edit? "a" "n" (.reorder "c") = some d' ∧ d'.theme = d.theme ∧ d'.columns = d.columns ∧
      d'.brand = d.brand ∧
      (∃ front target back, d.Splits "a" front target back ∧
        (ElementEdit.reorder "c").Leads d "n" front target back d'.elements) ∧
      d'.elements.Perm d.elements := by
  intro b a again c d d'
  have made : d.edit? "a" "n" (.reorder "c") = some d' := by decide +kernel
  have touched := (d.edit_of_target "a" "n" (.reorder "c")).2 d' made
  rcases touched with ⟨theme, columns, brand, target, permuted⟩
  exact ⟨made, theme, columns, brand, target, permuted rfl⟩

end Document
end PageBuilder
