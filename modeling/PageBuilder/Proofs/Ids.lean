import Mathlib.Data.List.Perm.Subperm
import Mathlib.Data.List.InsertIdx
import PageBuilder.Gallery.Blueprint

/-!
# Ids of documents

An id ends in its number, so ids with different numbers are different, whatever the session and the
scope are. Changes of a document do not invent ids: what a changed document has, it had before or
has been given.
-/

namespace PageBuilder

/-! ## The text of an id -/

theorem behind_last_hyphen {xs ys ds es : List Char} (hd : '-' ∉ ds) (he : '-' ∉ es)
    (same : xs ++ '-' :: ds = ys ++ '-' :: es) : ds = es := by
  -- Read from its end, an id gives its number up to the first hyphen.
  have last : ∀ {zs cs : List Char}, '-' ∉ cs →
      (zs ++ '-' :: cs).reverse.takeWhile (· ≠ '-') = cs.reverse := by
    intro zs cs hc
    have front : ∀ c ∈ cs.reverse, decide (c ≠ '-') = true := by
      intro c member
      have : c ≠ '-' := fun hyphen => hc (hyphen ▸ List.mem_reverse.1 member)
      simpa using this
    rw [List.reverse_append, List.reverse_cons, List.append_assoc,
      List.takeWhile_append_of_pos front]
    simp
  have reversed : ds.reverse = es.reverse := by
    rw [← last hd, ← last he, same]
  exact List.reverse_injective reversed

theorem hyphen_not_mem_digits (n : Nat) : '-' ∉ Nat.toDigits 10 n := by
  intro member
  have digit : '-'.isDigit = true := Nat.isDigit_of_mem_toDigits (by decide) (by decide) member
  exact absurd digit (by decide)

theorem toDigits_injective {n m : Nat} (same : Nat.toDigits 10 n = Nat.toDigits 10 m) : n = m := by
  calc
    n = Nat.ofDigitChars 10 (Nat.toDigits 10 n) 0 := Nat.ofDigitChars_ten_toDigits.symm
    _ = Nat.ofDigitChars 10 (Nat.toDigits 10 m) 0 := by rw [same]
    _ = m := Nat.ofDigitChars_ten_toDigits

theorem toList_idOf (session : String) (scope : Scope) (n : Nat) :
    (IdSource.idOf session scope n).toList =
      (scope.tag.toList ++ '-' :: session.toList) ++ '-' :: Nat.toDigits 10 n := by
  have hyphen : (toString "-").toList = ['-'] := rfl
  have plain : ∀ t : String, (toString t).toList = t.toList := fun _ => rfl
  simp [IdSource.idOf, Nat.toList_repr, hyphen, plain]

/-- Ids with different numbers are different. -/
theorem number_of_idOf {session session' : String} {scope scope' : Scope} {n m : Nat}
    (same : IdSource.idOf session scope n = IdSource.idOf session' scope' m) : n = m := by
  have texts := congrArg String.toList same
  rw [toList_idOf, toList_idOf] at texts
  exact toDigits_injective
    (behind_last_hyphen (hyphen_not_mem_digits n) (hyphen_not_mem_digits m) texts)

/-! ## Drawing ids -/

namespace IdSource

variable {source source' source'' : IdSource} {scopes : List Scope} {ids : List ElementId}

theorem take_cons (source : IdSource) (scope : Scope) (rest : List Scope) :
    source.take (scope :: rest) =
      ((source.next scope).1 :: ((source.next scope).2.take rest).1,
        ((source.next scope).2.take rest).2) :=
  rfl

theorem take_append {others : List Scope} {more : List ElementId}
    (first : source.take scopes = (ids, source'))
    (second : source'.take others = (more, source'')) :
    source.take (scopes ++ others) = (ids ++ more, source'') := by
  induction scopes generalizing source ids with
  | nil =>
    cases first
    exact second
  | cons scope rest ih =>
    rw [take_cons] at first
    cases first
    rw [List.cons_append, take_cons, ih rfl]
    rfl

/-- What is drawn is numbered on from what was issued before. -/
theorem number_of_take (drawn : source.take scopes = (ids, source')) :
    source'.session = source.session ∧ source.issued ≤ source'.issued ∧
      ∀ id ∈ ids, ∃ scope n, source.issued < n ∧ n ≤ source'.issued ∧
        id = idOf source.session scope n := by
  induction scopes generalizing source ids with
  | nil =>
    cases drawn
    exact ⟨rfl, Nat.le_refl _, by simp⟩
  | cons scope rest ih =>
    rw [take_cons] at drawn
    cases drawn
    have later : (source.next scope).2.take rest = (((source.next scope).2.take rest).1, _) := rfl
    rcases ih later with ⟨session, grown, numbered⟩
    have step : (source.next scope).2.issued = source.issued + 1 := rfl
    refine ⟨session, by omega, ?_⟩
    intro id member
    rcases List.mem_cons.1 member with rfl | later
    · exact ⟨scope, source.issued + 1, by omega, by omega, rfl⟩
    · rcases numbered id later with ⟨scope', n, above, below, same⟩
      exact ⟨scope', n, by omega, below, same⟩

theorem nodup_take (drawn : source.take scopes = (ids, source')) : ids.Nodup := by
  induction scopes generalizing source ids with
  | nil =>
    cases drawn
    exact List.nodup_nil
  | cons scope rest ih =>
    rw [take_cons] at drawn
    cases drawn
    refine List.nodup_cons.2 ⟨?_, ih rfl⟩
    intro again
    -- What is drawn later has a greater number than the first one.
    have later : (source.next scope).2.take rest = (((source.next scope).2.take rest).1, _) := rfl
    rcases number_of_take later with ⟨-, -, numbered⟩
    rcases numbered _ again with ⟨scope', n, above, -, same⟩
    have number : source.issued + 1 = n := number_of_idOf same
    have step : (source.next scope).2.issued = source.issued + 1 := rfl
    omega

end IdSource

theorem Blueprint.build_eq_take (source : IdSource) (scope : Scope) (blueprints : List Blueprint) :
    source.take (List.replicate blueprints.length scope) =
      ((Blueprint.build source scope blueprints).1.map (·.id),
        (Blueprint.build source scope blueprints).2) := by
  induction blueprints generalizing source with
  | nil =>
    rfl
  | cons b rest ih =>
    rw [List.length_cons, List.replicate_succ, IdSource.take_cons, ih]
    rfl

/-! ## Changing documents -/

namespace Order

variable {α : Type} {items items' : List α}

theorem swapWithNext_perm (items : List α) (index : Nat) :
    (swapWithNext items index).Perm items := by
  induction items generalizing index with
  | nil =>
    cases index <;> exact List.Perm.refl _
  | cons a rest ih =>
    cases index with
    | zero =>
      cases rest with
      | nil => exact List.Perm.refl _
      | cons b more => exact List.Perm.swap a b more
    | succ index =>
      have later : swapWithNext (a :: rest) (index + 1) = a :: swapWithNext rest index := by
        cases rest <;> rfl
      rw [later]
      exact (ih index).cons a

theorem swapNeighbor_perm {index : Nat} {direction : Direction}
    (h : swapNeighbor items index direction = .moved items') : items'.Perm items := by
  cases direction with
  | up =>
    cases index with
    | zero =>
      cases h
    | succ above =>
      simp only [swapNeighbor] at h
      split at h
      · cases h
        exact swapWithNext_perm items above
      · cases h
  | down =>
    simp only [swapNeighbor] at h
    split at h
    · cases h
      exact swapWithNext_perm items index
    · cases h

theorem moveTo?_perm {source target : Nat} (h : moveTo? items source target = some items') :
    items'.Perm items := by
  unfold moveTo? at h
  cases there : items[source]? with
  | none =>
    simp [there] at h
  | some item =>
    simp only [there, Option.ite_none_right_eq_some, Option.some.injEq] at h
    rcases h with ⟨bound, rfl⟩
    rcases List.getElem?_eq_some_iff.1 there with ⟨inside, rfl⟩
    -- The item is taken out before it is put in, so there is one place less.
    have room : target ≤ (items.eraseIdx source).length := by
      rw [List.length_eraseIdx_of_lt inside]
      omega
    exact (List.perm_insertIdx _ _ room).trans (List.getElem_cons_eraseIdx_perm inside)

end Order

namespace Document

variable {d d' : Document} {id : ElementId}

theorem ids_modify? {f : Element → Element} (keeps : ∀ e, (f e).id = e.id)
    (h : d.modify? id f = some d') : d'.ids = d.ids := by
  simp only [modify?, Order.replaceAt?, Option.bind_eq_bind, Option.bind_eq_some_iff,
    Option.ite_none_right_eq_some, Option.some.injEq, Option.pure_def] at h
  rcases h with ⟨index, -, element, there, elements, ⟨bound, rfl⟩, rfl⟩
  rcases List.getElem?_eq_some_iff.1 there with ⟨inside, rfl⟩
  calc
    (d.elements.set index (f d.elements[index])).map (·.id)
        = (d.elements.set index d.elements[index]).map (·.id) := by
          rw [List.map_set, List.map_set, keeps]
    _ = d.ids := by rw [List.set_getElem_self, ids]

theorem ids_remove? (h : d.remove? id = some d') : d'.ids.Sublist d.ids := by
  simp only [remove?, Order.removeAt?, Option.bind_eq_bind, Option.bind_eq_some_iff,
    Option.ite_none_right_eq_some, Option.some.injEq, Option.pure_def] at h
  rcases h with ⟨index, -, elements, ⟨bound, rfl⟩, rfl⟩
  exact (List.eraseIdx_sublist _ index).map _

theorem ids_duplicate? {newId : ElementId} (h : d.duplicate? id newId = some d') :
    d'.ids.Perm (d.ids ++ [newId]) := by
  simp only [duplicate?, Order.insertAfter?, Option.bind_eq_bind, Option.bind_eq_some_iff,
    Option.ite_none_right_eq_some, Option.some.injEq, Option.pure_def] at h
  rcases h with ⟨index, -, element, there, elements, ⟨bound, rfl⟩, rfl⟩
  -- The copy differs from the element only in its id.
  have copied := (List.perm_insertIdx { element with id := newId } d.elements
    (Nat.succ_le_of_lt bound)).map (·.id)
  exact copied.trans (List.perm_append_singleton newId d.ids).symm

theorem ids_move? {direction : Direction} (h : d.move? id direction = some d') :
    d'.ids.Perm d.ids := by
  simp only [move?, Option.bind_eq_bind, Option.bind_eq_some_iff] at h
  rcases h with ⟨index, -, moved⟩
  split at moved
  · next elements swapped =>
    cases moved
    exact (Order.swapNeighbor_perm swapped).map _
  · cases moved

theorem ids_reorder? {target : ElementId} (h : d.reorder? id target = some d') :
    d'.ids.Perm d.ids := by
  simp only [reorder?, Option.bind_eq_bind, Option.bind_eq_some_iff] at h
  rcases h with ⟨sourceIndex, -, targetIndex, -, moved⟩
  split at moved
  · cases moved
  · rcases Option.bind_eq_some_iff.1 moved with ⟨elements, put, same⟩
    cases same
    exact (Order.moveTo?_perm put).map _

theorem ids_map {f : Element → Element} (keeps : ∀ e, (f e).id = e.id) :
    ({ d with elements := d.elements.map f } : Document).ids = d.ids := by
  simp [ids, Function.comp_def, keeps]

theorem ids_append (d : Document) (batch : List Element) :
    (d.append batch).ids = d.ids ++ batch.map (·.id) :=
  List.map_append

end Document

end PageBuilder
