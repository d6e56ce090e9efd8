import Mathlib.Data.List.Induction
import PageBuilder.Proofs.Targets

/-!
# Dragging is moving step by step

An item is brought to another place in two ways: it is exchanged with its neighbour until it is
there, or it is taken out and put back in. `Order.walk?` is the first way. Both lead to the same
list, in which the item stands at its new place and the others are in the order they were in. The
way back leads to the list from before, for a single exchange as well.
-/

namespace PageBuilder

namespace Direction

def opposite : Direction → Direction
  | up => down
  | down => up

/-- Where an item stands that went one place further. -/
def next : Direction → Nat → Nat
  | up, index => index - 1
  | down, index => index + 1

end Direction

namespace Order

variable {α : Type}

/-- Exchanges the item at an index with its neighbours, one after the other, as often as asked.
Gives the list and where the item stands in it; none if there are not that many neighbours. -/
def walk? (items : List α) (index : Nat) (direction : Direction) : Nat → Option (List α × Nat)
  | 0 => some (items, index)
  | steps + 1 =>
    match swapNeighbor items index direction with
    | .moved items => walk? items (direction.next index) direction steps
    | _ => none

/-! ## Single exchanges -/

theorem exists_front {items : List α} {index : Nat} (inside : index < items.length) :
    ∃ front a back, items = front ++ a :: back ∧ front.length = index :=
  ⟨items.take index, items[index], items.drop (index + 1), by simp, by simp; omega⟩

theorem exists_pair {items : List α} {index : Nat} (inside : index + 1 < items.length) :
    ∃ front a b back, items = front ++ a :: b :: back ∧ front.length = index := by
  rcases exists_front (Nat.lt_of_succ_lt inside) with ⟨front, a, rest, rfl, rfl⟩
  cases rest with
  | nil => simp at inside
  | cons b back => exact ⟨front, a, b, back, rfl, rfl⟩

/-- An exchange is taken back by the one in the other direction. -/
theorem swapNeighbor_opposite {items swapped : List α} {index : Nat} {direction : Direction}
    (made : swapNeighbor items index direction = .moved swapped) :
    swapNeighbor swapped (direction.next index) direction.opposite = .moved items := by
  cases direction with
  | up =>
    cases index with
    | zero =>
      cases made
    | succ above =>
      simp only [swapNeighbor] at made
      split at made
      · next inside =>
        rcases exists_pair inside with ⟨front, a, b, back, rfl, rfl⟩
        rw [swapWithNext_append] at made
        cases made
        exact swapNeighbor_down_append front back b a
      · cases made
  | down =>
    simp only [swapNeighbor] at made
    split at made
    · next inside =>
      rcases exists_pair inside with ⟨front, a, b, back, rfl, rfl⟩
      rw [swapWithNext_append] at made
      cases made
      simpa [Direction.next, Direction.opposite] using swapNeighbor_up_append front back b a
    · cases made

/-! ## Long ways -/

theorem walk?_down (front passed behind : List α) (a : α) :
    walk? (front ++ a :: (passed ++ behind)) front.length .down passed.length =
      some (front ++ passed ++ a :: behind, (front ++ passed).length) := by
  -- What is passed on the way down is behind the item first and before it then.
  induction passed generalizing front with
  | nil =>
    simp [walk?]
  | cons b passed ih =>
    have step := swapNeighbor_down_append front (passed ++ behind) a b
    have rest := ih (front ++ [b])
    simp only [List.append_assoc, List.singleton_append, List.length_append, List.length_cons,
      List.length_nil] at rest
    simpa [walk?, step, Direction.next, Nat.add_assoc, Nat.add_comm 1] using rest

theorem walk?_up (front passed behind : List α) (a : α) :
    walk? (front ++ passed ++ a :: behind) (front ++ passed).length .up passed.length =
      some (front ++ a :: (passed ++ behind), front.length) := by
  induction passed using List.reverseRecOn generalizing behind with
  | nil =>
    simp [walk?]
  | append_singleton passed b ih =>
    -- The last of what is passed is the neighbour above.
    have step := swapNeighbor_up_append (front ++ passed) behind b a
    have rest := ih (b :: behind)
    simp only [← List.append_assoc, List.length_append, List.length_singleton] at step rest ⊢
    simp only [walk?, step, Direction.next]
    simpa [Nat.add_assoc] using rest

/-- An item that is taken out can be put back in wherever the others are parted. -/
theorem moveTo?_parted {front back before behind : List α} (a : α)
    (others : before ++ behind = front ++ back) :
    moveTo? (front ++ a :: back) front.length before.length = some (before ++ a :: behind) := by
  have inside : before.length < (front ++ a :: back).length := by
    have count := congrArg List.length others
    simp only [List.length_append, List.length_cons] at count ⊢
    omega
  rcases moveTo?_append front back a inside with ⟨before', behind', others', place, moved⟩
  -- Two ways to part the same items at the same place are one.
  rcases List.append_inj (others'.trans others.symm) place with ⟨rfl, rfl⟩
  exact moved

theorem eraseIdx_length_append (front back : List α) (a : α) :
    (front ++ a :: back).eraseIdx front.length = front ++ back := by
  simp [List.eraseIdx_append_of_length_le]

/-- **Dragging is moving step by step.** To take an item out of a list and put it back in elsewhere
is to exchange it with its neighbours on the way there, one after the other. The item ends at the
place it is taken to, the others are as before, and the way back restores the list. An exchange is
taken back by the one in the other direction. -/
theorem moveTo_of_steps (items : List α) :
    (∀ i j, i < items.length → j < items.length →
      ∃ moved, moveTo? items i j = some moved ∧
        (i ≤ j → walk? items i .down (j - i) = some (moved, j)) ∧
        (j ≤ i → walk? items i .up (i - j) = some (moved, j)) ∧
        moved[j]? = items[i]? ∧ moved.eraseIdx j = items.eraseIdx i ∧
        moveTo? moved j i = some items) ∧
    ∀ index direction swapped, swapNeighbor items index direction = .moved swapped →
      swapNeighbor swapped (direction.next index) direction.opposite = .moved items := by
  refine ⟨?_, fun _ _ _ made => swapNeighbor_opposite made⟩
  intro i j source target
  rcases exists_front source with ⟨front, a, back, rfl, rfl⟩
  rcases moveTo?_append front back a target with ⟨before, behind, others, rfl, made⟩
  refine ⟨before ++ a :: behind, made, ?_, ?_, ?_, ?_, moveTo?_parted a others.symm⟩
  · intro down
    -- What is passed stands between the two places.
    have earlier : front <+: before :=
      List.prefix_of_prefix_length_le ⟨back, rfl⟩ ⟨behind, others⟩ down
    rcases earlier with ⟨passed, rfl⟩
    have rest : passed ++ behind = back := by simpa using others
    have steps : (front ++ passed).length - front.length = passed.length := by simp
    simpa only [← rest, steps] using walk?_down front passed behind a
  · intro up
    have earlier : before <+: front :=
      List.prefix_of_prefix_length_le ⟨behind, others⟩ ⟨back, rfl⟩ up
    rcases earlier with ⟨passed, rfl⟩
    have rest : behind = passed ++ back := by simpa using others
    have steps : (before ++ passed).length - before.length = passed.length := by simp
    simpa only [rest, steps] using walk?_up before passed back a
  · simp
  · calc
      (before ++ a :: behind).eraseIdx before.length = before ++ behind :=
        eraseIdx_length_append before behind a
      _ = front ++ back := others
      _ = (front ++ a :: back).eraseIdx front.length := (eraseIdx_length_append front back a).symm

/-- Of four items the first is taken to the third place, which is no exchange of the two. -/
theorem moveTo_of_two_steps :
    let items := ['a', 'b', 'c', 'd']
    let moved := ['b', 'c', 'a', 'd']
    0 < items.length ∧ 2 < items.length ∧ moveTo? items 0 2 = some moved ∧
      walk? items 0 .down 2 = some (moved, 2) ∧ moved[2]? = items[0]? ∧
      moved.eraseIdx 2 = items.eraseIdx 0 ∧ moveTo? moved 2 0 = some items ∧
      swapNeighbor moved 3 .up = .moved ['b', 'c', 'd', 'a'] ∧
      swapNeighbor ['b', 'c', 'd', 'a'] 2 .down = .moved moved := by
  intro items moved
  have source : 0 < items.length := by decide
  have target : 2 < items.length := by decide
  have made : moveTo? items 0 2 = some moved := by decide
  have swapped : swapNeighbor moved 3 .up = .moved ['b', 'c', 'd', 'a'] := by decide
  rcases (moveTo_of_steps items).1 0 2 source target with
    ⟨other, made', down, -, ends, others, back⟩
  cases made.symm.trans made'
  exact ⟨source, target, made, down (Nat.zero_le 2), ends, others, back, swapped,
    (moveTo_of_steps moved).2 3 .up _ swapped⟩

end Order

end PageBuilder
