import PageBuilder.Proofs.Replies

/-!
# The times of polling do not matter

When messages wait in the order in which they become due, those that are due at an earlier time
stand in front of the others that are due at a later one. So polling at both times answers the same
messages in the same order as polling at the later time alone, and the editor is the same after it:
an answer does not look at the queue, and the queue in the end holds what is due later still.

In a queue that is not in order this fails. A message sent with a later time in front of one that is
due before is answered behind it if there is a poll between the two, and before it if there is not.
-/

namespace PageBuilder

/-! ## Queues in order -/

namespace Pending

variable {queue : List Pending} {first second : Nat}

theorem late_of_late (le : first ≤ second) :
    (queue.filter (first < ·.due)).filter (second < ·.due) =
      queue.filter (second < ·.due) := by
  rw [List.filter_filter]
  refine List.filter_congr fun p _ => ?_
  by_cases late : second < p.due
  · have later : first < p.due := Nat.lt_of_le_of_lt le late
    simp [late, later]
  · simp [late]

/-- What is due at a time is what was due before, and then what became due since. -/
theorem due_split (ordered : queue.Pairwise (·.due ≤ ·.due)) (le : first ≤ second) :
    queue.filter (·.due ≤ first) ++ (queue.filter (first < ·.due)).filter (·.due ≤ second) =
      queue.filter (·.due ≤ second) := by
  induction queue with
  | nil =>
    rfl
  | cons p rest ih =>
    rcases List.pairwise_cons.1 ordered with ⟨before, inOrder⟩
    by_cases due : p.due ≤ first
    · have dueToo : p.due ≤ second := Nat.le_trans due le
      rw [List.filter_cons_of_pos (by simpa using due),
        List.filter_cons_of_neg (by simpa using due),
        List.filter_cons_of_pos (by simpa using dueToo), List.cons_append, ih inOrder]
    · -- Nothing behind a message that is not due yet is due.
      have late : ∀ q ∈ p :: rest, first < q.due := by
        intro q there
        rcases List.mem_cons.1 there with rfl | behind
        · exact Nat.not_le.1 due
        · exact Nat.lt_of_lt_of_le (Nat.not_le.1 due) (before q behind)
      have none : (p :: rest).filter (·.due ≤ first) = [] := by
        refine List.filter_eq_nil_iff.2 fun q there => ?_
        simpa using late q there
      have all : (p :: rest).filter (first < ·.due) = p :: rest := by
        refine List.filter_eq_self.2 fun q there => ?_
        simpa using late q there
      rw [none, all, List.nil_append]

end Pending

/-! ## Polls -/

namespace Conversation

theorem replyAll_append (c : Conversation) (before after : List Command) :
    c.replyAll (before ++ after) = (c.replyAll before).replyAll after :=
  List.foldl_append

end Conversation

namespace Editor

variable {e : Editor}

theorem obey_append (e : Editor) (before after : List Command) :
    e.obey (before ++ after) = (e.obey before).obey after := by
  rw [obey, List.map_append]
  exact List.foldl_append

/-- The editor after a poll: it has obeyed what was due, and what was not is left in the queue. -/
theorem resolveReplies_snd (e : Editor) (now : Nat) :
    (e.resolveReplies now).2 =
      (e.obey ((e.chat.pending.filter (·.due ≤ now)).map Pending.command)).withChat
        { e.chat.replyAll ((e.chat.pending.filter (·.due ≤ now)).map Pending.command) with
          pending := e.chat.pending.filter (now < ·.due) } := by
  rw [← Conversation.replyAll_pending]
  exact answerAll_withChat e { e.chat with pending := e.chat.pending.filter (now < ·.due) } _

theorem pending_resolveReplies (e : Editor) (now : Nat) :
    (e.resolveReplies now).2.chat.pending = e.chat.pending.filter (now < ·.due) := by
  rw [resolveReplies_snd]
  rfl

/-- Polling at two times is polling at the later one. -/
theorem resolveReplies_twice (ordered : e.chat.pending.Pairwise (·.due ≤ ·.due))
    {first second : Nat} (le : first ≤ second) :
    let polled := e.resolveReplies first
    polled.1 + (polled.2.resolveReplies second).1 = (e.resolveReplies second).1 ∧
      (polled.2.resolveReplies second).2 = (e.resolveReplies second).2 := by
  intro polled
  let early := e.chat.pending.filter (·.due ≤ first)
  let others := e.chat.pending.filter (first < ·.due)
  let later := others.filter (·.due ≤ second)
  have split : early ++ later = e.chat.pending.filter (·.due ≤ second) :=
    Pending.due_split ordered le
  have left : polled.2.chat.pending = others := pending_resolveReplies e first
  refine ⟨?_, ?_⟩
  · calc
      polled.1 + (polled.2.resolveReplies second).1
          = early.length + (polled.2.chat.pending.filter (·.due ≤ second)).length := rfl
      _ = (e.chat.pending.filter (·.due ≤ second)).length := by
        rw [left, ← split, List.length_append]
  · -- The second poll goes on with the editor and the transcript that the first one left.
    have shown : polled.2 = (e.obey (early.map Pending.command)).withChat
        { e.chat.replyAll (early.map Pending.command) with pending := others } :=
      resolveReplies_snd e first
    have obeyed : polled.2.obey (later.map Pending.command) =
        (e.obey ((early ++ later).map Pending.command)).withChat polled.2.chat := by
      rw [List.map_append, obey_append, shown, obey_withChat]
      rfl
    have replied : polled.2.chat.replyAll (later.map Pending.command) =
        { e.chat.replyAll ((early ++ later).map Pending.command) with pending := others } := by
      rw [List.map_append, Conversation.replyAll_append, ← Conversation.replyAll_pending, shown]
      rfl
    calc
      (polled.2.resolveReplies second).2
          = (polled.2.obey (later.map Pending.command)).withChat
              { polled.2.chat.replyAll (later.map Pending.command) with
                pending := others.filter (second < ·.due) } := by
        rw [resolveReplies_snd, left]
      _ = (e.obey ((early ++ later).map Pending.command)).withChat
              { e.chat.replyAll ((early ++ later).map Pending.command) with
                pending := others.filter (second < ·.due) } := by
        rw [obeyed, replied]
        rfl
      _ = (e.resolveReplies second).2 := by
        rw [split, Pending.late_of_late le, ← resolveReplies_snd]

/-- Polls at some times, one after the other; gives the number of all answers. -/
def poll (e : Editor) : List Nat → Nat × Editor
  | [] => (0, e)
  | now :: rest =>
    let (answers, e) := e.resolveReplies now
    let (more, e) := e.poll rest
    (answers + more, e)

/-- **The times of polling do not matter.** If the messages of an editor wait in the order in which
they become due, polling at one time and then at a later one gives the same editor as polling at the
later time alone, and the two numbers of answers add up; and so do any polls, the last of them at
the latest time. -/
theorem resolveReplies_of_polls (e : Editor) (ordered : e.chat.pending.Pairwise (·.due ≤ ·.due)) :
    (∀ first second, first ≤ second →
      let polled := e.resolveReplies first
      polled.1 + (polled.2.resolveReplies second).1 = (e.resolveReplies second).1 ∧
        (polled.2.resolveReplies second).2 = (e.resolveReplies second).2) ∧
    ∀ (times : List Nat) (last : Nat), (∀ now ∈ times, now ≤ last) →
      e.poll (times ++ [last]) = e.resolveReplies last := by
  refine ⟨fun first second le => resolveReplies_twice ordered le, ?_⟩
  intro times last latest
  induction times generalizing e with
  | nil =>
    rfl
  | cons first rest ih =>
    have le : first ≤ last := latest first (List.mem_cons_self ..)
    have inOrder : (e.resolveReplies first).2.chat.pending.Pairwise (·.due ≤ ·.due) := by
      rw [pending_resolveReplies]
      exact ordered.filter _
    have later := ih (e.resolveReplies first).2 inOrder
      fun now there => latest now (List.mem_cons_of_mem _ there)
    rcases resolveReplies_twice ordered le with ⟨count, same⟩
    calc
      e.poll (first :: rest ++ [last])
          = ((e.resolveReplies first).1 + ((e.resolveReplies first).2.poll (rest ++ [last])).1,
              ((e.resolveReplies first).2.poll (rest ++ [last])).2) := rfl
      _ = e.resolveReplies last := by
        rw [later, count, same]

/-- Out of order, it is the message answered last that decides on the theme. -/
example :
    let e := (openOn {} ⟨"t", 0⟩).run
      [.sendChat "light theme" (500 * millisecond), .sendChat "glass theme" 0]
    ((e.resolveReplies (700 * millisecond)).2.resolveReplies
        (2000 * millisecond)).2.document.theme = .light ∧
      (e.resolveReplies (2000 * millisecond)).2.document.theme = .glass := by
  decide +kernel

/-- Of three messages the first two are due at the first poll, and the third at the last one. -/
theorem resolveReplies_of_two_polls :
    let e := (openOn {} ⟨"t", 0⟩).run
      [.add .card, .sendChat "red" 0, .sendChat "clear" (10 * millisecond),
        .sendChat "light theme" (500 * millisecond)]
    let first := 610 * millisecond
    let second := 900 * millisecond
    let last := 2000 * millisecond
    e.chat.pending.Pairwise (·.due ≤ ·.due) ∧
    e.poll [first, second, last] = e.resolveReplies last ∧
    (e.resolveReplies first).1 = 2 ∧ (e.resolveReplies last).1 = 3 := by
  intro e first second last
  have ordered : e.chat.pending.Pairwise (·.due ≤ ·.due) := by decide +kernel
  refine ⟨ordered, ?_, ?_, ?_⟩
  · exact (resolveReplies_of_polls e ordered).2 [first, second] last (by decide +kernel)
  · decide +kernel
  · decide +kernel

end Editor

end PageBuilder
