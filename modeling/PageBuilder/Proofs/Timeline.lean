import Mathlib.Data.List.DropRight
import PageBuilder.Editing.History

/-!
# Histories as timelines

A value with its history shows a window of a timeline: the values that were current one after the
other, with a cursor on the one that is current now. Steps back and forward only move the cursor; a
commit cuts off what is ahead of it and, where the window gets too long, what is farthest behind.

The past is kept the latest first and the future the next first, so the window reads the past
backwards. A step forward never makes the window too long, because past and future together are no
longer than the limit; that is the invariant of every run.
-/

namespace PageBuilder

variable {α : Type}

/-- What is done to a value that has a history. -/
inductive Edit (α : Type)
  /-- A new value replaces the current one. -/
  | commit (next : α)
  | undo
  | redo
  /-- The history is dropped. -/
  | clear
  deriving DecidableEq, Repr

/-! ## Timelines -/

/-- The values that were current one after the other, with a cursor on the current one. -/
@[ext]
structure Timeline (α : Type) where
  values : List α
  cursor : Nat
  cursor_lt : cursor < values.length

namespace Timeline

def current (t : Timeline α) : α := t.values.get ⟨t.cursor, t.cursor_lt⟩

def single (value : α) : Timeline α := ⟨[value], 0, Nat.zero_lt_one⟩

/-- Puts a value behind the cursor, in place of all that is ahead. The last values stay, as many as
`limit` steps back reach and the new one. -/
def commit (t : Timeline α) (limit : Nat) (next : α) : Timeline α :=
  let values := (t.values.take (t.cursor + 1) ++ [next]).rtake (limit + 1)
  { values
    cursor := values.length - 1
    cursor_lt := by
      have longer : 0 < values.length := by
        simp [values, List.rtake_eq_reverse_take_reverse]
      omega }

/-- Tells whether the edit could be made. -/
def step (t : Timeline α) (limit : Nat) : Edit α → Bool × Timeline α
  | .commit next => (true, t.commit limit next)
  | .undo =>
    if 0 < t.cursor then
      (true, { t with cursor := t.cursor - 1, cursor_lt := Nat.sub_lt_of_lt t.cursor_lt })
    else (false, t)
  | .redo =>
    if ahead : t.cursor + 1 < t.values.length then
      (true, { t with cursor := t.cursor + 1, cursor_lt := ahead })
    else (false, t)
  | .clear => (true, single t.current)

def run (t : Timeline α) (limit : Nat) (edits : List (Edit α)) : Timeline α :=
  edits.foldl (fun t edit => (t.step limit edit).2) t

end Timeline

/-! ## Values with a history -/

/-- A value with the history around it. -/
structure Tracked (α : Type) where
  current : α
  history : History α

namespace Tracked

/-- Goes to a value of the history, if there is one to go to. -/
def travel (v : Tracked α) : Option (α × History α) → Bool × Tracked α
  | some (value, history) => (true, ⟨value, history⟩)
  | none => (false, v)

/-- Tells whether the edit could be made. -/
def step (v : Tracked α) : Edit α → Bool × Tracked α
  | .commit next => (true, ⟨next, v.history.commit v.current⟩)
  | .undo => v.travel (v.history.undo? v.current)
  | .redo => v.travel (v.history.redo? v.current)
  | .clear => (true, ⟨v.current, v.history.clear⟩)

def run (v : Tracked α) (edits : List (Edit α)) : Tracked α :=
  edits.foldl (fun v edit => (v.step edit).2) v

/-- The window that a value and its history show. -/
def timeline (v : Tracked α) : Timeline α where
  values := v.history.past.reverse ++ v.current :: v.history.future
  cursor := v.history.past.length
  cursor_lt := by simp

/-- Past and future together are no longer than the limit. -/
def Bounded (v : Tracked α) : Prop :=
  v.history.past.length + v.history.future.length ≤ v.history.limit

variable {v : Tracked α}

theorem current_timeline (v : Tracked α) : v.timeline.current = v.current := by
  simp [timeline, Timeline.current]

theorem length_timeline (v : Tracked α) :
    v.timeline.values.length = v.history.past.length + v.history.future.length + 1 := by
  simp only [timeline, List.length_append, List.length_reverse, List.length_cons]
  omega

/-! ## One edit -/

theorem pushed_of_future (bounded : v.Bounded) (ahead : v.history.future ≠ []) :
    v.history.pushed v.current = v.current :: v.history.past := by
  have some_ahead : 0 < v.history.future.length := List.length_pos_iff.2 ahead
  have fits : (v.current :: v.history.past).length ≤ v.history.limit := by
    unfold Bounded at bounded
    simp only [List.length_cons]
    omega
  exact List.take_of_length_le fits

/-- A commit keeps of the window what the bounded past keeps. -/
theorem timeline_commit (v : Tracked α) (next : α) :
    (v.step (.commit next)).2.timeline = v.timeline.commit v.history.limit next := by
  have behind : v.timeline.values.take (v.timeline.cursor + 1) ++ [next] =
      (next :: v.current :: v.history.past).reverse := by
    simp [timeline, List.take_append, List.take_of_length_le]
  have kept : (v.timeline.commit v.history.limit next).values =
      (v.history.pushed v.current).reverse ++ [next] := by
    simp [Timeline.commit, behind, List.rtake_eq_reverse_take_reverse, History.pushed]
  apply Timeline.ext
  · exact kept.symm
  · have last : (v.timeline.commit v.history.limit next).cursor =
        (v.timeline.commit v.history.limit next).values.length - 1 := rfl
    rw [last, kept]
    simp [step, timeline, History.commit]

/-- Step lemma: an edit of a value with a bounded history is the edit of its window. -/
theorem step_timeline (bounded : v.Bounded) (edit : Edit α) :
    ((v.step edit).1, (v.step edit).2.timeline) = v.timeline.step v.history.limit edit := by
  cases edit with
  | commit next =>
    exact congrArg (true, ·) (timeline_commit v next)
  | undo =>
    cases past : v.history.past with
    | nil =>
      simp [step, travel, Timeline.step, timeline, History.undo?, past]
    | cons previous older =>
      simp [step, travel, Timeline.step, timeline, History.undo?, past]
  | redo =>
    cases future : v.history.future with
    | nil =>
      simp [step, travel, Timeline.step, timeline, History.redo?, future]
    | cons next later =>
      have whole := pushed_of_future bounded (by simp [future])
      simp [step, travel, Timeline.step, timeline, History.redo?, future, whole]
  | clear =>
    have same := current_timeline v
    simp [step, Timeline.step, same]
    rfl

theorem limit_step (v : Tracked α) (edit : Edit α) :
    (v.step edit).2.history.limit = v.history.limit := by
  cases edit with
  | commit next =>
    rfl
  | undo =>
    cases past : v.history.past <;> simp [step, travel, History.undo?, past]
  | redo =>
    cases future : v.history.future <;> simp [step, travel, History.redo?, future]
  | clear =>
    rfl

theorem Bounded.step (bounded : v.Bounded) (edit : Edit α) : (v.step edit).2.Bounded := by
  cases edit with
  | commit next =>
    exact List.length_take_le v.history.limit (v.current :: v.history.past)
  | undo =>
    cases past : v.history.past with
    | nil =>
      simpa [Tracked.step, travel, History.undo?, past] using bounded
    | cons previous older =>
      simp only [Bounded, past, List.length_cons] at bounded
      simp only [Bounded, Tracked.step, travel, History.undo?, past, List.length_cons]
      omega
  | redo =>
    cases future : v.history.future with
    | nil =>
      simpa [Tracked.step, travel, History.redo?, future] using bounded
    | cons next later =>
      have whole := pushed_of_future bounded (by simp [future])
      simp only [Bounded, future, List.length_cons] at bounded
      simp only [Bounded, Tracked.step, travel, History.redo?, future, whole, List.length_cons]
      omega
  | clear =>
    exact Nat.zero_le _

/-! ## Runs -/

theorem limit_run (v : Tracked α) (edits : List (Edit α)) :
    (v.run edits).history.limit = v.history.limit := by
  induction edits generalizing v with
  | nil =>
    rfl
  | cons edit rest ih =>
    exact (ih _).trans (limit_step v edit)

theorem Bounded.run (bounded : v.Bounded) (edits : List (Edit α)) : (v.run edits).Bounded := by
  induction edits generalizing v with
  | nil =>
    exact bounded
  | cons edit rest ih =>
    exact ih (bounded.step edit)

/-- Run lemma: a run of edits of a value is the run of edits of its window. -/
theorem run_timeline (bounded : v.Bounded) (edits : List (Edit α)) :
    (v.run edits).timeline = v.timeline.run v.history.limit edits := by
  induction edits generalizing v with
  | nil =>
    rfl
  | cons edit rest ih =>
    have first : (v.step edit).2.timeline = (v.timeline.step v.history.limit edit).2 :=
      congrArg Prod.snd (step_timeline bounded edit)
    have later := ih (bounded.step edit)
    rw [limit_step, first] at later
    exact later

/-! ## There and back -/

theorem redo?_of_undo? (bounded : v.Bounded) {previous : α} {h : History α}
    (undone : v.history.undo? v.current = some (previous, h)) :
    h.redo? previous = some (v.current, v.history) := by
  unfold History.undo? at undone
  cases past : v.history.past with
  | nil =>
    simp [past] at undone
  | cons latest older =>
    simp only [past, Option.some.injEq, Prod.mk.injEq] at undone
    rcases undone with ⟨rfl, rfl⟩
    -- What is put back is the past as it was, which is within the limit.
    have fits : v.history.past.length ≤ v.history.limit := Nat.le_of_add_right_le bounded
    have whole : (latest :: older).take v.history.limit = v.history.past := by
      rw [← past, List.take_of_length_le fits]
    simp only [History.redo?, History.pushed, whole]

theorem undo?_of_redo? (bounded : v.Bounded) {next : α} {h : History α}
    (redone : v.history.redo? v.current = some (next, h)) :
    h.undo? next = some (v.current, v.history) ∧ h.past = v.current :: v.history.past := by
  unfold History.redo? at redone
  cases future : v.history.future with
  | nil =>
    simp [future] at redone
  | cons first later =>
    have whole := pushed_of_future bounded (by simp [future])
    simp only [future, Option.some.injEq, Prod.mk.injEq] at redone
    rcases redone with ⟨rfl, rfl⟩
    exact ⟨by simp [History.undo?, whole, ← future], whole⟩

/-- **A history is a window of a timeline.** For every limit, a value and its history follow, edit
by edit, a window of at least one value and at most one more than the limit, with a cursor on the
current value and the steps back and forward behind and ahead of it, and they refuse an edit where
the window does. So the steps both ways are never more than the limit, a step forward drops nothing
of the past, and each way back from a step restores value and history. -/
theorem timeline_of_run (limit : Nat) (start : α) (edits : List (Edit α)) :
    let bound := max limit 1
    let v := (Tracked.mk start (.withLimit limit)).run edits
    let t := (Timeline.single start).run bound edits
    (1 ≤ t.values.length ∧ t.values.length ≤ bound + 1) ∧
    v.current = t.current ∧ v.history.undoLevels = t.cursor ∧
    v.history.redoLevels = t.values.length - 1 - t.cursor ∧
    (∀ edit, (v.step edit).1 = (t.step bound edit).1) ∧
    v.history.undoLevels + v.history.redoLevels ≤ bound ∧
    (∀ next h, v.history.redo? v.current = some (next, h) →
      h.past = v.current :: v.history.past ∧ h.undo? next = some (v.current, v.history)) ∧
    ∀ previous h, v.history.undo? v.current = some (previous, h) →
      h.redo? previous = some (v.current, v.history) := by
  intro bound v t
  have empty : (Tracked.mk start (.withLimit limit)).Bounded := Nat.zero_le _
  have bounded : v.Bounded := empty.run edits
  have limited : v.history.limit = bound := limit_run _ edits
  have shown : v.timeline = t := run_timeline empty edits
  have length := length_timeline v
  have levels : v.history.past.length + v.history.future.length ≤ bound := limited ▸ bounded
  rw [← shown]
  refine ⟨⟨by omega, by omega⟩, (current_timeline v).symm, rfl, ?_, ?_, levels, ?_, ?_⟩
  · simp only [History.redoLevels, length]
    simp only [timeline]
    omega
  · intro edit
    exact congrArg Prod.fst (limited ▸ step_timeline bounded edit)
  · intro next h redone
    rcases undo?_of_redo? bounded redone with ⟨back, whole⟩
    exact ⟨whole, back⟩
  · intro previous h undone
    exact redo?_of_undo? bounded undone

/-- With two steps back kept, the first of four values is forgotten. -/
example :
    let v := (Tracked.mk 0 (.withLimit 2)).run [.commit 1, .commit 2, .commit 3, .undo, .undo]
    (v.current, (v.step .undo).1, v.history.redoLevels) = (1, false, 2) := by decide

end Tracked

end PageBuilder
