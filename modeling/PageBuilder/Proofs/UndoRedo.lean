import PageBuilder.Proofs.Preservation

/-!
# One step back for every change

An operation that changes the document is one step of the history, and one that leaves the document
equal is none. From this step lemma follows, by induction over a run, that the history holds the
documents the run replaced, so that going back through them and forward again shows exactly the
documents the run went through.

Operations that may be several steps are excluded: the answers of the assistant to several messages,
and undo and redo themselves with the keys bound to them.
-/

namespace PageBuilder

/-- Whether an operation is at most one step of the history: every operation but undo and redo, the
answers to pending messages, and key presses. -/
def Operation.isSingle : Operation → Bool
  | .undo => false
  | .redo => false
  | .resolveReplies _ => false
  | .resolveAllReplies => false
  | .press _ _ _ => false
  | _ => true

namespace Editor

/-! ## What a run shows -/

/-- The documents that the operations of a run replace, the earliest first: for each operation that
changes the document, the one before it. -/
def replaced (e : Editor) : List Operation → List Document
  | [] => []
  | operation :: rest =>
    let next := (e.perform operation).2
    if next.document == e.document then next.replaced rest else e.document :: next.replaced rest

/-- What each operation of a run gives, with the document after it. -/
def shown (e : Editor) : List Operation → List (Outcome × Document)
  | [] => []
  | operation :: rest =>
    let (outcome, next) := e.perform operation
    (outcome, next.document) :: next.shown rest

theorem run_cons (e : Editor) (operation : Operation) (rest : List Operation) :
    e.run (operation :: rest) = (e.perform operation).2.run rest := rfl

theorem length_replaced_le (e : Editor) (operations : List Operation) :
    (e.replaced operations).length ≤ operations.length := by
  induction operations generalizing e with
  | nil =>
    exact Nat.le_refl 0
  | cons operation rest ih =>
    have tail := ih (e.perform operation).2
    simp only [replaced]
    split
    · exact Nat.le_succ_of_le tail
    · exact Nat.succ_le_succ tail

/-! ## One operation -/

/-- What a single step does to the document and the history around it: nothing at all, or it puts
the replaced document in front of the past and forgets the future. -/
inductive Recorded (s t : Editor) : Prop
  | kept (document : t.document = s.document) (history : t.history = s.history)
  | changed (differs : (t.document == s.document) = false)
      (history : t.history = s.history.commit s.document)

/-- Nothing has happened to the document. -/
theorem Recorded.refl (s : Editor) : Recorded s s := .kept rfl rfl

theorem recorded_commit (s : Editor) (next : Document) : Recorded s (s.commit next).2 := by
  unfold commit
  cases same : next == s.document with
  | true =>
    exact .kept rfl rfl
  | false =>
    exact .changed same rfl

theorem recorded_commit? (s : Editor) (next : Option Document) :
    Recorded s (s.commit? next).2 := by
  cases next with
  | none =>
    exact .refl s
  | some next =>
    exact recorded_commit s next

/-- What belongs to the session alone may change before a step. -/
theorem Recorded.starting {s t : Editor} (view : View) (ids : IdSource) (projectName : String)
    (chat : Conversation) (h : Recorded { s with view, ids, projectName, chat } t) :
    Recorded s t := by
  cases h with
  | kept document history =>
    exact .kept document history
  | changed differs history =>
    exact .changed differs history

/-- What belongs to the session alone may change after a step. -/
theorem Recorded.ending {s t : Editor} (view : View) (ids : IdSource) (projectName : String)
    (chat : Conversation) (h : Recorded s t) :
    Recorded s { t with view, ids, projectName, chat } := by
  cases h with
  | kept document history =>
    exact .kept document history
  | changed differs history =>
    exact .changed differs history

theorem recorded_delete (s : Editor) (id : ElementId) : Recorded s (s.delete id).2 := by
  have committed := recorded_commit? s (s.document.remove? id)
  unfold delete
  dsimp only
  split
  · exact committed.ending _ _ _ _
  · exact committed

theorem recorded_duplicate (s : Editor) (id : ElementId) : Recorded s (s.duplicate id).2 := by
  unfold duplicate
  split
  · exact (recorded_commit? _ _).starting _ _ _ _
  · exact .refl s

theorem recorded_append (s : Editor) (batch : List Element) : Recorded s (s.append batch).2 := by
  unfold append
  split
  · exact .refl s
  · exact recorded_commit s _

theorem recorded_addBlueprints (s : Editor) (scope : Scope) (blueprints : List Blueprint) :
    Recorded s (s.addBlueprints scope blueprints).2 :=
  (recorded_append _ _).starting _ _ _ _

theorem recorded_clear (s : Editor) : Recorded s s.clear.2 :=
  (recorded_commit _ _).starting _ _ _ _

theorem recorded_setTheme (s : Editor) (theme : Theme) : Recorded s (s.setTheme theme).2 :=
  (recorded_commit _ _).starting _ _ _ _

theorem recorded_apply (s : Editor) (command : Command) : Recorded s (s.apply command).2 := by
  cases command with
  | recolor swatch =>
    exact recorded_commit s _
  | centerAll =>
    exact recorded_commit s _
  | clear =>
    exact recorded_clear s
  | setTheme theme =>
    exact recorded_setTheme s theme
  | help =>
    exact .refl s

/-- Step lemma: every operation that is single is recorded as one step or none. -/
theorem recorded_perform (s : Editor) {operation : Operation} (single : operation.isSingle) :
    Recorded s (s.perform operation).2 := by
  cases operation with
  | add kind =>
    exact ((recorded_commit _ _).starting _ _ _ _).ending _ _ _ _
  | relabel id label =>
    exact recorded_commit? s _
  | patch id patch =>
    exact recorded_commit? s _
  | delete id =>
    exact recorded_delete s id
  | duplicate id =>
    exact recorded_duplicate s id
  | move id direction =>
    exact recorded_commit? s _
  | reorder source target =>
    exact recorded_commit? s _
  | clear =>
    exact recorded_clear s
  | append batch =>
    exact recorded_append s batch
  | insertTemplate template =>
    exact recorded_addBlueprints s _ _
  | synthesize prompt =>
    simp only [perform, synthesize]
    split
    · exact .refl s
    · exact (recorded_addBlueprints s _ _).ending _ _ _ _
  | setTheme theme =>
    exact recorded_setTheme s theme
  | setColumns columns =>
    exact recorded_commit s _
  | setBrand brand =>
    exact recorded_commit s _
  | syncBrand fields =>
    exact recorded_commit s _
  | loadPremade premade =>
    exact (recorded_commit _ _).starting _ _ _ _
  | commit document =>
    exact recorded_commit s document
  | importText text =>
    simp only [perform, importText]
    split
    · exact (recorded_commit _ _).starting _ _ _ _
    · exact .refl s
  | rename name =>
    exact .kept rfl rfl
  | saveProject stamp =>
    exact .kept rfl rfl
  | loadProject name =>
    simp only [perform, loadProject]
    split
    · exact (recorded_commit _ _).starting _ _ _ _
    · exact .refl s
  | deleteProject name =>
    simp only [perform, deleteProject]
    split
    · exact .kept rfl rfl
    · exact .refl s
  | sendChat text now =>
    simp only [perform, sendChat]
    split
    · exact .kept rfl rfl
    · exact .refl s
  | apply command =>
    exact recorded_apply s command
  | view change =>
    exact .kept rfl rfl
  | undo => cases single
  | redo => cases single
  | resolveReplies now => cases single
  | resolveAllReplies => cases single
  | press key typing stamp => cases single

/-! ## The history of a run -/

/-- The history of an editor keeps no more than its limit, which is the usual one. -/
def Bounded (e : Editor) : Prop :=
  e.history.limit = historyLimit ∧ e.history.past.length ≤ historyLimit

theorem Bounded.room {e : Editor} (bounded : e.Bounded) : 0 < e.history.limit := by
  have usual : 0 < historyLimit := by decide
  rwa [← bounded.1] at usual

theorem bounded_travel {e : Editor} (h : e.Bounded) {found : Option (Document × History Document)}
    (sound : ∀ document history, found = some (document, history) →
      history.limit = historyLimit ∧ history.past.length ≤ historyLimit) :
    (e.travel found).2.Bounded := by
  cases found with
  | none =>
    exact h
  | some place =>
    exact sound place.1 place.2 rfl

theorem kept_bounded : Kept Bounded where
  session _ _ _ h := h
  chat _ h := h
  catalog _ h := h
  commit := by
    intro e next h
    unfold commit
    split
    · exact h
    · refine ⟨h.1, ?_⟩
      have taken := List.length_take_le e.history.limit (e.document :: e.history.past)
      simp only [History.commit, History.pushed, h.1] at taken ⊢
      exact taken
  undo := by
    intro e h
    refine bounded_travel h ?_
    intro document history found
    unfold History.undo? at found
    cases past : e.history.past with
    | nil =>
      simp [past] at found
    | cons previous older =>
      rw [past] at found
      cases found
      have := h.2
      rw [past] at this
      exact ⟨h.1, Nat.le_of_succ_le this⟩
  redo := by
    intro e h
    refine bounded_travel h ?_
    intro document history found
    unfold History.redo? at found
    cases future : e.history.future with
    | nil =>
      simp [future] at found
    | cons next later =>
      rw [future] at found
      cases found
      have taken := List.length_take_le e.history.limit (e.document :: e.history.past)
      simp only [h.1] at taken
      exact ⟨h.1, by simpa only [History.pushed, h.1] using taken⟩

/-- Every reachable editor has a bounded history. -/
theorem bounded_run (store : Store) (ids : IdSource) (operations : List Operation) :
    ((openOn store ids).run operations).Bounded :=
  kept_bounded.run operations ⟨rfl, Nat.zero_le _⟩

/-- Cutting the second part of a list before the whole changes nothing. -/
theorem take_append_take {α : Type} (n : Nat) (xs ys : List α) :
    (xs ++ ys.take n).take n = (xs ++ ys).take n := by
  rw [List.take_append, List.take_append, List.take_take, Nat.min_eq_left (Nat.sub_le _ _)]

/-- Run lemma: the past after a run is what the run replaced, before the past it started with. -/
theorem past_run {e : Editor} {operations : List Operation} (bounded : e.Bounded)
    (single : ∀ o ∈ operations, o.isSingle) :
    (e.run operations).history.past =
      ((e.replaced operations).reverse ++ e.history.past).take historyLimit := by
  induction operations generalizing e with
  | nil =>
    exact (List.take_of_length_le bounded.2).symm
  | cons operation rest ih =>
    -- The rest of the run starts from the past that this one step leaves.
    have step := recorded_perform e (single operation (List.mem_cons_self ..))
    have tail := ih (kept_bounded.perform operation bounded)
      (fun o ho => single o (List.mem_cons_of_mem _ ho))
    rw [run_cons, tail]
    cases step with
    | kept document history =>
      simp [replaced, document, history]
    | changed differs history =>
      simp only [replaced, differs, history, History.commit, History.pushed, bounded.1,
        take_append_take]
      simp

/-- The first document a run replaces is the one it starts with; if it replaces none, the document
stays. -/
theorem head_replaced {e : Editor} {operations : List Operation}
    (single : ∀ o ∈ operations, o.isSingle) :
    (e.replaced operations ++ [(e.run operations).document]).head? = some e.document := by
  induction operations generalizing e with
  | nil =>
    rfl
  | cons operation rest ih =>
    have step := recorded_perform e (single operation (List.mem_cons_self ..))
    have tail := ih (e := (e.perform operation).2)
      (fun o ho => single o (List.mem_cons_of_mem _ ho))
    cases step with
    | kept document history =>
      simpa [replaced, run_cons, document] using tail
    | changed differs history =>
      simp [replaced, differs]

/-! ## Walking back and forward -/

/-- Undoing as often as there are documents at the front of the past shows these documents, and
moves them to the future. -/
theorem undo_walk {e : Editor} {near older : List Document}
    (past : e.history.past = near ++ older) :
    e.shown (List.replicate near.length .undo) = near.map (Outcome.flag true, ·) ∧
    (e.run (List.replicate near.length .undo)).document = near.getLastD e.document ∧
    (e.run (List.replicate near.length .undo)).history.future =
      (e.document :: near).dropLast.reverse ++ e.history.future := by
  -- The editor changes with each step back, so it is generalised.
  induction near generalizing e with
  | nil =>
    exact ⟨rfl, rfl, rfl⟩
  | cons previous rest ih =>
    have undone : e.undo = (true, { e with
        document := previous
        history :=
          { e.history with past := rest ++ older, future := e.document :: e.history.future }
        view := e.view.reconcile previous
        store := e.store.persistDocument previous }) := by
      simp [undo, History.undo?, past, travel]
    have walked := ih (e := e.undo.2) (by rw [undone])
    rw [undone] at walked
    rcases walked with ⟨shows, document, future⟩
    refine ⟨?_, ?_, ?_⟩
    · simp only [List.length_cons, List.replicate_succ, shown, perform, undone, shows,
        List.map_cons]
    · simpa only [List.length_cons, List.replicate_succ, run_cons, perform, undone,
        List.getLastD_cons] using document
    · simp only [List.length_cons, List.replicate_succ, run_cons, perform, undone, future]
      simp

/-- Redoing as often as there are documents at the front of the future shows these documents. -/
theorem redo_walk {e : Editor} {near later : List Document}
    (future : e.history.future = near ++ later) :
    e.shown (List.replicate near.length .redo) = near.map (Outcome.flag true, ·) ∧
    (e.run (List.replicate near.length .redo)).document = near.getLastD e.document := by
  induction near generalizing e with
  | nil =>
    exact ⟨rfl, rfl⟩
  | cons next rest ih =>
    have redone : e.redo = (true, { e with
        document := next
        history := { e.history with past := e.history.pushed e.document, future := rest ++ later }
        view := e.view.reconcile next
        store := e.store.persistDocument next }) := by
      simp [redo, History.redo?, future, travel]
    have walked := ih (e := e.redo.2) (by rw [redone])
    rw [redone] at walked
    rcases walked with ⟨shows, document⟩
    refine ⟨?_, ?_⟩
    · simp only [List.length_cons, List.replicate_succ, shown, perform, redone, shows,
        List.map_cons]
    · simpa only [List.length_cons, List.replicate_succ, run_cons, perform, redone,
        List.getLastD_cons] using document

/-! ## Runs and the way back -/

section

variable {e : Editor} {operations : List Operation}

theorem history_perform {operation : Operation} (bounded : e.Bounded)
    (single : operation.isSingle = true) :
    (((e.perform operation).2.document == e.document) = true →
      (e.perform operation).2.history = e.history) ∧
    (((e.perform operation).2.document == e.document) = false →
      (e.perform operation).2.history.past = (e.document :: e.history.past).take historyLimit ∧
      (e.perform operation).2.history.future = []) := by
  cases recorded_perform e single with
  | kept document history =>
    refine ⟨fun _ => history, ?_⟩
    intro differs
    rw [document, ReflBEq.rfl] at differs
    cases differs
  | changed differs history =>
    refine ⟨?_, ?_⟩
    · intro same
      rw [differs] at same
      cases same
    · intro _
      rw [history, ← bounded.1]
      exact ⟨rfl, rfl⟩

/-- As long as it is not too much, the whole of what was replaced is still in the past. -/
theorem past_of_few (bounded : e.Bounded) (single : ∀ o ∈ operations, o.isSingle)
    (few : (e.replaced operations).length ≤ historyLimit) :
    (e.run operations).history.past = (e.replaced operations).reverse ++
      e.history.past.take (historyLimit - (e.replaced operations).length) := by
  have cut := past_run bounded single
  rw [List.take_append, List.take_of_length_le (by simpa using few)] at cut
  simpa using cut

theorem last_replaced (single : ∀ o ∈ operations, o.isSingle) :
    (e.replaced operations).reverse.getLastD (e.run operations).document = e.document := by
  have first := head_replaced (e := e) single
  rw [List.head?_append] at first
  rw [List.getLastD_eq_getLast?, List.getLast?_reverse]
  cases front : (e.replaced operations).head? with
  | none =>
    simpa [front] using first
  | some document =>
    simpa [front] using first

/-- The documents a run led to, in order, are those it replaced and the last one, but the first. -/
theorem last_reached (single : ∀ o ∈ operations, o.isSingle) :
    (e.replaced operations ++ [(e.run operations).document]).tail.getLastD e.document =
      (e.run operations).document := by
  have first := head_replaced (e := e) single
  cases parts : e.replaced operations with
  | nil =>
    simpa [parts] using first.symm
  | cons document rest =>
    rw [List.cons_append, List.tail_cons, List.getLastD_concat]

end

/-- **Every change can be taken back and made again.** In every run of single operations from a
reachable editor, an operation that leaves the document equal leaves the history as it was, and one
that changes it is one step that forgets the future. If the run replaced no more documents than the
history keeps, as many undos succeed and show them from the latest to the one at the start, and as
many redos succeed after that and show the way back to the end. -/
theorem undo_redo_of_run (store : Store) (ids : IdSource) (before operations : List Operation)
    (single : ∀ o ∈ operations, o.isSingle) :
    let start := (openOn store ids).run before
    let final := start.run operations
    let replaced := start.replaced operations
    let undos := List.replicate replaced.length Operation.undo
    let redos := List.replicate replaced.length Operation.redo
    (∀ done operation later, operations = done ++ operation :: later →
      let s := start.run done
      let t := (s.perform operation).2
      ((t.document == s.document) = true → t.history = s.history) ∧
      ((t.document == s.document) = false →
        t.history.past = (s.document :: s.history.past).take historyLimit ∧
        t.history.future = [])) ∧
    (replaced.length ≤ historyLimit →
      final.shown undos = replaced.reverse.map (Outcome.flag true, ·) ∧
      (final.run undos).document = start.document ∧
      (final.run undos).shown redos =
        (replaced ++ [final.document]).tail.map (Outcome.flag true, ·) ∧
      ((final.run undos).run redos).document = final.document) := by
  intro start final replaced undos redos
  have bounded : start.Bounded := bounded_run store ids before
  refine ⟨?_, ?_⟩
  · intro done operation later split s t
    exact history_perform (kept_bounded.run done bounded) (single operation (by simp [split]))
  · intro few
    rcases undo_walk (past_of_few bounded single few) with ⟨shows, back, future⟩
    rw [List.length_reverse] at shows back future
    have returned : (final.run undos).document = start.document :=
      back.trans (last_replaced single)
    -- What was undone is ahead in the order in which the run led to it.
    have ahead : (final.run undos).history.future =
        (replaced ++ [final.document]).tail ++ final.history.future := by
      have reversed : final.document :: replaced.reverse =
          (replaced ++ [final.document]).reverse := by simp
      rw [future, reversed, List.dropLast_reverse, List.reverse_reverse]
    have count : (replaced ++ [final.document]).tail.length = replaced.length := by simp
    have walked := redo_walk ahead
    rw [count, returned] at walked
    exact ⟨shows, returned, walked.1, walked.2.trans (last_reached single)⟩

/-- A run with changes, an operation that finds nothing and one that changes nothing, after a step
that was taken back. -/
theorem undo_redo_of_short_run :
    let operations : List Operation :=
      [.add .card, .relabel "ghost" "x", .setTheme .light, .setTheme .light, .clear]
    let start := (openOn {} ⟨"t", 0⟩).run [.add .hero, .undo]
    let final := start.run operations
    let replaced := start.replaced operations
    let undos := List.replicate replaced.length Operation.undo
    (∀ o ∈ operations, o.isSingle) ∧ replaced.length ≤ historyLimit ∧
    final.shown undos = replaced.reverse.map (Outcome.flag true, ·) ∧
    (final.run undos).document = start.document := by
  intro operations start final replaced undos
  have single : ∀ o ∈ operations, o.isSingle := by decide
  have few : replaced.length ≤ historyLimit :=
    Nat.le_trans (length_replaced_le start operations) (by decide)
  have walked := (undo_redo_of_run {} ⟨"t", 0⟩ [.add .hero, .undo] operations single).2 few
  exact ⟨single, few, walked.1, walked.2.1⟩

end Editor
end PageBuilder
