import PageBuilder.Editing.Operation

/-!
# What operations keep

Every operation of an editor is put together from a few parts: changes of what belongs to the
session alone, commits, steps through the history, and changes of the chat and of the catalog. This
module proves that a property which each of these parts keeps is kept by every operation, and so by
every run. If changes of the catalog, or of the chat as well, need not keep it, it is still kept by
the operations without them.

A property that also depends on *which* document is committed is not covered: it needs a case for
each operation.
-/

namespace PageBuilder

/-- Whether an operation leaves the catalog alone: it neither saves a project nor deletes one. -/
def Operation.keepsCatalog : Operation → Bool
  | .saveProject _ => false
  | .deleteProject _ => false
  | .press key typing _ => Shortcut.ofKeyPress? key typing ≠ some .saveProject
  | _ => true

/-- Whether an operation leaves the chat alone: it neither sends a message nor has any answered. -/
def Operation.keepsChat : Operation → Bool
  | .sendChat _ _ => false
  | .resolveReplies _ => false
  | .resolveAllReplies => false
  | _ => true

namespace Editor

/-- A property of editors that every part of an operation keeps, but for changes of the chat and of
the catalog. -/
structure Firm (P : Editor → Prop) : Prop where
  session : ∀ {e : Editor} (view : View) (ids : IdSource) (projectName : String),
    P e → P { e with view, ids, projectName }
  commit : ∀ {e : Editor} (next : Document), P e → P (e.commit next).2
  undo : ∀ {e : Editor}, P e → P e.undo.2
  redo : ∀ {e : Editor}, P e → P e.redo.2

/-- A property of editors that every part of an operation keeps, but for changes of the catalog. -/
structure Steady (P : Editor → Prop) : Prop extends Firm P where
  chat : ∀ {e : Editor} (chat : Conversation), P e → P { e with chat }

/-- A property of editors that every part of an operation keeps. -/
structure Kept (P : Editor → Prop) : Prop extends Steady P where
  catalog : ∀ {e : Editor} (catalog : Catalog), P e →
    P { e with catalog, store := e.store.persistCatalog catalog }

namespace Firm

variable {P : Editor → Prop} {e : Editor}

/-- Commits and steps through the history show a document and have it written; they are all alike to
a property that does not depend on the history. -/
theorem of_shown
    (session : ∀ {e : Editor} (view : View) (ids : IdSource) (projectName : String),
      P e → P { e with view, ids, projectName })
    (shown : ∀ {e : Editor} (document : Document) (history : History Document) (view : View),
      P e → P { e with document, history, view, store := e.store.persistDocument document }) :
    Firm P := by
  have travel : ∀ (e : Editor) (target : Option (Document × History Document)), P e →
      P (e.travel target).2 := by
    intro e target h
    cases target with
    | none =>
      exact h
    | some target =>
      exact shown target.1 target.2 _ h
  refine ⟨session, ?_, fun h => travel _ _ h, fun h => travel _ _ h⟩
  intro e next h
  unfold Editor.commit
  split
  · exact h
  · exact shown next _ e.view h

/-! ## Parts with conditions -/

theorem commit? (firm : Firm P) (next : Option Document) (h : P e) : P (e.commit? next).2 := by
  cases next with
  | none =>
    exact h
  | some next =>
    exact firm.commit next h

theorem delete (firm : Firm P) (id : ElementId) (h : P e) : P (e.delete id).2 := by
  have committed : P (e.commit? (e.document.remove? id)).2 := firm.commit? _ h
  unfold Editor.delete
  dsimp only
  split
  · exact firm.session _ _ _ committed
  · exact committed

theorem duplicate (firm : Firm P) (id : ElementId) (h : P e) : P (e.duplicate id).2 := by
  unfold Editor.duplicate
  split
  · exact firm.commit? _ (firm.session _ _ _ h)
  · exact h

theorem clear (firm : Firm P) (h : P e) : P e.clear.2 :=
  firm.commit _ (firm.session _ _ _ h)

theorem append (firm : Firm P) (batch : List Element) (h : P e) : P (e.append batch).2 := by
  unfold Editor.append
  split
  · exact h
  · exact firm.commit _ h

theorem addBlueprints (firm : Firm P) (scope : Scope) (blueprints : List Blueprint) (h : P e) :
    P (e.addBlueprints scope blueprints).2 :=
  firm.append _ (firm.session _ _ _ h)

theorem setTheme (firm : Firm P) (theme : Theme) (h : P e) : P (e.setTheme theme).2 :=
  firm.commit _ (firm.session _ _ _ h)

/-! ## Commands and the keyboard -/

theorem apply (firm : Firm P) (command : Command) (h : P e) : P (e.apply command).2 := by
  cases command with
  | recolor swatch =>
    exact firm.commit _ h
  | centerAll =>
    exact firm.commit _ h
  | clear =>
    exact firm.clear h
  | setTheme theme =>
    exact firm.setTheme theme h
  | help =>
    exact h

theorem invoke (firm : Firm P) (stamp : Stamp) {shortcut : Shortcut}
    (other : shortcut ≠ .saveProject) (h : P e) : P (e.invoke stamp shortcut) := by
  cases shortcut with
  | undo =>
    exact firm.undo h
  | redo =>
    exact firm.redo h
  | duplicate =>
    simp only [Editor.invoke]
    split
    · exact firm.duplicate _ h
    · exact h
  | saveProject =>
    exact absurd rfl other
  | deleteSelected =>
    simp only [Editor.invoke]
    split
    · exact firm.delete _ h
    · exact h
  | escape =>
    exact firm.session _ _ _ h
  | zoomIn =>
    exact firm.session _ _ _ h
  | zoomOut =>
    exact firm.session _ _ _ h
  | zoomReset =>
    exact firm.session _ _ _ h

theorem press (firm : Firm P) {key : KeyPress} {typing : Bool} (stamp : Stamp)
    (other : Shortcut.ofKeyPress? key typing ≠ some .saveProject) (h : P e) :
    P (e.press key typing stamp).2 := by
  unfold Editor.press
  split
  · next shortcut pressed =>
    refine firm.invoke stamp ?_ h
    rintro rfl
    exact other pressed
  · exact h

/-! ## Operations -/

/-- What holds before an operation without changes of the chat and the catalog holds after it. -/
theorem perform (firm : Firm P) {operation : Operation} (apart : operation.keepsCatalog = true)
    (silent : operation.keepsChat = true) (h : P e) : P (e.perform operation).2 := by
  cases operation with
  | add kind =>
    exact firm.session _ _ _ (firm.commit _ (firm.session _ _ _ h))
  | relabel id label =>
    exact firm.commit? _ h
  | patch id patch =>
    exact firm.commit? _ h
  | delete id =>
    exact firm.delete id h
  | duplicate id =>
    exact firm.duplicate id h
  | move id direction =>
    exact firm.commit? _ h
  | reorder source target =>
    exact firm.commit? _ h
  | clear =>
    exact firm.clear h
  | append batch =>
    exact firm.append batch h
  | insertTemplate template =>
    exact firm.addBlueprints _ _ h
  | synthesize prompt =>
    unfold Editor.perform Editor.synthesize
    dsimp only
    split
    · exact h
    · exact firm.session _ _ _ (firm.addBlueprints _ _ h)
  | setTheme theme =>
    exact firm.setTheme theme h
  | setColumns columns =>
    exact firm.commit _ h
  | setBrand brand =>
    exact firm.commit _ h
  | syncBrand fields =>
    exact firm.commit _ h
  | loadPremade premade =>
    exact firm.commit _ (firm.session _ _ _ h)
  | commit document =>
    exact firm.commit document h
  | undo =>
    exact firm.undo h
  | redo =>
    exact firm.redo h
  | importText text =>
    unfold Editor.perform Editor.importText
    dsimp only
    split
    · exact firm.commit _ (firm.session _ _ _ h)
    · exact h
  | rename name =>
    exact firm.session _ _ _ h
  | loadProject name =>
    unfold Editor.perform Editor.loadProject
    dsimp only
    split
    · exact firm.commit _ (firm.session _ _ _ h)
    · exact h
  | apply command =>
    exact firm.apply command h
  | press key typing stamp =>
    exact firm.press stamp (of_decide_eq_true apart) h
  | view change =>
    exact firm.session _ _ _ h
  | saveProject stamp => cases apart
  | deleteProject name => cases apart
  | sendChat text now => cases silent
  | resolveReplies now => cases silent
  | resolveAllReplies => cases silent

end Firm

namespace Steady

variable {P : Editor → Prop} {e : Editor}

/-! ## The assistant -/

theorem answer (steady : Steady P) (input : String) (h : P e) : P (e.answer input) :=
  steady.chat _ (steady.toFirm.apply _ h)

theorem answerAll (steady : Steady P) (pending : List Pending) (h : P e) :
    P (e.answerAll pending).2 := by
  -- Each answer starts from the editor that the one before left.
  induction pending generalizing e with
  | nil =>
    exact h
  | cons p rest ih =>
    exact ih (steady.answer p.input h)

/-- What holds before an operation without changes of the catalog holds after it. -/
theorem perform (steady : Steady P) {operation : Operation}
    (apart : operation.keepsCatalog = true) (h : P e) : P (e.perform operation).2 := by
  cases operation with
  | sendChat text now =>
    unfold Editor.perform Editor.sendChat
    dsimp only
    split
    · exact steady.chat _ h
    · exact h
  | resolveReplies now =>
    exact steady.answerAll _ (steady.chat _ h)
  | resolveAllReplies =>
    exact steady.answerAll _ (steady.chat _ h)
  | _ =>
    exact steady.toFirm.perform apart rfl h

end Steady

namespace Kept

variable {P : Editor → Prop} {e : Editor}

/-! ## Operations on the catalog -/

theorem saveProject (kept : Kept P) (stamp : Stamp) (h : P e) : P (e.saveProject stamp) :=
  kept.catalog _ h

theorem deleteProject (kept : Kept P) (name : String) (h : P e) :
    P (e.deleteProject name).2 := by
  unfold Editor.deleteProject
  split
  · exact kept.catalog _ h
  · exact h

theorem press (kept : Kept P) (key : KeyPress) (typing : Bool) (stamp : Stamp) (h : P e) :
    P (e.press key typing stamp).2 := by
  by_cases saves : Shortcut.ofKeyPress? key typing = some .saveProject
  · rw [Editor.press, saves]
    exact kept.saveProject stamp h
  · exact kept.toFirm.press stamp saves h

/-! ## Operations and runs -/

theorem perform (kept : Kept P) (operation : Operation) (h : P e) :
    P (e.perform operation).2 := by
  cases operation with
  | saveProject stamp =>
    exact kept.saveProject stamp h
  | deleteProject name =>
    exact kept.deleteProject name h
  | press key typing stamp =>
    exact kept.press key typing stamp h
  | _ =>
    exact kept.toSteady.perform rfl h

/-- What holds at the start of a run and is kept by every part of an operation holds at its end. -/
theorem run (kept : Kept P) (operations : List Operation) (h : P e) :
    P (e.run operations) := by
  induction operations generalizing e with
  | nil =>
    exact h
  | cons operation rest ih =>
    exact ih (kept.perform operation h)

end Kept

end Editor
end PageBuilder
