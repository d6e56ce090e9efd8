import PageBuilder.Proofs.BrandSync
import PageBuilder.Proofs.Creation
import PageBuilder.Proofs.Patches
import PageBuilder.Proofs.Replies

/-!
# Changes of the whole page

Some operations rewrite the page as a whole: they clear it, set its theme, its columns or its brand,
push brand tokens into all elements, or obey a command of the assistant. What such an operation
makes of a document is a fixed point of it, so to do it again changes nothing: no document, no step
of the history, no file.

No rewriting touches a duration. That is why a rewritten document that counts as equal to the one
before is the same, although the two zeros count as equal durations.
-/

namespace PageBuilder

open Numeric

/-! ## Rewriting documents -/

/-- What a command makes of a document. -/
def Command.rewrite : Command → Document → Document
  | recolor swatch => fun d => d.patchAll { background := some swatch.hex }
  | centerAll => fun d => d.patchAll { align := some .center }
  | clear => Document.clear
  | setTheme theme => fun d => { d with theme }
  | help => id

/-- What a command does to the view. -/
def Command.settle : Command → View → View
  | clear => View.deselect
  | setTheme _ => fun v => v.closePanel .themes
  | _ => id

/-- An operation on the page as a whole. -/
inductive Overhaul
  | clear
  | setTheme (theme : Theme)
  | setColumns (columns : Columns)
  | setBrand (brand : Brand)
  | syncBrand (fields : List BrandField)
  | obey (command : Command)

namespace Overhaul

def operation : Overhaul → Operation
  | clear => .clear
  | setTheme theme => .setTheme theme
  | setColumns columns => .setColumns columns
  | setBrand brand => .setBrand brand
  | syncBrand fields => .syncBrand fields
  | obey command => .apply command

/-- What an overhaul makes of a document. -/
def rewrite : Overhaul → Document → Document
  | clear => Command.clear.rewrite
  | setTheme theme => (Command.setTheme theme).rewrite
  | setColumns columns => fun d => { d with columns }
  | setBrand brand => fun d => { d with brand }
  | syncBrand fields => fun d => d.syncBrand fields
  | obey command => command.rewrite

/-- What an overhaul does to the view. -/
def settle : Overhaul → View → View
  | clear => Command.clear.settle
  | setTheme theme => (Command.setTheme theme).settle
  | obey command => command.settle
  | _ => id

end Overhaul

/-! ## Fixed points -/

theorem Document.patchAll_patchAll_self (d : Document) (patch : Props) :
    (d.patchAll patch).patchAll patch = d.patchAll patch := by
  simp [patchAll, Element.patched, Props.merge_merge_self]

/-- Patches of different properties can be laid over in either order. -/
theorem Props.merge_right_comm {p q : Props}
    (apart : ∀ name, p.get name = none ∨ q.get name = none) (base : Props) :
    (base.merge p).merge q = (base.merge q).merge p := by
  apply ext_get
  intro name
  rcases apart name with none | none <;> simp [get_merge, none]

theorem Document.patchAll_right_comm {p q : Props}
    (apart : ∀ name, p.get name = none ∨ q.get name = none) (d : Document) :
    (d.patchAll p).patchAll q = (d.patchAll q).patchAll p := by
  simp [patchAll, Element.patched, Props.merge_right_comm apart]

theorem View.closePanel_closePanel (v : View) (panel : Panel) :
    (v.closePanel panel).closePanel panel = v.closePanel panel := by
  simp [closePanel]

namespace Command

theorem rewrite_rewrite (command : Command) (d : Document) :
    command.rewrite (command.rewrite d) = command.rewrite d := by
  cases command with
  | recolor swatch => exact d.patchAll_patchAll_self _
  | centerAll => exact d.patchAll_patchAll_self _
  | clear => rfl
  | setTheme theme => rfl
  | help => rfl

theorem settle_settle (command : Command) (v : View) :
    command.settle (command.settle v) = command.settle v := by
  cases command with
  | setTheme theme => exact v.closePanel_closePanel .themes
  | _ => rfl

end Command

namespace Overhaul

/-- A rewritten document is a fixed point. -/
theorem rewrite_rewrite (overhaul : Overhaul) (d : Document) :
    overhaul.rewrite (overhaul.rewrite d) = overhaul.rewrite d := by
  cases overhaul with
  | clear => rfl
  | setTheme theme => rfl
  | setColumns columns => rfl
  | setBrand brand => rfl
  | syncBrand fields =>
    -- To push tokens twice is to push a longer list of the same tokens.
    calc
      (d.syncBrand fields).syncBrand fields = d.syncBrand (fields ++ fields) :=
        (d.syncBrand_append fields fields).symm
      _ = d.syncBrand fields := d.syncBrand_congr (by simp)
  | obey command => exact command.rewrite_rewrite d

theorem settle_settle (overhaul : Overhaul) (v : View) :
    overhaul.settle (overhaul.settle v) = overhaul.settle v := by
  cases overhaul with
  | clear => exact Command.settle_settle .clear v
  | setTheme theme => exact Command.settle_settle (.setTheme theme) v
  | obey command => exact command.settle_settle v
  | _ => rfl

end Overhaul

/-! ## Durations -/

/-- How long the animations of the elements last, where that is set. -/
def Document.durations (d : Document) : List (Option Single) :=
  d.elements.map (·.props.animationDuration)

theorem Document.durations_patchAll (d : Document) {patch : Props}
    (unset : patch.animationDuration = none) : (d.patchAll patch).durations = d.durations := by
  simp [Document.durations, patchAll, Element.patched, Props.merge, unset]

theorem Document.durations_syncBrand (d : Document) (fields : List BrandField) :
    (d.syncBrand fields).durations = d.durations := by
  have kept : ∀ props : Props,
      (d.brand.syncProps props fields).animationDuration = props.animationDuration := by
    intro props
    -- No token is pushed into the duration.
    have other : Property.animationDuration ∉ fields.map BrandField.property := by
      simp only [List.mem_map, not_exists, not_and]
      rintro (_ | _ | _) - <;> exact nofun
    have pushed := d.brand.get_syncProps props fields .animationDuration
    rwa [if_neg other] at pushed
  simp [Document.durations, syncBrand, kept]

theorem Command.durations_rewrite (command : Command) (d : Document) :
    (command.rewrite d).durations <+: d.durations := by
  cases command with
  | recolor swatch => simp [rewrite, Document.durations_patchAll]
  | centerAll => simp [rewrite, Document.durations_patchAll]
  | clear => exact List.nil_prefix
  | setTheme theme => exact List.prefix_rfl
  | help => exact List.prefix_rfl

/-- A rewriting keeps the durations, or there are no elements any more. -/
theorem Overhaul.durations_rewrite (overhaul : Overhaul) (d : Document) :
    (overhaul.rewrite d).durations <+: d.durations := by
  cases overhaul with
  | clear => exact Command.durations_rewrite .clear d
  | setTheme theme => exact Command.durations_rewrite (.setTheme theme) d
  | setColumns columns => exact List.prefix_rfl
  | setBrand brand => exact List.prefix_rfl
  | syncBrand fields => simp [rewrite, Document.durations_syncBrand]
  | obey command => exact command.durations_rewrite d

/-- A rewritten document that counts as equal to the one before is the same. -/
theorem Overhaul.rewrite_eq_of_beq (overhaul : Overhaul) {d : Document}
    (same : (overhaul.rewrite d == d) = true) : overhaul.rewrite d = d := by
  refine Document.eq_of_beq same fun a b pair _ => ?_
  rcases List.getElem?_of_mem pair with ⟨i, place⟩
  rcases List.getElem?_zip_eq_some.1 place with ⟨here, there⟩
  have kept : (overhaul.rewrite d).durations[i]? = d.durations[i]? := by
    have inside : i < (overhaul.rewrite d).durations.length := by
      simpa [Document.durations] using (List.getElem?_eq_some_iff.1 here).1
    rcases overhaul.durations_rewrite d with ⟨lost, whole⟩
    rw [← whole, List.getElem?_append_left inside]
  simpa [Document.durations, here, there] using kept

namespace Editor

variable (e : Editor)

theorem commit_self : e.commit e.document = (false, e) := by
  simp [commit]

variable {e} in
theorem document_commit {next : Document}
    (same : (next == e.document) = true → next = e.document) :
    (e.commit next).2.document = next := by
  unfold commit
  split
  · next equal => exact (same equal).symm
  · rfl

/-- An overhaul settles the view and commits the rewritten document. -/
theorem perform_overhaul (overhaul : Overhaul) :
    e.perform overhaul.operation =
      let committed :=
        { e with view := overhaul.settle e.view }.commit (overhaul.rewrite e.document)
      (.flag committed.1, committed.2) := by
  cases overhaul with
  | obey command =>
    cases command with
    | help =>
      -- A request for help commits nothing, and neither does a commit of the same document.
      have none : { e with view := e.view }.commit e.document = (false, e) := e.commit_self
      exact (congrArg (fun committed => (Outcome.flag committed.1, committed.2)) none).symm
    | _ => rfl
  | _ => rfl

/-- After an overhaul the document is the rewritten one. -/
theorem document_overhaul (overhaul : Overhaul) :
    (e.perform overhaul.operation).2.document = overhaul.rewrite e.document := by
  rw [perform_overhaul]
  exact document_commit overhaul.rewrite_eq_of_beq

theorem view_overhaul (overhaul : Overhaul) :
    (e.perform overhaul.operation).2.view = overhaul.settle e.view := by
  rw [perform_overhaul]
  exact view_commit _ _

/-- What it means that an editor is as an overhaul leaves it. -/
structure LeftBy (overhaul : Overhaul) : Prop where
  document : overhaul.rewrite e.document = e.document
  view : overhaul.settle e.view = e.view

theorem leftBy_perform (overhaul : Overhaul) :
    (e.perform overhaul.operation).2.LeftBy overhaul where
  document := by rw [document_overhaul, overhaul.rewrite_rewrite]
  view := by rw [view_overhaul, overhaul.settle_settle]

variable {e}

/-- Done again, an overhaul changes nothing. -/
theorem LeftBy.perform {overhaul : Overhaul} (left : e.LeftBy overhaul) :
    e.perform overhaul.operation = (.flag false, e) := by
  have none : { e with view := e.view }.commit e.document = (false, e) := e.commit_self
  rw [perform_overhaul, left.document, left.view, none]

theorem LeftBy.apply {command : Command} (left : e.LeftBy (.obey command)) :
    e.apply command = (false, e) := by
  have performed : (Outcome.flag (e.apply command).1, (e.apply command).2) = (.flag false, e) :=
    left.perform
  rcases Prod.mk.inj performed with ⟨flag, editor⟩
  exact Prod.ext (Outcome.flag.inj flag) editor

/-- The answer to a message carries out its command, and no more of it shows but in the chat. -/
theorem leftBy_answer (e : Editor) (text : String) :
    (e.answer text).LeftBy (.obey (.interpret text)) :=
  have left := e.leftBy_perform (.obey (.interpret text))
  ⟨left.document, left.view⟩

theorem LeftBy.answer {text : String} (left : e.LeftBy (.obey (.interpret text))) :
    ∃ chat, e.answer text = e.withChat chat := by
  refine ⟨e.chat.reply (Command.interpret text).reply, ?_⟩
  rw [Editor.answer, left.apply]
  rfl

/-- **Changes of the whole page settle at once.** If the page is cleared, its theme, columns or
brand are set, tokens of the brand are pushed, or a command is obeyed, such as one interpreted from
a message, then to do the same again reports no change and leaves the editor as it is: the document,
its history and the files. To answer a message again changes nothing but the chat. And the commands
that recolor and center all elements give the same document in either order. -/
theorem repeat_of_overhaul (e : Editor) :
    (∀ overhaul : Overhaul,
      let once := (e.perform overhaul.operation).2
      once.document = overhaul.rewrite e.document ∧
        once.perform overhaul.operation = (.flag false, once)) ∧
    (∀ text,
      let once := e.answer text
      once.apply (.interpret text) = (false, once) ∧
        ∃ chat, once.answer text = once.withChat chat) ∧
    ∀ swatch,
      ((e.apply (.recolor swatch)).2.apply .centerAll).2.document =
        ((e.apply .centerAll).2.apply (.recolor swatch)).2.document := by
  have applied : ∀ (e : Editor) (command : Command),
      (e.apply command).2.document = command.rewrite e.document :=
    fun e command => e.document_overhaul (.obey command)
  refine ⟨?_, ?_, ?_⟩
  · intro overhaul
    exact ⟨e.document_overhaul overhaul, (e.leftBy_perform overhaul).perform⟩
  · intro text
    have left := e.leftBy_answer text
    exact ⟨left.apply, left.answer⟩
  · intro swatch
    -- One command sets the background and the other one the alignment.
    have apart : ∀ name, ({ background := some swatch.hex } : Props).get name = none ∨
        ({ align := some .center } : Props).get name = none := by
      intro name
      cases name with
      | background => exact .inr rfl
      | _ => exact .inl rfl
    calc
      ((e.apply (.recolor swatch)).2.apply .centerAll).2.document
          = Command.centerAll.rewrite ((Command.recolor swatch).rewrite e.document) := by
        rw [applied, applied]
      _ = (Command.recolor swatch).rewrite (Command.centerAll.rewrite e.document) :=
        Document.patchAll_right_comm apart e.document
      _ = ((e.apply .centerAll).2.apply (.recolor swatch)).2.document := by
        rw [applied, applied]

end Editor
end PageBuilder
