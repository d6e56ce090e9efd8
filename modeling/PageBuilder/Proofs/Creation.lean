import PageBuilder.Proofs.FreshIds
import PageBuilder.Proofs.Selection
import PageBuilder.Proofs.Snapshots
import PageBuilder.Proofs.Properties

/-!
# Creating elements

Elements are created one by one, from a template, from a prompt, or as a premade page. What is
created is said by blueprints, and `Blueprint.Describes` says what an element is like that is made
from one. The first three ways put a batch behind the elements that are there, and a premade page
puts one in their place; each draws one id for each element and is one undo step.
-/

namespace PageBuilder

open Numeric

/-! ## Elements from blueprints -/

/-- What an element made from a blueprint is like, whatever its id: a property that the blueprint
does not set is as for every new element. -/
structure Blueprint.Describes (b : Blueprint) (e : Element) : Prop where
  kind : e.kind = b.kind
  label : e.label = b.label
  props : ∀ name, e.props.get name = (b.patch.get name).or (Props.editorDefaults.get name)

namespace Blueprint

theorem describes_element (b : Blueprint) (id : ElementId) : b.Describes (b.element id) :=
  ⟨rfl, rfl, Props.get_merge Props.editorDefaults b.patch⟩

theorem forall₂_build (source : IdSource) (scope : Scope) (blueprints : List Blueprint) :
    List.Forall₂ Describes blueprints (build source scope blueprints).1 := by
  induction blueprints generalizing source with
  | nil => exact .nil
  | cons b rest ih => exact .cons (b.describes_element _) (ih _)

theorem length_build (source : IdSource) (scope : Scope) (blueprints : List Blueprint) :
    (build source scope blueprints).1.length = blueprints.length :=
  (forall₂_build source scope blueprints).length_eq.symm

/-- One id is drawn for each element. -/
theorem source_build (source : IdSource) (scope : Scope) (blueprints : List Blueprint) :
    (build source scope blueprints).2 =
      { source with issued := source.issued + (build source scope blueprints).1.length } := by
  rw [length_build]
  induction blueprints generalizing source with
  | nil => rfl
  | cons b rest ih =>
    calc
      (build source scope (b :: rest)).2 = (build (source.next scope).2 scope rest).2 := rfl
      _ = { source with issued := source.issued + 1 + rest.length } := ih (source.next scope).2
      _ = { source with issued := source.issued + (b :: rest).length } := by
        rw [List.length_cons, Nat.add_right_comm, Nat.add_assoc]

/-- The ids of the elements are drawn in order. -/
theorem take_eq_build (source : IdSource) (scope : Scope) (blueprints : List Blueprint) :
    let built := build source scope blueprints
    source.take (List.replicate built.1.length scope) = (built.1.map (·.id), built.2) := by
  intro built
  rw [length_build]
  exact build_eq_take source scope blueprints

theorem build_ne_nil {source : IdSource} {scope : Scope} {blueprints : List Blueprint}
    (some : blueprints ≠ []) : (build source scope blueprints).1 ≠ [] := by
  cases blueprints with
  | nil => exact absurd rfl some
  | cons b rest => exact List.cons_ne_nil _ _

end Blueprint

/-- A way of putting new elements behind those that are there. -/
inductive Creation
  | add (kind : Kind)
  | insert (template : Template)
  | prompt (text : String)

namespace Creation

def operation : Creation → Operation
  | add kind => .add kind
  | insert template => .insertTemplate template
  | prompt text => .synthesize text

/-- What is created. One element is created from its kind, with the label of the kind and no
property of its own. -/
def blueprints : Creation → List Blueprint
  | add kind => [{ kind, label := kind.defaultLabel }]
  | insert template => template.blueprints
  | prompt text => Intent.plan text

/-- The way of creation that the ids tell. -/
def scope : Creation → Scope
  | add _ => .node
  | insert _ => .template
  | prompt _ => .synthesis

/-- Whether nothing is created, since nothing is asked for. -/
def isBlank : Creation → Bool
  | prompt text => Text.isBlank text
  | _ => false

theorem blueprints_ne_nil (creation : Creation) : creation.blueprints ≠ [] := by
  cases creation with
  | add kind => exact List.cons_ne_nil _ _
  | insert template => cases template <;> exact List.cons_ne_nil _ _
  | prompt text =>
    simp only [blueprints, Intent.plan]
    split
    · next intent _ => cases intent <;> exact List.cons_ne_nil _ _
    · exact List.cons_ne_nil _ _

end Creation

/-! ## Equal documents

Documents are compared by `==`, for which the two zeros are one number. Where no duration is zero,
documents that count as equal are the same. -/

theorem Numeric.Binary.eq_of_beq {F : BinaryFormat} {x y : Binary F} (same : (x == y) = true)
    (nonzero : x.isZero = false) : x = y := by
  have rank := Binary.beq_iff.1 same
  have size : x.magnitude ≠ 0 := by simpa [isZero] using nonzero
  rcases x with ⟨negative, magnitude, bound⟩
  rcases y with ⟨negative', magnitude', bound'⟩
  simp only [Binary.rank, mk.injEq] at rank size ⊢
  -- Numbers of different signs have the same place only if both are zero.
  cases negative <;> cases negative' <;> simp at rank ⊢ <;> omega

/-- Properties that count as equal are the same if their durations are. -/
theorem Props.eq_of_beq {p q : Props} (same : (p == q) = true)
    (duration : (p.animationDuration == q.animationDuration) = true →
      p.animationDuration = q.animationDuration) : p = q := by
  cases p
  cases q
  have fields : instBEqProps.beq _ _ = true := same
  simp only [instBEqProps.beq, Bool.and_eq_true, beq_iff_eq] at fields duration
  -- Only durations, the last field, are compared in a way of their own.
  rcases fields with ⟨rfl, rfl, rfl, rfl, rfl, rfl, rfl, rfl, rfl, rfl, rfl, rfl, rfl, rfl, rfl,
    rfl, durations⟩
  rw [duration durations]

theorem Element.eq_of_beq {a b : Element} (same : (a == b) = true)
    (duration : (a.props.animationDuration == b.props.animationDuration) = true →
      a.props.animationDuration = b.props.animationDuration) : a = b := by
  cases a
  cases b
  have fields : instBEqElement.beq _ _ = true := same
  simp only [instBEqElement.beq, Bool.and_eq_true, beq_iff_eq] at fields
  rcases fields with ⟨rfl, rfl, rfl, props⟩
  rw [Props.eq_of_beq props duration]

/-- Documents that count as equal are the same if the durations in the same place are the same,
given that these count as equal. -/
theorem Document.eq_of_beq {d d' : Document} (same : (d == d') = true)
    (durations : ∀ a b, (a, b) ∈ d.elements.zip d'.elements →
      (a.props.animationDuration == b.props.animationDuration) = true →
      a.props.animationDuration = b.props.animationDuration) : d = d' := by
  have elements : d.elements = d'.elements := by
    have alike := forall₂_elements_of_beq same
    generalize d.elements = xs at alike durations ⊢
    generalize d'.elements = ys at alike durations ⊢
    induction alike with
    | nil => rfl
    | @cons a b xs ys head _ ih =>
      have first : a = b := Element.eq_of_beq head (durations a b List.mem_cons_self)
      have later : xs = ys := ih fun a b pair => durations a b (List.mem_cons_of_mem _ pair)
      rw [first, later]
  have fields : instBEqDocument.beq d d' = true := same
  cases d
  cases d'
  simp only [instBEqDocument.beq, Bool.and_eq_true, beq_iff_eq] at fields elements
  rcases fields with ⟨-, rfl, rfl, brand⟩
  rw [elements, brand]

/-- Whether no duration is zero. -/
def Props.Timed (p : Props) : Prop := ∀ x, p.animationDuration = some x → x.isZero = false

theorem Props.Timed.duration_eq_of_beq {p q : Props} (timed : p.Timed)
    (same : (p.animationDuration == q.animationDuration) = true) :
    p.animationDuration = q.animationDuration := by
  unfold Timed at timed
  generalize p.animationDuration = duration at timed same ⊢
  generalize q.animationDuration = duration' at same ⊢
  cases duration with
  | none =>
    cases duration' with
    | none => rfl
    | some y => cases same
  | some x =>
    cases duration' with
    | none => cases same
    | some y => exact congrArg some (Binary.eq_of_beq same (timed x rfl))

theorem Document.eq_of_beq_of_timed {d d' : Document} (same : (d == d') = true)
    (timed : ∀ e ∈ d.elements, e.props.Timed) : d = d' :=
  eq_of_beq same fun _ _ pair => (timed _ (List.of_mem_zip pair).1).duration_eq_of_beq

theorem Document.append_differs (d : Document) {batch : List Element} (some : batch ≠ []) :
    (d.append batch == d) = false := by
  refine beq_eq_false_of_ids ?_
  rw [ids_append]
  intro same
  exact some (List.map_eq_nil_iff.1 (List.append_right_eq_self.1 same))

namespace Editor

variable {e t : Editor}

/-! ## One step -/

/-- One undo step leads from one editor to another: the history of the second has got the document
of the first and nothing else, and a step back brings it. -/
structure OneStep (e t : Editor) : Prop where
  recorded : t.history = e.history.commit e.document
  undone : t.undo.1 = true
  restored : t.undo.2.document = e.document

theorem OneStep.of_recorded (bounded : e.Bounded)
    (recorded : t.history = e.history.commit e.document) : OneStep e t := by
  refine ⟨recorded, ?_, ?_⟩
  all_goals
    simp only [undo, recorded, History.undo?_commit bounded.room]
    rfl

/-! ## Batches -/

/-- What it means that the elements of blueprints were put behind the others, with ids of some
scope. -/
structure Appended (e t : Editor) (scope : Scope) (blueprints : List Blueprint)
    (batch : List Element) : Prop where
  described : List.Forall₂ Blueprint.Describes blueprints batch
  drawn : e.ids.take (List.replicate batch.length scope) = (batch.map (·.id), t.ids)
  issued : t.ids = { e.ids with issued := e.ids.issued + batch.length }
  document : t.document = { e.document with elements := e.document.elements ++ batch }
  step : OneStep e t

/-- What it means that the elements of a premade page took the place of the others. -/
structure Replaced (e t : Editor) (premade : Premade) (batch : List Element) : Prop where
  described : List.Forall₂ Blueprint.Describes premade.blueprints batch
  drawn : e.ids.take (List.replicate batch.length .template) = (batch.map (·.id), t.ids)
  issued : t.ids = { e.ids with issued := e.ids.issued + batch.length }
  document : t.document =
    { elements := batch, theme := premade.theme, columns := premade.columns,
      brand := e.document.brand }
  step : (t.document = e.document ∧ t.history = e.history) ∨ OneStep e t

theorem appended_addBlueprints (bounded : e.Bounded) (scope : Scope) {blueprints : List Blueprint}
    (some : blueprints ≠ []) :
    ∃ batch, Appended e (e.addBlueprints scope blueprints).2 scope blueprints batch ∧
      (e.addBlueprints scope blueprints).1 = batch.map (·.id) := by
  let batch := (Blueprint.build e.ids scope blueprints).1
  let start : Editor := { e with ids := (Blueprint.build e.ids scope blueprints).2 }
  have full : batch ≠ [] := Blueprint.build_ne_nil some
  -- The batch is not empty, so the document changes and the commit takes place.
  have added : (e.addBlueprints scope blueprints).2 =
      { start with
        document := e.document.append batch
        history := e.history.commit e.document
        store := e.store.persistDocument (e.document.append batch) } := by
    have differs : (start.document.append batch == start.document) = false :=
      e.document.append_differs full
    have committed : start.append batch = start.commit (start.document.append batch) := by
      simp [append, full]
    calc
      (e.addBlueprints scope blueprints).2 = (start.append batch).2 := rfl
      _ = (start.commit (start.document.append batch)).2 := by rw [committed]
      _ = _ := by rw [commit_of_differs differs]
  rw [added]
  exact ⟨batch, ⟨Blueprint.forall₂_build _ _ _, Blueprint.take_eq_build e.ids scope blueprints,
    Blueprint.source_build e.ids scope blueprints, rfl, .of_recorded bounded rfl⟩, rfl⟩

/-- What belongs to the view may change as well. -/
theorem Appended.ending (bounded : e.Bounded) {scope : Scope} {blueprints : List Blueprint}
    {batch : List Element} (appended : Appended e t scope blueprints batch) (view : View) :
    Appended e { t with view } scope blueprints batch :=
  ⟨appended.described, appended.drawn, appended.issued, appended.document,
    .of_recorded bounded appended.step.recorded⟩

/-- To add an element is to add a batch of one, and to select it. -/
theorem add_eq (e : Editor) (kind : Kind) :
    let added := e.addBlueprints .node (Creation.add kind).blueprints
    added.1 = [(e.add kind).1] ∧
      (e.add kind).2 = { added.2 with view := added.2.view.select (e.add kind).1 } := by
  have new : ∀ id, ({ kind, label := kind.defaultLabel } : Blueprint).element id =
      Element.new id kind := by
    intro id
    simp only [Blueprint.element, Element.new, Props.merge_empty]
  refine ⟨rfl, ?_⟩
  simp only [add, addBlueprints, Creation.blueprints, Blueprint.build, new, append]
  rfl

theorem appended_perform (bounded : e.Bounded) {creation : Creation}
    (asked : creation.isBlank = false) :
    ∃ batch, Appended e (e.perform creation.operation).2 creation.scope creation.blueprints batch ∧
      (e.perform creation.operation).1.given = batch.map (·.id) := by
  have full := creation.blueprints_ne_nil
  cases creation with
  | add kind =>
    rcases appended_addBlueprints bounded .node full with ⟨batch, appended, given⟩
    have added := e.add_eq kind
    refine ⟨batch, ?_, added.1.symm.trans given⟩
    have same : (e.perform (Creation.add kind).operation).2 = (e.add kind).2 := rfl
    rw [same, added.2]
    exact appended.ending bounded _
  | insert template =>
    exact appended_addBlueprints bounded .template full
  | prompt text =>
    rcases appended_addBlueprints bounded .synthesis full with ⟨batch, appended, given⟩
    have asked : Text.isBlank text = false := asked
    have same : e.perform (Creation.prompt text).operation =
        let added := e.addBlueprints .synthesis (Intent.plan text)
        (.ids added.1, { added.2 with view := added.2.view.closePanel .prompt }) := by
      simp [Creation.operation, perform, synthesize, asked]
    rw [same]
    exact ⟨batch, appended.ending bounded _, given⟩

theorem perform_of_isBlank {creation : Creation} (blank : creation.isBlank = true) :
    e.perform creation.operation = (.ids [], e) := by
  cases creation with
  | prompt text =>
    have blank : Text.isBlank text = true := blank
    simp [Creation.operation, perform, synthesize, blank]
  | _ => cases blank

theorem perform_duplicate_of_not_mem {id : ElementId} (missing : id ∉ e.document.ids) :
    e.perform (.duplicate id) = (.copy none, e) := by
  have none : e.document.contains id = false := by
    simpa [← Document.contains_iff] using missing
  simp [perform, duplicate, none]

/-! ## Premade pages -/

/-- Where no blueprint sets a duration, all elements have that of a new element. -/
theorem timed_of_described {blueprints : List Blueprint} {batch : List Element}
    (described : List.Forall₂ Blueprint.Describes blueprints batch)
    (unset : ∀ b ∈ blueprints, b.patch.animationDuration = none) :
    ∀ a ∈ batch, a.props.Timed := by
  induction described with
  | nil =>
    intro a member
    cases member
  | @cons b a _ _ describes _ ih =>
    intro other member
    rcases List.mem_cons.1 member with rfl | later
    · have duration : other.props.animationDuration =
          b.patch.animationDuration.or (some Props.defaultDuration) :=
        describes.props .animationDuration
      have nonzero : Props.defaultDuration.isZero = false := by decide +kernel
      intro x set
      simp only [duration, unset b List.mem_cons_self, Option.none_or, Option.some.injEq] at set
      rwa [← set]
    · exact ih (fun b later => unset b (List.mem_cons_of_mem _ later)) other later

theorem duration_of_premade (premade : Premade) :
    ∀ b ∈ premade.blueprints, b.patch.animationDuration = none := by
  cases premade <;> decide

theorem replaced_loadPremade (bounded : e.Bounded) (premade : Premade) :
    ∃ batch, Replaced e (e.loadPremade premade).2 premade batch := by
  let batch := (Blueprint.build e.ids .template premade.blueprints).1
  let start : Editor := { e with
    ids := (Blueprint.build e.ids .template premade.blueprints).2
    projectName := Choice.name premade
    view := e.view.deselect }
  let next : Document :=
    { elements := batch, theme := premade.theme, columns := premade.columns,
      brand := e.document.brand }
  have described : List.Forall₂ Blueprint.Describes premade.blueprints batch :=
    Blueprint.forall₂_build _ _ _
  have drawn := Blueprint.take_eq_build e.ids .template premade.blueprints
  have issued := Blueprint.source_build e.ids .template premade.blueprints
  have loaded : (e.loadPremade premade).2 = (start.commit next).2 := rfl
  -- A page with the very ids that are drawn may have been there, from outside; then it stays.
  cases same : next == e.document with
  | true =>
    have kept : (start.commit next).2 = start := commit_of_beq same
    have equal : next = e.document :=
      Document.eq_of_beq_of_timed same (timed_of_described described (duration_of_premade premade))
    rw [loaded, kept]
    exact ⟨batch, described, drawn, issued, equal.symm, .inl ⟨rfl, rfl⟩⟩
  | false =>
    have differs : (next == start.document) = false := same
    rw [loaded, commit_of_differs differs]
    exact ⟨batch, described, drawn, issued, rfl, .inr (.of_recorded bounded rfl)⟩

/-- **Creating elements only appends.** In every reachable editor, what is created stands behind the
elements that are there, is described by its blueprints in order, has the ids that are given back,
one drawn for each element, and is one step. A premade page puts such a batch in the place of the
elements, keeps the brand, and is at most one step. A blank prompt and a copy of no element change
nothing. -/
theorem created_of_run (store : Store) (ids : IdSource) (before : List Operation) :
    let e := (openOn store ids).run before
    (∀ creation : Creation, creation.isBlank = false →
      ∃ batch,
        Appended e (e.perform creation.operation).2 creation.scope creation.blueprints batch ∧
        (e.perform creation.operation).1.given = batch.map (·.id)) ∧
    (∀ premade, ∃ batch, Replaced e (e.perform (.loadPremade premade)).2 premade batch) ∧
    (∀ creation : Creation, creation.isBlank = true →
      e.perform creation.operation = (.ids [], e)) ∧
    (∀ id, id ∉ e.document.ids → e.perform (.duplicate id) = (.copy none, e)) := by
  intro e
  have bounded : e.Bounded := bounded_run store ids before
  refine ⟨?_, ?_, ?_, ?_⟩
  · intro creation asked
    exact appended_perform bounded asked
  · exact replaced_loadPremade bounded
  · intro creation blank
    exact perform_of_isBlank blank
  · intro id missing
    exact perform_duplicate_of_not_mem missing

/-- A prompt that is blank and one that asks for a login page, behind an element that was added. -/
theorem created_of_login_prompt :
    let e := (openOn {} ⟨"s", 0⟩).run [.add .hero]
    let login : Creation := .prompt "A LOGIN page"
    login.isBlank = false ∧ (Creation.prompt "\t ").isBlank = true ∧ "node-s-2" ∉ e.document.ids ∧
      (∃ batch,
        Appended e (e.perform login.operation).2 .synthesis Intent.login.blueprints batch ∧
        (e.perform login.operation).1.given = batch.map (·.id)) ∧
      e.perform (.synthesize "\t ") = (.ids [], e) ∧
      e.perform (.duplicate "node-s-2") = (.copy none, e) := by
  intro e login
  have asked : login.isBlank = false := by decide +kernel
  have blank : (Creation.prompt "\t ").isBlank = true := by decide +kernel
  have missing : "node-s-2" ∉ e.document.ids := by decide +kernel
  have plan : login.blueprints = Intent.login.blueprints := by decide +kernel
  rcases created_of_run {} ⟨"s", 0⟩ [.add .hero] with ⟨appended, -, nothing, none⟩
  refine ⟨asked, blank, missing, ?_, nothing _ blank, none _ missing⟩
  rw [← plan]
  exact appended login asked

end Editor

end PageBuilder
