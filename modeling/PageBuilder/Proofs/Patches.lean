import PageBuilder.Proofs.Targets

/-!
# Patches one after the other

Each property is set by the last patch that sets it. So a run of patches comes to one patch, the one
that they make when they are laid over each other, for a set of properties and for an element of a
document. What the property is makes no difference: all is said of the names of properties.
-/

namespace PageBuilder

/-! ## Patches of properties -/

namespace Props

/-- Lays patches over properties, one after the other. -/
def mergeAll (base : Props) (patches : List Props) : Props := patches.foldl merge base

theorem empty_merge (base : Props) : ({} : Props).merge base = base := by
  apply ext_get
  intro name
  simp only [get_merge, get_empty, Option.or_none]

theorem merge_assoc (base p q : Props) : (base.merge p).merge q = base.merge (p.merge q) := by
  apply ext_get
  intro name
  simp only [get_merge, Option.or_assoc]

theorem merge_merge_self (base patch : Props) :
    (base.merge patch).merge patch = base.merge patch := by
  apply ext_get
  intro name
  simp only [get_merge]
  cases patch.get name <;> rfl

/-- What is set stays set, to the same or to something else. -/
theorem isSome_get_merge {base : Props} {name : Property} (set : (base.get name).isSome = true)
    (patch : Props) : ((base.merge patch).get name).isSome = true := by
  simp [get_merge, set]

/-- A property is as the last patch that sets it says. -/
theorem get_mergeAll (base : Props) (patches : List Props) (name : Property) :
    (base.mergeAll patches).get name =
      (patches.filterMap (·.get name)).getLast?.or (base.get name) := by
  induction patches generalizing base with
  | nil =>
    rfl
  | cons patch rest ih =>
    calc
      (base.mergeAll (patch :: rest)).get name
          = ((base.merge patch).mergeAll rest).get name := rfl
      _ = (rest.filterMap (·.get name)).getLast?.or ((patch.get name).or (base.get name)) := by
        rw [ih, get_merge]
      _ = ((patch :: rest).filterMap (·.get name)).getLast?.or (base.get name) := by
        -- A patch counts only if it sets the property and no later one does.
        cases set : patch.get name with
        | none =>
          simp [set]
        | some value =>
          cases later : (rest.filterMap (·.get name)).getLast? <;>
            simp [set, later, List.getLast?_cons]

/-- A run of patches is the one patch that they make over the empty set. -/
theorem mergeAll_eq_merge (base : Props) (patches : List Props) :
    base.mergeAll patches = base.merge (mergeAll {} patches) := by
  apply ext_get
  intro name
  simp only [get_merge, get_mergeAll, get_empty, Option.or_none]

end Props

/-! ## Patches of elements -/

namespace Document

/-- Lays patches over the properties of an element, one after the other. -/
def patchEach? (d : Document) (id : ElementId) (patches : List Props) : Option Document :=
  patches.foldlM (fun d patch => d.patch? id patch) d

variable {d : Document} {id : ElementId} {front back : List Element} {target : Element}

/-- A run of patches changes the target, and it stays the one that the id stands for. -/
theorem Splits.patchEach? (splits : d.Splits id front target back) (patches : List Props) :
    d.patchEach? id patches = some { d with
      elements := front ++ { target with props := target.props.mergeAll patches } :: back } := by
  induction patches generalizing d target with
  | nil =>
    simp [Document.patchEach?, Props.mergeAll, ← splits.elements]
  | cons patch rest ih =>
    let next : Document := { d with elements := front ++ target.patched patch :: back }
    have first : d.patch? id patch = some next := splits.modify? _
    have kept : next.Splits id front (target.patched patch) back :=
      ⟨rfl, splits.id_target, splits.first⟩
    calc
      d.patchEach? id (patch :: rest) = next.patchEach? id rest := by
        simp [Document.patchEach?, first]
      _ = some { d with elements := front ++
            { target with props := target.props.mergeAll (patch :: rest) } :: back } := ih kept

theorem patchEach?_of_not_mem (missing : id ∉ d.ids) {patches : List Props}
    (some : patches ≠ []) : d.patchEach? id patches = none := by
  cases patches with
  | nil => exact absurd rfl some
  | cons patch rest =>
    have none : d.patch? id patch = none := edit?_of_not_mem missing id (.patch patch)
    simp [patchEach?, none]

/-- One lemma for documents: a run of patches of an element is one patch of it, if there is a patch
or an element at all. -/
theorem patchEach?_eq_patch? {patches : List Props} (some : id ∈ d.ids ∨ patches ≠ []) :
    d.patchEach? id patches = d.patch? id (Props.mergeAll {} patches) ∧
      ((d.patchEach? id patches).isSome = true ↔ id ∈ d.ids) := by
  by_cases there : id ∈ d.ids
  · rcases exists_splits there with ⟨front, target, back, splits⟩
    have each := splits.patchEach? patches
    have once : d.patch? id (Props.mergeAll {} patches) = _ := splits.modify? _
    refine ⟨?_, by simp [each, there]⟩
    rw [each, once, Element.patched, ← Props.mergeAll_eq_merge]
  · have each := patchEach?_of_not_mem there (some.resolve_left there)
    have once : d.patch? id (Props.mergeAll {} patches) = none :=
      edit?_of_not_mem there id (.patch _)
    exact ⟨each.trans once.symm, by simp [each, there]⟩

theorem foldl_patchAll (d : Document) (patches : List Props) :
    patches.foldl patchAll d = d.patchAll (Props.mergeAll {} patches) := by
  have each : patches.foldl patchAll d = { d with
      elements := d.elements.map fun e => { e with props := e.props.mergeAll patches } } := by
    induction patches generalizing d with
    | nil =>
      simp [Props.mergeAll]
    | cons patch rest ih =>
      simp [ih, patchAll, Element.patched, Props.mergeAll]
  rw [each]
  simp only [patchAll, Element.patched, ← Props.mergeAll_eq_merge]

end Document

/-- **The last patch wins.** When patches are laid over properties one after the other, each
property is as the last patch that sets it says, or as before if none does; so they come to the one
patch that they make over the empty set. Laying over is associative, the empty set is its identity,
a patch that is laid over twice does no more than once, and none unsets a property. Patches of an
element, or of all elements of a page, come to that one patch as well. -/
theorem Props.merge_of_patches (base : Props) (patches : List Props) :
    let folded := mergeAll {} patches
    (∀ name, (base.mergeAll patches).get name =
      (patches.filterMap (·.get name)).getLast?.or (base.get name)) ∧
    base.mergeAll patches = base.merge folded ∧
    (∀ p q, (base.merge p).merge q = base.merge (p.merge q)) ∧
    base.merge {} = base ∧ ({} : Props).merge base = base ∧
    (∀ p, (base.merge p).merge p = base.merge p) ∧
    (∀ p name, (base.get name).isSome = true → ((base.merge p).get name).isSome = true) ∧
    (∀ (d : Document) id, id ∈ d.ids ∨ patches ≠ [] →
      d.patchEach? id patches = d.patch? id folded ∧
      ((d.patchEach? id patches).isSome = true ↔ id ∈ d.ids)) ∧
    ∀ d : Document, patches.foldl Document.patchAll d = d.patchAll folded := by
  intro folded
  exact ⟨get_mergeAll base patches, mergeAll_eq_merge base patches, merge_assoc base,
    merge_empty base, empty_merge base, merge_merge_self base,
    fun p name set => isSome_get_merge set p,
    fun d id some => Document.patchEach?_eq_patch? some, fun d => d.foldl_patchAll patches⟩

/-- The last of three patches that sets the radius is the second one. They are laid over the first of
two elements with the same id. -/
theorem Props.merge_of_three_patches :
    let patches : List Props :=
      [{ radius := some 30, color := some "#000" }, { radius := some 4 }, { color := some "" }]
    let d : Document := { elements := [⟨"a", .card, "", editorDefaults⟩, ⟨"a", .hero, "", {}⟩] }
    "a" ∈ d.ids ∧ (editorDefaults.get .radius).isSome = true ∧
      (editorDefaults.mergeAll patches).get .radius = some (4 : UInt32) ∧
      ((editorDefaults.merge { radius := some 4 }).get .radius).isSome = true ∧
      d.patchEach? "a" patches = d.patch? "a" { radius := some 4, color := some "" } ∧
      (d.patchEach? "a" patches).isSome = true := by
  intro patches d
  have there : "a" ∈ d.ids := by decide
  have set : (editorDefaults.get .radius).isSome = true := rfl
  rcases merge_of_patches editorDefaults patches with
    ⟨wins, -, -, -, -, -, stays, element, -⟩
  have once := element d "a" (.inl there)
  exact ⟨there, set, wins .radius, stays _ .radius set, once.1, once.2.2 there⟩

end PageBuilder
