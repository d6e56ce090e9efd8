import Mathlib.Data.List.Forall2
import PageBuilder.Proofs.Properties
import PageBuilder.Render.Style

/-!
# Brand tokens in the properties of elements

To push tokens of the brand into an element is to set the properties that belong to them, and each
token has its own property. So it makes no difference in which order tokens are pushed and how
often, and the other properties stay. What an element has of its own goes before the brand it is shown
under; so where all tokens have been pushed, they show whatever the brand is later, as long as they
are not blank.
-/

namespace PageBuilder

/-! ## The properties of tokens -/

/-- The property that a token is pushed into. -/
def BrandField.property : BrandField → Property
  | radius => .radius
  | primary => .background
  | secondary => .badgeColor

namespace Brand

/-- The tokens of a brand where they are pushed to. -/
def tokens (brand : Brand) : Props :=
  { radius := some brand.radius
    background := some brand.primary
    badgeColor := some brand.secondary }

variable (brand : Brand)

theorem get_syncField (props : Props) (field : BrandField) (name : Property) :
    (brand.syncField props field).get name =
      if name = field.property then brand.tokens.get name else props.get name := by
  cases field <;> cases name <;> rfl

/-- A property is as its token, if that is among those that are pushed, and else as before. -/
theorem get_syncProps (props : Props) (fields : List BrandField) (name : Property) :
    (brand.syncProps props fields).get name =
      if name ∈ fields.map BrandField.property then brand.tokens.get name else props.get name := by
  induction fields generalizing props with
  | nil =>
    simp [syncProps]
  | cons field rest ih =>
    calc
      (brand.syncProps props (field :: rest)).get name
          = (brand.syncProps (brand.syncField props field) rest).get name := rfl
      _ = if name ∈ rest.map BrandField.property then brand.tokens.get name
          else if name = field.property then brand.tokens.get name else props.get name := by
        rw [ih, get_syncField]
      _ = if name ∈ (field :: rest).map BrandField.property then brand.tokens.get name
          else props.get name := by
        -- A later push of the same token sets the same value.
        by_cases later : name ∈ rest.map BrandField.property
        · simp only [later, if_true, List.map_cons, List.mem_cons, or_true]
        · simp only [later, if_false, List.map_cons, List.mem_cons, or_false]

/-- Only the set of tokens matters. -/
theorem syncProps_congr {fields fields' : List BrandField}
    (same : ∀ field, field ∈ fields' ↔ field ∈ fields) (props : Props) :
    brand.syncProps props fields' = brand.syncProps props fields := by
  apply Props.ext_get
  intro name
  simp only [get_syncProps, List.mem_map, same]

theorem syncProps_append (props : Props) (fields more : List BrandField) :
    brand.syncProps props (fields ++ more) =
      brand.syncProps (brand.syncProps props fields) more :=
  List.foldl_append

/-- What it means that an element is another one with tokens pushed into its properties. -/
structure Synced (fields : List BrandField) (before after : Element) : Prop where
  id : after.id = before.id
  kind : after.kind = before.kind
  label : after.label = before.label
  props : ∀ name, after.props.get name =
    if name ∈ fields.map BrandField.property then brand.tokens.get name else before.props.get name

theorem synced_syncProps (fields : List BrandField) (e : Element) :
    brand.Synced fields e { e with props := brand.syncProps e.props fields } :=
  ⟨rfl, rfl, rfl, brand.get_syncProps e.props fields⟩

end Brand

namespace Document

theorem forall₂_syncBrand (d : Document) (fields : List BrandField) :
    List.Forall₂ (d.brand.Synced fields) d.elements (d.syncBrand fields).elements := by
  apply List.forall₂_map_right_iff.2
  apply List.forall₂_same.2
  intro e _
  exact d.brand.synced_syncProps fields e

theorem syncBrand_congr (d : Document) {fields fields' : List BrandField}
    (same : ∀ field, field ∈ fields' ↔ field ∈ fields) :
    d.syncBrand fields' = d.syncBrand fields := by
  simp only [syncBrand, d.brand.syncProps_congr same]

theorem syncBrand_append (d : Document) (fields more : List BrandField) :
    d.syncBrand (fields ++ more) = (d.syncBrand fields).syncBrand more := by
  simp only [syncBrand, Brand.syncProps_append, List.map_map]
  rfl

end Document

/-! ## How pushed tokens show -/

theorem Props.visible_some {value : String} (inked : Text.isBlank value = false) :
    visible (some value) = some value := by
  simp [visible, inked]

/-- What it means that an element shows the tokens of a brand, whatever brand it is shown under. -/
structure Brand.Shows (brand : Brand) (s : Styled) : Prop where
  radius : s.radius = brand.radius.toNat
  badgeTint : s.badgeTint = brand.secondary
  background : s.background =
    some (if s.element.kind = .badge then brand.secondary else brand.primary)

theorem Brand.Synced.shows {brand : Brand} {fields : List BrandField} {before after : Element}
    (synced : brand.Synced fields before after) (all : ∀ field, field ∈ fields)
    (primary : Text.isBlank brand.primary = false)
    (secondary : Text.isBlank brand.secondary = false) (later : Option Brand) :
    brand.Shows ⟨after, later⟩ := by
  have pushed : ∀ field : BrandField,
      after.props.get field.property = brand.tokens.get field.property := by
    intro field
    rw [synced.props, if_pos (List.mem_map_of_mem (all field))]
  have radius : after.props.radius = some brand.radius := pushed .radius
  have fill : after.props.fill = some brand.primary := by
    have set : after.props.background = some brand.primary := pushed .primary
    rw [Props.fill, set, Props.visible_some primary]
  have badge : after.props.badge = some brand.secondary := by
    have set : after.props.badgeColor = some brand.secondary := pushed .secondary
    rw [Props.badge, set, Props.visible_some secondary]
  refine ⟨?_, ?_, ?_⟩
  · simp [Styled.radius, Styled.explicitRadius, radius]
  · simp [Styled.badgeTint, badge]
  · cases kind : after.kind <;> simp [Styled.background, kind, fill, badge]

/-- **Only the set of tokens matters, and pushed tokens win.** A document with tokens of its brand
pushed into its elements does not depend on their order and repetition, and to push some and then
others is to push all of them. The elements are as before but for the properties of these tokens,
and nothing else changes. If all tokens are pushed and the colors are not blank, every element shows
the radius and the colors of the brand, whatever brand it is shown under later. -/
theorem Document.syncBrand_of_fields (d : Document) (fields : List BrandField) :
    (∀ fields', (∀ field, field ∈ fields' ↔ field ∈ fields) →
      d.syncBrand fields' = d.syncBrand fields) ∧
    (∀ more, (d.syncBrand fields).syncBrand more = d.syncBrand (fields ++ more)) ∧
    (d.syncBrand fields).theme = d.theme ∧ (d.syncBrand fields).columns = d.columns ∧
    (d.syncBrand fields).brand = d.brand ∧
    List.Forall₂ (d.brand.Synced fields) d.elements (d.syncBrand fields).elements ∧
    ((∀ field, field ∈ fields) → Text.isBlank d.brand.primary = false →
      Text.isBlank d.brand.secondary = false →
      ∀ e ∈ (d.syncBrand fields).elements, ∀ later, d.brand.Shows ⟨e, later⟩) := by
  refine ⟨fun _ same => d.syncBrand_congr same, fun more => (d.syncBrand_append fields more).symm,
    rfl, rfl, rfl, d.forall₂_syncBrand fields, ?_⟩
  intro all primary secondary e member later
  rcases List.mem_map.1 member with ⟨before, -, rfl⟩
  exact (d.brand.synced_syncProps fields before).shows all primary secondary later

/-- A badge with colors of its own and a button, into which all tokens are pushed, one of them
twice. They are shown under a brand with other colors. -/
theorem Document.syncBrand_of_badge :
    let badge : Element := ⟨"a", .badge, "New", { badgeColor := some "red", color := some "#000" }⟩
    let button : Element := ⟨"b", .button, "Go", { radius := some 2 }⟩
    let brand : Brand := { primary := "#111", secondary := "#222", radius := 4 }
    let d : Document := { elements := [badge, button], brand }
    let fields : List BrandField := [.secondary, .radius, .primary, .radius]
    let later : Brand := { primary := "#333", secondary := "#444", radius := 9 }
    (∀ field, field ∈ fields) ∧ Text.isBlank brand.primary = false ∧
      Text.isBlank brand.secondary = false ∧
      (∀ field, field ∈ [BrandField.radius, .primary, .secondary] ↔ field ∈ fields) ∧
      d.syncBrand [.radius, .primary, .secondary] = d.syncBrand fields ∧
      (∀ e ∈ (d.syncBrand fields).elements, brand.Shows ⟨e, some later⟩) ∧
      (d.syncBrand fields).elements.map (fun e => (Styled.mk e (some later)).background) =
        [some "#222", some "#111"] := by
  intro badge button brand d fields later
  have all : ∀ field, field ∈ fields := by
    intro field
    cases field <;> decide
  have same : ∀ field, field ∈ [BrandField.radius, .primary, .secondary] ↔ field ∈ fields := by
    intro field
    cases field <;> decide
  have primary : Text.isBlank brand.primary = false := by decide +kernel
  have secondary : Text.isBlank brand.secondary = false := by decide +kernel
  rcases d.syncBrand_of_fields fields with ⟨reordered, -, -, -, -, -, shows⟩
  refine ⟨all, primary, secondary, same, reordered _ same, ?_, by decide +kernel⟩
  intro e member
  exact shows all primary secondary e member (some later)

end PageBuilder
