import PageBuilder.Proofs.Declarations

/-!
# Colors that can be seen

A blank text is no color. Blank texts of an element count as unset, so what shows is the next source
down to a fixed color. But a token of the brand is taken as it is, and it is the source of two
colors: the fill of a button without a background, and the text of a badge without any color of its
own. So all colors and gradients of a style can be seen just if the token that it borrows from the
brand, if any, is not blank.
-/

namespace PageBuilder

open Text

/-! ## Sources of a color -/

/-- Whether a color, if there is one, can be seen. -/
def Seen (color : Option String) : Prop := ∀ text ∈ color, isBlank text = false

theorem seen_some {text : String} : Seen (some text) ↔ isBlank text = false := by
  simp [Seen]

theorem seen_visible (value : Option String) : Seen (Props.visible value) := by
  intro text shown
  simpa using (Option.filter_eq_some_iff.1 shown).2

theorem Seen.or {color other : Option String} (h : Seen color) (h' : Seen other) :
    Seen (color.or other) := by
  intro text shown
  rcases Option.or_eq_some_iff.1 shown with first | ⟨-, second⟩
  · exact h text first
  · exact h' text second

/-- What is taken of a token if an element has no color of its own. -/
def lent (own token : Option String) : Option String := if own.isNone then token else none

/-- A color is sought in three places. What the element has is not blank, nor is the fixed color at
the end, but the token between them is taken as it is. -/
theorem isBlank_source {own token : Option String} {fallback : String} (seen : Seen own)
    (inked : isBlank fallback = false) :
    isBlank ((own.or token).getD fallback) = (lent own token).any isBlank := by
  cases own with
  | some text => simp [lent, seen text rfl]
  | none =>
    cases token with
    | none => simp [lent, inked]
    | some text => simp [lent]

namespace Props

/-- Properties in which blank texts are unset. -/
def withoutBlanks (p : Props) : Props :=
  { p with
    background := visible p.background
    color := visible p.color
    borderColor := visible p.borderColor
    imageUrl := visible p.imageUrl
    badgeColor := visible p.badgeColor
    gradient := visible p.gradient }

@[simp] theorem visible_visible (value : Option String) :
    visible (visible value) = visible value := by
  simp [visible]

end Props

/-! ## Colors of a style -/

/-- The color or gradient that a declaration gives. -/
def Declaration.paint? : Declaration → Option String
  | background value => some value
  | gradient spec => some spec
  | color value => some value
  | border value => some value
  | _ => none

namespace Styled

variable (s : Styled)

/-- The token of the brand that a style takes as a color: a button without a background takes the
primary color for it, a badge without colors the secondary color for its text. -/
def borrowed? : Option String :=
  let p := s.element.props
  match s.element.kind with
  | .button => lent p.fill (s.brand.map (·.primary))
  | .badge => lent (p.textColor.or (p.badge.or p.fill)) (s.brand.map (·.secondary))
  | _ => none

/-- The colors and gradients of a style come from four fields. -/
theorem paint_iff {text : String} :
    (∃ d ∈ s.declarations, d.paint? = some text) ↔
      s.background = some text ∨ s.element.props.gradientSpec = some text ∨
        s.textColor = some text ∨ s.element.props.border = some text := by
  rw [← List.mem_filterMap, filterMap_declarations]
  simp [Declaration.paint?, eq_comm]

/-- Gradients and borders are those of the element, so only two fields can be blank. -/
theorem seen_paints_iff :
    (∀ d ∈ s.declarations, Seen d.paint?) ↔ Seen s.background ∧ Seen s.textColor := by
  constructor
  · intro seen
    constructor
    · intro text shown
      obtain ⟨d, declared, paints⟩ := s.paint_iff.2 (.inl shown)
      exact seen d declared text paints
    · intro text shown
      obtain ⟨d, declared, paints⟩ := s.paint_iff.2 (.inr (.inr (.inl shown)))
      exact seen d declared text paints
  · rintro ⟨background, color⟩ d declared text paints
    rcases s.paint_iff.1 ⟨d, declared, paints⟩ with fill | gradient | letters | border
    · exact background text fill
    · exact seen_visible _ text gradient
    · exact color text letters
    · exact seen_visible _ text border

/-- A button always has a background. It can be seen unless it is borrowed and blank. -/
theorem background_button (button : s.element.kind = .button) :
    ∃ fill, s.background = some fill ∧
      fill = (s.element.props.fill.or (s.brand.map (·.primary))).getD buttonFill ∧
      isBlank fill = s.borrowed?.any isBlank := by
  have inked : isBlank buttonFill = false := by decide
  have own : Seen s.element.props.fill := seen_visible _
  refine ⟨(s.element.props.fill.or (s.brand.map (·.primary))).getD buttonFill, ?_, rfl, ?_⟩
  · simp only [background, button]
  · rw [isBlank_source own inked, borrowed?, button]

/-- A button always has a text color that can be seen. -/
theorem textColor_button (button : s.element.kind = .button) :
    ∃ text, s.textColor = some text ∧ text = s.element.props.textColor.getD buttonText ∧
      isBlank text = false := by
  have inked : isBlank buttonText = false := by decide
  have own : Seen s.element.props.textColor := seen_visible _
  refine ⟨s.element.props.textColor.getD buttonText, ?_, rfl, ?_⟩
  · simp only [textColor, button]
  · -- There is no token between the color of the element and the fixed one.
    have source := @isBlank_source s.element.props.textColor none buttonText own inked
    simpa [lent] using source

/-- A badge always has a text color. It can be seen unless it is borrowed and blank. -/
theorem textColor_badge (badge : s.element.kind = .badge) :
    ∃ text, s.textColor = some text ∧
      text = ((s.element.props.textColor.or (s.element.props.badge.or s.element.props.fill)).or
        (s.brand.map (·.secondary))).getD badgeFallback ∧
      isBlank text = s.borrowed?.any isBlank := by
  have inked : isBlank badgeFallback = false := by decide
  have own : Seen (s.element.props.textColor.or (s.element.props.badge.or s.element.props.fill)) :=
    (seen_visible _).or ((seen_visible _).or (seen_visible _))
  refine ⟨((s.element.props.textColor.or (s.element.props.badge.or s.element.props.fill)).or
    (s.brand.map (·.secondary))).getD badgeFallback, ?_, rfl, ?_⟩
  · cases text : s.element.props.textColor <;> simp [textColor, badge, text, badgeTint]
  · rw [isBlank_source own inked, borrowed?, badge]

/-- Backgrounds other than those of buttons are the element's own. -/
theorem seen_background (other : s.element.kind ≠ .button) : Seen s.background := by
  unfold background
  split
  · next button => exact absurd button other
  · exact (seen_visible _).or (seen_visible _)
  · exact seen_visible _

/-- Text colors other than those of buttons and badges are the element's own. -/
theorem seen_textColor (noButton : s.element.kind ≠ .button) (noBadge : s.element.kind ≠ .badge) :
    Seen s.textColor := by
  unfold textColor
  split
  · next button => exact absurd button noButton
  · next badge => exact absurd badge noBadge
  · exact seen_visible _

/-- All colors and gradients can be seen just if the borrowed token can. -/
theorem seen_iff_borrowed :
    (∀ d ∈ s.declarations, Seen d.paint?) ↔ s.borrowed?.any isBlank = false := by
  rw [seen_paints_iff]
  by_cases button : s.element.kind = .button
  · obtain ⟨fill, background, -, same⟩ := s.background_button button
    obtain ⟨text, color, -, inked⟩ := s.textColor_button button
    rw [background, color, seen_some, seen_some, same]
    exact and_iff_left inked
  · by_cases badge : s.element.kind = .badge
    · obtain ⟨text, color, -, same⟩ := s.textColor_badge badge
      rw [color, seen_some, same]
      exact and_iff_right (s.seen_background button)
    · have none : s.borrowed? = none := by
        unfold borrowed?
        split
        · next kind => exact absurd kind button
        · next kind => exact absurd kind badge
        · rfl
      simp [none, s.seen_background button, s.seen_textColor button badge]

/-- The element with blank texts unset. -/
def withoutBlanks : Styled := ⟨{ s.element with props := s.element.props.withoutBlanks }, s.brand⟩

theorem background_withoutBlanks : s.withoutBlanks.background = s.background := by
  simp [background, withoutBlanks, Props.withoutBlanks, Props.fill, Props.badge]

theorem textColor_withoutBlanks : s.withoutBlanks.textColor = s.textColor := by
  simp [textColor, badgeTint, withoutBlanks, Props.withoutBlanks, Props.fill, Props.textColor,
    Props.badge]

/-- Blank texts of an element show as if they were unset. -/
theorem declarations_withoutBlanks : s.withoutBlanks.declarations = s.declarations := by
  have gradient : s.withoutBlanks.element.props.gradientSpec = s.element.props.gradientSpec :=
    Props.visible_visible _
  have border : s.withoutBlanks.element.props.border = s.element.props.border :=
    Props.visible_visible _
  rw [declarations, background_withoutBlanks, textColor_withoutBlanks, gradient, border]
  -- The other fields are not touched.
  rfl

theorem background_mem {fill : String} (shown : s.background = some fill) :
    .background fill ∈ s.declarations := by
  simp [declarations, shown]

theorem color_mem {text : String} (shown : s.textColor = some text) :
    .color text ∈ s.declarations := by
  simp [declarations, shown]

/-- **When all colors can be seen.** The colors and gradients that an element declares can be seen
just if the token that it borrows from the brand, if it borrows one, is not blank. A button declares
a background and a text color, and a badge a text color: the first of their sources that is there,
down to a fixed color, where blank texts of the element are no sources and show as if they were
unset. Of these colors only one that is borrowed can be blank. -/
theorem seen_of_declarations (e : Element) (brand : Option Brand) :
    let s : Styled := ⟨e, brand⟩
    ((∀ d ∈ s.declarations, Seen d.paint?) ↔ s.borrowed?.any isBlank = false) ∧
    (e.kind = .button → ∃ fill text,
      .background fill ∈ s.declarations ∧ .color text ∈ s.declarations ∧
      fill = (e.props.fill.or (brand.map (·.primary))).getD buttonFill ∧
      text = e.props.textColor.getD buttonText ∧
      isBlank fill = s.borrowed?.any isBlank ∧ isBlank text = false) ∧
    (e.kind = .badge → ∃ text, .color text ∈ s.declarations ∧
      text = ((e.props.textColor.or (e.props.badge.or e.props.fill)).or
        (brand.map (·.secondary))).getD badgeFallback ∧
      isBlank text = s.borrowed?.any isBlank) ∧
    declarations ⟨{ e with props := e.props.withoutBlanks }, brand⟩ = s.declarations := by
  intro s
  refine ⟨s.seen_iff_borrowed, ?_, ?_, declarations_withoutBlanks s⟩
  · intro button
    obtain ⟨fill, background, source, same⟩ := s.background_button button
    obtain ⟨text, color, own, inked⟩ := s.textColor_button button
    exact ⟨fill, text, s.background_mem background, s.color_mem color, source, own, same, inked⟩
  · intro badge
    obtain ⟨text, color, source, same⟩ := s.textColor_badge badge
    exact ⟨text, s.color_mem color, source, same⟩

/-- A button with blank colors under no brand, and a badge with a color of its own under a brand
with a blank token. -/
theorem seen_of_blank_button :
    let button : Element := ⟨"a", .button, "Go", { background := some " ", color := some "" }⟩
    let badge : Element := ⟨"b", .badge, "New", { background := some "red" }⟩
    let brand : Brand := { secondary := "\t" }
    button.kind = .button ∧ badge.kind = .badge ∧
      (∀ d ∈ declarations ⟨button, none⟩, Seen d.paint?) ∧
      .background "#4f46e5" ∈ declarations ⟨button, none⟩ ∧
      ∃ text, .color text ∈ declarations ⟨badge, some brand⟩ ∧ text = "red" := by
  intro button badge brand
  have unlent : (borrowed? ⟨button, none⟩).any isBlank = false := by decide
  rcases seen_of_declarations button none with ⟨seen, filled, -, -⟩
  rcases seen_of_declarations badge (some brand) with ⟨-, -, lettered, -⟩
  obtain ⟨fill, -, declared, -, source, -⟩ := filled rfl
  obtain ⟨text, colored, own, -⟩ := lettered rfl
  have fixed : fill = "#4f46e5" := source.trans (by decide)
  exact ⟨rfl, rfl, seen.2 unlent, fixed ▸ declared, text, colored, own.trans (by decide)⟩

/-- A button without a background under a brand with a blank primary color. -/
def blankButton : Styled := ⟨⟨"a", .button, "Go", {}⟩, some { primary := " " }⟩

/-- **A button whose fill cannot be seen.** -/
theorem not_seen_of_blankButton : ¬ ∀ d ∈ blankButton.declarations, Seen d.paint? := by
  intro seen
  have declared : .background " " ∈ blankButton.declarations := by decide
  have inked : isBlank " " = false := seen (.background " ") declared " " rfl
  revert inked
  decide

end Styled
end PageBuilder
