import PageBuilder.Page.Props

/-!
# Properties one by one

A set of properties is a record, and what is said of every property is said here of their names:
`Props.get` is what a set has for a name. Laying a patch over a set gives for each name what the
patch has, and where the patch has nothing, what the set had. Two sets that have the same for every
name are the same.
-/

namespace PageBuilder

open Numeric

/-- The names of the visual properties. -/
inductive Property
  | background | color | borderColor | fontSize | align | radius | padding | width | imageUrl
  | badgeColor | columns | blur | opacity | shadow | gradient | animation | animationDuration
  deriving DecidableEq, Repr

/-- What a property can be set to. -/
def Property.Value : Property → Type
  | background => String
  | color => String
  | borderColor => String
  | fontSize => FontSize
  | align => Align
  | radius => UInt32
  | padding => UInt32
  | width => Width
  | imageUrl => String
  | badgeColor => String
  | columns => Columns
  | blur => UInt32
  | opacity => UInt32
  | shadow => Shadow
  | gradient => String
  | animation => Animation
  | animationDuration => Single

namespace Props

/-- What a property is set to, if it is set. -/
def get (p : Props) : (name : Property) → Option name.Value
  | .background => p.background
  | .color => p.color
  | .borderColor => p.borderColor
  | .fontSize => p.fontSize
  | .align => p.align
  | .radius => p.radius
  | .padding => p.padding
  | .width => p.width
  | .imageUrl => p.imageUrl
  | .badgeColor => p.badgeColor
  | .columns => p.columns
  | .blur => p.blur
  | .opacity => p.opacity
  | .shadow => p.shadow
  | .gradient => p.gradient
  | .animation => p.animation
  | .animationDuration => p.animationDuration

/-- Two sets that agree on every property are the same. -/
theorem ext_get {p q : Props} (same : ∀ name, p.get name = q.get name) : p = q := by
  cases p
  cases q
  simp only [mk.injEq]
  exact ⟨same .background, same .color, same .borderColor, same .fontSize, same .align,
    same .radius, same .padding, same .width, same .imageUrl, same .badgeColor, same .columns,
    same .blur, same .opacity, same .shadow, same .gradient, same .animation,
    same .animationDuration⟩

theorem get_merge (base patch : Props) (name : Property) :
    (base.merge patch).get name = (patch.get name).or (base.get name) := by
  cases name <;> rfl

theorem get_empty (name : Property) : ({} : Props).get name = none := by
  cases name <;> rfl

/-- A patch that sets nothing changes nothing. -/
theorem merge_empty (base : Props) : base.merge {} = base := by
  refine ext_get ?_
  intro name
  simp only [get_merge, get_empty, Option.none_or]

end Props

end PageBuilder
