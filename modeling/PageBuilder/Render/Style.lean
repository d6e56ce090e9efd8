import PageBuilder.Page.Document
import PageBuilder.Render.Declaration

/-!
# Resolved styles

How an element looks under a brand. Everything that shows an element takes its look from the one
list of declarations here, so that a field means the same wherever it shows. Blank texts of the
element count as unset; the texts of the brand are taken as they are.
-/

namespace PageBuilder

/-- An element under a brand, or under none. -/
structure Styled where
  element : Element
  brand : Option Brand

namespace Styled

/-- The corner radius when neither the element nor the brand sets one. -/
def defaultRadius : Nat := 16

/-- The padding steps when the element sets none. -/
def defaultPaddingSteps : UInt32 := 4

/-- The pixels of a padding step. -/
def paddingStep : UInt32 := 4

/-- The fill of a button when neither the element nor the brand sets one. -/
def buttonFill : String := "#4f46e5"

/-- The text color of a button that sets none. -/
def buttonText : String := "#ffffff"

/-- The tint of a badge when neither the element nor the brand sets one. -/
def badgeFallback : String := "#6366f1"

def glassClasses : String := "backdrop-blur-md bg-white/5 border-white/10"

/-- The radius of the element, else that of the brand. -/
def explicitRadius (s : Styled) : Option Nat :=
  (s.element.props.radius.or (s.brand.map (·.radius))).map UInt32.toNat

def radius (s : Styled) : Nat := s.explicitRadius.getD defaultRadius

def paddingSteps (s : Styled) : UInt32 := s.element.props.padding.getD defaultPaddingSteps

/-- The padding in pixels. It is a product of words, so it starts again at zero when it gets too
large for one. -/
def padding (s : Styled) : Nat := (s.paddingSteps * paddingStep).toNat

def align (s : Styled) : Align := s.element.align

def fontSize (s : Styled) : FontSize := s.element.props.fontSize.getD .base

def width (s : Styled) : Width := s.element.props.width.getD .full

def shadow (s : Styled) : Shadow := s.element.props.shadow.getD .none

/-- The tint of a badge: the badge color, else the background, else the secondary color of the
brand. -/
def badgeTint (s : Styled) : String :=
  let own := s.element.props.badge.or s.element.props.fill
  (own.or (s.brand.map (·.secondary))).getD badgeFallback

/-- The background. A button always has one; that of a badge is the badge color first. -/
def background (s : Styled) : Option String :=
  match s.element.kind with
  | .button => some ((s.element.props.fill.or (s.brand.map (·.primary))).getD buttonFill)
  | .badge => s.element.props.badge.or s.element.props.fill
  | _ => s.element.props.fill

/-- The text color. A button and a badge always have one. -/
def textColor (s : Styled) : Option String :=
  match s.element.kind with
  | .button => some (s.element.props.textColor.getD buttonText)
  | .badge => some (s.element.props.textColor.getD s.badgeTint)
  | _ => s.element.props.textColor

def fontStack (s : Styled) : Option String := s.brand.map (·.font.stack)

/-- Whether the brand asks for the glass overlay. -/
def glass (s : Styled) : Bool := s.brand.any (·.glass)

/-- The alignment to declare: one that is set, or one of the kind other than to the left. -/
def declaredAlign (s : Styled) : Option Align :=
  if s.element.props.align.isSome || s.align ≠ .left then some s.align else none

/-- Every field that the element sets, or that its kind or the brand brings, in the order of a style
sheet rule. -/
def declarations (s : Styled) : List Declaration :=
  let props := s.element.props
  [ s.explicitRadius.map .radius,
    -- Padding is declared only if the element sets it, and then in pixels.
    props.padding.map fun _ => .padding s.padding,
    s.background.map .background,
    props.gradientSpec.map .gradient,
    s.textColor.map .color,
    props.border.map .border,
    s.declaredAlign.map .align,
    props.fontSize.map .fontSize,
    props.width.map .width,
    props.blurRadius.map fun pixels => .blur pixels.toNat,
    props.opacity.map fun percent => .opacity percent.toNat,
    props.shadow.map .shadow,
    s.fontStack.map .font,
    props.entryAnimation.map fun (animation, seconds) => .animation animation seconds ].filterMap id

/-- The properties and values of the declarations that have them. -/
def cssPairs (s : Styled) : List (String × String) := s.declarations.filterMap Declaration.css

/-- The utility classes of the declarations, followed by those of the glass overlay. -/
def utilityClasses (s : Styled) : String :=
  " ".intercalate (s.declarations.map Declaration.utilityClass
    ++ if s.glass then [glassClasses] else [])

end Styled

end PageBuilder
