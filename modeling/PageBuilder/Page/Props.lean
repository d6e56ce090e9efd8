import PageBuilder.Page.Look
import PageBuilder.Numeric.Binary
import PageBuilder.Text.Blank

/-!
# Visual properties

The sparse set of properties of an element. An unset property is left to whoever draws the element;
a property set also serves as a patch that is laid over another one.
-/

namespace PageBuilder

open Numeric

/-- Visual properties, each of them optional. -/
structure Props where
  background : Option String := none
  color : Option String := none
  borderColor : Option String := none
  fontSize : Option FontSize := none
  align : Option Align := none
  /-- The corner radius in pixels. -/
  radius : Option UInt32 := none
  /-- The padding in steps of four pixels. -/
  padding : Option UInt32 := none
  width : Option Width := none
  /-- The address of an image, which goes before its label. -/
  imageUrl : Option String := none
  badgeColor : Option String := none
  columns : Option Columns := none
  /-- The backdrop blur in pixels. -/
  blur : Option UInt32 := none
  /-- The opacity in percent. -/
  opacity : Option UInt32 := none
  shadow : Option Shadow := none
  /-- A gradient function of style sheets, or utility classes. -/
  gradient : Option String := none
  animation : Option Animation := none
  /-- The duration of the entry animation in seconds. -/
  animationDuration : Option Single := none
  deriving DecidableEq

deriving instance BEq, ReflBEq for Props

namespace Props

/-- Half a second, how long an entry animation takes unless said otherwise. -/
def defaultDuration : Single := Binary.ofRatio .single false 1 2

/-- What every element created in the editor starts with. -/
def editorDefaults : Props :=
  { fontSize := some .base
    align := some .left
    radius := some 16
    padding := some 4
    width := some .full
    blur := some 0
    opacity := some 100
    shadow := some .none
    animation := some .none
    animationDuration := some defaultDuration }

/-- Lays a patch over properties: a property the patch sets goes before the one below. -/
def merge (base patch : Props) : Props where
  background := patch.background.or base.background
  color := patch.color.or base.color
  borderColor := patch.borderColor.or base.borderColor
  fontSize := patch.fontSize.or base.fontSize
  align := patch.align.or base.align
  radius := patch.radius.or base.radius
  padding := patch.padding.or base.padding
  width := patch.width.or base.width
  imageUrl := patch.imageUrl.or base.imageUrl
  badgeColor := patch.badgeColor.or base.badgeColor
  columns := patch.columns.or base.columns
  blur := patch.blur.or base.blur
  opacity := patch.opacity.or base.opacity
  shadow := patch.shadow.or base.shadow
  gradient := patch.gradient.or base.gradient
  animation := patch.animation.or base.animation
  animationDuration := patch.animationDuration.or base.animationDuration

/-- A text property that counts as set: one that is not blank. -/
def visible (value : Option String) : Option String := value.filter (!Text.isBlank ·)

def fill (p : Props) : Option String := visible p.background

def textColor (p : Props) : Option String := visible p.color

def border (p : Props) : Option String := visible p.borderColor

def gradientSpec (p : Props) : Option String := visible p.gradient

def image (p : Props) : Option String := visible p.imageUrl

def badge (p : Props) : Option String := visible p.badgeColor

def blurRadius (p : Props) : Option UInt32 := p.blur.filter (0 < ·)

/-- The entry animation with its duration, if there is one. -/
def entryAnimation (p : Props) : Option (Animation × Single) :=
  (p.animation.filter (· ≠ .none)).map (·, p.animationDuration.getD defaultDuration)

end Props

end PageBuilder
