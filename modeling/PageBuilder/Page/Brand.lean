import PageBuilder.Page.Props

/-!
# Brand tokens

The page-wide brand, and how its tokens are pushed down into the properties of elements.
-/

namespace PageBuilder

/-- Font families. -/
inductive Font
  | sans | mono | serif | display
  deriving DecidableEq, Repr

instance : Choice Font where
  all := [.sans, .mono, .serif, .display]
  name
    | .sans => "sans"
    | .mono => "mono"
    | .serif => "serif"
    | .display => "display"
  mem_all a := by cases a <;> decide
  names_nodup := by decide

def Font.stack : Font → String
  | sans => "sans-serif"
  | mono => "monospace"
  | serif => "serif"
  | display => "'Outfit', sans-serif"

/-- The brand of a page. -/
structure Brand where
  /-- The fill of buttons that set none. -/
  primary : String := "#a855f7"
  /-- The tint of badges that set none. -/
  secondary : String := "#6366f1"
  accent : String := "#f472b6"
  /-- The corner radius of elements that set none, in pixels. -/
  radius : UInt32 := 16
  font : Font := .sans
  /-- Whether every fragment gets the glass overlay. -/
  glass : Bool := true
  deriving DecidableEq

instance : Inhabited Brand := ⟨{}⟩

/-- The tokens that can be pushed down into properties. -/
inductive BrandField
  | radius | primary | secondary
  deriving DecidableEq, Repr

instance : Choice BrandField where
  all := [.radius, .primary, .secondary]
  name
    | .radius => "radius"
    | .primary => "primary"
    | .secondary => "secondary"
  mem_all a := by cases a <;> decide
  names_nodup := by decide

namespace Brand

/-- Overwrites the property that belongs to a token. -/
def syncField (brand : Brand) (props : Props) : BrandField → Props
  | .radius => { props with radius := some brand.radius }
  | .primary => { props with background := some brand.primary }
  | .secondary => { props with badgeColor := some brand.secondary }

/-- Overwrites the properties that belong to the given tokens; what they held is lost. -/
def syncProps (brand : Brand) (props : Props) (fields : List BrandField) : Props :=
  fields.foldl brand.syncField props

end Brand

end PageBuilder
