import PageBuilder.Render.Fragment

/-!
# Previews

How the editor draws an element: the declarations of the style sheet first, then those it leaves
unset, filled in from the theme.
-/

namespace PageBuilder

/-- An element as the editor draws it. -/
structure Preview where
  kind : Kind
  tag : String
  /-- Properties and values in the order they are applied. -/
  declarations : List (String × String)
  content : Content
  deriving DecidableEq

namespace Preview

/-- The value of a property, if it is declared. -/
def declaration? (p : Preview) (property : String) : Option String :=
  (p.declarations.find? (·.1 == property)).map (·.2)

def surface? (kind : Kind) (palette : Palette) : Option String :=
  match kind with
  | .card | .navbar | .hero | .select => some palette.surface
  | .input | .textarea => some palette.border
  | _ => none

/-- What is drawn where the element says nothing, in order. -/
def fills (s : Styled) (palette : Palette) : List (String × String) :=
  [("border-radius", s!"{s.radius}px"), ("padding", s!"{s.padding}px")]
    ++ ((surface? s.element.kind palette).map ("background", ·)).toList
    ++ [("color", palette.text), ("text-align", Choice.name s.align),
      ("font-size", s!"{s.fontSize.pixels}px"), ("width", s.width.percent),
      ("box-shadow", s.shadow.boxShadow)]

/-- Adds a declaration unless its property is declared. -/
def fill (declared : List (String × String)) (pair : String × String) : List (String × String) :=
  if declared.any (·.1 == pair.1) then declared else declared ++ [pair]

/-- The preview of an element under a brand and a theme. -/
def of (e : Element) (brand : Option Brand) (theme : Theme) : Preview :=
  let styled : Styled := ⟨e, brand⟩
  { kind := e.kind
    tag := e.kind.tag
    declarations := (fills styled theme.palette).foldl fill styled.cssPairs
    content := Content.of e }

/-- The previews of the elements of a document, under its own brand and theme. -/
def ofDocument (d : Document) : List Preview := d.elements.map fun e => of e (some d.brand) d.theme

end Preview

end PageBuilder
