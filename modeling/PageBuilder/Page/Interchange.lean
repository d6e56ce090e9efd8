import PageBuilder.Page.Wire
import PageBuilder.Json.Reader
import PageBuilder.Json.Printer
import PageBuilder.Failure

/-!
# Interchange

Pages as texts for other programs: the elements, the theme and the columns. A text that is imported
must have elements; a theme, columns or a brand it does not have are kept from the current document.
-/

namespace PageBuilder

open Json

/-- The JSON form of a document for interchange; the brand stays behind. -/
def Document.interchange (d : Document) : Json :=
  object [
    ("elements", .array (d.elements.map Element.write)), ("theme", Choice.write d.theme),
    ("columns", d.columns.write)]

def Document.exportText (d : Document) : String := d.interchange.pretty

/-- What an imported text holds. -/
structure Payload where
  elements : List Element
  theme : Option Theme := none
  columns : Option Columns := none
  brand : Option Brand := none
  deriving DecidableEq

namespace Payload

/-- A payload while it is read. -/
structure Draft where
  elements : Option (List Element) := none
  theme : Option Theme := none
  columns : Option Columns := none
  brand : Option Brand := none

def shape : Shape Draft Payload where
  name := "ImportDocument"
  fields := [
    ⟨"elements", fun d v => (asList Element.read v).map fun x => { d with elements := some x }⟩,
    ⟨"theme", fun d v => (asOption Choice.read v).map fun x => { d with theme := x }⟩,
    ⟨"columns", fun d v => (asOption Columns.read v).map fun x => { d with columns := x }⟩,
    ⟨"brand", fun d v => (asOption Brand.read v).map fun x => { d with brand := x }⟩]
  blank := {}
  finish d :=
    match d.elements with
    | some elements => .ok ⟨elements, d.theme, d.columns, d.brand⟩
    | none => .error "elements"

/-- Whether a value is an object with elements other than `null`. -/
def hasElements (value : Json) : Bool :=
  match value.member? "elements" with
  | some .null => false
  | some _ => true
  | none => false

def read (value : Json) : Except Failure Payload :=
  if hasElements value then
    match shape.read value.canonical with
    | .ok payload => .ok payload
    | .error fault => .error (.invalidImport (.misfit fault))
  else .error .missingElements

def parse (text : String) : Except Failure Payload :=
  match ofBoundedText? text with
  | some value => read value
  | none => .error (.invalidImport .malformed)

/-- The document of a payload over the current one. -/
def applyTo (p : Payload) (current : Document) : Document where
  elements := p.elements
  theme := p.theme.getD current.theme
  columns := p.columns.getD current.columns
  brand := p.brand.getD current.brand

end Payload

/-- The document of an imported text over the current one. -/
def Document.importText (current : Document) (text : String) : Except Failure Document :=
  (Payload.parse text).map (·.applyTo current)

end PageBuilder
