import PageBuilder.Page.Kind
import PageBuilder.Page.Theme
import PageBuilder.Page.Brand
import PageBuilder.Page.Order

/-!
# Elements and documents

A document is an ordered list of elements with the settings of the page. Every change gives a new
document; a change of an element that is not there, or that cannot be made, gives none. Documents
are compared by `==`, which takes durations as numbers.
-/

namespace PageBuilder

abbrev ElementId := String

/-- A component on the page. -/
structure Element where
  id : ElementId
  kind : Kind
  /-- The visible text, the placeholder, or the address of an image. -/
  label : String
  props : Props
  deriving DecidableEq

deriving instance BEq, ReflBEq for Element

namespace Element

/-- An element as the editor creates it. -/
def new (id : ElementId) (kind : Kind) : Element := ⟨id, kind, kind.defaultLabel, .editorDefaults⟩

/-- The alignment, with that of the kind when none is set. -/
def align (e : Element) : Align := e.props.align.getD e.kind.defaultAlign

/-- The address of the image: the one that is set, else the label. -/
def imageSource (e : Element) : String := e.props.image.getD e.label

/-- The element with a patch laid over its properties. -/
def patched (e : Element) (patch : Props) : Element := { e with props := e.props.merge patch }

end Element

/-- A page: what is undone, stored and saved as a whole. -/
structure Document where
  elements : List Element := []
  theme : Theme := .dark
  columns : Columns := .one
  brand : Brand := {}
  deriving DecidableEq

deriving instance BEq, ReflBEq for Document

namespace Document

instance : Inhabited Document := ⟨{}⟩

/-- The place of the first element with the given id. -/
def position? (d : Document) (id : ElementId) : Option Nat := d.elements.findIdx? (·.id == id)

def element? (d : Document) (id : ElementId) : Option Element := d.elements.find? (·.id == id)

def contains (d : Document) (id : ElementId) : Bool := d.elements.any (·.id == id)

/-- The ids of the elements, in order. -/
def ids (d : Document) : List ElementId := d.elements.map (·.id)

/-- Puts a batch of elements behind the others. -/
def append (d : Document) (batch : List Element) : Document :=
  { d with elements := d.elements ++ batch }

/-- Changes the first element with the given id. -/
def modify? (d : Document) (id : ElementId) (f : Element → Element) : Option Document := do
  let index ← d.position? id
  let element ← d.elements[index]?
  let elements ← Order.replaceAt? d.elements index (f element)
  pure { d with elements }

def relabel? (d : Document) (id : ElementId) (label : String) : Option Document :=
  d.modify? id fun e => { e with label }

/-- Lays a patch over the properties of an element. -/
def patch? (d : Document) (id : ElementId) (patch : Props) : Option Document :=
  d.modify? id (·.patched patch)

/-- Lays a patch over the properties of every element. -/
def patchAll (d : Document) (patch : Props) : Document :=
  { d with elements := d.elements.map (·.patched patch) }

def remove? (d : Document) (id : ElementId) : Option Document := do
  let index ← d.position? id
  let elements ← Order.removeAt? d.elements index
  pure { d with elements }

/-- Puts a copy of an element behind it, under a new id. -/
def duplicate? (d : Document) (id newId : ElementId) : Option Document := do
  let index ← d.position? id
  let element ← d.elements[index]?
  let elements ← Order.insertAfter? d.elements index { element with id := newId }
  pure { d with elements }

/-- Exchanges an element with its neighbour, if it has one on that side. -/
def move? (d : Document) (id : ElementId) (direction : Direction) : Option Document := do
  let index ← d.position? id
  match Order.swapNeighbor d.elements index direction with
  | .moved elements => some { d with elements }
  | _ => none

/-- Moves an element to the place of another one. -/
def reorder? (d : Document) (source target : ElementId) : Option Document := do
  let sourceIndex ← d.position? source
  let targetIndex ← d.position? target
  if sourceIndex = targetIndex then none
  else
    let elements ← Order.moveTo? d.elements sourceIndex targetIndex
    pure { d with elements }

/-- Pushes brand tokens into the properties of every element. -/
def syncBrand (d : Document) (fields : List BrandField) : Document :=
  { d with
    elements := d.elements.map fun e => { e with props := d.brand.syncProps e.props fields } }

/-- Takes out every element; the settings of the page stay. -/
def clear (d : Document) : Document := { d with elements := [] }

end Document

end PageBuilder
