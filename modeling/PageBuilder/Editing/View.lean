import PageBuilder.Page.Wire

/-!
# The view of a page

What belongs to the editing session alone: the selection, the zoom and the open panels. None of it
is undone, stored or saved with the page.
-/

namespace PageBuilder

open Numeric Json

/-- The panels that lie over the page. -/
inductive Panel
  | prompt | themes | projects
  deriving DecidableEq, Repr

instance : Choice Panel where
  all := [.prompt, .themes, .projects]
  name
    | .prompt => "prompt"
    | .themes => "themes"
    | .projects => "projects"
  mem_all a := by cases a <;> decide
  names_nodup := by decide

/-! ## Zoom -/

namespace Zoom

/-- The smallest zoom, `0.3`. -/
def least : Single := Binary.ofRatio .single false 3 10

/-- The largest zoom, `2.5`. -/
def greatest : Single := Binary.ofRatio .single false 5 2

/-- The change of a step, `0.1`. -/
def stepSize : Single := Binary.ofRatio .single false 1 10

def natural : Single := Binary.ofRatio .single false 1 1

/-- Ten, the number of tenths in one. -/
def ten : Single := Binary.ofRatio .single false 10 1

def roundToTenth (zoom : Single) : Single := (zoom.mul ten).roundToInteger.div ten

/-- One step closer, at most to the largest zoom. -/
def closer (zoom : Single) : Single := (roundToTenth (zoom.add stepSize)).lesser greatest

/-- One step away, at most to the smallest zoom. -/
def farther (zoom : Single) : Single := (roundToTenth (zoom.add stepSize.negate)).greater least

end Zoom

/-! ## Views -/

/-- The view of a page. -/
structure View where
  selected : Option ElementId := none
  zoom : Single := Zoom.natural
  /-- The open panels, in the order they were opened. -/
  openPanels : List Panel := []
  deriving DecidableEq

namespace View

instance : Inhabited View := ⟨{}⟩

def select (v : View) (id : ElementId) : View := { v with selected := some id }

def deselect (v : View) : View := { v with selected := none }

def isSelected (v : View) (id : ElementId) : Bool := v.selected == some id

/-- Drops a selection that is not in the document. -/
def reconcile (v : View) (d : Document) : View :=
  { v with selected := v.selected.filter d.contains }

def zoomIn (v : View) : View := { v with zoom := Zoom.closer v.zoom }

def zoomOut (v : View) : View := { v with zoom := Zoom.farther v.zoom }

/-- Goes back to the natural size. -/
def resetZoom (v : View) : View := { v with zoom := Zoom.natural }

/-- Opens a panel; an open one stays where it is. -/
def openPanel (v : View) (panel : Panel) : View :=
  if v.openPanels.contains panel then v else { v with openPanels := v.openPanels ++ [panel] }

def closePanel (v : View) (panel : Panel) : View :=
  { v with openPanels := v.openPanels.filter (· ≠ panel) }

def isOpen (v : View) (panel : Panel) : Bool := v.openPanels.contains panel

/-- Selects nothing and closes all panels. -/
def escape (v : View) : View := { v with selected := none, openPanels := [] }

/-- A view while it is read. -/
structure Draft where
  selected : Option ElementId := none
  zoom : Option Single := none
  openPanels : Option (List Panel) := none

def shape : Shape Draft View where
  name := "ViewState"
  fields := [
    ⟨"selected", fun d v => (asOption asString v).map fun x => { d with selected := x }⟩,
    ⟨"zoom", fun d v => (asSingle v).map fun x => { d with zoom := some x }⟩,
    ⟨"open_panels", fun d v => (asList Choice.read v).map fun x => { d with openPanels := some x }⟩]
  blank := {}
  finish d :=
    match d.zoom, d.openPanels with
    | some zoom, some openPanels => .ok ⟨d.selected, zoom, openPanels⟩
    | none, _ => .error "zoom"
    | some _, none => .error "open_panels"

def read (value : Json) : Except Fault View := shape.read value

end View

end PageBuilder
