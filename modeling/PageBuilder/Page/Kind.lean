import PageBuilder.Page.Look

/-!
# Component kinds

The closed set of components a page is assembled from, and what a new one starts with.
-/

namespace PageBuilder

/-- The kinds of components. -/
inductive Kind
  | button | input | textarea | text | select | toggle | badge | divider
  | card | navbar | hero | image
  deriving DecidableEq, Repr

instance : Choice Kind where
  all := [.button, .input, .textarea, .text, .select, .toggle, .badge, .divider, .card, .navbar,
    .hero, .image]
  name
    | .button => "button"
    | .input => "input"
    | .textarea => "textarea"
    | .text => "text"
    | .select => "select"
    | .toggle => "toggle"
    | .badge => "badge"
    | .divider => "divider"
    | .card => "card"
    | .navbar => "navbar"
    | .hero => "hero"
    | .image => "image"
  mem_all a := by cases a <;> decide
  names_nodup := by decide

/-- The groups the kinds are offered in. -/
inductive PaletteGroup
  | basic | layout | media
  deriving DecidableEq, Repr

def PaletteGroup.label : PaletteGroup → String
  | basic => "Basic"
  | layout => "Layout"
  | media => "Media"

namespace Kind

def displayName : Kind → String
  | button => "Button"
  | input => "Input"
  | textarea => "Textarea"
  | text => "Text"
  | select => "Select"
  | toggle => "Toggle"
  | badge => "Badge"
  | divider => "Divider"
  | card => "Card"
  | navbar => "Navbar"
  | hero => "Hero"
  | image => "Image"

def group : Kind → PaletteGroup
  | card => .layout
  | navbar => .layout
  | hero => .layout
  | image => .media
  | _ => .basic

/-- The label of a new element; for an image it is the address. -/
def defaultLabel : Kind → String
  | button => "Click Me"
  | input => "Enter value..."
  | textarea => "Write something..."
  | text => "Sample Text"
  | select => "Choose option"
  | toggle => "Enable feature"
  | badge => "New"
  | divider => ""
  | card => "Card Title"
  | navbar => "My App"
  | hero => "Welcome to My App"
  | image => "https://picsum.photos/600/300"

/-- The alignment of an element that sets none. -/
def defaultAlign : Kind → Align
  | hero => .center
  | _ => .left

end Kind

end PageBuilder
