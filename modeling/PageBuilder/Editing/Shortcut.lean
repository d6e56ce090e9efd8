import PageBuilder.Text.Lowercase

/-!
# Keyboard shortcuts

Which editor action a key press stands for. With Control or Command held the key decides alone,
except that Shift turns undo into redo; without, only Delete and Escape are bound. While a text
field has the focus, only saving is.
-/

namespace PageBuilder

/-- The modifier keys that are held. -/
structure Modifiers where
  shift : Bool := false
  control : Bool := false
  alt : Bool := false
  command : Bool := false
  deriving DecidableEq, Repr

def Modifiers.commanding (m : Modifiers) : Bool := m.control || m.command

/-- A key press: the name of the key, in any case, and the modifiers. -/
structure KeyPress where
  key : String
  modifiers : Modifiers := {}
  deriving DecidableEq, Repr

/-- The editor actions that are bound to keys. -/
inductive Shortcut
  | undo | redo | duplicate | saveProject | deleteSelected | escape | zoomIn | zoomOut | zoomReset
  deriving DecidableEq, Repr

namespace Shortcut

/-- Whether the shortcut works while a text field has the focus. -/
def activeWhileTyping : Shortcut → Bool
  | saveProject => true
  | _ => false

def ofCommandKey? (key : String) (shift : Bool) : Option Shortcut :=
  if key = "z" then some (if shift then redo else undo)
  else if key = "y" then some redo
  else if key = "d" then some duplicate
  else if key = "s" then some saveProject
  else if key = "=" ∨ key = "+" then some zoomIn
  else if key = "-" then some zoomOut
  else if key = "0" then some zoomReset
  else none

/-- The shortcut of a key without Control and Command. -/
def ofPlainKey? (key : String) : Option Shortcut :=
  if key = "delete" then some deleteSelected
  else if key = "escape" then some escape
  else none

/-- The shortcut of a key press; `typing` says that a text field has the focus. -/
def ofKeyPress? (press : KeyPress) (typing : Bool) : Option Shortcut :=
  let key := String.ofList (Text.lower press.key.toList)
  let bound :=
    if press.modifiers.commanding then ofCommandKey? key press.modifiers.shift else ofPlainKey? key
  bound.filter fun shortcut => !typing || shortcut.activeWhileTyping

end Shortcut

end PageBuilder
