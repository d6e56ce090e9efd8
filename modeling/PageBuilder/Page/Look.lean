import PageBuilder.Json.Choice

/-!
# Choices of look

The closed sets of values a visual property can take, with their names in documents and what they
mean in a style sheet.
-/

namespace PageBuilder

/-- Font size steps. -/
inductive FontSize
  | xs | sm | base | lg | xl | xxl
  deriving DecidableEq, Repr

instance : Choice FontSize where
  all := [.xs, .sm, .base, .lg, .xl, .xxl]
  name
    | .xs => "xs"
    | .sm => "sm"
    | .base => "base"
    | .lg => "lg"
    | .xl => "xl"
    | .xxl => "2xl"
  mem_all a := by cases a <;> decide
  names_nodup := by decide

def FontSize.pixels : FontSize → Nat
  | xs => 11
  | sm => 13
  | base => 15
  | lg => 18
  | xl => 22
  | xxl => 28

/-- Horizontal text alignment. -/
inductive Align
  | left | center | right
  deriving DecidableEq, Repr

instance : Choice Align where
  all := [.left, .center, .right]
  name
    | .left => "left"
    | .center => "center"
    | .right => "right"
  mem_all a := by cases a <;> decide
  names_nodup := by decide

/-- How wide an element is laid out in its column. -/
inductive Width
  | auto | half | full
  deriving DecidableEq, Repr

instance : Choice Width where
  all := [.auto, .half, .full]
  name
    | .auto => "auto"
    | .half => "half"
    | .full => "full"
  mem_all a := by cases a <;> decide
  names_nodup := by decide

/-- The share of the column; a natural width takes all of it. -/
def Width.percent : Width → String
  | half => "50%"
  | auto => "100%"
  | full => "100%"

/-- Shadow presets. -/
inductive Shadow
  | none | soft | medium | deep | glow
  deriving DecidableEq, Repr

instance : Choice Shadow where
  all := [.none, .soft, .medium, .deep, .glow]
  name
    | .none => "none"
    | .soft => "soft"
    | .medium => "medium"
    | .deep => "deep"
    | .glow => "glow"
  mem_all a := by cases a <;> decide
  names_nodup := by decide

def Shadow.boxShadow : Shadow → String
  | none => "none"
  | soft => "0 4px 12px rgba(0,0,0,0.1)"
  | medium => "0 12px 24px rgba(0,0,0,0.2)"
  | deep => "0 24px 48px rgba(0,0,0,0.4)"
  | glow => "0 0 20px rgba(168,85,247,0.4)"

/-- Entry animations; the name is also that of the keyframes. -/
inductive Animation
  | none | fadeIn | slideUp | scalePop | rotateIn
  deriving DecidableEq, Repr

instance : Choice Animation where
  all := [.none, .fadeIn, .slideUp, .scalePop, .rotateIn]
  name
    | .none => "none"
    | .fadeIn => "fadeIn"
    | .slideUp => "slideUp"
    | .scalePop => "scalePop"
    | .rotateIn => "rotateIn"
  mem_all a := by cases a <;> decide
  names_nodup := by decide

/-- Column layouts. -/
inductive Columns
  | one | two | three
  deriving DecidableEq, Repr

def Columns.count : Columns → Nat
  | one => 1
  | two => 2
  | three => 3

def Columns.ofCount? : Nat → Option Columns
  | 1 => some one
  | 2 => some two
  | 3 => some three
  | _ => Option.none

theorem Columns.ofCount?_count (c : Columns) : ofCount? c.count = some c := by
  cases c <;> rfl

end PageBuilder
