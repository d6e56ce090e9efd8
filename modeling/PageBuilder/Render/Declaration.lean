import PageBuilder.Page.Look
import PageBuilder.Numeric.Layout

/-!
# Style declarations

One resolved style field, with its two forms: a property and value of a style sheet, and a utility
class.
-/

namespace PageBuilder

open Numeric

/-- A resolved style field. -/
inductive Declaration
  /-- The corner radius in pixels. -/
  | radius (pixels : Nat)
  /-- The padding in pixels. -/
  | padding (pixels : Nat)
  | background (value : String)
  /-- A gradient function of style sheets, or utility classes for the colors. -/
  | gradient (spec : String)
  | color (value : String)
  /-- A solid border, one pixel wide. -/
  | border (value : String)
  | align (side : Align)
  | fontSize (size : FontSize)
  | width (mode : Width)
  /-- The backdrop blur in pixels. -/
  | blur (pixels : Nat)
  /-- The opacity in percent. -/
  | opacity (percent : Nat)
  | shadow (preset : Shadow)
  | font (stack : String)
  /-- An entry animation and its duration in seconds. -/
  | animation (entry : Animation) (seconds : Single)
  deriving DecidableEq

namespace Declaration

/-- Whether a gradient is a function call of style sheets rather than a list of utility classes. -/
def isFunction (spec : String) : Bool := spec.toList.contains '('

/-- A value inside the brackets of a utility class: spaces become underscores. -/
def arbitrary (value : String) : String :=
  String.ofList (value.toList.map fun c => if c = ' ' then '_' else c)

/-- The property and value of a style sheet. A gradient that is no function has none. -/
def css : Declaration → Option (String × String)
  | radius pixels => some ("border-radius", s!"{pixels}px")
  | padding pixels => some ("padding", s!"{pixels}px")
  | background value => some ("background", value)
  | gradient spec => if isFunction spec then some ("background-image", spec) else none
  | color value => some ("color", value)
  | border value => some ("border", "1px solid " ++ value)
  | align side => some ("text-align", Choice.name side)
  | fontSize size => some ("font-size", s!"{size.pixels}px")
  | width mode => some ("width", mode.percent)
  | blur pixels => some ("backdrop-filter", s!"blur({pixels}px)")
  | opacity percent => some ("opacity", fractionOfHundred percent)
  | shadow preset => some ("box-shadow", preset.boxShadow)
  | font stack => some ("font-family", stack)
  | animation entry seconds =>
    some ("animation", Choice.name entry ++ " " ++ seconds.plainText ++ "s ease-out")

/-- The utility class of the same meaning; some fields take two classes. -/
def utilityClass : Declaration → String
  | radius pixels => s!"rounded-[{pixels}px]"
  | padding pixels => s!"p-[{pixels}px]"
  | background value => "bg-[" ++ arbitrary value ++ "]"
  | gradient spec =>
    if isFunction spec then "bg-[" ++ arbitrary spec ++ "]" else "bg-gradient-to-r " ++ spec
  | color value => "text-[" ++ arbitrary value ++ "]"
  | border value => "border border-[" ++ arbitrary value ++ "]"
  | align side => "text-" ++ Choice.name side
  | fontSize size => s!"text-[{size.pixels}px]"
  | width .half => "w-1/2"
  | width _ => "w-full"
  | blur pixels => s!"backdrop-blur-[{pixels}px]"
  | opacity percent => "opacity-[" ++ fractionOfHundred percent ++ "]"
  | shadow .none => "shadow-none"
  | shadow preset => "shadow-[" ++ arbitrary preset.boxShadow ++ "]"
  | font stack => "font-[" ++ arbitrary stack ++ "]"
  | animation entry seconds =>
    "animate-[" ++ Choice.name entry ++ "_" ++ seconds.plainText ++ "s_ease-out]"

/-- Declarations as lines of a rule. -/
def block (pairs : List (String × String)) (indent : String) : String :=
  String.join (pairs.map fun (property, value) => indent ++ property ++ ": " ++ value ++ ";\n")

end Declaration

end PageBuilder
