import PageBuilder.Page.Theme
import PageBuilder.Text.Search

/-!
# Chat commands

What a chat message tells the assistant to do. The rules are tried in order; a rule applies when the
lower-cased message mentions a word of each of its groups. A message no rule applies to asks for
help.
-/

namespace PageBuilder

/-- The background colors the assistant can apply. -/
inductive Swatch
  | red | blue
  deriving DecidableEq, Repr

def Swatch.hex : Swatch → String
  | red => "#ef4444"
  | blue => "#3b82f6"

/-- What the assistant can be told. -/
inductive Command
  /-- Give every element a background. -/
  | recolor (swatch : Swatch)
  /-- Center every element. -/
  | centerAll
  /-- Take out every element. -/
  | clear
  | setTheme (theme : Theme)
  /-- Nothing that is understood. -/
  | help
  deriving DecidableEq, Repr

namespace Command

/-- The words for a theme. -/
def themeWords : List String := ["theme", "tema"]

/-- The commands in the order they are tried, with the groups of words they need. -/
def rules : List (Command × List (List String)) := [
  (recolor .red, [["red", "roșu"]]),
  (recolor .blue, [["blue", "albastru"]]),
  (centerAll, [["center", "centru"]]),
  (clear, [["clear", "goleste"]]),
  (setTheme .light, [themeWords, ["light"]]),
  (setTheme .dark, [themeWords, ["dark"]]),
  (setTheme .glass, [themeWords, ["glass"]])]

/-- The command of a message. -/
def interpret (message : String) : Command :=
  match rules.find? fun (_, groups) => groups.all fun words => Text.mentions words message with
  | some (command, _) => command
  | none => help

/-- The answer to a message that is not understood. -/
def helpReply : String :=
  "I'm not sure how to do that yet. Try 'make everything red' or 'center all'."

def reply : Command → String
  | recolor .red => "Done! Everything is now Red."
  | recolor .blue => "Changed all backgrounds to Blue."
  | centerAll => "All elements are now centered."
  | clear => "Canvas cleared."
  | setTheme .light => "Switched to Light theme."
  | setTheme .dark => "Back to Dark theme."
  | setTheme .glass => "Glassmorphism mode on."
  | setTheme _ => helpReply
  | help => helpReply

end Command

end PageBuilder
