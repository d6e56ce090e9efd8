import PageBuilder.Page.Kind
import PageBuilder.Page.Theme
import PageBuilder.Text.Search
import PageBuilder.Failure

/-!
# Typed names

Kinds and themes as people type them: in any case, with white space around.
-/

namespace PageBuilder

/-- The component kind a typed name means. -/
def Kind.parse (name : String) : Except Failure Kind :=
  match Choice.ofName? (Text.normalized name) with
  | some kind => .ok kind
  | none => .error (.unknownKind name)

def Theme.parse (name : String) : Except Failure Theme :=
  match Choice.ofName? (Text.normalized name) with
  | some theme => .ok theme
  | none => .error (.unknownTheme name)

end PageBuilder
