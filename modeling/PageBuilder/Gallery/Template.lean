import PageBuilder.Gallery.Blueprint
import PageBuilder.Text.Search
import PageBuilder.Failure

/-!
# Section templates

Sections that can be put behind the elements of a page, found by their names.
-/

namespace PageBuilder

/-- The section templates. -/
inductive Template
  | pricingTable | glassNavbar | proHero
  deriving DecidableEq, Repr

instance : Choice Template where
  all := [.pricingTable, .glassNavbar, .proHero]
  name
    | .pricingTable => "Pricing Table"
    | .glassNavbar => "Glass Navbar"
    | .proHero => "Pro Hero"
  mem_all a := by cases a <;> decide
  names_nodup := by decide

namespace Template

def blueprints : Template → List Blueprint
  | pricingTable => [
    { kind := .hero, label := "Choose Your Plan"
      patch := { align := some .center, shadow := some .soft } },
    { kind := .card, label := "Starter - $9"
      patch := { shadow := some .medium, blur := some 5
                 background := some "rgba(255,255,255,0.05)" } },
    { kind := .button, label := "Get Started", patch := { radius := some 30 } }]
  | glassNavbar => [
    { kind := .navbar, label := "ARCHITECT AI"
      patch := { blur := some 15, background := some "rgba(255,255,255,0.03)"
                 shadow := some .glow, radius := some 0 } }]
  | proHero => [
    { kind := .hero, label := "Design the Future"
      patch := { gradient := some "from-purple-600 to-blue-600", color := some "#fff"
                 animation := some .slideUp } }]

/-- The template a typed name means. -/
def parse (name : String) : Except Failure Template :=
  match (Choice.all (α := Template)).find? fun t => Text.matchesName (Choice.name t) name with
  | some template => .ok template
  | none => .error (.templateNotFound name)

end Template

end PageBuilder
