import PageBuilder.Gallery.Template

/-!
# Premade pages

Complete pages to start from. A premade page brings its elements, its theme and its columns; its
brand is only offered.
-/

namespace PageBuilder

/-- The premade pages. -/
inductive Premade
  | saasPowerUp | glassStorefront | proPortfolio | eventLanding | cryptoDashboard
  | newsTerminal | oceanicSpa | minimalistBlog | purpleNight | glassAdmin
  deriving DecidableEq, Repr

instance : Choice Premade where
  all := [.saasPowerUp, .glassStorefront, .proPortfolio, .eventLanding, .cryptoDashboard,
    .newsTerminal, .oceanicSpa, .minimalistBlog, .purpleNight, .glassAdmin]
  name
    | .saasPowerUp => "SaaS Power-Up"
    | .glassStorefront => "Glass Storefront"
    | .proPortfolio => "Pro Portfolio"
    | .eventLanding => "Event Landing"
    | .cryptoDashboard => "Crypto Dashboard"
    | .newsTerminal => "News Terminal"
    | .oceanicSpa => "Oceanic Spa"
    | .minimalistBlog => "Minimalist Blog"
    | .purpleNight => "Purple Night"
    | .glassAdmin => "Glass Admin"
  mem_all a := by cases a <;> decide
  names_nodup := by decide

namespace Premade

def theme : Premade → Theme
  | glassStorefront => .glass
  | cryptoDashboard => .sunset
  | oceanicSpa => .ocean
  | minimalistBlog => .light
  | purpleNight => .purple
  | _ => .dark

def columns (_ : Premade) : Columns := .one

/-- The brand a premade page was designed with. -/
def brand : Premade → Brand
  | saasPowerUp => ⟨"#a855f7", "#6366f1", "#f472b6", 16, .sans, true⟩
  | glassStorefront => ⟨"#0ea5e9", "#0284c7", "#f472b6", 24, .sans, true⟩
  | proPortfolio => ⟨"#fbbf24", "#f59e0b", "#fff", 12, .display, true⟩
  | eventLanding => ⟨"#f43f5e", "#e11d48", "#fff", 20, .display, true⟩
  | cryptoDashboard => ⟨"#f97316", "#ea580c", "#fff", 10, .mono, true⟩
  | newsTerminal => ⟨"#ef4444", "#333", "#fff", 4, .mono, false⟩
  | oceanicSpa => ⟨"#0891b2", "#0e7490", "#fff", 40, .serif, true⟩
  | minimalistBlog => ⟨"#111", "#444", "#000", 0, .serif, false⟩
  | purpleNight => ⟨"#a855f7", "#7e22ce", "#fff", 32, .display, true⟩
  | glassAdmin => ⟨"#3b82f6", "#1e40af", "#60a5fa", 12, .sans, true⟩

def blueprints : Premade → List Blueprint
  | saasPowerUp => [
    { kind := .navbar, label := "NEURAL-LINK", patch := { blur := some 12, shadow := some .glow } },
    { kind := .hero, label := "Scale Beyond Limits"
      patch := { fontSize := some .xxl, align := some .center } },
    { kind := .card, label := "Ready to sync?", patch := { shadow := some .soft } },
    { kind := .button, label := "Get Started", patch := { background := some "#a855f7" } }]
  | glassStorefront => [
    { kind := .navbar, label := "MODERN-MINT", patch := { blur := some 20 } },
    { kind := .card, label := "Premium Watch", patch := { shadow := some .deep } },
    { kind := .badge, label := "Limited Edition" },
    { kind := .button, label := "Buy Now", patch := { background := some "#0ea5e9" } }]
  | proPortfolio => [
    { kind := .hero, label := "Creative Architect"
      patch := { align := some .center, fontSize := some .xxl } },
    { kind := .card, label := "Project Alpha", patch := { shadow := some .medium } },
    { kind := .card, label := "Project Beta", patch := { shadow := some .medium } },
    { kind := .button, label := "Contact Me"
      patch := { background := some "#fbbf24", borderColor := some "#fff" } }]
  | eventLanding => [
    { kind := .navbar, label := "GEN-Z CON"
      patch := { background := some "#f43f5e", shadow := some .soft } },
    { kind := .hero, label := "The Future is Here", patch := { align := some .center } },
    { kind := .button, label := "Register Now", patch := { background := some "#f43f5e" } }]
  | cryptoDashboard => [
    { kind := .hero, label := "Yield Master"
      patch := { gradient := some "from-orange-500 to-rose-500" } },
    { kind := .card, label := "Staking Pool", patch := { shadow := some .deep } },
    { kind := .button, label := "Connect Wallet", patch := { background := some "#f97316" } }]
  | newsTerminal => [
    { kind := .navbar, label := "DEV CHRONICLE"
      patch := { background := some "#000", borderColor := some "#333" } },
    { kind := .badge, label := "Breaking News", patch := { background := some "#ef4444" } },
    { kind := .card, label := "AI becomes sentient", patch := { shadow := some .medium } }]
  | oceanicSpa => [
    { kind := .hero, label := "Breathe Deeply"
      patch := { fontSize := some .xxl, align := some .center } },
    { kind := .card, label := "Detox Treatment", patch := { padding := some 24 } },
    { kind := .button, label := "Book Now", patch := { background := some "#06b6d4" } }]
  | minimalistBlog => [
    { kind := .navbar, label := "THOUGHTS", patch := { color := some "#000" } },
    { kind := .text, label := "A collection of stories."
      patch := { fontSize := some .xl, align := some .left } },
    { kind := .divider, label := "" }]
  | purpleNight => [
    { kind := .navbar, label := "NEON", patch := { background := some "#581c87" } },
    { kind := .card, label := "Cyber Deck", patch := { shadow := some .glow } },
    { kind := .button, label := "Enter Matrix"
      patch := { background := some "#a855f7", shadow := some .glow } }]
  | glassAdmin => [
    { kind := .navbar, label := "OS-LINK", patch := { blur := some 16 } },
    { kind := .card, label := "System Health", patch := { shadow := some .soft } },
    { kind := .badge, label := "Online", patch := { background := some "#10b981" } }]

/-- The premade page a typed name means. -/
def parse (name : String) : Except Failure Premade :=
  match (Choice.all (α := Premade)).find? fun p => Text.matchesName (Choice.name p) name with
  | some premade => .ok premade
  | none => .error (.premadeNotFound name)

end Premade

end PageBuilder
