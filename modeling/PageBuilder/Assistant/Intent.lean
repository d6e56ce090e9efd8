import PageBuilder.Gallery.Blueprint
import PageBuilder.Text.Search

/-!
# Prompts

From a free description to the elements of a page section. The intents are tried in order, and the
first one with a keyword that occurs in the lower-cased prompt wins; keywords are English and
Romanian. A prompt without any gets a generic section that repeats it.
-/

namespace PageBuilder

/-- What a prompt can ask for. -/
inductive Intent
  | dashboard | storefront | socialProfile | portfolio | login | registration | contact | landing
  | form
  deriving DecidableEq, Repr

namespace Intent

/-- The intents in the order they are tried, with their keywords. -/
def rules : List (Intent × List String) := [
  (dashboard, ["saas", "dashboard", "panou", "panel"]),
  (storefront, ["magazin", "shop", "ecommerce", "store"]),
  (socialProfile, ["social", "network", "profil", "profile"]),
  (portfolio, ["portfolio", "portofoliu", "creativ"]),
  (login, ["login", "conexiune", "sign in"]),
  (registration, ["register", "signup", "înregistr"]),
  (contact, ["contact", "mesaj"]),
  (landing, ["landing", "homepage", "acasa"]),
  (form, ["form", "formular", "survey"])]

/-- The first intent that a prompt mentions a keyword of. -/
def classify (prompt : String) : Option Intent :=
  (rules.find? fun (_, keywords) => Text.mentions keywords prompt).map (·.1)

/-- The section an intent produces. -/
def blueprints : Intent → List Blueprint
  | dashboard => [
    { kind := .navbar, label := "Neural SaaS Platform"
      patch := { blur := some 15, shadow := some .glow } },
    { kind := .hero, label := "Accelerate Your Protocol"
      patch := { align := some .center, animation := some .slideUp
                 gradient := some "linear-gradient(to right, #a855f7, #6366f1)" } },
    { kind := .badge, label := "Live Performance: 99.9%"
      patch := { align := some .center, background := some "rgba(168,85,247,0.1)" } },
    { kind := .divider, label := "" },
    { kind := .card, label := "Total Revenue"
      patch := { background := some "rgba(255,255,255,0.03)", shadow := some .soft } },
    { kind := .card, label := "Active Nodes"
      patch := { background := some "rgba(255,255,255,0.03)", shadow := some .soft } },
    { kind := .text, label := "Neural Sync Progress"
      patch := { fontSize := some .sm, align := some .center } },
    { kind := .button, label := "Enter Console"
      patch := { radius := some 30, shadow := some .glow } }]
  | storefront => [
    { kind := .navbar, label := "GLITCH STORE", patch := { shadow := some .soft } },
    { kind := .hero, label := "Future Wear 2026"
      patch := { align := some .center, animation := some .scalePop } },
    { kind := .image, label := "https://images.unsplash.com/photo-1523275335684-37898b6baf30?w=800"
      patch := { radius := some 24, shadow := some .medium } },
    { kind := .card, label := "Quantum Watch - $299"
      patch := { align := some .center, blur := some 5 } },
    { kind := .button, label := "Add to Cart"
      patch := { background := some "#6366f1", radius := some 12 } },
    { kind := .card, label := "Neural Glasses - $550"
      patch := { align := some .center, blur := some 5 } },
    { kind := .button, label := "Buy Now"
      patch := { background := some "#a855f7", radius := some 12 } },
    { kind := .divider, label := "" },
    { kind := .text, label := "Free shipping across the Metaverse"
      patch := { align := some .center, fontSize := some .xs } }]
  | socialProfile => [
    { kind := .navbar, label := "Connect.AI", patch := { blur := some 10 } },
    { kind := .image, label := "https://images.unsplash.com/photo-1535713875002-d1d0cf377fde?w=200"
      patch := { radius := some 100, width := some .auto, align := some .center
                 shadow := some .glow } },
    { kind := .text, label := "Agent Anderson"
      patch := { align := some .center, fontSize := some .xl, color := some "#fff" } },
    { kind := .badge, label := "Verified AI"
      patch := { align := some .center, background := some "rgba(6,182,212,0.2)" } },
    { kind := .divider, label := "" },
    { kind := .text, label := "Interests: Neural Webs, 4D Art, Byte-shifting"
      patch := { align := some .center, fontSize := some .sm } },
    { kind := .button, label := "Follow Protocol"
      patch := { radius := some 24
                 gradient := some "linear-gradient(to right, #0ea5e9, #22d3ee)" } },
    { kind := .card, label := "Recent Broadcast"
      patch := { background := some "rgba(255,255,255,0.02)" } },
    { kind := .text, label := "Synthesizing new dimensions today. Stay tuned."
      patch := { fontSize := some .sm, padding := some 4 } }]
  | portfolio => [
    { kind := .navbar, label := "STUDIO.ARCH", patch := { shadow := some .glow } },
    { kind := .hero, label := "Creative Synthesis"
      patch := { animation := some .fadeIn, align := some .left } },
    { kind := .divider, label := "" },
    { kind := .image, label := "https://images.unsplash.com/photo-1460925895917-afdab827c52f?w=800"
      patch := { radius := some 32 } },
    { kind := .text, label := "PROJECT ALPHA"
      patch := { fontSize := some .lg, align := some .left } },
    { kind := .image, label := "https://images.unsplash.com/photo-1504384308090-c894fdcc538d?w=800"
      patch := { radius := some 32 } },
    { kind := .text, label := "PROJECT BETA"
      patch := { fontSize := some .lg, align := some .left } },
    { kind := .button, label := "Collaborate"
      patch := { radius := some 0, borderColor := some "#fff", background := some "transparent" } }]
  | login => [
    { kind := .hero, label := "Welcome Back", patch := { animation := some .scalePop } },
    { kind := .text, label := "Access the Neural Hub"
      patch := { align := some .center, fontSize := some .sm, opacity := some 60 } },
    { kind := .input, label := "Email address" },
    { kind := .input, label := "Password" },
    { kind := .toggle, label := "Remember my Signature" },
    { kind := .button, label := "Enter Protocol", patch := { shadow := some .glow } },
    { kind := .text, label := "Forgot sequence?"
      patch := { align := some .center, fontSize := some .xs, opacity := some 50 } }]
  | registration => [
    { kind := .hero, label := "Create Identity"
      patch := { gradient := some "linear-gradient(to right, #f97316, #facc15)" } },
    { kind := .input, label := "Full Name" },
    { kind := .input, label := "Email" },
    { kind := .input, label := "Password" },
    { kind := .toggle, label := "Agree to Meta-Terms" },
    { kind := .button, label := "Manifest Account", patch := { radius := some 12 } }]
  | contact => [
    { kind := .hero, label := "Open Frequencies", patch := { align := some .center } },
    { kind := .input, label := "Your name" },
    { kind := .input, label := "Email" },
    { kind := .textarea, label := "Your message..." },
    { kind := .button, label := "Transmit", patch := { shadow := some .soft } }]
  | landing => [
    { kind := .navbar, label := "Aether UI", patch := { blur := some 15 } },
    { kind := .hero, label := "Design the Future"
      patch := { animation := some .slideUp
                 gradient := some "linear-gradient(to right, #06b6d4, #3b82f6)" } },
    { kind := .badge, label := "v2.0 Beta Live", patch := { align := some .center } },
    { kind := .card, label := "Quantum Speed", patch := { blur := some 5 } },
    { kind := .card, label := "Neural Security", patch := { blur := some 5 } },
    { kind := .button, label := "Get Started"
      patch := { radius := some 32, shadow := some .glow } }]
  | form => [
    { kind := .text, label := "Survey Protocol"
      patch := { fontSize := some .xl, align := some .center } },
    { kind := .input, label := "Your Name" },
    { kind := .select, label := "Experience Level" },
    { kind := .textarea, label := "Feedback / Notes" },
    { kind := .toggle, label := "Receive Updates" },
    { kind := .button, label := "Submit Data", patch := { radius := some 8 } }]

def fallbackCaption : String := "Contextual components synthesized based on your prompt."

/-- The generic section, with the prompt as its heading. -/
def fallback (prompt : String) : List Blueprint := [
  { kind := .hero, label := prompt, patch := { animation := some .fadeIn } },
  { kind := .button, label := "Initialize", patch := { shadow := some .soft } },
  { kind := .text, label := fallbackCaption
    patch := { align := some .center, opacity := some 50 } }]

def plan (prompt : String) : List Blueprint :=
  match classify prompt with
  | some intent => intent.blueprints
  | none => fallback prompt

/-- The elements of a prompt, with ids in order. -/
def synthesize (source : IdSource) (prompt : String) : List Element × IdSource :=
  Blueprint.build source .synthesis (plan prompt)

end Intent

end PageBuilder
