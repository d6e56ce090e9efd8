import PageBuilder.Json.Choice

/-!
# Themes

The named palettes a page can have.
-/

namespace PageBuilder

/-- The colors of a palette, with its name for people. -/
structure Palette where
  background : String
  surface : String
  border : String
  accent : String
  text : String
  label : String
  deriving DecidableEq, Repr

/-- The themes of a page. -/
inductive Theme
  | dark | light | purple | ocean | sunset | glass
  deriving DecidableEq, Repr

instance : Choice Theme where
  all := [.dark, .light, .purple, .ocean, .sunset, .glass]
  name
    | .dark => "dark"
    | .light => "light"
    | .purple => "purple"
    | .ocean => "ocean"
    | .sunset => "sunset"
    | .glass => "glass"
  mem_all a := by cases a <;> decide
  names_nodup := by decide

def Theme.palette : Theme → Palette
  | dark =>
    { background := "#0A0A0B", surface := "#0D0D0F", border := "rgba(255,255,255,0.05)",
      accent := "#a855f7", text := "#ffffff", label := "Dark" }
  | light =>
    { background := "#f4f4f5", surface := "#ffffff", border := "rgba(0,0,0,0.08)",
      accent := "#6366f1", text := "#09090b", label := "Light" }
  | purple =>
    { background := "#120820", surface := "#1a0d2e", border := "rgba(168,85,247,0.15)",
      accent := "#e879f9", text := "#ffffff", label := "Purple" }
  | ocean =>
    { background := "#071520", surface := "#0c1f30", border := "rgba(56,189,248,0.12)",
      accent := "#38bdf8", text := "#ffffff", label := "Ocean" }
  | sunset =>
    { background := "#180c08", surface := "#221209", border := "rgba(251,146,60,0.15)",
      accent := "#fb923c", text := "#ffffff", label := "Sunset" }
  | glass =>
    { background := "rgba(10,10,11,0.9)", surface := "rgba(255,255,255,0.05)",
      border := "rgba(255,255,255,0.1)", accent := "#06b6d4", text := "#ffffff", label := "Glass" }

end PageBuilder
