import PageBuilder.Render.Fragment
import PageBuilder.Page.Interchange
import PageBuilder.Text.Search

/-!
# Exports

A page as a text in one of four formats: component source, a markup page, interchange data, a style
sheet. The first two are shells around the same fragments.
-/

namespace PageBuilder

namespace Export

/-- A shell around the fragments of elements; an empty page has an empty shell. -/
def shell (opening closing indent : String) (elements : List Element) (brand : Option Brand) :
    String :=
  let body := Fragment.renderAll elements brand indent
  opening ++ (if body.isEmpty then "" else body ++ "\n") ++ closing

/-! ## Markup page -/

def markupOpening : String := Text.unlines [
  "<!DOCTYPE html>",
  "<html lang=\"en\">",
  "<head>",
  "  <meta charset=\"UTF-8\" />",
  "  <meta name=\"viewport\" content=\"width=device-width, initial-scale=1.0\" />",
  "  <title>Pagewright Export</title>",
  "  <script src=\"https://cdn.tailwindcss.com\"></script>",
  "  <style>body \x7b background: #0a0a0b; color: #fff; font-family: sans-serif; \x7d</style>",
  "</head>",
  "<body class=\"p-8\">",
  "  <main class=\"space-y-6\">"]

def markupClosing : String := Text.unlines ["  </main>", "</body>", "</html>"]

def markup : List Element → Option Brand → String := shell markupOpening markupClosing "    "

/-! ## Component source -/

def componentOpening : String := Text.unlines [
  "// Generated by Pagewright",
  "import React from 'react';",
  "",
  "export default function App() \x7b",
  "  return (",
  "    <div className=\"p-8 space-y-6 bg-[#0a0a0b] min-h-screen text-white\">"]

def componentClosing : String := Text.unlines ["    </div>", "  );", "\x7d"]

def component : List Element → Option Brand → String :=
  shell componentOpening componentClosing "      "

/-! ## Style sheet -/

def rule (e : Element) (brand : Option Brand) : String :=
  e.selector ++ " \x7b\n" ++ Declaration.block (Styled.cssPairs ⟨e, brand⟩) "  " ++ "\x7d"

/-- The style sheet of elements, one rule for each. -/
def stylesheet (elements : List Element) (brand : Option Brand) : String :=
  "/* Generated by Pagewright */\n\n"
    ++ (if elements.isEmpty then "/* No elements yet */"
      else "\n\n".intercalate (elements.map (rule · brand)))
    ++ "\n"

end Export

/-! ## Formats -/

/-- The formats of exports. -/
inductive ExportFormat
  | component | markup | structured | stylesheet
  deriving DecidableEq, Repr

instance : Choice ExportFormat where
  all := [.component, .markup, .structured, .stylesheet]
  name
    | .component => "component"
    | .markup => "markup"
    | .structured => "structured"
    | .stylesheet => "stylesheet"
  mem_all a := by cases a <;> decide
  names_nodup := by decide

namespace ExportFormat

/-- The format used when none is named. -/
def standard : ExportFormat := .component

def extension : ExportFormat → String
  | component => "tsx"
  | markup => "html"
  | structured => "json"
  | stylesheet => "css"

def fileName (f : ExportFormat) : String := "pagewright-export." ++ f.extension

/-- The text of a document in a format, under its own brand. -/
def render (f : ExportFormat) (d : Document) : String :=
  match f with
  | component => Export.component d.elements (some d.brand)
  | markup => Export.markup d.elements (some d.brand)
  | structured => d.exportText
  | stylesheet => Export.stylesheet d.elements (some d.brand)

/-- The format a typed name means: the name of a format or the ending of its files, in any case,
with white space around and points before it. -/
def parse (name : String) : Except Failure ExportFormat :=
  let wanted := String.ofList (Text.lower ((Text.trim name.toList).dropWhile (· = '.')))
  match (Choice.all (α := ExportFormat)).find? fun f =>
      Choice.name f == wanted || f.extension == wanted with
  | some format => .ok format
  | none => .error (.unknownFormat name)

end ExportFormat

end PageBuilder
