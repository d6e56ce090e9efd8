import PageBuilder.Render.Style
import PageBuilder.Render.Markup
import PageBuilder.Text.Lines

/-!
# Fragments

What an element shows, and its markup fragment. All exports with markup embed the same fragments.
-/

namespace PageBuilder

/-- What an element shows, however it is drawn. -/
inductive Content
  | text (text : String)
  /-- An empty field with a placeholder. -/
  | placeholder (text : String)
  /-- A list with a single option. -/
  | choice (text : String)
  /-- A switch with a label. -/
  | switch (text : String)
  /-- A horizontal rule. -/
  | rule
  /-- A heading over fixed copy. -/
  | headed (heading body : String)
  /-- A title beside links. -/
  | navigation (title : String) (links : List String)
  /-- An image with an alternative text. -/
  | picture (source alternative : String)
  deriving DecidableEq

namespace Content

/-- The copy under the heading of a card. -/
def cardBody : String := "Sample content for this card component."

/-- The copy under the heading of a hero. -/
def heroTagline : String :=
  "Experience the next generation of digital architecture with our neural-driven design system."

def navigationLinks : List String := ["Home", "About"]

/-- What an element shows. -/
def of (e : Element) : Content :=
  match e.kind with
  | .button | .text | .badge => text e.label
  | .input | .textarea => placeholder e.label
  | .select => choice e.label
  | .toggle => switch e.label
  | .divider => rule
  | .card => headed e.label cardBody
  | .hero => headed e.label heroTagline
  | .navbar => navigation e.label navigationLinks
  | .image => picture e.imageSource e.label

/-- The label as it shows; a rule shows none. -/
def primaryText : Content → Option String
  | text t => some t
  | placeholder t => some t
  | choice t => some t
  | switch t => some t
  | rule => none
  | headed heading _ => some heading
  | navigation title _ => some title
  | picture _ alternative => some alternative

end Content

def Kind.tag : Kind → String
  | button => "button"
  | input => "input"
  | textarea => "textarea"
  | text => "p"
  | select => "select"
  | toggle => "label"
  | badge => "span"
  | divider => "hr"
  | card => "div"
  | navbar => "nav"
  | hero => "section"
  | image => "img"

namespace Element

/-- The class of an element: its id with every character but ASCII letters and digits as a hyphen.
-/
def className (e : Element) : String :=
  "el-" ++ String.ofList (e.id.toList.map fun c => if c.isAlphanum then c else '-')

def selector (e : Element) : String := "." ++ e.className

/-- The classes of the kind. A hero without a gradient of its own gets a faint one. -/
def baseClasses (e : Element) : String :=
  match e.kind with
  | .button => "font-bold transition-all hover:opacity-90"
  | .input | .textarea | .select => "w-full border border-white/10 bg-white/5 outline-none"
  | .text => ""
  | .toggle => "flex items-center gap-2"
  | .badge => "inline-block px-2 py-1 text-xs font-medium"
  | .divider => "border-white/10 my-4"
  | .card => "border border-white/10 bg-white/5"
  | .navbar => "w-full border-b border-white/10 bg-white/5 flex items-center justify-between"
  | .hero =>
    if e.props.gradientSpec.isSome then "w-full py-20 border border-white/10"
    else "w-full py-20 border border-white/10 bg-gradient-to-br from-white/5 to-white/0"
  | .image => "h-auto object-cover border border-white/10"

end Element

namespace Fragment

open Markup

/-- The class attribute of an element: its class, the classes of its kind, its utility classes. -/
def classList (e : Element) (brand : Option Brand) : String :=
  " ".intercalate
    ([e.className, e.baseClasses, Styled.utilityClasses ⟨e, brand⟩].filter (!·.isEmpty))

/-- An attribute with its value escaped. -/
def attr (name value : String) : String := " " ++ name ++ "=\"" ++ escape value ++ "\""

def openTag (tag classes : String) : String := "<" ++ tag ++ attr "class" classes ++ ">"

def closeTag (tag : String) : String := "</" ++ tag ++ ">"

/-- A text between tags, on one line. -/
def enclosed (tag classes text : String) : String :=
  openTag tag classes ++ escape text ++ closeTag tag

def emptyTag (tag : String) (attributes : List (String × String)) : String :=
  "<" ++ tag ++ String.join (attributes.map fun (name, value) => attr name value) ++ " />"

/-- The tag of a heading, its classes, and those of the copy under it. -/
def headingStyle (kind : Kind) : String × String × String :=
  if kind = .hero then ("h1", "text-4xl font-black mb-4", "text-xl opacity-70 max-w-2xl mx-auto")
  else ("h3", "text-lg font-bold mb-2", "text-sm opacity-60")

/-- The fragment of an element. Inner lines are indented by two spaces a level. -/
def render (e : Element) (brand : Option Brand) : String :=
  let classes := classList e brand
  let tag := e.kind.tag
  match Content.of e with
  | .text text => enclosed tag classes text
  | .placeholder text =>
    if e.kind = .textarea then
      "<textarea" ++ attr "class" classes ++ attr "placeholder" text ++ "></textarea>"
    else emptyTag "input" [("class", classes), ("placeholder", text)]
  | .choice text =>
    openTag "select" classes ++ "\n  <option>" ++ escape text ++ "</option>\n</select>"
  | .switch text =>
    openTag "label" classes ++ "\n  " ++ enclosed "span" "w-10 h-6 rounded-full bg-white/20" ""
      ++ "\n  <span>" ++ escape text ++ "</span>\n</label>"
  | .rule => emptyTag "hr" [("class", classes)]
  | .headed heading body =>
    let (headingTag, headingClasses, bodyClasses) := headingStyle e.kind
    openTag tag classes ++ "\n  " ++ enclosed headingTag headingClasses heading
      ++ "\n  " ++ enclosed "p" bodyClasses body ++ "\n" ++ closeTag tag
  | .navigation title links =>
    openTag "nav" classes ++ "\n  " ++ enclosed "span" "font-bold text-xl" title
      ++ "\n  " ++ openTag "div" "flex gap-4" ++ "\n"
      ++ String.join
        (links.map fun link => "    " ++ enclosed "span" "text-sm opacity-60" link ++ "\n")
      ++ "  </div>\n</nav>"
  | .picture source alternative =>
    emptyTag "img" [("class", classes), ("src", source), ("alt", alternative)]

/-- The fragments of elements in order, every line indented, with a blank line between fragments. -/
def renderAll (elements : List Element) (brand : Option Brand) (indent : String) : String :=
  "\n\n".intercalate (elements.map fun e => Text.indentLines indent (render e brand))

end Fragment

end PageBuilder
