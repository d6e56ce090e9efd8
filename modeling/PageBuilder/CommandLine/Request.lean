import PageBuilder.CommandLine.Form
import PageBuilder.Render.Export

/-!
# Requests

What the commands of the command line ask for, and the form of each of them.
-/

namespace PageBuilder.CommandLine

/-- Changes of brand tokens; those that are unset stay. -/
structure BrandChange where
  primary : Option String := none
  secondary : Option String := none
  accent : Option String := none
  radius : Option UInt32 := none
  font : Option Font := none
  glass : Option Bool := none
  deriving DecidableEq

def BrandChange.applyTo (c : BrandChange) (b : Brand) : Brand where
  primary := c.primary.getD b.primary
  secondary := c.secondary.getD b.secondary
  accent := c.accent.getD b.accent
  radius := c.radius.getD b.radius
  font := c.font.getD b.font
  glass := c.glass.getD b.glass

/-- What is asked for. Names are as they were typed. -/
inductive Request
  | add (kind : String)
  | relabel (id : ElementId) (label : String)
  | delete (id : ElementId)
  | duplicate (id : ElementId)
  | move (id : ElementId) (direction : Direction)
  | reorder (source target : ElementId)
  | prompt (words : List String)
  | chat (words : List String)
  | template (name : String)
  | premade (name : String)
  | theme (name : String)
  | columns (count : Nat)
  | clear
  | brand (change : BrandChange)
  | syncBrand (fields : List BrandField)
  | exportPage (format : String) (output : Option String)
  | importPage (file : String)
  | save (name : Option String)
  | load (name : String)
  | projects
  | deleteProject (name : String)
  | list
  deriving DecidableEq

instance : Choice Direction where
  all := [.up, .down]
  name
    | .up => "up"
    | .down => "down"
  mem_all a := by cases a <;> decide
  names_nodup := by decide

instance : Choice Bool where
  all := [true, false]
  name
    | true => "true"
    | false => "false"
  mem_all a := by cases a <;> decide
  names_nodup := by decide

/-- The options that every command takes. -/
structure Globals where
  dataDirectory : Option String := none
  project : Option String := none
  deriving DecidableEq, Repr

namespace Globals

/-- The options given at one place, and for what is not given there those given at another. -/
def orElse (inner outer : Globals) : Globals where
  dataDirectory := inner.dataDirectory.or outer.dataDirectory
  project := inner.project.or outer.project

/-- The options that every command takes, into a part of a draft. -/
def options {δ : Type} (get : δ → Globals) (put : δ → Globals → δ) : List (Opt δ) := [
  { name := "data-dir"
    store := fun d text =>
      (readPath text).map fun path => put d { get d with dataDirectory := some path } },
  { name := "project", store := fun d text => .ok (put d { get d with project := some text }) }]

end Globals

/-! ## Drafts -/

/-- A command line while it is read: what every command takes, and what the command itself takes. -/
structure Draft (δ : Type) where
  globals : Globals := {}
  own : δ

namespace Draft

variable {δ : Type}

/-- Stores a value in the part of the command itself. -/
def storing {α : Type} (read : String → Except UsageFault α) (put : δ → α → δ) (d : Draft δ)
    (text : String) : Except UsageFault (Draft δ) :=
  (read text).map fun value => { d with own := put d.own value }

def operand {α : Type} (read : String → Except UsageFault α) (put : δ → α → δ) :
    Operand (Draft δ) :=
  .single (storing read put)

def textOperand (put : δ → String → δ) : Operand (Draft δ) := operand .ok put

def opt {α : Type} (name : String) (read : String → Except UsageFault α) (put : δ → α → δ)
    (letter : Option Char) (repeatable : Bool) : Opt (Draft δ) :=
  { name, letter, repeatable, store := storing read put }

/-- An option that can be given once, without a letter. -/
def plainOpt {α : Type} (name : String) (read : String → Except UsageFault α) (put : δ → α → δ) :
    Opt (Draft δ) :=
  opt name read put none false

/-- The form of a command with options and arguments of its own. -/
def form (options : List (Opt (Draft δ))) (operands : List (Operand (Draft δ))) :
    Form (Draft δ) where
  options := options ++ Globals.options (·.globals) fun d globals => { d with globals }
  operands

end Draft

/-! ## Commands -/

/-- How the words behind the name of a command are read. -/
abbrev Command.Reader := List String → Except UsageFault (Globals × Request)

open Draft

/-- Reads a command by a form; what is missing in the draft is an argument. -/
def readBy {δ : Type} (form : Form (Draft δ)) (blank : δ) (finish : δ → Option Request) :
    Command.Reader :=
  fun words =>
    match form.read { own := blank } words with
    | .error fault => .error fault
    | .ok draft =>
      match finish draft.own with
      | some request => .ok (draft.globals, request)
      | none => .error .argumentMissing

/-- A command without options and arguments of its own. -/
def bare (request : Request) : Command.Reader := readBy (form [] []) () fun _ => some request

def withText (request : String → Request) : Command.Reader :=
  readBy (form [] [textOperand fun _ text => some text]) none fun text => text.map request

/-- A command with two arguments, the second of them read in a way of its own. -/
def withTextAnd {α : Type} (read : String → Except UsageFault α) (request : String → α → Request) :
    Command.Reader :=
  readBy
    (form [] [
      textOperand fun d text => (some text, d.2),
      operand read fun d value => (d.1, some value)])
    (none, none) fun d => do pure (request (← d.1) (← d.2))

/-- A command with one argument that is read in a way of its own. -/
def withValue {α : Type} (read : String → Except UsageFault α) (request : α → Request) :
    Command.Reader :=
  readBy (form [] [operand read fun _ value => some value]) none fun value => value.map request

/-- A command that takes all its words as they are; it needs one at least. -/
def withWords (request : List String → Request) : Command.Reader :=
  readBy (form [] [.rest fun d words => { d with own := words }]) [] fun words =>
    if words.isEmpty then none else some (request words)

/-- Brand tokens are given as options. -/
def brandReader : Command.Reader :=
  readBy
    (form [
      plainOpt "primary" .ok fun c value => { c with primary := some value },
      plainOpt "secondary" .ok fun c value => { c with secondary := some value },
      plainOpt "accent" .ok fun c value => { c with accent := some value },
      plainOpt "radius" (readNatural (Nat.pow 2 32)) fun c value =>
        { c with radius := some (UInt32.ofNat value) },
      plainOpt "font" readChoice fun c value => { c with font := some value },
      plainOpt "glass" readChoice fun c value => { c with glass := some value }] [])
    ({} : BrandChange) fun change => some (.brand change)

/-- Brand fields are given by an option that can be repeated. -/
def syncBrandReader : Command.Reader :=
  readBy (form [opt "field" readChoice (fun fields field => fields ++ [field]) none true] [])
    [] fun fields => some (.syncBrand fields)

/-- The format and the file of an export are options. -/
def exportReader : Command.Reader :=
  readBy
    (form [
      opt "format" .ok (fun d value => (value, d.2)) (some 'f') false,
      opt "output" readPath (fun d path => (d.1, some path)) (some 'o') false] [])
    (Choice.name ExportFormat.standard, none) fun d => some (.exportPage d.1 d.2)

/-- The name of a project to save under can be left out. -/
def saveReader : Command.Reader :=
  readBy (form [] [textOperand fun _ text => some text]) none fun name => some (.save name)

def commands : List (String × Command.Reader) := [
  ("add", withText .add),
  ("label", withTextAnd .ok .relabel),
  ("delete", withText .delete),
  ("duplicate", withText .duplicate),
  ("move", withTextAnd readChoice .move),
  ("reorder", withTextAnd .ok .reorder),
  ("prompt", withWords .prompt),
  ("chat", withWords .chat),
  ("template", withText .template),
  ("premade", withText .premade),
  ("theme", withText .theme),
  ("columns", withValue (readNatural (Nat.pow 2 8)) .columns),
  ("clear", bare .clear),
  ("brand", brandReader),
  ("sync-brand", syncBrandReader),
  ("export", exportReader),
  ("import", withValue readPath .importPage),
  ("save", saveReader),
  ("load", withText .load),
  ("projects", bare .projects),
  ("delete-project", withText .deleteProject),
  ("list", bare .list)]

end PageBuilder.CommandLine
