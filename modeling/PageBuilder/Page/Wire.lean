import PageBuilder.Page.Document
import PageBuilder.Json.Record

/-!
# The JSON form of pages

How brands, properties, elements and documents are read from JSON and written to it. Unset
properties are left out when writing; `null` counts as unset when reading. A label, properties, a
theme, columns and a brand may be missing, and so may every token of a brand; an id, a kind and the
list of elements may not.
-/

namespace PageBuilder

open Json Numeric

/-! ## Numbers -/

def Columns.read (value : Json) : Except Fault Columns :=
  match asNatural 8 value with
  | .error fault => .error fault
  | .ok n =>
    match Columns.ofCount? n with
    | some columns => .ok columns
    | none => .error (.badColumns n)

def Columns.write (c : Columns) : Json := number (Literal.ofNat c.count)

def writeUInt32 (n : UInt32) : Json := number (Literal.ofNat n.toNat)

/-- The JSON form of a single; infinity has none and is `null`. -/
def writeSingle (x : Single) : Json :=
  if x.isInfinite then .null else number (Literal.ofBinary Literal.singleRange x)

/-! ## Brands -/

namespace Brand

/-- How a brand is read; tokens that are missing are those of the default brand. -/
def shape : Shape Brand Brand where
  name := "BrandKit"
  fields := [
    ⟨"primary", fun b v => (asString v).map fun s => { b with primary := s }⟩,
    ⟨"secondary", fun b v => (asString v).map fun s => { b with secondary := s }⟩,
    ⟨"accent", fun b v => (asString v).map fun s => { b with accent := s }⟩,
    ⟨"radius", fun b v => (asUInt32 v).map fun n => { b with radius := n }⟩,
    ⟨"font", fun b v => (Choice.read v).map fun f => { b with font := f }⟩,
    ⟨"glass", fun b v => (asBool v).map fun g => { b with glass := g }⟩]
  blank := {}
  finish := .ok

def read (value : Json) : Except Fault Brand := shape.read value

def write (b : Brand) : Json :=
  object [
    ("primary", .string b.primary), ("secondary", .string b.secondary),
    ("accent", .string b.accent), ("radius", writeUInt32 b.radius), ("font", Choice.write b.font),
    ("glass", .bool b.glass)]

end Brand

/-! ## Properties -/

namespace Props

def shape : Shape Props Props where
  name := "PropertySet"
  fields := [
    ⟨"bg", fun p v => (asOption asString v).map fun x => { p with background := x }⟩,
    ⟨"color", fun p v => (asOption asString v).map fun x => { p with color := x }⟩,
    ⟨"borderColor", fun p v => (asOption asString v).map fun x => { p with borderColor := x }⟩,
    ⟨"fontSize", fun p v => (asOption Choice.read v).map fun x => { p with fontSize := x }⟩,
    ⟨"align", fun p v => (asOption Choice.read v).map fun x => { p with align := x }⟩,
    ⟨"radius", fun p v => (asOption asUInt32 v).map fun x => { p with radius := x }⟩,
    ⟨"padding", fun p v => (asOption asUInt32 v).map fun x => { p with padding := x }⟩,
    ⟨"width", fun p v => (asOption Choice.read v).map fun x => { p with width := x }⟩,
    ⟨"imageUrl", fun p v => (asOption asString v).map fun x => { p with imageUrl := x }⟩,
    ⟨"badgeColor", fun p v => (asOption asString v).map fun x => { p with badgeColor := x }⟩,
    ⟨"columns", fun p v => (asOption Columns.read v).map fun x => { p with columns := x }⟩,
    ⟨"blur", fun p v => (asOption asUInt32 v).map fun x => { p with blur := x }⟩,
    ⟨"opacity", fun p v => (asOption asUInt32 v).map fun x => { p with opacity := x }⟩,
    ⟨"shadow", fun p v => (asOption Choice.read v).map fun x => { p with shadow := x }⟩,
    ⟨"gradient", fun p v => (asOption asString v).map fun x => { p with gradient := x }⟩,
    ⟨"animation", fun p v => (asOption Choice.read v).map fun x => { p with animation := x }⟩,
    ⟨"animationDuration", fun p v =>
      (asOption asSingle v).map fun x => { p with animationDuration := x }⟩]
  blank := {}
  finish := .ok

def read (value : Json) : Except Fault Props := shape.read value

def write (p : Props) : Json :=
  ofFields [
    ("bg", p.background.map .string),
    ("color", p.color.map .string),
    ("borderColor", p.borderColor.map .string),
    ("fontSize", p.fontSize.map Choice.write),
    ("align", p.align.map Choice.write),
    ("radius", p.radius.map writeUInt32),
    ("padding", p.padding.map writeUInt32),
    ("width", p.width.map Choice.write),
    ("imageUrl", p.imageUrl.map .string),
    ("badgeColor", p.badgeColor.map .string),
    ("columns", p.columns.map Columns.write),
    ("blur", p.blur.map writeUInt32),
    ("opacity", p.opacity.map writeUInt32),
    ("shadow", p.shadow.map Choice.write),
    ("gradient", p.gradient.map .string),
    ("animation", p.animation.map Choice.write),
    ("animationDuration", p.animationDuration.map writeSingle)]

end Props

/-! ## Elements -/

namespace Element

/-- An element while it is read. -/
structure Draft where
  id : Option ElementId := none
  kind : Option Kind := none
  label : String := ""
  props : Props := {}

def shape : Shape Draft Element where
  name := "Element"
  fields := [
    ⟨"id", fun d v => (asString v).map fun x => { d with id := some x }⟩,
    ⟨"type", fun d v => (Choice.read v).map fun x => { d with kind := some x }⟩,
    ⟨"label", fun d v => (asString v).map fun x => { d with label := x }⟩,
    ⟨"props", fun d v => (Props.read v).map fun x => { d with props := x }⟩]
  blank := {}
  finish d :=
    match d.id, d.kind with
    | some id, some kind => .ok ⟨id, kind, d.label, d.props⟩
    | none, _ => .error "id"
    | some _, none => .error "type"

def read (value : Json) : Except Fault Element := shape.read value

def write (e : Element) : Json :=
  object [
    ("id", .string e.id), ("type", Choice.write e.kind), ("label", .string e.label),
    ("props", e.props.write)]

end Element

/-! ## Documents -/

namespace Document

/-- A document while it is read. -/
structure Draft where
  elements : Option (List Element) := none
  theme : Theme := .dark
  columns : Columns := .one
  brand : Brand := {}

def shape : Shape Draft Document where
  name := "DocumentState"
  fields := [
    ⟨"elements", fun d v => (asList Element.read v).map fun x => { d with elements := some x }⟩,
    ⟨"theme", fun d v => (Choice.read v).map fun x => { d with theme := x }⟩,
    ⟨"columns", fun d v => (Columns.read v).map fun x => { d with columns := x }⟩,
    ⟨"brand", fun d v => (Brand.read v).map fun x => { d with brand := x }⟩]
  blank := {}
  finish d :=
    match d.elements with
    | some elements => .ok ⟨elements, d.theme, d.columns, d.brand⟩
    | none => .error "elements"

def read (value : Json) : Except Fault Document := shape.read value

def write (d : Document) : Json :=
  object [
    ("elements", .array (d.elements.map Element.write)), ("theme", Choice.write d.theme),
    ("columns", d.columns.write), ("brand", d.brand.write)]

end Document

end PageBuilder
