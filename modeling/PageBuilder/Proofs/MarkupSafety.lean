import PageBuilder.Render.Export
import PageBuilder.Proofs.Fragments
import PageBuilder.Proofs.Lines

/-!
# Safety of the markup

The structure of a text in markup or component source is in its angle brackets, quotes and braces:
they open and close tags, attributes and expressions. A fragment has those of its kind, whatever the
texts of the element and the brand are, because every text is escaped; and so a page has those of
the kinds of its elements.
-/

namespace PageBuilder

namespace Markup

/-! ## Marks -/

/-- The characters that tags, attribute values and expressions start and end with. -/
def isMark (c : Char) : Bool := c ∈ ['<', '>', '"', '\x7b', '\x7d']

/-- The marks of a text in order. -/
def marks (text : String) : List Char := text.toList.filter isMark

/-- A text that is written out is known by its characters. They need not be decoded then. -/
theorem marks_ofList (chars : List Char) : marks (String.ofList chars) = chars.filter isMark := by
  rw [marks, String.toList_ofList]

@[simp] theorem marks_append (a b : String) : marks (a ++ b) = marks a ++ marks b := by
  simp [marks, String.toList_append]

theorem marks_join (texts : List String) : marks (String.join texts) = texts.flatMap marks := by
  induction texts with
  | nil => rfl
  | cons text rest ih => simp [String.join_cons, ih]

/-- Marks of a separator apart, a text with separators has the marks of its parts. -/
theorem marks_intercalate {separator : String} (none : marks separator = [])
    (texts : List String) : marks (separator.intercalate texts) = texts.flatMap marks := by
  induction texts with
  | nil => rfl
  | cons text rest ih =>
    cases rest with
    | nil => simp
    | cons next rest => simp_all [String.intercalate_cons_cons]

theorem filter_escapeChar (c : Char) : (escapeChar c).filter isMark = [] := by
  unfold escapeChar
  repeat' split
  case isFalse =>
    simp_all [isMark]
  all_goals decide

/-- An escaped text has no marks. -/
@[simp] theorem marks_escape (text : String) : marks (escape text) = [] := by
  rw [marks, toList_escape, List.filter_flatMap]
  simp [filter_escapeChar]

/-! ## Entities -/

/-- What escaping writes in the place of special characters. -/
def entities : List String := ["&amp;", "&lt;", "&gt;", "&quot;", "&#39;", "&#123;", "&#125;"]

/-- Every ampersand of the characters begins an entity. -/
def Referenced (chars : List Char) : Prop :=
  ∀ before after, chars = before ++ '&' :: after →
    ∃ entity ∈ entities, entity.toList <+: '&' :: after

theorem referenced_of_not_mem {chars : List Char} (h : '&' ∉ chars) : Referenced chars := by
  rintro before after rfl
  exact absurd (List.mem_append_right before List.mem_cons_self) h

theorem Referenced.append {a b : List Char} (ha : Referenced a) (hb : Referenced b) :
    Referenced (a ++ b) := by
  intro before after whole
  rcases List.append_eq_append_iff.1 whole with ⟨middle, -, right⟩ | ⟨middle, left, right⟩
  · exact hb middle after right
  · cases middle with
    | nil =>
      exact hb [] after right.symm
    | cons c middle =>
      -- The ampersand is in the first part, and so is the whole entity.
      rw [List.cons_append, List.cons.injEq] at right
      obtain ⟨rfl, rfl⟩ := right
      obtain ⟨entity, known, start⟩ := ha before middle left
      exact ⟨entity, known, start.trans (List.prefix_append ('&' :: middle) b)⟩

theorem referenced_flatMap {α : Type} {f : α → List Char} {parts : List α}
    (h : ∀ part ∈ parts, Referenced (f part)) : Referenced (parts.flatMap f) := by
  induction parts with
  | nil =>
    exact referenced_of_not_mem (List.not_mem_nil)
  | cons part rest ih =>
    rw [List.flatMap_cons]
    exact (h part List.mem_cons_self).append (ih fun p later => h p (List.mem_cons_of_mem _ later))

/-- An entity has one ampersand, and it begins the entity. -/
theorem referenced_entity {name : List Char} (known : String.ofList ('&' :: name) ∈ entities)
    (h : '&' ∉ name) : Referenced ('&' :: name) := by
  intro before after whole
  cases before with
  | nil =>
    have text : (String.ofList ('&' :: name)).toList = '&' :: after := by
      rw [String.toList_ofList, whole, List.nil_append]
    exact ⟨_, known, text ▸ List.prefix_rfl⟩
  | cons c before =>
    rw [List.cons_append, List.cons.injEq] at whole
    exact absurd (whole.2 ▸ List.mem_append_right before List.mem_cons_self) h

theorem referenced_escapeChar (c : Char) : Referenced (escapeChar c) := by
  unfold escapeChar
  split
  · exact referenced_entity (by decide) (by decide)
  · next other =>
    repeat' split
    case isFalse =>
      exact referenced_of_not_mem fun h => other (List.mem_singleton.1 h).symm
    all_goals exact referenced_entity (by decide) (by decide)

theorem referenced_escape (text : String) : Referenced (escape text).toList := by
  rw [toList_escape]
  exact referenced_flatMap fun c _ => referenced_escapeChar c

/-- A text that starts no expression, and no character reference but the entities. -/
structure Inert (text : String) : Prop where
  unopened : '\x7b' ∉ text.toList
  unclosed : '\x7d' ∉ text.toList
  referenced : Referenced text.toList

theorem inert_ofList {chars : List Char}
    (h : (chars.all fun c => c ∉ ['\x7b', '\x7d', '&']) = true) : Inert (String.ofList chars) := by
  have apart : ∀ c ∈ ['\x7b', '\x7d', '&'], c ∉ chars := by
    intro c special there
    exact of_decide_eq_true (List.all_eq_true.1 h c there) special
  refine ⟨?_, ?_, ?_⟩ <;> rw [String.toList_ofList]
  · exact apart _ (by decide)
  · exact apart _ (by decide)
  · exact referenced_of_not_mem (apart _ (by decide))

theorem Inert.append {a b : String} (ha : Inert a) (hb : Inert b) : Inert (a ++ b) := by
  refine ⟨?_, ?_, ?_⟩ <;> rw [String.toList_append]
  · exact List.not_mem_append ha.unopened hb.unopened
  · exact List.not_mem_append ha.unclosed hb.unclosed
  · exact ha.referenced.append hb.referenced

theorem inert_join {texts : List String} (h : ∀ text ∈ texts, Inert text) :
    Inert (String.join texts) := by
  induction texts with
  | nil =>
    exact inert_ofList rfl
  | cons text rest ih =>
    rw [String.join_cons]
    exact (h text List.mem_cons_self).append (ih fun t later => h t (List.mem_cons_of_mem _ later))

theorem not_mem_escape {c : Char} (mark : isMark c = true) (text : String) :
    c ∉ (escape text).toList := fun there =>
  List.ne_nil_of_mem (List.mem_filter.2 ⟨there, mark⟩) (marks_escape text)

theorem inert_escape (text : String) : Inert (escape text) where
  unopened := not_mem_escape (by decide) text
  unclosed := not_mem_escape (by decide) text
  referenced := referenced_escape text

end Markup

/-! ## Fragments -/

namespace Fragment

open Markup

variable (e : Element) (brand : Option Brand)

theorem marks_attr (name value : String) : marks (attr name value) = marks (attr name "") := by
  simp [attr]

/-- The marks of a part, which are those of its fixed text. -/
def Piece.marks : Piece → List Char
  | fixed text => Markup.marks text
  | label => []
  | source => []

theorem Piece.marks_text (piece : Piece) : Markup.marks (piece.text e) = piece.marks := by
  cases piece with
  | fixed text => rfl
  | label => exact marks_escape e.label
  | source => exact marks_escape e.imageSource

/-- The marks of the fragments of a kind. -/
def skeleton (kind : Kind) : List Char :=
  Markup.marks ("<" ++ kind.tag ++ attr "class" "") ++ (body kind).flatMap Piece.marks

/-- **A fragment has the marks of its kind.** -/
theorem marks_render : marks (render e brand) = skeleton e.kind := by
  rw [render_eq, marks_append, marks_append, marks_attr, ← marks_append, fill, marks_join,
    List.flatMap_map]
  simp only [Piece.marks_text]
  rfl

example : skeleton .button = ['<', '"', '"', '>', '<', '>'] := by decide +kernel

theorem inert_tag (kind : Kind) : Inert kind.tag := by
  cases kind <;> exact inert_ofList (by decide)

theorem inert_class (value : String) : Inert (attr "class" value) := by
  unfold attr
  refine Inert.append (.append ?_ (inert_escape value)) (inert_ofList (by decide))
  exact .append (.append (inert_ofList (by decide)) (inert_ofList (by decide)))
    (inert_ofList (by decide))

/-- The fixed texts of all kinds are inert. -/
theorem inert_fixed {text : String} {kind : Kind} (h : .fixed text ∈ body kind) : Inert text := by
  cases kind
  all_goals
    simp only [body, List.mem_cons, Piece.fixed.injEq, reduceCtorEq, List.not_mem_nil, false_or,
      or_false] at h
    repeat' (first | (rcases h with rfl | h) | subst h)
    all_goals exact inert_ofList (by decide)

theorem inert_body (kind : Kind) : ∀ piece ∈ body kind, Inert (piece.text e) := by
  intro piece there
  cases piece with
  | fixed text => exact inert_fixed there
  | label => exact inert_escape e.label
  | source => exact inert_escape e.imageSource

/-- No fragment starts an expression, and its only character references are entities. -/
theorem inert_render : Inert (render e brand) := by
  rw [render_eq]
  refine (((inert_ofList (by decide)).append (inert_tag _)).append (inert_class _)).append ?_
  refine inert_join fun text h => ?_
  rcases List.mem_map.1 h with ⟨piece, there, rfl⟩
  exact inert_body e e.kind piece there

end Fragment

/-! ## Pages -/

namespace Text

theorem filter_lines (chars : List Char) :
    (lines chars).flatMap (List.filter Markup.isMark) = chars.filter Markup.isMark := by
  fun_induction lines chars with
  | case1 => rfl
  | case2 rest ih => simpa [Markup.isMark] using ih
  | case3 rest ih => simpa [Markup.isMark] using ih
  | case4 c rest _ _ none ih =>
    rw [none] at ih
    rw [List.filter_cons, ← ih]
    simp [List.filter_cons]
  | case5 c rest _ _ line others some ih =>
    rw [some] at ih
    rw [List.flatMap_cons, List.filter_cons, List.filter_cons, ← ih]
    split <;> rfl

/-- Indenting by white space keeps the marks. -/
theorem marks_indentLines {indent : String} (blank : Markup.marks indent = []) (text : String) :
    Markup.marks (indentLines indent text) = Markup.marks text := by
  have line : ∀ chars : List Char, Markup.marks (indent ++ String.ofList chars) =
      chars.filter Markup.isMark := by
    intro chars
    rw [Markup.marks_append, blank, List.nil_append, Markup.marks, String.toList_ofList]
  rw [indentLines, Markup.marks_intercalate rfl, List.flatMap_map]
  simp only [line]
  exact filter_lines text.toList

end Text

namespace Export

open Markup Fragment

theorem marks_renderAll {indent : String} (blank : marks indent = []) (elements : List Element)
    (brand : Option Brand) :
    marks (renderAll elements brand indent) = (elements.map (·.kind)).flatMap skeleton := by
  rw [renderAll, marks_intercalate rfl, List.flatMap_map, List.flatMap_map]
  simp only [Text.marks_indentLines blank, marks_render]

/-- **A page has the marks of its shell and of the kinds of its elements.** -/
theorem marks_shell {indent : String} (blank : marks indent = []) (opening closing : String)
    (elements : List Element) (brand : Option Brand) :
    marks (shell opening closing indent elements brand) =
      marks opening ++ (elements.map (·.kind)).flatMap skeleton ++ marks closing := by
  rw [shell, marks_append, marks_append, ← marks_renderAll blank elements brand]
  split
  · next empty => rw [String.isEmpty_iff.1 empty]
  · rw [marks_append, show marks "\n" = [] from rfl, List.append_nil]

/-- **What users write cannot change the structure of the markup.** The marks of a fragment are the
same for all elements of a kind under any brands; there are no braces in it, and every ampersand
begins an entity. The marks of a page in either form are the same for all pages with elements of the
same kinds. -/
theorem marks_of_kind {e e' : Element} (same : e.kind = e'.kind) (brand brand' : Option Brand) :
    marks (render e brand) = marks (render e' brand') ∧
    '\x7b' ∉ (render e brand).toList ∧ '\x7d' ∉ (render e brand).toList ∧
    Referenced (render e brand).toList ∧
    ∀ elements elements' : List Element,
      elements.map (·.kind) = elements'.map (·.kind) →
        marks (Export.markup elements brand) = marks (Export.markup elements' brand') ∧
        marks (Export.component elements brand) = marks (Export.component elements' brand') := by
  have inert : Inert (render e brand) := inert_render e brand
  refine ⟨?_, inert.unopened, inert.unclosed, inert.referenced, ?_⟩
  · rw [marks_render, marks_render, same]
  · intro elements elements' kinds
    constructor
    · rw [markup, marks_shell rfl, marks_shell rfl, kinds]
    · rw [component, marks_shell rfl, marks_shell rfl, kinds]

/-- A button whose texts try to leave its class, its tag and the text around it. -/
def hostileButton : Element where
  id := "a\"><i>"
  kind := .button
  label := "</button><script>\x7bx\x7d</script>&lt;"
  props := { background := some "red\" onclick=\"x" }

/-- It has the structure of any other button. -/
theorem marks_of_hostile_button :
    marks (render hostileButton none) = marks (render (.new "a" .button) (some {})) ∧
    '\x7b' ∉ (render hostileButton none).toList ∧ '\x7d' ∉ (render hostileButton none).toList ∧
    Referenced (render hostileButton none).toList ∧
    marks (Export.markup [hostileButton] none) =
      marks (Export.markup [.new "a" .button] (some {})) ∧
    marks (Export.component [hostileButton] none) =
      marks (Export.component [.new "a" .button] (some {})) := by
  have kinds : hostileButton.kind = (Element.new "a" .button).kind := rfl
  obtain ⟨same, unopened, unclosed, referenced, pages⟩ := marks_of_kind kinds none (some {})
  exact ⟨same, unopened, unclosed, referenced, pages [hostileButton] [.new "a" .button] rfl⟩

end Export
end PageBuilder
