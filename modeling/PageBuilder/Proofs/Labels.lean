import PageBuilder.Proofs.Agreement
import PageBuilder.Proofs.MarkupSafety
import PageBuilder.Proofs.Blocks

/-!
# Labels in pages

The label of an element and the address of an image stand between marks in its fragment: behind
brackets and quotes that are fixed for the kind, and before others. So a reader of a page finds them
by counting marks in the block of the element. What stands there is the escaped text, but not always
as it is: indenting the block also indents every line of the text but the first, and ends its lines
with a line feed alone. The text is whole just if it has one line.
-/

namespace PageBuilder

open Text

/-! ## Reading by marks -/

namespace Markup

/-- The characters behind the given number of marks, up to the next mark. -/
def behindMarks : Nat → List Char → List Char
  | 0, text => text.takeWhile (!isMark ·)
  | n + 1, text => behindMarks n (text.dropWhile (!isMark ·)).tail

theorem behindMarks_append (before rest : List Char) (n : Nat) :
    behindMarks ((before.filter isMark).length + (n + 1)) (before ++ rest) =
      behindMarks (n + 1) rest := by
  -- A mark in front is one to skip; another character is dropped with those up to the next mark.
  induction before with
  | nil => simp
  | cons c before ih =>
    cases mark : isMark c with
    | true =>
      have next : (c :: before ++ rest).dropWhile (!isMark ·) = c :: (before ++ rest) := by
        simp [mark]
      rw [List.filter_cons_of_pos mark, List.length_cons, Nat.add_right_comm, behindMarks, next]
      exact ih
    | false =>
      have next : (c :: before ++ rest).dropWhile (!isMark ·) =
          (before ++ rest).dropWhile (!isMark ·) := by
        simp [mark]
      rw [List.filter_cons_of_neg (by simp [mark]), ← ih, ← Nat.add_assoc, behindMarks, next]
      rfl

/-- A text between two marks is read whole if there is no mark in it. -/
theorem behindMarks_between {opening closing : Char} (before : List Char) {text : List Char}
    (after : List Char) (opened : isMark opening = true) (plain : text.filter isMark = [])
    (closed : isMark closing = true) :
    behindMarks ((before.filter isMark).length + 1)
      (before ++ opening :: (text ++ closing :: after)) = text := by
  rw [behindMarks_append before _ 0]
  have none : ∀ c ∈ text, (!isMark c) = true := by
    intro c there
    simpa using List.filter_eq_nil_iff.1 plain c there
  simp [behindMarks, opened, closed, List.takeWhile_append_of_pos none]

theorem behindMarks_infix (n : Nat) (text : List Char) : behindMarks n text <:+: text := by
  induction n generalizing text with
  | zero => exact (List.takeWhile_prefix _).isInfix
  | succ n ih =>
    have rest : (text.dropWhile (!isMark ·)).tail <:+: text :=
      ((List.tail_suffix _).trans (List.dropWhile_suffix _)).isInfix
    exact (ih _).trans rest

theorem filter_lineFeeds (text : List Char) :
    (lineFeeds text).filter isMark = text.filter isMark := by
  fun_induction lineFeeds text with
  | case1 => rfl
  | case2 rest ih => simpa [isMark] using ih
  | case3 c rest paired ih => rw [List.filter_cons, List.filter_cons, ih]

theorem filter_hang {indent : List Char} (blank : indent.filter isMark = []) (text : List Char) :
    (hang indent text).filter isMark = text.filter isMark := by
  induction text with
  | nil => rfl
  | cons c rest ih =>
    rw [← List.singleton_append, hang_append, List.filter_append, List.filter_append, ih]
    by_cases feed : c = '\n'
    · subst feed
      simpa [hang, isMark] using blank
    · simp [hang, feed]

theorem feed_mem_escapeChar {c : Char} : '\n' ∈ escapeChar c ↔ '\n' = c := by
  unfold escapeChar
  repeat' split
  case isFalse => exact List.mem_singleton
  all_goals
    next special =>
      subst special
      decide

theorem feed_mem_escape {text : String} : '\n' ∈ (escape text).toList ↔ '\n' ∈ text.toList := by
  simp [toList_escape, List.mem_flatMap, feed_mem_escapeChar]

theorem ne_of_isMark {c : Char} (mark : isMark c = true) : c ≠ '\n' ∧ c ≠ '\r' := by
  constructor
  all_goals
    rintro rfl
    revert mark
    decide

/-- A text between two marks keeps its place in an indented text. -/
theorem behindMarks_indentLines {indent text : String} (blank : marks indent = [])
    (closed : Closed text.toList) {before gap after : List Char} {opening closing : Char}
    (whole : text.toList = before ++ opening :: (gap ++ closing :: after))
    (opened : isMark opening = true) (plain : gap.filter isMark = [])
    (ended : isMark closing = true) :
    behindMarks ((before.filter isMark).length + 1) (indentLines indent text).toList =
      hang indent.toList (lineFeeds gap) := by
  -- Marks are no ends of lines, so the texts before, between and after them keep their own lines.
  have apart : lineFeeds text.toList =
      lineFeeds before ++ opening :: (lineFeeds gap ++ closing :: lineFeeds after) := by
    rw [whole, lineFeeds_append_cons _ (ne_of_isMark opened).1 (ne_of_isMark opened).2,
      lineFeeds_append_cons _ (ne_of_isMark ended).1 (ne_of_isMark ended).2]
  have hung : (indentLines indent text).toList =
      (indent.toList ++ hang indent.toList (lineFeeds before)) ++
        opening :: (hang indent.toList (lineFeeds gap) ++
          closing :: hang indent.toList (lineFeeds after)) := by
    rw [toList_indentLines_eq closed, apart]
    simp [hang, (ne_of_isMark opened).1, (ne_of_isMark ended).1]
  have count : (before.filter isMark).length =
      ((indent.toList ++ hang indent.toList (lineFeeds before)).filter isMark).length := by
    rw [List.filter_append, filter_hang blank, filter_lineFeeds,
      show indent.toList.filter isMark = [] from blank, List.nil_append]
  rw [hung, count]
  refine behindMarks_between _ _ opened ?_ ended
  rw [filter_hang blank, filter_lineFeeds, plain]

end Markup

/-! ## Places of texts -/

namespace Text

/-- A text with an indent in front of every line but the first, and line feeds alone between lines.
-/
def hanging (indent text : String) : String :=
  String.ofList (hang indent.toList (lineFeeds text.toList))

end Text

namespace Fragment

open Markup

/-- The text of a fragment behind the given number of marks, up to the next one. -/
def textAt (place : Nat) (fragment : String) : String :=
  String.ofList (behindMarks place fragment.toList)

/-- The number of marks in front of the label in the fragments of a kind. A rule has no label. -/
def labelPlace : Kind → Nat
  | .button | .text | .badge | .input | .textarea => 4
  | .select | .image => 6
  | .card | .hero | .navbar => 8
  | .toggle => 12
  | .divider => 0

/-- The number of marks in front of the address of an image. -/
def sourcePlace : Nat := 4

/-- In the fragments of a kind a text of the element stands between two marks, and behind the given
number of them. -/
def Gap (kind : Kind) (piece : Piece) (place : Nat) : Prop :=
  ∃ before opening closing after,
    body kind = before ++ .fixed opening :: piece :: .fixed closing :: after ∧
    opening.toList.getLast?.any isMark = true ∧
    closing.toList.head?.any isMark = true ∧
    3 + (before.flatMap Piece.marks ++ marks opening).length = place

theorem gap_label {kind : Kind} (labelled : kind ≠ .divider) :
    Gap kind .label (labelPlace kind) := by
  cases kind with
  | divider => exact absurd rfl labelled
  | image => exact ⟨[.fixed " src=\"", .source], _, _, _, rfl, rfl, rfl, rfl⟩
  | _ =>
    refine ⟨[], _, _, _, rfl, ?_, ?_, ?_⟩
    · rw [String.toList_ofList]
      decide
    · rw [String.toList_ofList]
      decide
    · rw [List.flatMap_nil, List.nil_append, marks_ofList]
      decide

theorem gap_source : Gap .image .source sourcePlace :=
  ⟨[], _, _, _, rfl, rfl, rfl, rfl⟩

theorem length_marks_opening (e : Element) (brand : Option Brand) :
    (marks ("<" ++ e.kind.tag ++ attr "class" (classList e brand))).length = 3 := by
  rw [marks_append, marks_attr]
  cases e.kind <;> rfl

theorem marks_fill (e : Element) (pieces : List Piece) :
    marks (fill e pieces) = pieces.flatMap Piece.marks := by
  rw [fill, marks_join, List.flatMap_map]
  simp only [Piece.marks_text]

/-- In the place of a text, an indented fragment has the text with its later lines indented. -/
theorem Gap.textAt_indentLines {e : Element} {piece : Piece} {place : Nat}
    (gap : Gap e.kind piece place) (plain : marks (piece.text e) = []) (brand : Option Brand)
    {indent : String} (blank : marks indent = []) :
    textAt place (indentLines indent (render e brand)) = hanging indent (piece.text e) := by
  rcases gap with ⟨before, opening, closing, after, parts, opened, ended, rfl⟩
  rcases (Option.any_eq_true _ _).1 opened with ⟨first, last, mark⟩
  rcases (Option.any_eq_true _ _).1 ended with ⟨second, head, mark'⟩
  rcases List.getLast?_eq_some_iff.1 last with ⟨front, whole⟩
  rcases List.head?_eq_some_iff.1 head with ⟨back, whole'⟩
  let start := "<" ++ e.kind.tag ++ attr "class" (classList e brand)
  have chars : (render e brand).toList =
      (start.toList ++ (fill e before).toList ++ front) ++
        first :: ((piece.text e).toList ++ second :: (back ++ (fill e after).toList)) := by
    rw [render_eq, String.toList_append, parts, toList_fill, toList_fill, toList_fill]
    simp [start, Piece.text, whole, whole']
  have count : 3 + (before.flatMap Piece.marks ++ marks opening).length =
      ((start.toList ++ (fill e before).toList ++ front).filter isMark).length + 1 := by
    have inner : (fill e before).toList.filter isMark = before.flatMap Piece.marks :=
      marks_fill e before
    have outer : (start.toList.filter isMark).length = 3 := length_marks_opening e brand
    have fixed : (marks opening).length = (front.filter isMark).length + 1 := by
      rw [marks, whole, List.filter_append, List.length_append]
      simp [mark]
    simp only [List.filter_append, List.length_append, inner, outer, fixed]
    omega
  rw [textAt, hanging, count,
    behindMarks_indentLines blank (closed_render e brand) chars mark plain mark']

end Fragment

/-! ## Places in pages -/

namespace Export

open Fragment Markup

/-- What a page in a shell has in a place of one of its blocks. -/
def textAt? (opening closing page : String) (block place : Nat) : Option String :=
  (inner? opening closing page).bind fun body => (paragraphs body)[block]?.map (textAt place)

theorem textAt?_shell {opening closing indent : String} (distinct : Distinct closing indent)
    (blank : marks indent = []) {elements : List Element} {block : Nat} {e : Element}
    (there : elements[block]? = some e) (brand : Option Brand) {piece : Piece} {place : Nat}
    (gap : Gap e.kind piece place) (plain : marks (piece.text e) = []) :
    textAt? opening closing (shell opening closing indent elements brand) block place =
      some (hanging indent (piece.text e)) := by
  have filled : elements ≠ [] := by
    rintro rfl
    cases there
  rw [textAt?, inner?_shell distinct, Option.bind_some, paragraphs_renderAll distinct filled,
    List.getElem?_map, there, Option.map_some, Option.map_some,
    gap.textAt_indentLines plain brand blank]

theorem hanging_escape_eq_iff {indent : String} (wide : 2 ≤ indent.toList.length) (text : String) :
    some (hanging indent (escape text)) = some (escape text) ↔ '\n' ∉ text.toList := by
  rw [Option.some.injEq, hanging, ← feed_mem_escape, ← hang_eq_self_iff wide,
    ← String.toList_inj, String.toList_ofList]

theorem infix_intercalate {separator part : List Char} {parts : List (List Char)}
    (h : part ∈ parts) : part <:+: separator.intercalate parts := by
  induction parts with
  | nil => cases h
  | cons first rest ih =>
    cases rest with
    | nil =>
      have only : part = first := List.mem_singleton.1 h
      rw [List.intercalate_singleton]
      exact only ▸ List.infix_rfl
    | cons next rest =>
      rw [List.intercalate_cons_cons]
      rcases List.mem_cons.1 h with rfl | later
      · exact List.append_assoc part _ _ ▸ (List.prefix_append part _).isInfix
      · exact (ih later).trans (List.suffix_append _ _).isInfix

theorem infix_renderAll {elements : List Element} {e : Element} (there : e ∈ elements)
    (brand : Option Brand) (indent : String) :
    (indentLines indent (render e brand)).toList <:+: (renderAll elements brand indent).toList := by
  rw [renderAll, String.toList_intercalate]
  exact infix_intercalate (List.mem_map_of_mem (List.mem_map_of_mem there))

theorem infix_shell (opening closing indent : String) (elements : List Element)
    (brand : Option Brand) :
    (renderAll elements brand indent).toList <:+:
      (shell opening closing indent elements brand).toList := by
  by_cases empty : renderAll elements brand indent = ""
  · rw [empty]
    exact List.nil_infix
  · refine ⟨opening.toList, '\n' :: closing.toList, ?_⟩
    rw [toList_shell empty, List.append_assoc]

/-- The text in a place of a block is one piece of the page. -/
theorem infix_textAt {elements : List Element} {e : Element} (there : e ∈ elements)
    (brand : Option Brand) (opening closing indent : String) (place : Nat) :
    (textAt place (indentLines indent (render e brand))).toList <:+:
      (shell opening closing indent elements brand).toList := by
  have inBlock : (textAt place (indentLines indent (render e brand))).toList <:+:
      (indentLines indent (render e brand)).toList := by
    rw [textAt, String.toList_ofList]
    exact behindMarks_infix place _
  exact (inBlock.trans (infix_renderAll there brand indent)).trans
    (infix_shell opening closing indent elements brand)

/-- What a page in a shell has in a place where a text belongs: the escaped text with its later
lines indented. That is the text as it is just if it has one line, and then it is one piece of the
page. -/
structure Shows (opening closing indent page : String) (block place : Nat) (text : String) :
    Prop where
  shown : textAt? opening closing page block place = some (hanging indent (escape text))
  whole : textAt? opening closing page block place = some (escape text) ↔ '\n' ∉ text.toList
  one_piece : '\n' ∉ text.toList → (escape text).toList <:+: page.toList

theorem shows_shell {opening closing indent : String} (distinct : Distinct closing indent)
    (blank : marks indent = []) (wide : 2 ≤ indent.toList.length) {elements : List Element}
    {block : Nat} {e : Element} (there : elements[block]? = some e) (brand : Option Brand)
    {piece : Piece} {place : Nat} {text : String} (gap : Gap e.kind piece place)
    (escaped : piece.text e = escape text) :
    Shows opening closing indent (shell opening closing indent elements brand) block place
      text := by
  have plain : marks (piece.text e) = [] := escaped ▸ marks_escape text
  have inBlock := gap.textAt_indentLines plain brand blank
  have shown : textAt? opening closing (shell opening closing indent elements brand) block place =
      some (hanging indent (piece.text e)) :=
    textAt?_shell distinct blank there brand gap plain
  rw [escaped] at inBlock shown
  refine ⟨shown, ?_, ?_⟩
  · rw [shown]
    exact hanging_escape_eq_iff wide text
  · intro single
    have same := Option.some.inj ((hanging_escape_eq_iff wide text).2 single)
    rw [← same, ← inBlock]
    exact infix_textAt (List.mem_of_getElem? there) brand opening closing indent place

end Export

theorem Content.primaryText_of {e : Element} (labelled : e.kind ≠ .divider) :
    (of e).primaryText = some e.label := by
  cases kind : e.kind <;> simp_all [of, primaryText]

namespace Document

open Export Fragment

variable {d : Document} {block : Nat} {e : Element}

/-- Both forms of the page of a document show a text in a place of a block. -/
structure Exports (d : Document) (block place : Nat) (text : String) : Prop where
  markup : Shows markupOpening markupClosing "    " (ExportFormat.markup.render d) block place text
  component : Shows componentOpening componentClosing "      " (ExportFormat.component.render d)
    block place text

theorem exports_of_gap (there : d.elements[block]? = some e) {piece : Piece} {place : Nat}
    {text : String} (gap : Gap e.kind piece place) (escaped : piece.text e = Markup.escape text) :
    Exports d block place text where
  markup := shows_shell distinct_markup rfl (by decide) there (some d.brand) gap escaped
  component := shows_shell distinct_component rfl (by decide) there (some d.brand) gap escaped

/-- **What exports show for a label.** In the block of an element that is no rule, both forms of the
page have the label that the preview shows, escaped and with its later lines indented, and for an
image also the address that the preview shows; so each is the text of the preview just if that has
one line. -/
theorem label_of_block (there : d.elements[block]? = some e) (labelled : e.kind ≠ .divider) :
    ∃ preview, (Preview.ofDocument d)[block]? = some preview ∧
      preview.content.primaryText = some e.label ∧
      Exports d block (labelPlace e.kind) e.label ∧
      ∀ source alternative, preview.content = .picture source alternative →
        Exports d block sourcePlace source := by
  refine ⟨Preview.of e (some d.brand) d.theme, ?_, Content.primaryText_of labelled, ?_, ?_⟩
  · rw [Preview.ofDocument, List.getElem?_map, there]
    rfl
  · exact exports_of_gap there (gap_label labelled) rfl
  · intro source alternative picture
    rcases Content.eq_of_picture picture with ⟨rfl, image⟩
    have gap : Gap e.kind .source sourcePlace := image ▸ gap_source
    exact exports_of_gap there gap rfl

/-- An image with marks and braces in its texts. -/
def markedImage : Element := ⟨"b", .image, "\"A\" & <b>", { imageUrl := some "?x=\x7b1\x7d&y='2'" }⟩

/-- Both texts of the image are shown. -/
theorem label_of_image_block :
    let d : Document := { elements := [⟨"a", .card, "Card", {}⟩, markedImage] }
    d.elements[1]? = some markedImage ∧ markedImage.kind ≠ .divider ∧
    ∃ preview, (Preview.ofDocument d)[1]? = some preview ∧
      preview.content.primaryText = some "\"A\" & <b>" ∧
      Exports d 1 6 "\"A\" & <b>" ∧
      ∀ source alternative, preview.content = .picture source alternative →
        Exports d 1 4 source := by
  intro d
  have there : d.elements[1]? = some markedImage := rfl
  have labelled : markedImage.kind ≠ .divider := by decide
  exact ⟨there, labelled, label_of_block there labelled⟩

/-! ### A label with two lines -/

/-- A field whose placeholder has two lines. -/
def twoLineField : Element := ⟨"a", .textarea, "a\nb", {}⟩

theorem toList_render_twoLineField :
    (render twoLineField (some {})).toList =
      "<textarea class=\"el-a w-full border border-white/10 bg-white/5 outline-none".toList ++
        " rounded-[16px] font-[sans-serif] backdrop-blur-md bg-white/5 border-white/10\"".toList ++
        " placeholder=\"a\nb\"></textarea>".toList := by
  have written : render twoLineField (some {}) =
      "<textarea" ++ attr "class" (classList twoLineField (some {})) ++ attr "placeholder" "a\nb"
        ++ "></textarea>" := rfl
  have own : twoLineField.className = "el-a" := by decide +kernel
  have base : [twoLineField.baseClasses].filter (!·.isEmpty) =
      ["w-full border border-white/10 bg-white/5 outline-none"] := by decide +kernel
  have styles : Styled.utilityParts ⟨twoLineField, some {}⟩ =
      ["rounded-[16px]", "font-[sans-serif]", "backdrop-blur-md bg-white/5 border-white/10"] := by
    decide +kernel
  rw [written, classList_eq, own, base, styles]
  simp only [attr, String.toList_append, Markup.toList_escape, String.toList_intercalate,
    List.cons_append, List.nil_append, List.map_cons, List.map_nil]
  repeat rw [String.toList_ofList]
  decide +kernel

/-- **Neither form of a page has a placeholder of two lines as one piece.** -/
theorem not_infix_of_two_lines :
    let d : Document := { elements := [twoLineField] }
    ¬ (Markup.escape "a\nb").toList <:+: (ExportFormat.markup.render d).toList ∧
    ¬ (Markup.escape "a\nb").toList <:+: (ExportFormat.component.render d).toList := by
  intro d
  have plain : Markup.escape "a\nb" = "a\nb" := Markup.escape_eq_self (by decide)
  have closed := closed_render twoLineField (some {})
  have single (indent : String) : renderAll [twoLineField] (some {}) indent =
      indentLines indent (render twoLineField (some {})) := String.intercalate_singleton
  have filled {indent : String} (wide : indent.toList ≠ []) :
      renderAll [twoLineField] (some {}) indent ≠ "" := by
    intro empty
    have none : (renderAll [twoLineField] (some {}) indent).toList = [] := by
      rw [empty]
      rfl
    rw [single, toList_indentLines_eq closed] at none
    exact wide (List.append_eq_nil_iff.1 none).1
  rw [plain]
  constructor
  · have page : (ExportFormat.markup.render d).toList = markupOpening.toList ++
        ((renderAll [twoLineField] (some {}) "    ").toList ++ '\n' :: markupClosing.toList) :=
      toList_shell (filled (by decide)) _ _
    rw [page, single, toList_indentLines_eq closed, toList_render_twoLineField, markupOpening,
      markupClosing, toList_unlines, toList_unlines]
    simp only [List.flatMap_cons, List.flatMap_nil]
    repeat rw [String.toList_ofList]
    decide +kernel
  · have page : (ExportFormat.component.render d).toList = componentOpening.toList ++
        ((renderAll [twoLineField] (some {}) "      ").toList ++ '\n' :: componentClosing.toList) :=
      toList_shell (filled (by decide)) _ _
    rw [page, single, toList_indentLines_eq closed, toList_render_twoLineField, componentOpening,
      componentClosing, toList_unlines, toList_unlines]
    simp only [List.flatMap_cons, List.flatMap_nil]
    repeat rw [String.toList_ofList]
    decide +kernel

end Document
end PageBuilder
