import PageBuilder.Proofs.MarkupSafety
import PageBuilder.Proofs.NumberText
import PageBuilder.Proofs.Declarations

/-!
# Rules of a style sheet

Braces begin and end the rules of a style sheet. A selector has none, whatever the id is, and
neither has a value that is made from numbers and choices. But backgrounds, gradient functions, text
colors and borders are written as the user or the brand has them. So the braces of a style sheet are
one pair for each element and those of these texts, and there is one rule for each element just if
none of them has a brace.
-/

namespace PageBuilder

open Numeric Markup

/-! ## Texts without marks -/

namespace Markup

theorem marks_ofList_of_plain {chars : List Char} (plain : ∀ c ∈ chars, isMark c = false) :
    marks (String.ofList chars) = [] := by
  rw [marks_ofList, List.filter_eq_nil_iff]
  intro c there
  simp [plain c there]

theorem isMark_of_isAlphanum {c : Char} (letter : c.isAlphanum = true) : isMark c = false := by
  refine Bool.eq_false_iff.2 fun mark => ?_
  have marked : c ∈ ['<', '>', '"', '\x7b', '\x7d'] := of_decide_eq_true mark
  simp only [List.mem_cons, List.not_mem_nil, or_false] at marked
  rcases marked with rfl | rfl | rfl | rfl | rfl
  all_goals
    revert letter
    decide

theorem isMark_of_isDigit {c : Char} (digit : c.isDigit = true) : isMark c = false := by
  refine isMark_of_isAlphanum ?_
  rw [Char.isAlphanum, digit, Bool.or_true]

@[simp] theorem marks_repr (n : Nat) : marks n.repr = [] := by
  rw [Nat.repr_eq_ofList_toDigits]
  exact marks_ofList_of_plain fun c there =>
    isMark_of_isDigit (Json.Literal.isDigit_decimalDigits there)

@[simp] theorem marks_positional (d : Decimal) : marks (String.ofList d.positional) = [] := by
  rcases Json.Literal.isDigit_parts d with ⟨whole, fraction⟩
  refine marks_ofList_of_plain ?_
  intro c there
  unfold Decimal.positional at there
  split at there
  · next parts =>
    rw [parts] at whole
    exact isMark_of_isDigit (whole c there)
  · next parts =>
    rw [parts] at whole fraction
    rcases List.mem_append.1 there with front | behind
    · exact isMark_of_isDigit (whole c front)
    · rcases List.mem_cons.1 behind with rfl | behind
      · decide
      · exact isMark_of_isDigit (fraction c behind)

@[simp] theorem marks_fractionOfHundred (percent : Nat) : marks (fractionOfHundred percent) = [] :=
  marks_positional _

@[simp] theorem marks_plainText {F : BinaryFormat} (x : Binary F) : marks x.plainText = [] := by
  have sign : marks (if x.negative then "-" else "") = [] := by
    split <;> decide
  unfold Binary.plainText
  dsimp only
  split
  · rw [marks_append, sign]
    decide
  · rw [marks_append, sign, marks_positional]
    decide

end Markup

/-! ## Declarations -/

namespace Declaration

/-- The text that the value of a declaration has as it is. -/
def raw : Declaration → Option String
  | background value => some value
  | gradient spec => if isFunction spec then some spec else none
  | color value => some value
  | border value => some value
  | font stack => some stack
  | _ => none

theorem marks_property (d : Declaration) : marks d.property = [] := by
  cases d <;> exact (marks_ofList _).trans rfl

/-- The marks of a value are those of the text that it has as it is. -/
theorem marks_value {d : Declaration} {pair : String × String} (h : d.css = some pair) :
    marks pair.2 = d.raw.toList.flatMap marks := by
  have pixels : marks (toString "px") = [] := rfl
  cases d with
  | gradient spec =>
    simp only [css, Option.ite_none_right_eq_some, Option.some.injEq] at h
    rcases h with ⟨function, rfl⟩
    simp [raw, function]
  | border value =>
    cases h
    have line : marks "1px solid " = [] := rfl
    simp [raw, line]
  | align side =>
    cases h
    cases side <;> exact (marks_ofList _).trans rfl
  | width mode =>
    cases h
    cases mode <;> exact (marks_ofList _).trans rfl
  | blur radius =>
    cases h
    have opening : marks (toString "blur(") = [] := rfl
    have closing : marks (toString "px)") = [] := rfl
    simp [raw, opening, closing]
  | shadow preset =>
    cases h
    cases preset <;> exact (marks_ofList _).trans rfl
  | animation entry seconds =>
    cases h
    have name : marks (Choice.name entry) = [] := by
      cases entry <;> exact (marks_ofList _).trans rfl
    have space : marks " " = [] := rfl
    have curve : marks "s ease-out" = [] := rfl
    simp [raw, name, space, curve]
  | _ =>
    cases h
    simp [raw, pixels]

theorem marks_block {indent : String} (blank : marks indent = []) (pairs : List (String × String)) :
    marks (block pairs indent) = pairs.flatMap fun pair => marks pair.1 ++ marks pair.2 := by
  have colon : marks ": " = [] := rfl
  have ending : marks ";\n" = [] := rfl
  rw [block, marks_join, List.flatMap_map]
  simp [blank, colon, ending]

/-- A declaration without a value has no text as it is: it is a gradient of utility classes. -/
theorem raw_of_css_none {d : Declaration} (h : d.css = none) : d.raw = none := by
  cases d with
  | gradient spec =>
    have words : isFunction spec = false := by simpa [css] using h
    simp [raw, words]
  | _ => cases h

/-- Declarations as lines of a rule have the marks of the texts that they have as they are. -/
theorem marks_block_css {indent : String} (blank : marks indent = []) (ds : List Declaration) :
    marks (block (ds.filterMap css) indent) = (ds.filterMap raw).flatMap marks := by
  rw [marks_block blank]
  induction ds with
  | nil => rfl
  | cons d rest ih =>
    have parts : (d :: rest).filterMap raw = d.raw.toList ++ rest.filterMap raw := by
      cases form : d.raw <;> simp [form]
    rw [parts, List.flatMap_append, ← ih]
    cases form : d.css with
    | none =>
      rw [List.filterMap_cons_none form, raw_of_css_none form]
      rfl
    | some pair =>
      rw [List.filterMap_cons_some form, List.flatMap_cons, property_of_css form, marks_property,
        marks_value form, List.nil_append]

end Declaration

namespace Styled

/-- The texts that a rule has as the user or the brand wrote them. -/
def freeTexts (s : Styled) : List String :=
  [s.background, s.element.props.gradientSpec.filter Declaration.isFunction, s.textColor,
    s.element.props.border].filterMap id

/-- The texts that declarations have as they are: the free ones, and the font stack of the brand. -/
theorem raw_declarations (s : Styled) :
    s.declarations.filterMap Declaration.raw = s.freeTexts ++ s.fontStack.toList := by
  have gradient (spec? : Option String) :
      (spec?.bind fun spec => Declaration.raw (.gradient spec)) =
        spec?.filter Declaration.isFunction := by
    cases spec? with
    | none => rfl
    | some spec => simp [Declaration.raw, Option.filter]
  -- Of the fields, in the order of the declarations, only five are texts.
  rw [filterMap_declarations, gradient, freeTexts]
  simp [Declaration.raw, List.filterMap_eq_flatMap_toList]

theorem marks_fontStack (s : Styled) : s.fontStack.toList.flatMap marks = [] := by
  rcases s with ⟨e, _ | brand⟩
  · rfl
  · have plain : ∀ font : Font, marks font.stack = [] := by
      intro font
      cases font <;> exact (marks_ofList _).trans rfl
    simp [fontStack, plain]

end Styled

/-! ## Rules -/

theorem Element.marks_selector (e : Element) : marks e.selector = [] := by
  have name : marks (String.ofList (e.id.toList.map fun c => if c.isAlphanum then c else '-')) =
      [] := by
    refine marks_ofList_of_plain ?_
    intro c there
    rcases List.mem_map.1 there with ⟨d, -, rfl⟩
    split
    · next letter => exact isMark_of_isAlphanum letter
    · decide
  have point : marks "." = [] := rfl
  have start : marks "el-" = [] := rfl
  rw [selector, className, marks_append, marks_append, point, start, name]
  rfl

namespace Export

open Declaration

variable (elements : List Element) (brand : Option Brand)

/-- The marks of a rule are its braces, and between them those of the free texts. -/
theorem marks_rule (e : Element) :
    marks (rule e brand) =
      '\x7b' :: (Styled.freeTexts ⟨e, brand⟩).flatMap marks ++ ['\x7d'] := by
  have opening : marks " \x7b\n" = ['\x7b'] := rfl
  have closing : marks "\x7d" = ['\x7d'] := rfl
  have values : marks (block (Styled.cssPairs ⟨e, brand⟩) "  ") =
      (Styled.freeTexts ⟨e, brand⟩).flatMap marks := by
    rw [Styled.cssPairs, marks_block_css rfl, Styled.raw_declarations, List.flatMap_append,
      Styled.marks_fontStack, List.append_nil]
  simp only [rule, marks_append, e.marks_selector, opening, values, closing, List.nil_append,
    List.cons_append]

/-- The marks of a style sheet are those of its rules. -/
theorem marks_stylesheet :
    marks (stylesheet elements brand) = elements.flatMap fun e => marks (rule e brand) := by
  have header : marks "/* Generated by Pagewright */\n\n" = [] := (marks_ofList _).trans rfl
  have ending : marks "\n" = [] := rfl
  have separator : marks "\n\n" = [] := rfl
  -- The body is opened as a whole: its equations take long to derive.
  delta stylesheet
  rw [marks_append, marks_append, header, ending, List.nil_append, List.append_nil]
  cases elements with
  | nil =>
    have remark : marks "/* No elements yet */" = [] := (marks_ofList _).trans rfl
    exact remark
  | cons e rest =>
    have filled : (e :: rest).isEmpty = false := rfl
    rw [filled, if_neg Bool.false_ne_true, marks_intercalate separator, List.flatMap_map]

/-- The characters that a style sheet has as the users or the brand wrote them. -/
def freeChars : List Char :=
  elements.flatMap fun e => (Styled.freeTexts ⟨e, brand⟩).flatMap String.toList

/-- The braces of one sort are one for each rule and those of the free texts. -/
theorem count_stylesheet {brace : Char} (either : brace = '\x7b' ∨ brace = '\x7d') :
    (stylesheet elements brand).toList.count brace =
      elements.length + (freeChars elements brand).count brace := by
  have mark : isMark brace = true := by
    rcases either with rfl | rfl <;> rfl
  have pair (inner : List Char) : ('\x7b' :: inner ++ ['\x7d']).count brace =
      inner.count brace + 1 := by
    rcases either with rfl | rfl <;> simp
  have own (e : Element) : (marks (rule e brand)).count brace =
      ((Styled.freeTexts ⟨e, brand⟩).flatMap String.toList).count brace + 1 := by
    have texts : (Styled.freeTexts ⟨e, brand⟩).flatMap marks =
        ((Styled.freeTexts ⟨e, brand⟩).flatMap String.toList).filter isMark :=
      List.filter_flatMap.symm
    rw [marks_rule, pair, texts, List.count_filter mark]
  calc
    (stylesheet elements brand).toList.count brace
        = (marks (stylesheet elements brand)).count brace := (List.count_filter mark).symm
    _ = (elements.flatMap fun e => marks (rule e brand)).count brace := by rw [marks_stylesheet]
    _ = elements.length + (freeChars elements brand).count brace := by
      unfold freeChars
      induction elements with
      | nil => rfl
      | cons e rest ih =>
        rw [List.flatMap_cons, List.flatMap_cons, List.count_append, List.count_append, ih, own,
          List.length_cons]
        omega

/-- **When a style sheet has one rule for each element.** Every element brings a pair of braces, and
the texts that are written as they are bring theirs; so there is one pair for each element just if
none of these texts has a brace. -/
theorem braces_of_stylesheet :
    (stylesheet elements brand).toList.count '\x7b' =
      elements.length + (freeChars elements brand).count '\x7b' ∧
    (stylesheet elements brand).toList.count '\x7d' =
      elements.length + (freeChars elements brand).count '\x7d' ∧
    ((stylesheet elements brand).toList.count '\x7b' = elements.length ∧
        (stylesheet elements brand).toList.count '\x7d' = elements.length ↔
      ∀ e ∈ elements, ∀ text ∈ Styled.freeTexts ⟨e, brand⟩,
        '\x7b' ∉ text.toList ∧ '\x7d' ∉ text.toList) := by
  have opened := count_stylesheet elements brand (.inl rfl)
  have closed := count_stylesheet elements brand (.inr rfl)
  refine ⟨opened, closed, ?_⟩
  rw [opened, closed, Nat.add_eq_left, Nat.add_eq_left, List.count_eq_zero, List.count_eq_zero]
  simp only [freeChars, List.mem_flatMap, not_exists, not_and]
  constructor
  · rintro ⟨opens, closes⟩ e there text free
    exact ⟨opens e there text free, closes e there text free⟩
  · intro plain
    exact ⟨fun e there text free => (plain e there text free).1,
      fun e there text free => (plain e there text free).2⟩

/-- A paragraph whose background closes the rule and opens one for the page. -/
def escapingFill : Element := ⟨"a", .text, "x", { background := some "red\x7d body \x7b" }⟩

/-- **A style sheet of one element with two rules.** -/
theorem two_rules_of_escapingFill :
    ¬ ((stylesheet [escapingFill] none).toList.count '\x7b' = [escapingFill].length ∧
      (stylesheet [escapingFill] none).toList.count '\x7d' = [escapingFill].length) := by
  decide +kernel

end Export
end PageBuilder
