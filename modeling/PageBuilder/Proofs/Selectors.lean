import PageBuilder.Proofs.Ids
import PageBuilder.Proofs.Labels
import PageBuilder.Proofs.Unescaping

/-!
# Selectors and classes

The rule of an element in the style sheet is tied to its fragment by a class that is made from the
id: every character but ASCII letters and digits becomes a hyphen. Different ids can get the same
class that way, but not ids from one source. The number of such an id is what stands behind the last
hyphen of its class, whatever the tag of the session is, and its scope is told by the first letter.
-/

namespace PageBuilder

/-! ## Classes of ids -/

/-- What a character of an id becomes in a class. -/
def classChar (c : Char) : Char := if c.isAlphanum then c else '-'

theorem classChar_plain (c : Char) : (classChar c).isAlphanum = true ∨ classChar c = '-' := by
  unfold classChar
  split
  · next plain => exact Or.inl plain
  · exact Or.inr rfl

/-- The class of an id from a source: the tag of the session stands between hyphens that stay. -/
theorem map_classChar_idOf (session : String) (scope : Scope) (n : Nat) :
    (IdSource.idOf session scope n).toList.map classChar =
      (scope.tag.toList ++ '-' :: session.toList.map classChar) ++ '-' :: Nat.toDigits 10 n := by
  have tag : scope.tag.toList.map classChar = scope.tag.toList := by
    cases scope <;> decide
  have digits : (Nat.toDigits 10 n).map classChar = Nat.toDigits 10 n := by
    refine List.map_congr_left (fun c there => ?_) |>.trans (List.map_id _)
    have digit : c.isDigit = true := Nat.isDigit_of_mem_toDigits (by decide) (by decide) there
    simp [classChar, Char.isAlphanum, digit]
  have hyphen : classChar '-' = '-' := by decide
  simp [toList_idOf, tag, digits, hyphen]

/-- Different ids of one session have different classes. -/
theorem idOf_eq_of_map_classChar {session : String} {scope scope' : Scope} {n m : Nat}
    (same : (IdSource.idOf session scope n).toList.map classChar =
      (IdSource.idOf session scope' m).toList.map classChar) :
    IdSource.idOf session scope n = IdSource.idOf session scope' m := by
  rw [map_classChar_idOf, map_classChar_idOf] at same
  -- The tag may have hyphens itself; the digits are what follows the last one in any case.
  have number : n = m := toDigits_injective
    (behind_last_hyphen (hyphen_not_mem_digits n) (hyphen_not_mem_digits m) same)
  have way : scope = scope' := by
    -- The tags of the scopes start with different letters.
    have letter := congrArg List.head? same
    revert letter
    cases scope <;> cases scope' <;> simp [Scope.tag]
  rw [number, way]

/-- Different ids from one source have different classes. -/
theorem IdSource.eq_of_map_classChar {source : IdSource} {scopes : List Scope} {id id' : ElementId}
    (here : id ∈ (source.take scopes).1) (there : id' ∈ (source.take scopes).1)
    (same : id.toList.map classChar = id'.toList.map classChar) : id = id' := by
  have drawn : source.take scopes = ((source.take scopes).1, (source.take scopes).2) := rfl
  rcases number_of_take drawn with ⟨-, -, numbered⟩
  rcases numbered id here with ⟨scope, n, -, -, rfl⟩
  rcases numbered id' there with ⟨scope', m, -, -, rfl⟩
  exact idOf_eq_of_map_classChar same

namespace Element

theorem toList_className (e : Element) :
    e.className.toList = "el-".toList ++ e.id.toList.map classChar := by
  have made : e.id.toList.map (fun c => if c.isAlphanum then c else '-') =
      e.id.toList.map classChar := List.map_congr_left fun _ _ => rfl
  rw [className, made, String.toList_append]
  exact congrArg ("el-".toList ++ ·) String.toList_ofList

theorem className_eq_iff {e e' : Element} :
    e.className = e'.className ↔ e.id.toList.map classChar = e'.id.toList.map classChar := by
  rw [← String.toList_inj, toList_className, toList_className, List.append_cancel_left_eq]

/-- A selector is made of a fixed start and the class of the id. -/
theorem selector_eq (e : Element) :
    e.selector = ".el-" ++ String.ofList (e.id.toList.map classChar) := by
  apply String.toList_inj.1
  simp [selector, toList_className]

theorem selector_eq_iff {e e' : Element} :
    e.selector = e'.selector ↔ e.id.toList.map classChar = e'.id.toList.map classChar := by
  rw [selector, selector, String.append_right_inj, className_eq_iff]

/-- A class has ASCII letters, digits and hyphens only. -/
theorem className_plain (e : Element) :
    ∀ c ∈ e.className.toList, c.isAlphanum = true ∨ c = '-' := by
  intro c there
  rw [toList_className] at there
  rcases List.mem_append.1 there with fixed | made
  · have plain : ("el-".toList.all fun c => c.isAlphanum ∨ c = '-') = true := by decide
    exact of_decide_eq_true (List.all_eq_true.1 plain c fixed)
  · rcases List.mem_map.1 made with ⟨d, -, rfl⟩
    exact classChar_plain d

end Element

/-! ## Classes of fragments -/

namespace Fragment

open Markup

/-- What separates classes: ASCII white space. -/
def isGap (c : Char) : Bool := c ∈ [' ', '\t', '\n', '\x0c', '\r']

/-- The words of a text between gaps. -/
def tokens (text : String) : List String :=
  ((text.toList.splitOnP isGap).filter (!·.isEmpty)).map String.ofList

/-- The classes of a fragment: the words of its class attribute, which stands between the second and
the third mark and is read with entities replaced. -/
def classes (fragment : String) : List String := tokens (unescape (textAt 2 fragment))

variable {word : String}

theorem tokens_word (filled : word ≠ "") (whole : ∀ c ∈ word.toList, isGap c = false) :
    tokens word = [word] := by
  simp [tokens, List.splitOnP_eq_singleton whole, filled]

/-- A space keeps the words on both sides of it apart. -/
theorem tokens_space (text rest : String) :
    tokens (text ++ (" " ++ rest)) = tokens text ++ tokens rest := by
  have chars : (text ++ (" " ++ rest)).toList = text.toList ++ ' ' :: rest.toList := by
    simp
  have gap : isGap ' ' = true := by decide
  simp [tokens, chars, List.splitOnP_append_cons _ _ gap]

theorem tokens_intercalate (parts : List String) :
    tokens (" ".intercalate parts) = parts.flatMap tokens := by
  induction parts with
  | nil => rfl
  | cons part rest ih =>
    cases rest with
    | nil => simp
    | cons next others =>
      calc
        tokens (" ".intercalate (part :: next :: others))
            = tokens (part ++ (" " ++ " ".intercalate (next :: others))) := by
          rw [String.intercalate_cons_cons, String.append_assoc]
        _ = (part :: next :: others).flatMap tokens := by
          rw [tokens_space, ih]
          exact List.flatMap_cons.symm

theorem filter_opening (kind : Kind) :
    ('<' :: (kind.tag.toList ++ " class=".toList)).filter isMark = ['<'] := by
  cases kind <;> rfl

/-- The class attribute of a fragment is the first text between quotes. -/
theorem textAt_render (e : Element) (brand : Option Brand) :
    textAt 2 (render e brand) = escape (classList e brand) := by
  have chars : (render e brand).toList =
      '<' :: (e.kind.tag.toList ++ " class=".toList) ++
        '"' :: ((escape (classList e brand)).toList ++ '"' :: (fill e (body e.kind)).toList) := by
    simp [render_eq, attr]
  -- Escaped text has no quote, so the value ends where its attribute does.
  have plain : (escape (classList e brand)).toList.filter isMark = [] :=
    marks_escape (classList e brand)
  have quote : isMark '"' = true := by decide
  have between := behindMarks_between ('<' :: (e.kind.tag.toList ++ " class=".toList))
    (fill e (body e.kind)).toList quote plain quote
  rw [filter_opening] at between
  rw [textAt, chars]
  exact (congrArg String.ofList between).trans String.ofList_toList

theorem isGap_className (e : Element) : ∀ c ∈ e.className.toList, isGap c = false := by
  intro c there
  refine Bool.eq_false_iff.2 fun gap => ?_
  have gaps : ([' ', '\t', '\n', '\x0c', '\r'].all fun c => ¬ (c.isAlphanum ∨ c = '-')) = true := by
    decide
  have none := List.all_eq_true.1 gaps c (of_decide_eq_true gap)
  exact of_decide_eq_true none (e.className_plain c there)

/-- The classes of a fragment: that of the id, those of the kind, those of the declarations in order
and those of the glass overlay. -/
theorem classes_render (e : Element) (brand : Option Brand) :
    classes (render e brand) =
      e.className :: (tokens e.baseClasses ++
        (Styled.declarations ⟨e, brand⟩).flatMap (fun d => tokens d.utilityClass) ++
        if Styled.glass ⟨e, brand⟩ then tokens Styled.glassClasses else []) := by
  have own : tokens e.className = [e.className] :=
    tokens_word e.className_ne_empty (isGap_className e)
  have kind : ([e.baseClasses].filter (!·.isEmpty)).flatMap tokens = tokens e.baseClasses := by
    by_cases bare : e.baseClasses = ""
    · rw [bare]
      rfl
    · simp [bare]
  have utility : (Styled.utilityParts ⟨e, brand⟩).flatMap tokens =
      (Styled.declarations ⟨e, brand⟩).flatMap (fun d => tokens d.utilityClass) ++
        if Styled.glass ⟨e, brand⟩ then tokens Styled.glassClasses else [] := by
    rw [Styled.utilityParts, List.flatMap_append, List.flatMap_map]
    cases Styled.glass ⟨e, brand⟩ <;> simp
  rw [classes, textAt_render, unescape_escape, classList_eq, tokens_intercalate,
    List.flatMap_append, List.flatMap_cons, own, kind, utility, List.append_assoc,
    List.append_assoc, List.singleton_append]

/-- The first class of a fragment is that of the id. -/
theorem head_classes_render (e : Element) (brand : Option Brand) :
    (classes (render e brand)).head? = some e.className := by
  rw [classes_render, List.head?_cons]

end Fragment

/-! ## Rules -/

namespace Export

/-- The rules of the style sheet of elements, in order. -/
def rules (elements : List Element) (brand : Option Brand) : List String :=
  elements.map (rule · brand)

/-- The selector of a rule: what stands in front of its first space. -/
def selectorOf (rule : String) : String := String.ofList (rule.toList.takeWhile (· ≠ ' '))

theorem stylesheet_eq {elements : List Element} (filled : elements ≠ []) (brand : Option Brand) :
    stylesheet elements brand =
      "/* Generated by Pagewright */\n\n" ++ "\n\n".intercalate (rules elements brand) ++ "\n" := by
  have some : elements.isEmpty = false := by simpa using filled
  -- The body is opened as a whole: its equations take long to derive.
  delta stylesheet
  rw [some]
  rfl

theorem selectorOf_rule (e : Element) (brand : Option Brand) :
    selectorOf (rule e brand) = e.selector := by
  have chars : ∃ rest, (rule e brand).toList = e.selector.toList ++ ' ' :: rest := by
    refine ⟨'\x7b' :: '\n' :: (Declaration.block (Styled.cssPairs ⟨e, brand⟩) "  ").toList ++
      ['\x7d'], ?_⟩
    simp [rule]
  have whole : ∀ c ∈ e.selector.toList, decide (c ≠ ' ') = true := by
    intro c there
    rcases List.mem_append.1 (String.toList_append ▸ there) with point | named
    · have only : c = '.' := List.mem_singleton.1 point
      rw [only]
      decide
    · rcases e.className_plain c named with letter | hyphen
      · refine decide_eq_true ?_
        rintro rfl
        revert letter
        decide
      · rw [hyphen]
        decide
  rcases chars with ⟨rest, chars⟩
  rw [selectorOf, chars, List.takeWhile_append_of_pos whole]
  simp

/-- The selector of a rule names the first class of a fragment just if the ids of the two elements
have the same class. -/
theorem names_iff (e e' : Element) (brand : Option Brand) :
    (Fragment.classes (Fragment.render e' brand)).head?.map ("." ++ ·) =
        some (selectorOf (rule e brand)) ↔
      e.id.toList.map classChar = e'.id.toList.map classChar := by
  rw [Fragment.head_classes_render, selectorOf_rule, Element.selector, Option.map_some,
    Option.some.injEq, String.append_right_inj, eq_comm, Element.className_eq_iff]

/-- On a page with distinct ids from one source, a rule names the fragment in its own place. -/
theorem names_iff_eq {source : IdSource} {scopes : List Scope} {elements : List Element}
    (drawn : ∀ e ∈ elements, e.id ∈ (source.take scopes).1)
    (distinct : (elements.map (·.id)).Nodup) (brand : Option Brand) {i j : Nat} {e e' : Element}
    (here : elements[i]? = some e) (there : elements[j]? = some e') :
    (Fragment.classes (Fragment.render e' brand)).head?.map ("." ++ ·) =
        some (selectorOf (rule e brand)) ↔ i = j := by
  rw [names_iff]
  constructor
  · intro same
    have ids : e.id = e'.id := IdSource.eq_of_map_classChar
      (drawn e (List.mem_of_getElem? here)) (drawn e' (List.mem_of_getElem? there)) same
    have inside : i < (elements.map (·.id)).length := by
      simpa using (List.getElem?_eq_some_iff.1 here).1
    refine (List.getElem?_inj inside distinct).1 ?_
    simp [here, there, ids]
  · rintro rfl
    rw [Option.some.inj (here.symm.trans there)]

/-- **Every rule addresses its own fragment.** Different ids from one source have different
selectors, whatever the tag of the session is. A selector is made of ASCII letters, digits and
hyphens, and names the first class of the fragment of its element. So on a page whose elements have
distinct ids from one source, the selector of a rule of the style sheet names the first class of the
fragment in the same place, and of no other fragment. -/
theorem selectors_of_issued (source : IdSource) (scopes : List Scope) (brand : Option Brand) :
    let issued := (source.take scopes).1
    (∀ e e' : Element, e.id ∈ issued → e'.id ∈ issued → e.id ≠ e'.id →
      e.selector ≠ e'.selector) ∧
    (∀ e : Element, ∃ name : String, e.selector = ".el-" ++ name ∧
      ∀ c ∈ name.toList, c.isAlphanum = true ∨ c = '-') ∧
    (∀ e : Element, (Fragment.classes (Fragment.render e brand)).head?.map ("." ++ ·) =
      some e.selector) ∧
    ∀ elements : List Element, elements ≠ [] → (∀ e ∈ elements, e.id ∈ issued) →
      (elements.map (·.id)).Nodup →
      stylesheet elements brand =
        "/* Generated by Pagewright */\n\n" ++ "\n\n".intercalate (rules elements brand) ++ "\n" ∧
      ∀ (i j : Nat) (rule fragment : String), (rules elements brand)[i]? = some rule →
        (elements.map (Fragment.render · brand))[j]? = some fragment →
        ((Fragment.classes fragment).head?.map ("." ++ ·) = some (selectorOf rule) ↔ i = j) := by
  intro issued
  refine ⟨?_, ?_, ?_, ?_⟩
  · intro e e' here there apart same
    exact apart (IdSource.eq_of_map_classChar here there (Element.selector_eq_iff.1 same))
  · intro e
    refine ⟨_, e.selector_eq, fun c there => ?_⟩
    rcases List.mem_map.1 (String.toList_ofList ▸ there) with ⟨d, -, rfl⟩
    exact classChar_plain d
  · intro e
    rw [Fragment.head_classes_render]
    rfl
  · intro elements filled drawn distinct
    refine ⟨stylesheet_eq filled brand, ?_⟩
    intro i j rule fragment ruled shown
    rw [rules, List.getElem?_map, Option.map_eq_some_iff] at ruled
    rw [List.getElem?_map, Option.map_eq_some_iff] at shown
    rcases ruled with ⟨e, here, rfl⟩
    rcases shown with ⟨e', there, rfl⟩
    exact names_iff_eq drawn distinct brand here there

/-- A session with a space in its tag, and a page with two of its ids. -/
theorem selectors_of_two_issued :
    let source : IdSource := ⟨"a b", 7⟩
    let scopes : List Scope := [.node, .template]
    let card : Element := .new "node-a b-8" .card
    let badge : Element := .new "tpl-a b-9" .badge
    let elements := [badge, card]
    elements ≠ [] ∧ (∀ e ∈ elements, e.id ∈ (source.take scopes).1) ∧
      (elements.map (·.id)).Nodup ∧ card.id ≠ badge.id ∧ card.selector = ".el-node-a-b-8" ∧
      card.selector ≠ badge.selector ∧
      (Fragment.classes (Fragment.render card none)).head?.map ("." ++ ·) =
        some (selectorOf (rule card none)) ∧
      (Fragment.classes (Fragment.render badge none)).head?.map ("." ++ ·) ≠
        some (selectorOf (rule card none)) := by
  intro source scopes card badge elements
  have filled : elements ≠ [] := List.cons_ne_nil _ _
  have drawn : ∀ e ∈ elements, e.id ∈ (source.take scopes).1 := by decide +kernel
  have distinct : (elements.map (·.id)).Nodup := by decide +kernel
  have other : card.id ≠ badge.id := by decide +kernel
  rcases selectors_of_issued source scopes none with ⟨apart, -, -, page⟩
  have names := (page elements filled drawn distinct).2
  have unlike : card.selector ≠ badge.selector :=
    apart card badge (drawn card (by simp [elements])) (drawn badge (by simp [elements])) other
  exact ⟨filled, drawn, distinct, other, by decide +kernel, unlike,
    (names 1 1 _ _ rfl rfl).2 rfl, mt (names 1 0 _ _ rfl rfl).1 (by decide)⟩

end Export
end PageBuilder
