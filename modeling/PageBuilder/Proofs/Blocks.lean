import PageBuilder.Render.Export
import PageBuilder.Proofs.Fragments
import PageBuilder.Proofs.Lines

/-!
# Blocks of a page

A page in markup or component source is a shell around the fragments of its elements. It can be
taken apart again without knowing the elements: the lines of the shell are told apart from those of
fragments by their indent, and cutting what is between them at blank lines gives one block for each
element, which is its fragment with the indent in front of every line. What users write does not
matter, whatever line breaks, blank lines or lines of a shell it has.
-/

namespace PageBuilder

open Text

/-! ## Fragments as texts of lines -/

namespace Fragment

/-- What a fragment ends with is fixed for its kind, and ends with a bracket. -/
theorem body_getLast? (kind : Kind) :
    ∃ text, (body kind).getLast? = some (.fixed text) ∧ text.toList.getLast? = some '>' := by
  cases kind <;> exact ⟨_, rfl, by decide⟩

theorem closed_render (e : Element) (brand : Option Brand) :
    Closed (render e brand).toList := by
  rcases body_getLast? e.kind with ⟨text, last, bracket⟩
  rcases List.getLast?_eq_some_iff.1 last with ⟨before, parts⟩
  have ending : ∃ front, (render e brand).toList = front ++ text.toList := by
    refine ⟨("<" ++ e.kind.tag ++ attr "class" (classList e brand) ++ fill e before).toList, ?_⟩
    have filled : fill e (body e.kind) = fill e before ++ text := by
      simp [parts, fill, Piece.text]
    rw [render_eq, filled, ← String.toList_append]
    simp only [String.append_assoc]
  rcases ending with ⟨front, whole⟩
  refine ⟨'>', ?_, by decide⟩
  rw [whole, List.getLast?_append, bracket]
  rfl

end Fragment

/-! ## Shells -/

namespace Export

/-- The text of a page between the opening lines of a shell and the first of its closing lines. It
is found by the lines of the shell alone. -/
def inner? (opening closing page : String) : Option String := do
  let behind ← page.toList.dropPrefix? opening.toList
  let last ← (closing.toList.splitOn '\n').head?
  pure (String.ofList (['\n'].intercalate ((behind.splitOn '\n').takeWhile (· ≠ last))))

/-- Texts that are indented and joined by blank lines have indented and blank lines only. -/
theorem line_of_blocks {indent : String} (straight : '\n' ∉ indent.toList) {texts : List String}
    (closed : ∀ text ∈ texts, Closed text.toList) {line : List Char}
    (h : line ∈ ("\n\n".intercalate (texts.map (indentLines indent))).toList.splitOn '\n') :
    line = [] ∨ indent.toList <+: line := by
  have indented : ∀ text ∈ texts, line ∈ (indentLines indent text).toList.splitOn '\n' →
      indent.toList <+: line := by
    intro text there member
    rw [splitOn_indentLines straight (closed text there)] at member
    rcases List.mem_map.1 member with ⟨plain, -, rfl⟩
    exact List.prefix_append _ _
  induction texts with
  | nil =>
    simp at h
    exact .inl h
  | cons text rest ih =>
    cases rest with
    | nil =>
      rw [List.map_singleton, String.intercalate_singleton] at h
      exact .inr (indented text List.mem_cons_self h)
    | cons next rest =>
      have cut : ("\n\n".intercalate ((text :: next :: rest).map (indentLines indent))).toList =
          (indentLines indent text).toList ++ '\n' :: '\n' ::
            ("\n\n".intercalate ((next :: rest).map (indentLines indent))).toList := by
        simp [String.intercalate_cons_cons, String.toList_append]
      rw [cut, List.splitOn_append_cons_self, List.splitOn_cons_eq_if_modifyHead] at h
      rcases List.mem_append.1 h with here | later
      · exact .inr (indented text List.mem_cons_self here)
      · rcases List.mem_cons.1 later with blank | later
        · exact .inl blank
        · exact ih (fun t there => closed t (List.mem_cons_of_mem _ there)) later
            fun t there => indented t (List.mem_cons_of_mem _ there)

theorem renderAll_eq (elements : List Element) (brand : Option Brand) (indent : String) :
    Fragment.renderAll elements brand indent =
      "\n\n".intercalate ((elements.map (Fragment.render · brand)).map (indentLines indent)) := by
  rw [List.map_map]
  rfl

/-- A closing whose first line cannot be taken for a line of an indented text, nor for a blank one.
-/
structure Distinct (closing indent : String) : Prop where
  straight : '\n' ∉ indent.toList
  filled : indent.toList ≠ []
  apart : ∀ last ∈ (closing.toList.splitOn '\n').head?, last ≠ [] ∧ ¬ indent.toList <+: last

theorem distinct_markup : Distinct markupClosing "    " := ⟨by decide, by decide, by decide⟩

theorem distinct_component : Distinct componentClosing "      " :=
  ⟨by decide, by decide, by decide⟩

theorem inner?_append {opening closing page : String} {behind last : List Char}
    {others : List (List Char)} (whole : page.toList = opening.toList ++ behind)
    (cut : closing.toList.splitOn '\n' = last :: others) :
    inner? opening closing page =
      some (String.ofList (['\n'].intercalate ((behind.splitOn '\n').takeWhile (· ≠ last)))) := by
  have found : page.toList.dropPrefix? opening.toList = some behind := by
    rw [whole]
    exact List.dropPrefix?_append_of_beq behind BEq.rfl
  rw [inner?, found, cut]
  rfl

theorem toList_shell_of_empty {elements : List Element} {brand : Option Brand} {indent : String}
    (empty : Fragment.renderAll elements brand indent = "") (opening closing : String) :
    (shell opening closing indent elements brand).toList =
      opening.toList ++ closing.toList := by
  simp [shell, empty]

theorem toList_shell {elements : List Element} {brand : Option Brand} {indent : String}
    (filled : Fragment.renderAll elements brand indent ≠ "") (opening closing : String) :
    (shell opening closing indent elements brand).toList =
      opening.toList ++
        ((Fragment.renderAll elements brand indent).toList ++ '\n' :: closing.toList) := by
  simp [shell, filled]

/-- What is between the lines of a shell are the fragments, indented and joined by blank lines. -/
theorem inner?_shell {opening closing indent : String} (distinct : Distinct closing indent)
    (elements : List Element) (brand : Option Brand) :
    inner? opening closing (shell opening closing indent elements brand) =
      some (Fragment.renderAll elements brand indent) := by
  rcases List.exists_cons_of_ne_nil (List.splitOn_ne_nil '\n' closing.toList) with
    ⟨last, others, cut⟩
  have apart := distinct.apart last (by simp [cut])
  have lines : ∀ line ∈ (Fragment.renderAll elements brand indent).toList.splitOn '\n',
      line ≠ last := by
    intro line there same
    subst same
    have closed : ∀ text ∈ elements.map (Fragment.render · brand), Closed text.toList := by
      intro text member
      rcases List.mem_map.1 member with ⟨e, -, rfl⟩
      exact Fragment.closed_render e brand
    rw [renderAll_eq] at there
    rcases line_of_blocks distinct.straight closed there with blank | indented
    · exact apart.1 blank
    · exact apart.2 indented
  by_cases empty : Fragment.renderAll elements brand indent = ""
  · rw [inner?_append (toList_shell_of_empty empty _ _) cut, cut, empty]
    simp
  · -- The first closing line is none of the body, so the search ends behind the body.
    have found : ((Fragment.renderAll elements brand indent).toList.splitOn '\n'
        ++ last :: others).takeWhile (· ≠ last) =
          (Fragment.renderAll elements brand indent).toList.splitOn '\n' := by
      rw [List.takeWhile_append_of_pos (by simpa using lines)]
      simp
    rw [inner?_append (toList_shell empty _ _) cut, List.splitOn_append_cons_self, cut, found,
      List.intercalate_splitOn, String.ofList_toList]

/-- The blocks between the lines of a shell are the indented fragments. -/
theorem paragraphs_renderAll {closing indent : String} (distinct : Distinct closing indent)
    {elements : List Element} (filled : elements ≠ []) (brand : Option Brand) :
    paragraphs (Fragment.renderAll elements brand indent) =
      elements.map fun e => indentLines indent (Fragment.render e brand) := by
  refine paragraphs_intercalate ?_ (by simpa using filled)
  intro block there
  rcases List.mem_map.1 there with ⟨e, -, rfl⟩
  exact solid_indentLines distinct.straight distinct.filled (Fragment.closed_render e brand)

/-- Without the indent, the blocks are the fragments. -/
theorem outdent?_blocks {closing indent : String} (distinct : Distinct closing indent)
    {elements : List Element} (filled : elements ≠ []) (brand : Option Brand) :
    (paragraphs (Fragment.renderAll elements brand indent)).map (outdent? indent) =
      elements.map fun e => some (withLineFeeds (Fragment.render e brand)) := by
  rw [paragraphs_renderAll distinct filled, List.map_map]
  refine List.map_congr_left fun e _ => ?_
  rw [Function.comp_apply, outdent?_indentLines distinct.straight (Fragment.closed_render e brand)]

/-- **Both forms of a page have the same blocks, one for each element in order.** What is between
the lines of the shell is found in either form; it is empty if there are no elements, and otherwise
cutting it at blank lines and taking the indent off every line gives the fragments, with line feeds
alone at the ends of lines. -/
theorem blocks_of_page (elements : List Element) (brand : Option Brand) :
    ∃ markupBody componentBody,
      inner? markupOpening markupClosing (markup elements brand) = some markupBody ∧
      inner? componentOpening componentClosing (component elements brand) = some componentBody ∧
      (elements = [] → markupBody = "" ∧ componentBody = "") ∧
      (elements ≠ [] →
        (paragraphs markupBody).length = elements.length ∧
        (paragraphs componentBody).length = elements.length ∧
        (paragraphs markupBody).map (outdent? "    ") =
          elements.map (fun e => some (withLineFeeds (Fragment.render e brand))) ∧
        (paragraphs componentBody).map (outdent? "      ") =
          elements.map (fun e => some (withLineFeeds (Fragment.render e brand)))) := by
  refine ⟨_, _, inner?_shell distinct_markup elements brand,
    inner?_shell distinct_component elements brand, ?_, ?_⟩
  · rintro rfl
    simp [Fragment.renderAll]
  · intro filled
    refine ⟨?_, ?_, outdent?_blocks distinct_markup filled brand,
      outdent?_blocks distinct_component filled brand⟩
    · rw [paragraphs_renderAll distinct_markup filled, List.length_map]
    · rw [paragraphs_renderAll distinct_component filled, List.length_map]

end Export
end PageBuilder
