import Mathlib.Data.List.Basic
import PageBuilder.Text.Lines

/-!
# Lines and paragraphs

Indenting a text puts the indent in front of every line and ends lines with a line feed alone. This
module reads such texts back: taking the indent off every line gives the text again, and cutting at
blank lines gives back texts that were indented and then joined by blank lines. The reason for the
latter is that an indented text is solid: no line feed in it is followed by another one, so two in a
row are never found before its end.

Texts that end with a line feed are excluded, because the lines of a text do not show it.
-/

namespace PageBuilder.Text

/-- The characters with a line feed alone in the place of every carriage return and line feed. -/
def lineFeeds : List Char → List Char
  | [] => []
  | '\r' :: '\n' :: rest => '\n' :: lineFeeds rest
  | c :: rest => c :: lineFeeds rest

/-- The text with all lines ended by a line feed alone. -/
def withLineFeeds (text : String) : String := String.ofList (lineFeeds text.toList)

/-- Takes an indent off every line; gives nothing if a line does not start with it. -/
def outdent? (indent text : String) : Option String :=
  ((text.toList.splitOn '\n').mapM (List.dropPrefix? · indent.toList)).map fun lines =>
    String.ofList (['\n'].intercalate lines)

/-- Cuts the characters at two line feeds in a row, from the first on. -/
def cutBlank : List Char → List (List Char)
  | [] => [[]]
  | '\n' :: '\n' :: rest => [] :: cutBlank rest
  | c :: rest => (cutBlank rest).modifyHead (c :: ·)

/-- The parts of a text between its blank lines. -/
def paragraphs (text : String) : List String := (cutBlank text.toList).map String.ofList

/-! ## Lines -/

/-- A text whose last line has something in it, and no line feed behind it. -/
def Closed (text : List Char) : Prop := ∃ c ∈ text.getLast?, c ≠ '\n'

theorem Closed.ne_nil {text : List Char} (h : Closed text) : text ≠ [] := by
  rintro rfl
  rcases h with ⟨c, last, -⟩
  cases last

theorem Closed.tail {c : Char} {rest : List Char} (h : Closed (c :: rest)) (more : rest ≠ []) :
    Closed rest := by
  rcases h with ⟨last, there, other⟩
  rcases List.exists_cons_of_ne_nil more with ⟨d, others, rfl⟩
  exact ⟨last, by rwa [List.getLast?_cons_cons] at there, other⟩

theorem Closed.of_feed {rest : List Char} (h : Closed ('\n' :: rest)) : Closed rest := by
  refine h.tail ?_
  rintro rfl
  rcases h with ⟨last, there, other⟩
  exact other (Option.some.inj there).symm

theorem lineFeeds_cons {c : Char} {rest : List Char}
    (plain : ∀ after, c = '\r' → rest ≠ '\n' :: after) :
    lineFeeds (c :: rest) = c :: lineFeeds rest := by
  rw [lineFeeds]
  exact plain

theorem lineFeeds_append_cons (before : List Char) {c : Char} (feed : c ≠ '\n')
    (carriage : c ≠ '\r') (after : List Char) :
    lineFeeds (before ++ c :: after) = lineFeeds before ++ c :: lineFeeds after := by
  fun_induction lineFeeds before with
  | case1 => exact lineFeeds_cons fun _ same => absurd same carriage
  | case2 rest ih => simp [lineFeeds, ih]
  | case3 d rest paired ih =>
    have apart : ∀ tail, d = '\r' → rest ++ c :: after ≠ '\n' :: tail := by
      intro tail here same
      cases rest with
      | nil => exact feed (List.cons.inj same).1
      | cons f others =>
        have first : f = '\n' := (List.cons.inj same).1
        exact paired others here (first ▸ rfl)
    rw [List.cons_append, lineFeeds_cons apart, ih, List.cons_append]

theorem count_lineFeeds (text : List Char) :
    (lineFeeds text).count '\n' = text.count '\n' := by
  fun_induction lineFeeds text with
  | case1 => rfl
  | case2 rest ih => simp [ih]
  | case3 c rest paired ih => simp [List.count_cons, ih]

/-- A character is lost for at most every line feed. -/
theorem length_le_lineFeeds (text : List Char) :
    text.length ≤ (lineFeeds text).length + text.count '\n' := by
  fun_induction lineFeeds text with
  | case1 => simp
  | case2 rest ih =>
    simp
    omega
  | case3 c rest paired ih =>
    rw [List.length_cons, List.length_cons, List.count_cons]
    omega

theorem lineFeeds_of_not_mem {text : List Char} (h : '\n' ∉ text) : lineFeeds text = text := by
  fun_induction lineFeeds text with
  | case1 => rfl
  | case2 rest ih => simp at h
  | case3 c rest paired ih => rw [ih (fun later => h (List.mem_cons_of_mem _ later))]

theorem lines_ne_nil {text : List Char} (filled : text ≠ []) : lines text ≠ [] := by
  fun_cases lines text with
  | case1 => exact absurd rfl filled
  | _ => simp

/-- The lines of a text are what stands between its line feeds. -/
theorem splitOn_lineFeeds {text : List Char} (closed : Closed text) :
    (lineFeeds text).splitOn '\n' = lines text := by
  fun_induction lines text with
  | case1 => exact absurd rfl closed.ne_nil
  | case2 rest ih =>
    have later : Closed rest := (closed.tail (List.cons_ne_nil _ _)).of_feed
    rw [lineFeeds, List.splitOn_cons_eq_if_modifyHead, ih later]
    rfl
  | case3 rest ih =>
    have same : lineFeeds ('\n' :: rest) = '\n' :: lineFeeds rest :=
      lineFeeds_cons fun _ carriage => absurd carriage (by decide)
    rw [same, List.splitOn_cons_eq_if_modifyHead, ih closed.of_feed]
    rfl
  | case4 c rest paired other none ih =>
    have last : rest = [] := by
      by_contra more
      exact lines_ne_nil more none
    subst last
    simp [lineFeeds, List.splitOn_cons_eq_if_modifyHead, show c ≠ '\n' from other]
  | case5 c rest paired other line others some ih =>
    have more : rest ≠ [] := by
      rintro rfl
      cases some
    have same : lineFeeds (c :: rest) = c :: lineFeeds rest := lineFeeds_cons paired
    rw [same, List.splitOn_cons_eq_if_modifyHead, ih (closed.tail more), some]
    simp [show c ≠ '\n' from other]

/-- No line has a line feed in it. -/
theorem not_mem_of_mem_lines {text line : List Char} (h : line ∈ lines text) : '\n' ∉ line := by
  fun_induction lines text generalizing line with
  | case1 => cases h
  | case2 rest ih =>
    rcases List.mem_cons.1 h with rfl | later
    · exact List.not_mem_nil
    · exact ih later
  | case3 rest ih =>
    rcases List.mem_cons.1 h with rfl | later
    · exact List.not_mem_nil
    · exact ih later
  | case4 c rest paired other none ih =>
    rw [List.mem_singleton.1 h, List.mem_singleton]
    exact fun feed => other feed.symm
  | case5 c rest paired other first others some ih =>
    rw [some] at ih
    rcases List.mem_cons.1 h with rfl | later
    · have here : '\n' ≠ c := fun feed => other feed.symm
      exact List.not_mem_cons_of_ne_of_not_mem here (ih List.mem_cons_self)
    · exact ih (List.mem_cons_of_mem _ later)

theorem toList_unlines (lines : List String) :
    (unlines lines).toList = lines.flatMap fun line => line.toList ++ ['\n'] := by
  simp [unlines, String.toList_join, List.flatMap_map]

/-! ## Indents -/

section Indents

variable {indent text : String}

theorem toList_indentLines (indent text : String) :
    (indentLines indent text).toList =
      ['\n'].intercalate ((lines text.toList).map (indent.toList ++ ·)) := by
  simp [indentLines, String.toList_intercalate, Function.comp_def]

/-- The lines of an indented text are those of the text with the indent in front of them. -/
theorem splitOn_indentLines (straight : '\n' ∉ indent.toList) (closed : Closed text.toList) :
    (indentLines indent text).toList.splitOn '\n' =
      (lines text.toList).map (indent.toList ++ ·) := by
  have filled : (lines text.toList).map (indent.toList ++ ·) ≠ [] := by
    simpa using lines_ne_nil closed.ne_nil
  have whole : ∀ line ∈ (lines text.toList).map (indent.toList ++ ·), '\n' ∉ line := by
    intro line there
    rcases List.mem_map.1 there with ⟨plain, source, rfl⟩
    exact List.not_mem_append straight (not_mem_of_mem_lines source)
  rw [toList_indentLines]
  exact List.splitOn_intercalate _ whole filled

theorem mapM_dropPrefix? (indent : List Char) (texts : List (List Char)) :
    (texts.map (indent ++ ·)).mapM (List.dropPrefix? · indent) = some texts := by
  induction texts with
  | nil => rfl
  | cons text rest ih =>
    simp [List.mapM_cons, ih, List.dropPrefix?_append_of_beq]

/-- **Indenting can be taken back.** Only the ends of lines are not as they were. -/
theorem outdent?_indentLines (straight : '\n' ∉ indent.toList) (closed : Closed text.toList) :
    outdent? indent (indentLines indent text) = some (withLineFeeds text) := by
  rw [outdent?, splitOn_indentLines straight closed, mapM_dropPrefix?, Option.map_some,
    ← splitOn_lineFeeds closed, List.intercalate_splitOn, withLineFeeds]

/-- The characters with an indent in front of every line but the first. -/
def hang (indent text : List Char) : List Char :=
  text.flatMap fun c => if c = '\n' then '\n' :: indent else [c]

theorem hang_append (indent a b : List Char) :
    hang indent (a ++ b) = hang indent a ++ hang indent b :=
  List.flatMap_append

theorem length_hang (indent text : List Char) :
    (hang indent text).length = text.length + indent.length * text.count '\n' := by
  induction text with
  | nil => rfl
  | cons c rest ih =>
    rw [← List.singleton_append, hang_append, List.length_append, ih]
    by_cases feed : c = '\n' <;> simp [hang, feed, Nat.mul_add] <;> omega

theorem hang_of_not_mem {indent text : List Char} (h : '\n' ∉ text) : hang indent text = text := by
  induction text with
  | nil => rfl
  | cons c rest ih =>
    rw [List.mem_cons, not_or] at h
    rw [← List.singleton_append, hang_append, ih h.2]
    simp [hang, Ne.symm h.1]

/-- **Only a text of one line stays as it is when it is indented in the middle of a line.** -/
theorem hang_eq_self_iff {indent : List Char} (wide : 2 ≤ indent.length) (text : List Char) :
    hang indent (lineFeeds text) = text ↔ '\n' ∉ text := by
  constructor
  · intro same there
    have grown : (hang indent (lineFeeds text)).length = text.length := congrArg List.length same
    have shrunk := length_le_lineFeeds text
    have feeds : 1 ≤ text.count '\n' := List.one_le_count_iff.2 there
    have wider : 2 * text.count '\n' ≤ indent.length * text.count '\n' :=
      Nat.mul_le_mul_right _ wide
    rw [length_hang, count_lineFeeds] at grown
    omega
  · intro single
    rw [lineFeeds_of_not_mem single, hang_of_not_mem single]

theorem intercalate_append_cons {separator a b : List Char} {rest : List (List Char)} :
    separator.intercalate ((a ++ b) :: rest) = a ++ separator.intercalate (b :: rest) := by
  induction a with
  | nil => rfl
  | cons c a ih => rw [List.cons_append, List.intercalate_cons_cons_left, ih, List.cons_append]

theorem intercalate_map_splitOn (indent text : List Char) :
    ['\n'].intercalate ((text.splitOn '\n').map (indent ++ ·)) = indent ++ hang indent text := by
  induction text with
  | nil => simp [hang]
  | cons c rest ih =>
    rcases List.exists_cons_of_ne_nil (List.splitOn_ne_nil '\n' rest) with ⟨line, others, cut⟩
    rw [cut] at ih
    rw [List.splitOn_cons_eq_if_modifyHead, cut]
    by_cases feed : c = '\n'
    · subst feed
      simpa [hang] using ih
    · rw [List.map_cons, intercalate_append_cons] at ih
      have rest_same := List.append_cancel_left ih
      simp only [beq_iff_eq, feed, ↓reduceIte, List.modifyHead_cons, List.map_cons]
      rw [intercalate_append_cons, List.intercalate_cons_cons_left, rest_same]
      simp [hang, feed]

/-- An indented text is the indent with the text behind it, indented from its second line on. -/
theorem toList_indentLines_eq (closed : Closed text.toList) :
    (indentLines indent text).toList =
      indent.toList ++ hang indent.toList (lineFeeds text.toList) := by
  rw [toList_indentLines, ← splitOn_lineFeeds closed, intercalate_map_splitOn]

end Indents

/-! ## Paragraphs -/

/-- A text where every line feed has another character behind it. -/
inductive Solid : List Char → Prop
  | nil : Solid []
  | char {c : Char} {rest : List Char} (other : c ≠ '\n') (h : Solid rest) : Solid (c :: rest)
  | feed {c : Char} {rest : List Char} (other : c ≠ '\n') (h : Solid (c :: rest)) :
    Solid ('\n' :: c :: rest)

theorem solid_append {a b : List Char} (straight : '\n' ∉ a) (solid : Solid b) :
    Solid (a ++ b) := by
  induction a with
  | nil => exact solid
  | cons c rest ih =>
    rw [List.mem_cons, not_or] at straight
    exact .char (Ne.symm straight.1) (ih straight.2)

theorem solid_hang {indent : List Char} (straight : '\n' ∉ indent) (filled : indent ≠ [])
    (text : List Char) : Solid (hang indent text) := by
  induction text with
  | nil => exact .nil
  | cons c rest ih =>
    rw [← List.singleton_append, hang_append]
    by_cases feed : c = '\n'
    · subst feed
      rcases List.exists_cons_of_ne_nil filled with ⟨first, others, rfl⟩
      have here : first ≠ '\n' := fun same => straight (same ▸ List.mem_cons_self)
      simpa [hang] using Solid.feed here (solid_append straight ih)
    · simpa [hang, feed] using Solid.char feed ih

theorem solid_indentLines {indent text : String} (straight : '\n' ∉ indent.toList)
    (filled : indent.toList ≠ []) (closed : Closed text.toList) :
    Solid (indentLines indent text).toList := by
  rw [toList_indentLines_eq closed]
  exact solid_append straight (solid_hang straight filled _)

theorem cutBlank_cons {c : Char} {rest : List Char}
    (plain : ∀ after, c = '\n' → rest ≠ '\n' :: after) :
    cutBlank (c :: rest) = (cutBlank rest).modifyHead (c :: ·) := by
  rw [cutBlank]
  exact plain

/-- A blank line is never found before the end of a solid text, nor across it. -/
theorem cutBlank_append {block : List Char} (solid : Solid block) (tail : List Char) :
    cutBlank (block ++ tail) = (cutBlank tail).modifyHead (block ++ ·) := by
  induction solid with
  | nil => exact (congrFun List.modifyHead_id _).symm
  | char other _ ih =>
    rw [List.cons_append, cutBlank_cons fun _ feed => absurd feed other, ih,
      List.modifyHead_modifyHead]
    rfl
  | @feed c rest other _ ih =>
    have plain : ∀ after, '\n' = '\n' → c :: rest ++ tail ≠ '\n' :: after := by
      intro after _ same
      exact other (List.cons.inj same).1
    rw [List.cons_append, cutBlank_cons plain, ih, List.modifyHead_modifyHead]
    rfl

theorem cutBlank_intercalate {blocks : List (List Char)} (solid : ∀ block ∈ blocks, Solid block)
    (filled : blocks ≠ []) : cutBlank (['\n', '\n'].intercalate blocks) = blocks := by
  induction blocks with
  | nil => exact absurd rfl filled
  | cons block rest ih =>
    have first : Solid block := solid block List.mem_cons_self
    cases rest with
    | nil =>
      have alone : cutBlank (block ++ []) = [block] := by
        rw [cutBlank_append first]
        simp [cutBlank]
      simpa using alone
    | cons next rest =>
      have later := ih (fun b there => solid b (List.mem_cons_of_mem _ there))
        (List.cons_ne_nil _ _)
      rw [List.intercalate_cons_cons, List.append_assoc, cutBlank_append first]
      simp [cutBlank, later]

/-- **Solid texts joined by blank lines are found again.** -/
theorem paragraphs_intercalate {blocks : List String}
    (solid : ∀ block ∈ blocks, Solid block.toList) (filled : blocks ≠ []) :
    paragraphs ("\n\n".intercalate blocks) = blocks := by
  have parts : ∀ block ∈ blocks.map String.toList, Solid block := by
    intro block there
    rcases List.mem_map.1 there with ⟨text, source, rfl⟩
    exact solid text source
  have cut : cutBlank (['\n', '\n'].intercalate (blocks.map String.toList)) =
      blocks.map String.toList :=
    cutBlank_intercalate parts (by simpa using filled)
  have chars : ("\n\n".intercalate blocks).toList =
      ['\n', '\n'].intercalate (blocks.map String.toList) :=
    String.toList_intercalate
  rw [paragraphs, chars, cut, List.map_map]
  simp [Function.comp_def]

example : paragraphs "a\n  b\n\nc" = ["a\n  b", "c"] := by decide +kernel

end PageBuilder.Text
