import PageBuilder.Proofs.Selectors

/-!
# Values in classes

A value inside the brackets of a utility class is one word of the class attribute only as long as it
has no white space. Spaces are written as underscores, but other white space is written as it is and
ends the class: every run of it takes the class apart once more. The classes of a fragment are those
of the id, the kind, the declarations and the glass overlay, one after the other, so a value adds to
them as many classes as it has such runs.
-/

namespace PageBuilder

/-! ## Runs of characters -/

/-- How many runs of characters with a property a text has, counted where they end. -/
def runs (p : Char → Bool) : List Char → Nat
  | [] => 0
  | c :: rest => runs p rest + if p c && rest.head?.all (!p ·) then 1 else 0

theorem runs_cons_of_neg {p : Char → Bool} {c : Char} (h : p c = false) (rest : List Char) :
    runs p (c :: rest) = runs p rest := by
  simp [runs, h]

/-- A run goes on where the next character has the property too. -/
theorem runs_cons_cons {p : Char → Bool} {d : Char} (h : p d = true) (c : Char) (rest : List Char) :
    runs p (c :: d :: rest) = runs p (d :: rest) := by
  simp [runs, h]

/-- Characters with the property in front of one that has it belong to its run. -/
theorem runs_append_cons {p : Char → Bool} {front : List Char} (inside : ∀ c ∈ front, p c = true)
    {d : Char} (h : p d = true) (rest : List Char) :
    runs p (front ++ d :: rest) = runs p (d :: rest) := by
  induction front with
  | nil => rfl
  | cons c more ih =>
    have others := ih fun c there => inside c (List.mem_cons_of_mem _ there)
    -- What stands behind the first character has the property in both cases.
    cases more with
    | nil => exact runs_cons_cons h c rest
    | cons e _ =>
      have next : p e = true := inside e (List.mem_cons_of_mem _ List.mem_cons_self)
      exact (runs_cons_cons next c _).trans others

theorem runs_map (p : Char → Bool) (f : Char → Char) (text : List Char) :
    runs p (text.map f) = runs (fun c => p (f c)) text := by
  induction text with
  | nil => rfl
  | cons c rest ih => cases rest <;> simp_all [runs]

theorem runs_eq_zero_iff {p : Char → Bool} {text : List Char} :
    runs p text = 0 ↔ ∀ c ∈ text, p c = false := by
  induction text with
  | nil => simp [runs]
  | cons c rest ih =>
    rw [runs, Nat.add_eq_zero_iff, ih, List.forall_mem_cons]
    constructor
    · rintro ⟨others, ends⟩
      refine ⟨Bool.eq_false_iff.2 fun here => ?_, others⟩
      -- The run that starts here would have to end here, since no other character has the property.
      have next : rest.head?.all (!p ·) = true := by
        cases rest with
        | nil => rfl
        | cons d more => simp [others d List.mem_cons_self]
      simp [here, next] at ends
    · rintro ⟨here, others⟩
      exact ⟨others, by simp [here]⟩

/-- Between two characters without a property, the runs of such characters are the pieces into which
the runs with the property part the text. -/
theorem runs_not_between {p : Char → Bool} {x y : Char} (first : p x = false) (last : p y = false)
    (text : List Char) : runs (!p ·) (x :: (text ++ [y])) = runs p text + 1 := by
  induction text generalizing x with
  | nil => simp [runs, first, last]
  | cons c rest ih =>
    cases here : p c with
    | false =>
      rw [List.cons_append, runs_cons_cons (by simp [here]), ih here, runs_cons_of_neg here]
    | true =>
      have pieces := ih first
      cases rest with
      | nil => simp [runs, first, last, here]
      | cons d more =>
        -- The run ends here or goes on, as the next character has it.
        cases next : p d <;> simp_all [runs]

/-! ## Words of a text -/

namespace Fragment

/-- The first piece of a text is empty just if the text starts with a gap or is empty itself. -/
theorem isEmpty_first_piece {text first : List Char} {others : List (List Char)}
    (pieces : text.splitOnP isGap = first :: others) :
    first.isEmpty = text.head?.all isGap := by
  cases text with
  | nil => simp_all
  | cons d more =>
    rw [List.splitOnP_cons_eq_if_modifyHead] at pieces
    obtain ⟨piece, later, rest⟩ := List.exists_cons_of_ne_nil (List.splitOnP_ne_nil isGap more)
    cases gap : isGap d <;> simp_all
    simp [← pieces.1]

/-- Words are runs of characters that are no gaps. -/
theorem length_tokens (text : String) : (tokens text).length = runs (!isGap ·) text.toList := by
  rw [tokens, List.length_map]
  induction text.toList with
  | nil => rfl
  | cons c rest ih =>
    rw [runs, ← ih]
    cases here : isGap c with
    | true =>
      have parted := List.splitOnP_append_cons [] rest here
      simp_all
    | false =>
      obtain ⟨first, others, parts⟩ := List.exists_cons_of_ne_nil (List.splitOnP_ne_nil isGap rest)
      have start := isEmpty_first_piece parts
      rw [List.splitOnP_cons_eq_if_modifyHead, parts]
      -- The character goes to the first piece, which makes a new word of an empty one.
      cases empty : first.isEmpty <;> simp_all

end Fragment

/-! ## Values of declarations -/

namespace Declaration

open Fragment

/-- What a character becomes inside the brackets of a class. -/
def bracketed (c : Char) : Char := if c = ' ' then '_' else c

/-- White space that a class is not guarded against. -/
def isBreak (c : Char) : Bool := isGap c && c != ' '

theorem isGap_bracketed (c : Char) : isGap (bracketed c) = isBreak c := by
  unfold bracketed isBreak
  split
  · next space =>
    rw [space]
    decide
  · next other => simp [other]

/-- A value in brackets is one word with the letters in front of them, and one more for every run of
white space that breaks it. -/
theorem length_tokens_arbitrary (opening : String) (front : List Char)
    (form : opening.toList = front ++ ['[']) (whole : front.any isGap = false)
    (value : String) :
    (tokens (opening ++ arbitrary value ++ "]")).length = runs isBreak value.toList + 1 := by
  have chars : (opening ++ arbitrary value ++ "]").toList =
      front ++ '[' :: (value.toList.map bracketed ++ [']']) := by
    simp [form, arbitrary, bracketed]
  have bracket : isGap '[' = false := by decide
  have closing : isGap ']' = false := by decide
  calc
    (tokens (opening ++ arbitrary value ++ "]")).length
        = runs (!isGap ·) ('[' :: (value.toList.map bracketed ++ [']'])) := by
      rw [length_tokens, chars]
      exact runs_append_cons (by simpa using whole) (by simp [bracket]) _
    _ = runs isGap (value.toList.map bracketed) + 1 := runs_not_between bracket closing _
    _ = runs isBreak value.toList + 1 := by
      rw [runs_map]
      simp only [isGap_bracketed]

variable (value : String)

theorem length_tokens_background :
    (tokens (background value).utilityClass).length = runs isBreak value.toList + 1 :=
  length_tokens_arbitrary "bg-[" ['b', 'g', '-'] rfl (by decide) value

theorem length_tokens_color :
    (tokens (color value).utilityClass).length = runs isBreak value.toList + 1 :=
  length_tokens_arbitrary "text-[" ['t', 'e', 'x', 't', '-'] rfl (by decide) value

/-- The class of a gradient function is that of a background. -/
theorem length_tokens_gradient {spec : String} (function : isFunction spec = true) :
    (tokens (gradient spec).utilityClass).length = runs isBreak spec.toList + 1 := by
  have same : (gradient spec).utilityClass = (background spec).utilityClass := by
    delta utilityClass
    simp only [function, if_true]
  rw [same, length_tokens_background]

/-- A border has a class of its own in front of that of its color. -/
theorem length_tokens_border :
    (tokens (border value).utilityClass).length = runs isBreak value.toList + 2 := by
  have written : (border value).utilityClass = "border border-[" ++ arbitrary value ++ "]" := rfl
  have parts : (border value).utilityClass =
      "border" ++ (" " ++ ("border-[" ++ arbitrary value ++ "]")) := by
    rw [written]
    apply String.toList_inj.1
    simp
  have alone : tokens "border" = ["border"] := by decide
  have colored := length_tokens_arbitrary "border-[" ['b', 'o', 'r', 'd', 'e', 'r', '-'] rfl
    (by decide) value
  rw [parts, tokens_space, alone, List.length_append, colored, List.length_singleton, Nat.add_comm]

/-- A value is not broken just if it has no white space but spaces. -/
theorem runs_isBreak_eq_zero_iff :
    runs isBreak value.toList = 0 ↔ ∀ c ∈ value.toList, isGap c = true → c = ' ' := by
  simp [runs_eq_zero_iff, isBreak]

/-- **How many classes a value makes.** The utility class of a background, a text color and a
gradient function is one word of the class attribute, and that of a border is two, with one word
more for every run of white space other than spaces in the value. So they are one word and two words
just if the value has no such white space. The classes of a fragment are those of the id and the
kind and then those of the declarations, so these words are what a value adds to them. -/
theorem tokens_of_value (e : Element) (brand : Option Brand) :
    let breaks := runs isBreak value.toList
    (tokens (background value).utilityClass).length = breaks + 1 ∧
    (tokens (color value).utilityClass).length = breaks + 1 ∧
    (isFunction value = true → (tokens (gradient value).utilityClass).length = breaks + 1) ∧
    (tokens (border value).utilityClass).length = breaks + 2 ∧
    (breaks = 0 ↔ ∀ c ∈ value.toList, isGap c = true → c = ' ') ∧
    classes (render e brand) =
      e.className :: (tokens e.baseClasses ++
        (Styled.declarations ⟨e, brand⟩).flatMap (fun d => tokens d.utilityClass) ++
        if Styled.glass ⟨e, brand⟩ then tokens Styled.glassClasses else []) :=
  ⟨length_tokens_background value, length_tokens_color value, length_tokens_gradient,
    length_tokens_border value, runs_isBreak_eq_zero_iff value, classes_render e brand⟩

/-- A gradient with spaces, and a background with tabs. -/
theorem tokens_of_spaced_gradient :
    let spec := "linear-gradient(red, blue)"
    let e : Element := ⟨"a", .text, "x", { background := some "red\thidden\t" }⟩
    isFunction spec = true ∧ (tokens (gradient spec).utilityClass).length = 1 ∧
      classes (render e none) = ["el-a", "bg-[red", "hidden", "]"] := by
  intro spec e
  have function : isFunction spec = true := by decide
  have unbroken : runs isBreak spec.toList = 0 := by decide
  have made := (tokens_of_value spec e none).2.2.1 function
  have shown := (tokens_of_value spec e none).2.2.2.2.2
  rw [unbroken] at made
  exact ⟨function, made, shown.trans (by decide)⟩

/-- **A background with tabs brings a class of its own.** -/
theorem hidden_of_tabbedFill :
    ¬ (tokens (background "red\thidden\t").utilityClass).length = 1 ∧
      tokens (background "red\thidden\t").utilityClass = ["bg-[red", "hidden", "]"] := by
  have words : tokens (background "red\thidden\t").utilityClass = ["bg-[red", "hidden", "]"] := by
    decide
  rw [words]
  exact ⟨by decide, rfl⟩

end Declaration

end PageBuilder
