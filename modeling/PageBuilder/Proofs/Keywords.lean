import Mathlib.Data.List.Find
import Mathlib.Data.List.Nodup
import PageBuilder.Assistant.Command
import PageBuilder.Assistant.Intent

/-!
# Keywords

Prompts and chat messages are recognized by tables of rules: the first rule wins whose keywords are
in the lower case of the text. Keywords that are in a text are also in every longer text around it,
so text that is added can only make rules apply that did not apply before, and the first one that
does is the same as before or an earlier one.

Lower case is taken character by character, but how a capital sigma is written depends on where it
stands, so the lower case of a part need not be a part of the lower case of the whole. No keyword
has a sigma; so it makes no difference for any rule which one is written.
-/

namespace PageBuilder

/-! ## Lower case with either small sigma -/

namespace Text

/-- The small letters of the capital sigma: the ordinary one, and the one at the end of a word. -/
def smallSigmas : List Char := ['σ', 'ς']

/-- Whether the second text is a lower case of the first one: a capital sigma has either of its
small letters, every other character its lower case. -/
inductive LowerCase : List Char → List Char → Prop
  | nil : LowerCase [] []
  | sigma {small : Char} {text lowered : List Char} :
      small ∈ smallSigmas → LowerCase text lowered → LowerCase ('Σ' :: text) (small :: lowered)
  | other {c : Char} {text lowered : List Char} :
      c ≠ 'Σ' → LowerCase text lowered → LowerCase (c :: text) (lowerChar c ++ lowered)

/-- A way to take the lower case of texts. Which of the small sigmas it writes can depend on the
whole text. -/
structure Casing where
  lower : List Char → List Char
  lowerCase : ∀ text, LowerCase text (lower text)

/-- Whether any of the words occurs in a text that is in lower case. -/
def mentionsIn (words : List String) (lowered : List Char) : Bool :=
  words.any fun word => occursIn word.toList lowered

theorem lowerChar_sigma : lowerChar 'Σ' = ['σ'] := by decide +kernel

theorem lowerCase_lower (text : List Char) : LowerCase text (lower text) := by
  induction text with
  | nil => exact .nil
  | cons c text ih =>
    by_cases sigma : c = 'Σ'
    · subst sigma
      have small : 'σ' ∈ smallSigmas := by decide
      simpa [lower, lowerChar_sigma] using LowerCase.sigma small ih
    · simpa [lower] using LowerCase.other sigma ih

instance : Inhabited Casing := ⟨lower, lowerCase_lower⟩

/-- The ordinary small sigma for the one at the end of a word. -/
def ordinary (c : Char) : Char := if c = 'ς' then 'σ' else c

/-- Two lower cases of a text differ in the form of small sigmas only. -/
theorem LowerCase.map_ordinary {text lowered : List Char} (h : LowerCase text lowered) :
    lowered.map ordinary = (lower text).map ordinary := by
  induction h with
  | nil => rfl
  | @sigma small text lowered either _ ih =>
    have same : ∀ small ∈ smallSigmas, ordinary small = ordinary 'σ' := by
      simp [smallSigmas, ordinary]
    simpa [lower, lowerChar_sigma, same small either] using ih
  | other _ _ ih => simpa [lower] using ih

/-- A word without a sigma occurs in a text just if it does after the change of small sigmas. -/
theorem infix_map_ordinary {word text : List Char} (plain : ∀ c ∈ word, c ∉ smallSigmas) :
    word <:+: text.map ordinary ↔ word <:+: text := by
  have kept : ∀ c, ordinary c ∉ smallSigmas → ordinary c = c := by
    intro c apart
    unfold ordinary at apart ⊢
    split
    · next final => simp [final, smallSigmas] at apart
    · rfl
  rw [List.infix_map_iff]
  constructor
  · rintro ⟨part, within, rfl⟩
    -- The part has no sigma either, so it is the word itself.
    have same : part.map ordinary = part := by
      refine (List.map_congr_left fun c there => ?_).trans (List.map_id part)
      exact kept c (plain _ (List.mem_map_of_mem there))
    rwa [same]
  · intro within
    have same : word.map ordinary = word := by
      refine (List.map_congr_left fun c there => ?_).trans (List.map_id word)
      have apart : c ≠ 'ς' := by
        rintro rfl
        exact plain _ there (by decide)
      simp [ordinary, apart]
    exact ⟨word, within, same.symm⟩

/-- What words without a sigma occur in does not depend on how sigmas are written. -/
theorem LowerCase.mentionsIn_eq {text lowered : List Char} (h : LowerCase text lowered)
    {words : List String} (plain : ∀ word ∈ words, ∀ c ∈ word.toList, c ∉ smallSigmas) :
    mentionsIn words lowered = mentionsIn words (lower text) := by
  have each : ∀ word ∈ words, occursIn word.toList lowered = occursIn word.toList (lower text) := by
    intro word there
    rw [Bool.eq_iff_iff, occursIn_iff, occursIn_iff, ← infix_map_ordinary (plain word there),
      h.map_ordinary, infix_map_ordinary (plain word there)]
  rw [mentionsIn, mentionsIn, Bool.eq_iff_iff, List.any_eq_true, List.any_eq_true]
  exact exists_congr fun word => and_congr_right fun there => by rw [each word there]

/-- A text mentions the words that a part of it mentions. -/
theorem mentions_of_surrounded {words : List String} {p : String} (h : mentions words p = true)
    (a b : String) : mentions words (a ++ p ++ b) = true := by
  rcases List.any_eq_true.1 h with ⟨word, there, occurs⟩
  refine List.any_eq_true.2 ⟨word, there, occursIn_iff.2 ?_⟩
  have whole : lower (a ++ p ++ b).toList =
      lower a.toList ++ lower p.toList ++ lower b.toList := by
    simp [lower_append]
  rw [whole]
  exact (occursIn_iff.1 occurs).trans (List.infix_append _ _ _)

end Text

/-! ## The first rule that applies -/

/-- In a table without repetition, the place of what is found first is that of the first rule that
applies. -/
theorem idxOf_of_find? {α β : Type} [BEq α] [LawfulBEq α] {rules : List (α × β)}
    (distinct : (rules.map Prod.fst).Nodup) {applies : α × β → Bool} {rule : α × β}
    (first : rules.find? applies = some rule) :
    (rules.map Prod.fst).idxOf rule.1 = rules.findIdx applies := by
  induction rules with
  | nil => cases first
  | cons other rest ih =>
    rw [List.map_cons, List.nodup_cons] at distinct
    cases here : applies other with
    | true =>
      rw [List.find?_cons_of_pos here, Option.some.injEq] at first
      simp [first, List.findIdx_cons, first ▸ here]
    | false =>
      rw [List.find?_cons_of_neg (by simp [here])] at first
      -- The rule is found behind this one, and no name is there twice.
      have apart : other.1 ≠ rule.1 := fun same =>
        distinct.1 (same ▸ List.mem_map_of_mem (List.mem_of_find?_eq_some first))
      rw [List.map_cons, List.idxOf_cons_ne _ apart, ih distinct.2 first, List.findIdx_cons, here]
      rfl

namespace Intent

/-- The place of an intent in the table of rules. -/
def place (intent : Intent) : Nat := (rules.map Prod.fst).idxOf intent

theorem nodup_rules : (rules.map Prod.fst).Nodup := by decide

theorem plain_rules : ∀ rule ∈ rules, ∀ word ∈ rule.2, ∀ c ∈ word.toList, c ∉ Text.smallSigmas := by
  -- What is decided goes through the words, not through all characters there are.
  have checked : (rules.all fun rule => rule.2.all fun word =>
      word.toList.all (· ∉ Text.smallSigmas)) = true := by decide +kernel
  simpa using checked

/-- The intent of a prompt, if the lower case is taken in another way. -/
def classifyBy (casing : Text.Casing) (prompt : String) : Option Intent :=
  (rules.find? fun (_, keywords) =>
    Text.mentionsIn keywords (casing.lower prompt.toList)).map (·.1)

theorem classifyBy_eq (casing : Text.Casing) : classifyBy casing = classify := by
  funext prompt
  refine congrArg (Option.map Prod.fst) (List.find?_congr fun rule there => ?_)
  exact (casing.lowerCase prompt.toList).mentionsIn_eq (plain_rules rule there)

/-- What a prompt is recognized as stands in the place of the first rule that applies. -/
theorem place_of_classify {prompt : String} {intent : Intent}
    (recognized : classify prompt = some intent) :
    intent.place = rules.findIdx fun rule => Text.mentions rule.2 prompt := by
  rcases Option.map_eq_some_iff.1 recognized with ⟨rule, first, rfl⟩
  exact idxOf_of_find? nodup_rules first

/-- A prompt that is recognized still is with text around it, by the same rule or an earlier one. -/
theorem classify_of_surrounded {p : String} {intent : Intent}
    (recognized : classify p = some intent) (a b : String) :
    ∃ earlier, classify (a ++ p ++ b) = some earlier ∧ earlier.place ≤ intent.place := by
  -- A rule that applies goes on to apply, so the search still ends, and not later than before.
  have more : ∀ rule ∈ rules, Text.mentions rule.2 p = true →
      Text.mentions rule.2 (a ++ p ++ b) = true :=
    fun _ _ applies => Text.mentions_of_surrounded applies a b
  have found : (classify (a ++ p ++ b)).isSome := by
    rcases Option.map_eq_some_iff.1 recognized with ⟨rule, first, -⟩
    have there : rule ∈ rules := List.mem_of_find?_eq_some first
    have applies : Text.mentions rule.2 p = true := by
      simpa using List.find?_some first
    rw [classify, Option.isSome_map, List.find?_isSome]
    exact ⟨rule, there, more rule there applies⟩
  rcases Option.isSome_iff_exists.1 found with ⟨earlier, surrounded⟩
  refine ⟨earlier, surrounded, ?_⟩
  rw [place_of_classify surrounded, place_of_classify recognized]
  exact List.findIdx_le_findIdx more

end Intent

namespace Command

/-- The commands in the order in which they are tried, and the call for help behind them. -/
def order : List Command :=
  [recolor .red, recolor .blue, centerAll, clear, setTheme .light, setTheme .dark, setTheme .glass,
    help]

/-- The place of a command in that order. -/
def place (command : Command) : Nat := order.idxOf command

theorem order_eq : order = rules.map Prod.fst ++ [help] := rfl

theorem nodup_rules : (rules.map Prod.fst).Nodup := by decide

theorem help_not_mem_rules : help ∉ rules.map Prod.fst := by decide

theorem plain_rules : ∀ rule ∈ rules, ∀ words ∈ rule.2, ∀ word ∈ words, ∀ c ∈ word.toList,
    c ∉ Text.smallSigmas := by
  have checked : (rules.all fun rule => rule.2.all fun words => words.all fun word =>
      word.toList.all (· ∉ Text.smallSigmas)) = true := by decide +kernel
  simpa using checked

/-- The command of a message, if the lower case is taken in another way. -/
def interpretBy (casing : Text.Casing) (message : String) : Command :=
  match rules.find? fun (_, groups) =>
    groups.all fun words => Text.mentionsIn words (casing.lower message.toList) with
  | some (command, _) => command
  | none => help

theorem interpretBy_eq (casing : Text.Casing) : interpretBy casing = interpret := by
  funext message
  have same : (rules.find? fun (_, groups) =>
      groups.all fun words => Text.mentionsIn words (casing.lower message.toList)) =
      rules.find? fun (_, groups) => groups.all fun words => Text.mentions words message := by
    refine List.find?_congr fun rule there => ?_
    have each : ∀ words ∈ rule.2, Text.mentionsIn words (casing.lower message.toList) =
        Text.mentions words message := fun words group =>
      (casing.lowerCase message.toList).mentionsIn_eq (plain_rules rule there words group)
    rw [Bool.eq_iff_iff, List.all_eq_true, List.all_eq_true]
    exact forall₂_congr fun words group => by rw [each words group]
  rw [interpretBy, same]
  rfl

/-- What a message is understood as stands in the place of the first rule that applies; help stands
behind all rules. -/
theorem place_interpret (message : String) :
    (interpret message).place =
      rules.findIdx fun rule => rule.2.all fun words => Text.mentions words message := by
  rw [place, order_eq, interpret]
  cases first : rules.find? fun rule => rule.2.all fun words => Text.mentions words message with
  | none =>
    -- Help is no rule, so it stands at the end, where a search ends that finds nothing.
    have unmet : ∀ rule ∈ rules,
        (rule.2.all fun words => Text.mentions words message) = false := by
      simpa using List.find?_eq_none.1 first
    rw [List.findIdx_eq_length.2 unmet, List.idxOf_append_of_notMem help_not_mem_rules]
    rfl
  | some rule =>
    have there : rule.1 ∈ rules.map Prod.fst :=
      List.mem_map_of_mem (List.mem_of_find?_eq_some first)
    rw [List.idxOf_append_of_mem there]
    exact idxOf_of_find? nodup_rules first

/-- A message with text around it is understood as before or as an earlier command. -/
theorem interpret_of_surrounded (a p b : String) :
    (interpret (a ++ p ++ b)).place ≤ (interpret p).place := by
  rw [place_interpret, place_interpret]
  refine List.findIdx_le_findIdx fun rule _ applies => ?_
  rw [List.all_eq_true] at applies ⊢
  exact fun words group => Text.mentions_of_surrounded (applies words group) a b

end Command

/-- **Text that is added never demotes a request.** A prompt that is recognized is still recognized
with any text around it, by the same rule or an earlier one, and a message with text around it is
understood as before or as an earlier command, where help stands last. This does not depend on the
small letter that a capital sigma is given in any place. -/
theorem Intent.place_of_surrounded (a p b : String) :
    (∀ intent, classify p = some intent →
      ∃ earlier, classify (a ++ p ++ b) = some earlier ∧ earlier.place ≤ intent.place) ∧
    (Command.interpret (a ++ p ++ b)).place ≤ (Command.interpret p).place ∧
    ∀ casing : Text.Casing,
      classifyBy casing = classify ∧ Command.interpretBy casing = Command.interpret :=
  ⟨fun _ recognized => classify_of_surrounded recognized a b,
    Command.interpret_of_surrounded a p b,
    fun casing => ⟨classifyBy_eq casing, Command.interpretBy_eq casing⟩⟩

/-- A survey between a word with a capital sigma at its end and a dashboard, and a theme that is
asked for in red. -/
theorem Intent.place_of_surrounded_survey :
    classify "SURVEY" = some .form ∧
      (∃ earlier, classify ("ΟΔΟΣ " ++ "SURVEY" ++ " and Dashboard") = some earlier ∧
        earlier.place ≤ form.place) ∧
      (Command.interpret ("the " ++ "DARK theme" ++ ", in Red")).place ≤
        (Command.interpret "DARK theme").place ∧
      Command.interpret "DARK theme" = .setTheme .dark ∧
      Command.interpret ("the " ++ "DARK theme" ++ ", in Red") = .recolor .red := by
  have recognized : classify "SURVEY" = some .form := by decide
  exact ⟨recognized, (place_of_surrounded "ΟΔΟΣ " "SURVEY" " and Dashboard").1 _ recognized,
    (place_of_surrounded "the " "DARK theme" ", in Red").2.1, by decide, by decide⟩

end PageBuilder
