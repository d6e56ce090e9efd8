import Mathlib.Data.List.Infix
import PageBuilder.Proofs.MarkupSafety

/-!
# Reading escaped text back

Escaping puts an entity in the place of every special character. No entity is the start of another
one, and none starts with a character that stands for itself; so a reader that goes through an
escaped text once, from left to right, always knows whether an entity starts here and which one, and
gives the text back whatever it is: also where the text is spelled like an entity, because then its
ampersand was escaped too.
-/

namespace PageBuilder.Markup

/-- The characters that have entities, in the order of these. -/
def specials : List Char := ['&', '<', '>', '"', '\'', '\x7b', '\x7d']

/-- The entities with the characters they stand for. -/
def references : List (String × Char) := entities.zip specials

/-- The entity that a text starts with, and its character. -/
def reference? (text : List Char) : Option (String × Char) :=
  references.find? fun reference => reference.1.toList.isPrefixOf text

/-- Replaces entities by their characters in one pass from left to right. The first `skip`
characters belong to an entity that has been replaced already. -/
def unescapeFrom : Nat → List Char → List Char
  | _, [] => []
  | skip + 1, _ :: rest => unescapeFrom skip rest
  | 0, c :: rest =>
    match reference? (c :: rest) with
    | some (entity, special) => special :: unescapeFrom (entity.length - 1) rest
    | none => c :: unescapeFrom 0 rest

/-- A text with every entity replaced by its character. -/
def unescape (text : String) : String := String.ofList (unescapeFrom 0 text.toList)

/-! ## Entities -/

/-- No entity is the start of another one. -/
theorem eq_of_leading_entity : ∀ r ∈ references, ∀ r' ∈ references,
    r.1.toList <+: r'.1.toList → r = r' := by
  decide +kernel

theorem map_snd_references : references.map Prod.snd = specials := rfl

theorem entity_eq_ampersand_cons : ∀ r ∈ references, r.1.toList = '&' :: r.1.toList.tail := by
  decide +kernel

/-- A character is written as its entity, or stands for itself if it has none. -/
theorem escapeChar_cases (c : Char) :
    (∃ entity, (entity, c) ∈ references ∧ escapeChar c = entity.toList) ∨
      (c ∉ specials ∧ escapeChar c = [c]) := by
  by_cases special : c ∈ specials
  · left
    have written : ∀ r ∈ references, escapeChar r.2 = r.1.toList := by
      decide +kernel
    rcases List.mem_map.1 (map_snd_references ▸ special) with ⟨⟨entity, c⟩, there, rfl⟩
    exact ⟨entity, there, written _ there⟩
  · right
    refine ⟨special, ?_⟩
    simp only [specials, List.mem_cons, List.not_mem_nil, or_false, not_or] at special
    simp [escapeChar, special]

/-- The entity that a text starts with is found, whatever follows it. -/
theorem reference?_entity {r : String × Char} (there : r ∈ references) (rest : List Char) :
    reference? (r.1.toList ++ rest) = some r := by
  cases found : reference? (r.1.toList ++ rest) with
  | none =>
    have missed := List.find?_eq_none.1 found r there
    exact absurd (List.isPrefixOf_iff_prefix.2 (List.prefix_append _ rest)) missed
  | some r' =>
    -- Both are starts of one text, so the shorter one is the start of the longer one.
    have known : r' ∈ references := List.mem_of_find?_eq_some found
    have starts : r'.1.toList.isPrefixOf (r.1.toList ++ rest) = true := by
      unfold reference? at found
      simpa using List.find?_some found
    have start : r'.1.toList <+: r.1.toList ++ rest := List.isPrefixOf_iff_prefix.1 starts
    rcases List.prefix_or_prefix_of_prefix start (List.prefix_append _ rest) with short | long
    · exact congrArg some (eq_of_leading_entity r' known r there short)
    · exact congrArg some (eq_of_leading_entity r there r' known long).symm

/-- No entity starts with a character that stands for itself. -/
theorem reference?_plain {c : Char} (plain : c ∉ specials) (rest : List Char) :
    reference? (c :: rest) = none := by
  refine List.find?_eq_none.2 fun r there starts => plain ?_
  have start : r.1.toList <+: c :: rest := List.isPrefixOf_iff_prefix.1 starts
  rw [entity_eq_ampersand_cons r there, List.cons_prefix_cons] at start
  obtain ⟨rfl, -⟩ := start
  decide

/-! ## The way back -/

theorem unescapeFrom_skip (front rest : List Char) :
    unescapeFrom front.length (front ++ rest) = unescapeFrom 0 rest := by
  induction front with
  | nil => rfl
  | cons c front ih => exact ih

/-- Step lemma: what a character is written with is read as that character. -/
theorem unescapeFrom_escapeChar (c : Char) (rest : List Char) :
    unescapeFrom 0 (escapeChar c ++ rest) = c :: unescapeFrom 0 rest := by
  rcases escapeChar_cases c with ⟨entity, there, written⟩ | ⟨plain, written⟩
  · have found := reference?_entity there rest
    have parts : entity.toList = '&' :: entity.toList.tail := entity_eq_ampersand_cons _ there
    have size : entity.length - 1 = entity.toList.tail.length := by
      rw [List.length_tail, String.length_toList]
    calc
      unescapeFrom 0 (escapeChar c ++ rest)
          = unescapeFrom 0 ('&' :: (entity.toList.tail ++ rest)) := by
        rw [written, parts, List.cons_append, List.tail_cons]
      _ = c :: unescapeFrom (entity.length - 1) (entity.toList.tail ++ rest) := by
        rw [parts, List.cons_append] at found
        simp only [unescapeFrom, found]
      _ = c :: unescapeFrom 0 rest := by rw [size, unescapeFrom_skip]
  · simp [written, unescapeFrom, reference?_plain plain]

/-- Run lemma: an escaped text is read as the text, whatever follows it. -/
theorem unescapeFrom_append (text rest : List Char) :
    unescapeFrom 0 (text.flatMap escapeChar ++ rest) = text ++ unescapeFrom 0 rest := by
  induction text with
  | nil => rfl
  | cons c text ih =>
    calc
      unescapeFrom 0 ((c :: text).flatMap escapeChar ++ rest)
          = unescapeFrom 0 (escapeChar c ++ (text.flatMap escapeChar ++ rest)) := by simp
      _ = c :: unescapeFrom 0 (text.flatMap escapeChar ++ rest) := unescapeFrom_escapeChar c _
      _ = c :: text ++ unescapeFrom 0 rest := by rw [ih, List.cons_append]

theorem unescape_append (text rest : String) :
    unescape (escape text ++ rest) = text ++ unescape rest := by
  apply String.toList_inj.1
  simp [unescape, toList_escape, unescapeFrom_append]

theorem unescape_escape (text : String) : unescape (escape text) = text := by
  simpa [unescape, unescapeFrom] using unescape_append text ""

theorem escape_append (text other : String) :
    escape (text ++ other) = escape text ++ escape other := by
  apply String.toList_inj.1
  simp [toList_escape]

/-- The special characters other than the ampersand are written without any of them. -/
theorem not_mem_escapeChar {c : Char} (special : c ∈ specials) (other : c ≠ '&')
    (d : Char) : c ∉ escapeChar d := by
  rcases escapeChar_cases d with ⟨entity, there, written⟩ | ⟨plain, written⟩
  · have clean : ∀ r ∈ references, ∀ r' ∈ references, r'.2 ≠ '&' → r'.2 ∉ r.1.toList := by
      decide +kernel
    rcases List.mem_map.1 (map_snd_references ▸ special) with ⟨r', known, rfl⟩
    rw [written]
    exact clean _ there r' known other
  · rw [written, List.mem_singleton]
    rintro rfl
    exact plain special

/-- **Escaping can be undone.** Replacing entities in one pass from left to right gives every
escaped text back, and what follows it is read as if it stood alone. So texts are escaped alike only
if they are the same. An escaped text has no angle bracket, quote, apostrophe or brace, and the
parts of a text are escaped on their own. -/
theorem unescape_of_escaped (text : String) :
    unescape (escape text) = text ∧
    (∀ rest, unescape (escape text ++ rest) = text ++ unescape rest) ∧
    (∀ other, escape text = escape other ↔ text = other) ∧
    (∀ c ∈ ['<', '>', '"', '\'', '\x7b', '\x7d'], c ∉ (escape text).toList) ∧
    ∀ other, escape (text ++ other) = escape text ++ escape other := by
  refine ⟨unescape_escape text, unescape_append text, ?_, ?_, escape_append text⟩
  · intro other
    refine ⟨fun same => ?_, congrArg escape⟩
    calc
      text = unescape (escape text) := (unescape_escape text).symm
      _ = unescape (escape other) := by rw [same]
      _ = other := unescape_escape other
  · intro c mark
    have special : c ∈ specials := List.mem_cons_of_mem '&' mark
    have other : c ≠ '&' := by
      rintro rfl
      revert mark
      decide
    simp only [toList_escape, List.mem_flatMap, not_exists, not_and]
    exact fun d _ => not_mem_escapeChar special other d

/-- A text that is spelled with entities, one of them broken off, before the rest of that one. -/
theorem unescape_of_spelled_entities :
    let text := "&amp;lt; '&#1"
    escape text = "&amp;amp;lt; &#39;&amp;#1" ∧ unescape (escape text) = text ∧
      unescape (escape text ++ "23;") = text ++ "23;" ∧ escape text ≠ escape "&lt; '&#1" ∧
      '\'' ∈ ['<', '>', '"', '\'', '\x7b', '\x7d'] ∧ '\'' ∉ (escape text).toList := by
  intro text
  rcases unescape_of_escaped text with ⟨back, behind, injective, clean, -⟩
  have rest : unescape "23;" = "23;" := by decide +kernel
  have other : text ≠ "&lt; '&#1" := by decide +kernel
  have mark : '\'' ∈ ['<', '>', '"', '\'', '\x7b', '\x7d'] := by decide
  exact ⟨by decide +kernel, back, (behind "23;").trans (by rw [rest]),
    mt (injective _).1 other, mark, clean _ mark⟩

end PageBuilder.Markup
