import Mathlib.Data.List.DropRight
import Mathlib.Data.List.Nodup
import PageBuilder.Gallery.Premade
import PageBuilder.Proofs.Keywords

/-!
# Slugs

Templates and premade pages are found by typed names. A typed name means an entry if both have the
same slug, that is, the same words in lower case. To compare them up to the case of ASCII letters
accepts nothing more, because that case decides neither where words end nor what their lower case
is. The slugs of the entries are distinct, so a typed name means at most one of them, in whatever
order they are listed.

The lower case of a word depends on more than its characters one by one: a capital sigma has another
small letter at the end of a word than inside it. Where a word ends in this sense is decided by two
classes of characters. They are left open here: what is shown holds for all tables of them, and the
slugs that typed names are compared by belong to the table without cased characters, which gives
every sigma the ordinary small letter.
-/

namespace PageBuilder

namespace Text

/-! ## The case of ASCII letters -/

theorem toLower_of_not_ascii {c : Char} (beyond : ¬c.toNat < 0x80) : c.toLower = c := by
  have larger : ¬(c.val ≥ 'A'.val ∧ c.val ≤ 'Z'.val) := by
    rintro ⟨-, small⟩
    have bound : c.toNat ≤ 'Z'.toNat := small
    exact beyond (Nat.lt_of_le_of_lt bound (by decide))
  exact dif_neg larger

/-- A function that does not tell the capitals of ASCII from their small letters does not tell any
character from what `toLower` makes of it. -/
theorem apply_toLower {β : Type} {f : Char → β}
    (ascii : ∀ n < 0x80, f (Char.ofNat n).toLower = f (Char.ofNat n)) (c : Char) :
    f c.toLower = f c := by
  by_cases here : c.toNat < 0x80
  · have same := ascii c.toNat here
    rwa [Char.ofNat_toNat] at same
  · rw [toLower_of_not_ascii here]

theorem isAlphanumeric_toLower (c : Char) : isAlphanumeric c.toLower = isAlphanumeric c :=
  apply_toLower (by decide +kernel) c

theorem lowerChar_toLower (c : Char) : lowerChar c.toLower = lowerChar c :=
  apply_toLower (by decide +kernel) c

theorem toLower_eq_sigma_iff {c : Char} : c.toLower = 'Σ' ↔ c = 'Σ' := by
  have same : decide (c.toLower = 'Σ') = decide (c = 'Σ') :=
    apply_toLower (f := fun c => decide (c = 'Σ')) (by decide +kernel) c
  simpa using same

/-! ## Words of a text -/

/-- Whether a text has no alphanumeric character, so that nothing in it belongs to a word. -/
def Wordless (text : List Char) : Prop := ∀ c ∈ text, isAlphanumeric c = false

-- What is decided goes through the text, not through all characters there are.
instance : DecidablePred Wordless := fun text =>
  decidable_of_iff (text.all (!isAlphanumeric ·) = true) (by simp [Wordless])

/-- The words of a text as they are written. -/
def pieces (text : List Char) : List (List Char) := (splitWords text).filter (!·.isEmpty)

theorem splitWords_eq (text : List Char) :
    splitWords text = text.splitOnP (!isAlphanumeric ·) := by
  induction text with
  | nil => rfl
  | cons c rest ih =>
    rw [List.splitOnP_cons_eq_if_modifyHead, ← ih, splitWords]
    -- A text always has a first part, so one of the rows of `splitWords` is never taken.
    have parted : splitWords rest ≠ [] := ih ▸ List.splitOnP_ne_nil _ rest
    cases here : splitWords rest with
    | nil => exact absurd here parted
    | cons word others => cases isAlphanumeric c <;> simp

/-- A character that belongs to no word keeps the words on both sides of it apart. -/
theorem pieces_append_cons (s t : List Char) {c : Char} (apart : isAlphanumeric c = false) :
    pieces (s ++ c :: t) = pieces s ++ pieces t := by
  have parted : splitWords (s ++ c :: t) = splitWords s ++ splitWords t := by
    simp only [splitWords_eq]
    exact List.splitOnP_append_cons s t (by rw [apart, Bool.not_false])
  rw [pieces, parted, List.filter_append, pieces, pieces]

theorem pieces_wordless_append {gap : List Char} (wordless : Wordless gap) (t : List Char) :
    pieces (gap ++ t) = pieces t := by
  induction gap with
  | nil => rfl
  | cons c rest ih =>
    rcases List.forall_mem_cons.1 wordless with ⟨apart, behind⟩
    calc
      pieces ([] ++ c :: (rest ++ t)) = pieces [] ++ pieces (rest ++ t) :=
        pieces_append_cons [] (rest ++ t) apart
      _ = pieces t := ih behind

/-- Two texts with something between them that belongs to no word have the words of both. -/
theorem pieces_between (s t : List Char) {gap : List Char} (filled : gap ≠ [])
    (wordless : Wordless gap) : pieces (s ++ gap ++ t) = pieces s ++ pieces t := by
  obtain ⟨c, rest, rfl⟩ := List.exists_cons_of_ne_nil filled
  rcases List.forall_mem_cons.1 wordless with ⟨apart, behind⟩
  calc
    pieces (s ++ (c :: rest) ++ t) = pieces (s ++ c :: (rest ++ t)) := by
      rw [List.append_assoc, List.cons_append]
    _ = pieces s ++ pieces (rest ++ t) := pieces_append_cons s (rest ++ t) apart
    _ = pieces s ++ pieces t := by rw [pieces_wordless_append behind t]

theorem pieces_append_wordless (s : List Char) {gap : List Char} (wordless : Wordless gap) :
    pieces (s ++ gap) = pieces s := by
  rcases eq_or_ne gap [] with rfl | filled
  · rw [List.append_nil]
  · have parted := pieces_between s [] filled wordless
    rwa [List.append_nil, show pieces [] = [] from rfl, List.append_nil] at parted

theorem pieces_of_wordless {gap : List Char} (wordless : Wordless gap) : pieces gap = [] :=
  pieces_append_wordless [] wordless

/-- The code points of white space. -/
def spaceCodes : List Nat :=
  List.range' 0x09 5 ++ List.range' 0x2000 11 ++
    [0x20, 0x85, 0xA0, 0x1680, 0x2028, 0x2029, 0x202F, 0x205F, 0x3000]

theorem toNat_mem_spaceCodes {c : Char} (space : isSpace c = true) : c.toNat ∈ spaceCodes := by
  simp [isSpace, spaceCodes] at space ⊢
  omega

/-- White space belongs to no word. -/
theorem isAlphanumeric_of_isSpace {c : Char} (space : isSpace c = true) :
    isAlphanumeric c = false := by
  have each : ∀ n ∈ spaceCodes, isAlphanumeric (Char.ofNat n) = false := by decide +kernel
  simpa using each c.toNat (toNat_mem_spaceCodes space)

theorem pieces_trimStart (text : List Char) : pieces (trimStart text) = pieces text := by
  have front : Wordless (text.takeWhile isSpace) := fun c there =>
    isAlphanumeric_of_isSpace (List.all_eq_true.1 List.all_takeWhile c there)
  calc
    pieces (trimStart text) = pieces (text.takeWhile isSpace ++ trimStart text) :=
      (pieces_wordless_append front _).symm
    _ = pieces text := by rw [trimStart, List.takeWhile_append_dropWhile]

theorem pieces_trimEnd (text : List Char) : pieces (trimEnd text) = pieces text := by
  have back : Wordless (text.rtakeWhile isSpace) := fun c there =>
    isAlphanumeric_of_isSpace (List.mem_rtakeWhile_imp there)
  calc
    pieces (trimEnd text) = pieces (text.rdropWhile isSpace ++ text.rtakeWhile isSpace) :=
      (pieces_append_wordless _ back).symm
    _ = pieces text := by rw [List.rdropWhile_append_rtakeWhile]

theorem pieces_trim (text : List Char) : pieces (trim text) = pieces text := by
  rw [trim, pieces_trimEnd, pieces_trimStart]

/-- The case of ASCII letters does not change where words end. -/
theorem pieces_map_toLower (text : List Char) :
    pieces (text.map Char.toLower) = (pieces text).map (List.map Char.toLower) := by
  have split : splitWords (text.map Char.toLower) =
      (splitWords text).map (List.map Char.toLower) := by
    induction text with
    | nil => rfl
    | cons c rest ih =>
      rw [List.map_cons, splitWords, splitWords, ih, isAlphanumeric_toLower]
      cases splitWords rest with
      | nil => rfl
      | cons word others => cases isAlphanumeric c <;> rfl
  simp [pieces, split, List.filter_map, Function.comp_def]

/-- In which ways a name can be typed: the words in any ASCII case, and between them anything that
belongs to no word. A gap that stays as it is can count as part of a word. -/
inductive Respelled : List Char → List Char → Prop
  | word {word typed : List Char} :
      word.map Char.toLower = typed.map Char.toLower → Respelled word typed
  | between {word typed gap gap' name query : List Char} :
      word.map Char.toLower = typed.map Char.toLower →
      gap ≠ [] → Wordless gap → gap' ≠ [] → Wordless gap' →
      Respelled name query → Respelled (word ++ gap ++ name) (typed ++ gap' ++ query)

theorem map_toLower_pieces_congr {s t : List Char}
    (same : s.map Char.toLower = t.map Char.toLower) :
    (pieces s).map (List.map Char.toLower) = (pieces t).map (List.map Char.toLower) := by
  rw [← pieces_map_toLower, ← pieces_map_toLower, same]

/-- A name that is typed in another way has the same words, up to the case of ASCII letters. -/
theorem Respelled.map_toLower_pieces {name query : List Char} (respelled : Respelled name query) :
    (pieces name).map (List.map Char.toLower) = (pieces query).map (List.map Char.toLower) := by
  induction respelled with
  | word same => exact map_toLower_pieces_congr same
  | @between word typed gap gap' name query same filled wordless filled' wordless' _ ih =>
    rw [pieces_between word name filled wordless, pieces_between typed query filled' wordless',
      List.map_append, List.map_append, map_toLower_pieces_congr same, ih]

/-! ## Texts without a sigma -/

theorem map_intercalate {α β : Type} (f : α → β) (between : List α) (parts : List (List α)) :
    (between.intercalate parts).map f = (between.map f).intercalate (parts.map (List.map f)) := by
  induction parts with
  | nil => rfl
  | cons part rest ih =>
    cases rest with
    | nil => simp
    | cons next others =>
      rw [List.intercalate_cons_cons, List.map_append, List.map_append, ih]
      exact List.intercalate_cons_cons.symm

/-- A text without a sigma is the only one that becomes what it becomes by the change of small
sigmas. -/
theorem eq_of_map_ordinary {plain text : List Char} (without : ∀ c ∈ plain, c ∉ smallSigmas)
    (same : text.map ordinary = plain.map ordinary) : text = plain := by
  have length : plain.length = text.length := by
    simpa using (congrArg List.length same).symm
  have kept : plain <:+: plain.map ordinary :=
    (infix_map_ordinary without).2 (List.infix_refl plain)
  -- So the one is a part of the other, and no shorter.
  exact (((infix_map_ordinary without).1 (same ▸ kept)).eq_of_length length).symm

/-! ## Lower case by the place of a sigma -/

/-- The classes of characters that decide which small letter a capital sigma is given: those that
are cased, and those that are ignored in the search for a cased one. An ASCII letter belongs to a
class just if its capital does. -/
structure CaseTable where
  cased : Char → Bool
  ignored : Char → Bool
  cased_toLower : ∀ c, cased c.toLower = cased c
  ignored_toLower : ∀ c, ignored c.toLower = ignored c

namespace CaseTable

variable (table : CaseTable)

/-- Whether the first character of a text that is not ignored is a cased one. -/
def startsCased (text : List Char) : Bool :=
  (text.dropWhile table.ignored).head?.any table.cased

/-- The small letter of a capital sigma between two texts, the first of them from its end to its
start. The sigma ends a word if there is a cased character before it and none behind it. -/
def sigma (before behind : List Char) : Char :=
  if table.startsCased before && !table.startsCased behind then 'ς' else 'σ'

/-- The lower case of the rest of a word. What stands before the rest is given from its end to its
start. -/
def lowerBehind (before : List Char) : List Char → List Char
  | [] => []
  | c :: rest =>
    (if c = 'Σ' then [table.sigma before rest] else lowerChar c) ++ lowerBehind (c :: before) rest

def lower (word : List Char) : List Char := table.lowerBehind [] word

/-- The words of a name in lower case, joined by hyphens. -/
def slug (name : List Char) : List Char := ['-'].intercalate ((pieces name).map table.lower)

/-- Whether a typed name means the given one. -/
def matchesName (name query : String) : Bool :=
  let query := trim query.toList
  name.toList.map Char.toLower == query.map Char.toLower ||
    table.slug name.toList == table.slug query

theorem startsCased_map_toLower (text : List Char) :
    table.startsCased (text.map Char.toLower) = table.startsCased text := by
  have ignored : table.ignored ∘ Char.toLower = table.ignored := funext table.ignored_toLower
  simp [startsCased, List.dropWhile_map, Option.any_map, ignored, table.cased_toLower]

theorem lowerBehind_map_toLower (before word : List Char) :
    table.lowerBehind (before.map Char.toLower) (word.map Char.toLower) =
      table.lowerBehind before word := by
  -- What is before the rest grows as the rest gets shorter, so the induction is for all of it.
  induction word generalizing before with
  | nil => rfl
  | cons c rest ih =>
    simp only [List.map_cons, lowerBehind, sigma, toLower_eq_sigma_iff, lowerChar_toLower,
      startsCased_map_toLower]
    rw [← List.map_cons, ih]

theorem lower_map_toLower (word : List Char) :
    table.lower (word.map Char.toLower) = table.lower word :=
  table.lowerBehind_map_toLower [] word

theorem lowerCase_lowerBehind (before word : List Char) :
    LowerCase word (table.lowerBehind before word) := by
  induction word generalizing before with
  | nil => exact .nil
  | cons c rest ih =>
    rw [lowerBehind]
    split
    · next sigma =>
      subst sigma
      refine .sigma ?_ (ih ('Σ' :: before))
      unfold CaseTable.sigma
      split <;> decide
    · next other => exact .other other (ih (c :: before))

/-- Texts with the same words up to the case of ASCII letters have the same slug. -/
theorem slug_congr {s t : List Char}
    (same : (pieces s).map (List.map Char.toLower) = (pieces t).map (List.map Char.toLower)) :
    table.slug s = table.slug t := by
  have blind : table.lower ∘ List.map Char.toLower = table.lower :=
    funext table.lower_map_toLower
  have words (text : List Char) : (pieces text).map table.lower =
      ((pieces text).map (List.map Char.toLower)).map table.lower := by
    rw [List.map_map, blind]
  rw [slug, slug, words s, words t, same]

theorem slug_trim (text : List Char) : table.slug (trim text) = table.slug text := by
  rw [slug, slug, pieces_trim]

/-- A typed name means a name just if both have the same slug: names that are equal up to the case
of ASCII letters have. -/
theorem matchesName_iff (name query : String) :
    table.matchesName name query = true ↔
      table.slug name.toList = table.slug query.toList := by
  simp only [matchesName, Bool.or_eq_true, beq_iff_eq, slug_trim]
  constructor
  · rintro (equal | same)
    · -- Trimming takes no word away, so the slug of the trimmed name is that of the whole one.
      rw [← table.slug_trim query.toList]
      exact table.slug_congr (map_toLower_pieces_congr equal)
    · exact same
  · exact Or.inr

theorem slug_of_respelled {name typed front back : List Char} (respelled : Respelled name typed)
    (before : Wordless front) (behind : Wordless back) :
    table.slug (front ++ typed ++ back) = table.slug name := by
  have around : pieces (front ++ typed ++ back) = pieces typed := by
    rw [pieces_append_wordless _ behind, pieces_wordless_append before]
  exact table.slug_congr (around ▸ respelled.map_toLower_pieces.symm)

theorem slug_of_wordless {text : List Char} (wordless : Wordless text) : table.slug text = [] := by
  rw [slug, pieces_of_wordless wordless]
  rfl

/-! ## Slugs without a sigma -/

/-- The table without cased characters: every capital sigma is given the ordinary small one. -/
def caseless : CaseTable := ⟨fun _ => false, fun _ => false, fun _ => rfl, fun _ => rfl⟩

theorem lower_caseless (word : List Char) : caseless.lower word = Text.lower word := by
  have ordinary (before behind : List Char) : caseless.sigma before behind = 'σ' := by
    simp [sigma, startsCased, caseless]
  have behind (before : List Char) : caseless.lowerBehind before word = Text.lower word := by
    induction word generalizing before with
    | nil => rfl
    | cons c rest ih =>
      by_cases here : c = 'Σ'
      · simp [lowerBehind, here, ordinary, ih, Text.lower, lowerChar_sigma]
      · simp [lowerBehind, here, ih, Text.lower]
  exact behind []

theorem slug_caseless (name : List Char) : caseless.slug name = Text.slug name := by
  rw [slug, funext lower_caseless]
  rfl

theorem matchesName_caseless : caseless.matchesName = Text.matchesName := by
  funext name query
  simp only [matchesName, Text.matchesName, slug_caseless]

theorem map_ordinary_slug (name : List Char) :
    (table.slug name).map ordinary = (Text.slug name).map ordinary := by
  have each (word : List Char) : (table.lower word).map ordinary = (Text.lower word).map ordinary :=
    (table.lowerCase_lowerBehind [] word).map_ordinary
  have together : ((pieces name).map table.lower).map (List.map ordinary) =
      (words name).map (List.map ordinary) := by
    simp [words, pieces, each]
  rw [slug, Text.slug, map_intercalate, map_intercalate, together]

/-- Which small sigma is written makes no difference for a slug without one. -/
theorem slug_eq_iff_of_plain {name wanted : List Char} (plain : ∀ c ∈ wanted, c ∉ smallSigmas) :
    table.slug name = wanted ↔ Text.slug name = wanted := by
  have same := table.map_ordinary_slug name
  constructor
  · rintro rfl
    exact eq_of_map_ordinary plain same.symm
  · rintro rfl
    exact eq_of_map_ordinary plain same

end CaseTable

end Text

/-! ## Entries -/

open Text

/-- If at most one element passes a test, a search finds what is there and passes. -/
theorem find?_eq_some_iff_of_unique {α : Type} {listing : List α} {test : α → Bool}
    (unique : ∀ a b, test a = true → test b = true → a = b) {a : α} :
    listing.find? test = some a ↔ a ∈ listing ∧ test a = true := by
  constructor
  · intro found
    exact ⟨List.mem_of_find?_eq_some found, List.find?_some found⟩
  · rintro ⟨there, passes⟩
    obtain ⟨b, found⟩ := Option.isSome_iff_exists.1 (List.find?_isSome.2 ⟨a, there, passes⟩)
    rw [found, unique b a (List.find?_some found) passes]

namespace Choice

variable {α : Type} [Choice α]

/-- The slug of the name of a choice. -/
def slug (a : α) : List Char := Text.slug (name a).toList

/-- The first entry of a listing that a typed name means. -/
def lookUp (table : CaseTable) (listing : List α) (query : String) : Option α :=
  listing.find? fun a => table.matchesName (name a) query

theorem lookUp_caseless (listing : List α) (query : String) :
    lookUp .caseless listing query = listing.find? fun a => Text.matchesName (name a) query := by
  simp only [lookUp, CaseTable.matchesName_caseless]

end Choice

/-- Choices that are told apart by the slugs of their names. Each name has a word, and none of them
has a sigma. -/
structure Slugged (α : Type) [Choice α] : Prop where
  nodup : ((Choice.all (α := α)).map Choice.slug).Nodup
  filled : ∀ a ∈ Choice.all (α := α), Choice.slug a ≠ []
  plain : ∀ a ∈ Choice.all (α := α), (Choice.slug a).all (· ∉ smallSigmas) = true

/-- What is asked of the reading of typed names, which gives an entry or the failure for a name that
means nothing. -/
structure FoundBySlug (α : Type) [Choice α] (parse : String → Except Failure α)
    (notFound : String → Failure) : Prop where
  /-- A typed name gives an entry just if the entry has its slug. -/
  ok_iff : ∀ query a, parse query = .ok a ↔ Choice.slug a = Text.slug query.toList
  /-- It fails just if no entry has its slug, with the name as it was typed. -/
  error_iff : ∀ query failure, parse query = .error failure ↔
    failure = notFound query ∧ ∀ a : α, Choice.slug a ≠ Text.slug query.toList
  /-- No typed name means two entries. -/
  unique : ∀ (table : CaseTable) query (a b : α), table.matchesName (Choice.name a) query = true →
    table.matchesName (Choice.name b) query = true → a = b
  /-- The order of the entries makes no difference, nor which small letters sigmas are given. -/
  listing : ∀ (table : CaseTable) (listing : List α), listing.Perm Choice.all → ∀ query,
    Choice.lookUp table listing query = (parse query).toOption
  /-- A name can be typed with its words in any ASCII case, between anything that is in no word. -/
  respelled : ∀ a front typed back, Wordless front → Respelled (Choice.name a).toList typed →
    Wordless back → parse (String.ofList (front ++ typed ++ back)) = .ok a
  /-- What has no word means nothing. -/
  wordless : ∀ query, Wordless query.toList → parse query = .error (notFound query)

namespace Slugged

variable {α : Type} [Choice α]

theorem eq_of_slug (slugged : Slugged α) {a b : α} (same : Choice.slug a = Choice.slug b) : a = b :=
  List.inj_on_of_nodup_map slugged.nodup (Choice.mem_all a) (Choice.mem_all b) same

/-- A name of an entry is meant just if the slugs are equal, however sigmas are written. -/
theorem matchesName_iff (slugged : Slugged α) (table : CaseTable) (a : α) (query : String) :
    table.matchesName (Choice.name a) query = true ↔
      Choice.slug a = Text.slug query.toList := by
  -- The slug of the entry has no sigma, so it is the same for all tables; in the typed name there
  -- may be some.
  have plain : ∀ c ∈ Choice.slug a, c ∉ smallSigmas := by
    simpa using slugged.plain a (Choice.mem_all a)
  have own : table.slug (Choice.name a).toList = Choice.slug a :=
    (table.slug_eq_iff_of_plain plain).2 rfl
  rw [table.matchesName_iff, own, eq_comm, table.slug_eq_iff_of_plain plain, eq_comm]

theorem eq_of_matchesName (slugged : Slugged α) (table : CaseTable) {query : String} {a b : α}
    (first : table.matchesName (Choice.name a) query = true)
    (second : table.matchesName (Choice.name b) query = true) : a = b := by
  rw [slugged.matchesName_iff] at first second
  exact slugged.eq_of_slug (first.trans second.symm)

theorem lookUp_eq_some_iff (slugged : Slugged α) (table : CaseTable) {listing : List α}
    (every : listing.Perm Choice.all) {query : String} {a : α} :
    Choice.lookUp table listing query = some a ↔ Choice.slug a = Text.slug query.toList := by
  have there : a ∈ listing := every.mem_iff.2 (Choice.mem_all a)
  rw [Choice.lookUp, find?_eq_some_iff_of_unique fun _ _ => slugged.eq_of_matchesName table,
    slugged.matchesName_iff]
  exact and_iff_right there

/-- Entries with distinct slugs are found by them, if a typed name is read by a search through the
entries. -/
theorem foundBySlug (slugged : Slugged α) {parse : String → Except Failure α}
    {notFound : String → Failure}
    (search : ∀ query, parse query =
      ((Choice.all (α := α)).find? fun a => Text.matchesName (Choice.name a) query).elim
        (.error (notFound query)) .ok) :
    FoundBySlug α parse notFound := by
  simp only [← Choice.lookUp_caseless] at search
  have found (query : String) (a : α) :
      Choice.lookUp .caseless Choice.all query = some a ↔
        Choice.slug a = Text.slug query.toList :=
    slugged.lookUp_eq_some_iff .caseless (.refl _)
  have ok_iff (query : String) (a : α) :
      parse query = .ok a ↔ Choice.slug a = Text.slug query.toList := by
    rw [search, ← found]
    cases (Choice.lookUp .caseless Choice.all query : Option α) <;> simp
  have error_iff (query : String) (failure : Failure) : parse query = .error failure ↔
      failure = notFound query ∧ ∀ a : α, Choice.slug a ≠ Text.slug query.toList := by
    simp only [search, ne_eq, ← found]
    cases (Choice.lookUp .caseless Choice.all query : Option α) <;> simp [eq_comm]
  refine ⟨ok_iff, error_iff, fun table _ _ _ => slugged.eq_of_matchesName table, ?listing,
    ?respelled, ?wordless⟩
  case listing =>
    intro table listing every query
    have same : Choice.lookUp table listing query = Choice.lookUp .caseless Choice.all query :=
      Option.ext fun a => by rw [found, slugged.lookUp_eq_some_iff table every]
    rw [same, search]
    cases (Choice.lookUp .caseless Choice.all query : Option α) <;> rfl
  case respelled =>
    intro a front typed back before respelled behind
    have same := CaseTable.caseless.slug_of_respelled respelled before behind
    rw [CaseTable.slug_caseless, CaseTable.slug_caseless] at same
    rw [ok_iff, String.toList_ofList, same, Choice.slug]
  case wordless =>
    intro query wordless
    have empty := CaseTable.caseless.slug_of_wordless wordless
    rw [CaseTable.slug_caseless] at empty
    refine (error_iff query _).2 ⟨rfl, fun a => ?_⟩
    rw [empty]
    exact slugged.filled a (Choice.mem_all a)

end Slugged

theorem slugged_template : Slugged Template where
  nodup := by decide +kernel
  filled := by decide +kernel
  plain := by decide +kernel

theorem slugged_premade : Slugged Premade where
  nodup := by decide +kernel
  filled := by decide +kernel
  plain := by decide +kernel

theorem Template.parse_eq (query : String) : parse query =
    ((Choice.all (α := Template)).find? fun a => Text.matchesName (Choice.name a) query).elim
      (.error (.templateNotFound query)) .ok := by
  rw [parse]
  split
  · next found => rw [found, Option.elim_some]
  · next missing => rw [missing, Option.elim_none]

theorem Premade.parse_eq (query : String) : parse query =
    ((Choice.all (α := Premade)).find? fun a => Text.matchesName (Choice.name a) query).elim
      (.error (.premadeNotFound query)) .ok := by
  rw [parse]
  split
  · next found => rw [found, Option.elim_some]
  · next missing => rw [missing, Option.elim_none]

/-- **A typed name is read with tolerance and means at most one entry.** It means a name just if
both have the same slug. This holds of all names, and for all tables that decide on the small
letters of sigmas, the one without cased characters among them. The templates and the premade pages
are found in this way. -/
theorem Choice.lookUp_of_slugs :
    (∀ name query : String, Text.matchesName name query = true ↔
      Text.slug name.toList = Text.slug query.toList) ∧
    (∀ (table : CaseTable) (name query : String), table.matchesName name query = true ↔
      table.slug name.toList = table.slug query.toList) ∧
    CaseTable.caseless.matchesName = Text.matchesName ∧
    FoundBySlug Template Template.parse .templateNotFound ∧
    FoundBySlug Premade Premade.parse .premadeNotFound := by
  refine ⟨fun name query => ?_, CaseTable.matchesName_iff, CaseTable.matchesName_caseless,
    slugged_template.foundBySlug Template.parse_eq, slugged_premade.foundBySlug Premade.parse_eq⟩
  have caseless := CaseTable.caseless.matchesName_iff name query
  rwa [CaseTable.matchesName_caseless, CaseTable.slug_caseless, CaseTable.slug_caseless] at caseless

/-- A premade page by its name in other capitals, between other separators and with more of them
around, in the reversed order of pages; a name with a sigma at the end of a word; and a dash between
spaces, which means nothing. -/
theorem Choice.lookUp_of_slugs_respelled :
    let table : CaseTable := ⟨isAlphanumeric, fun _ => false, isAlphanumeric_toLower, fun _ => rfl⟩
    let pages : List Premade := Choice.all.reverse
    let query := String.ofList ("\u2003¿".toList ++ "sAAS…POWER_/_uP".toList ++ "!".toList)
    Respelled "SaaS Power-Up".toList "sAAS…POWER_/_uP".toList ∧ pages.Perm Choice.all ∧
      Premade.parse query = .ok .saasPowerUp ∧
      Choice.lookUp table pages query = some .saasPowerUp ∧
      table.matchesName "Η ΟΔΟΣ" " η-οδος. " = true ∧
      Wordless " — ".toList ∧ Template.parse " — " = .error (.templateNotFound " — ") := by
  intro table pages query
  have respelled : Respelled "SaaS Power-Up".toList "sAAS…POWER_/_uP".toList := by
    have words : Respelled
        ("SaaS".toList ++ " ".toList ++ ("Power".toList ++ "-".toList ++ "Up".toList))
        ("sAAS".toList ++ "…".toList ++ ("POWER".toList ++ "_/_".toList ++ "uP".toList)) :=
      .between (by decide) (by decide) (by decide +kernel) (by decide) (by decide +kernel)
        (.between (by decide) (by decide) (by decide +kernel) (by decide) (by decide +kernel)
          (.word (by decide)))
    simpa using words
  have reversed : pages.Perm Choice.all := List.reverse_perm Choice.all
  rcases lookUp_of_slugs with ⟨-, matches_iff, -, templates, premades⟩
  have parsed : Premade.parse query = .ok .saasPowerUp :=
    premades.respelled .saasPowerUp _ _ _ (by decide +kernel) respelled (by decide +kernel)
  have listed := premades.listing table pages reversed query
  rw [parsed] at listed
  have dash : Wordless " — ".toList := by decide +kernel
  exact ⟨respelled, reversed, parsed, listed, (matches_iff table _ _).2 (by decide +kernel), dash,
    templates.wordless " — " dash⟩

end PageBuilder
