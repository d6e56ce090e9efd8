import PageBuilder.Json.Literal

/-!
# Numbers read back

The characters of a number literal are read as that literal again, provided its parts are digits
without a superfluous zero in front. The literals that are made from integers and from binary
numbers are of that kind. What a literal *denotes* is treated only for integers: which binary
numbers survive the two roundings of the reader is not decided here.
-/

namespace PageBuilder

open Numeric

namespace Json
namespace Literal

/-- A literal as the grammar of numbers has it. -/
structure Proper (l : Literal) : Prop where
  whole_ne_nil : l.whole ≠ []
  whole_digits : ∀ c ∈ l.whole, c.isDigit = true
  leading : l.whole.head? = some '0' → l.whole.length ≤ 1
  fraction_digits : ∀ c ∈ l.fraction, c.isDigit = true

/-! ## Digits -/

theorem takeWhile_digits {ds r : List Char} (digits : ∀ c ∈ ds, c.isDigit = true)
    (stop : ∀ c ∈ r.head?, c.isDigit = false) :
    (ds ++ r).takeWhile Char.isDigit = ds ∧ (ds ++ r).dropWhile Char.isDigit = r := by
  rw [List.takeWhile_append_of_pos digits, List.dropWhile_append_of_pos digits]
  cases r with
  | nil =>
    simp
  | cons c rest =>
    have : c.isDigit = false := stop c rfl
    simp [this]

theorem isDigit_decimalDigits {n : Nat} {c : Char} (h : c ∈ decimalDigits n) :
    c.isDigit = true :=
  Nat.isDigit_of_mem_toDigits (by decide) (by decide) h

theorem head?_digits_append (n : Nat) (rest : List Char) :
    (decimalDigits n ++ rest).head? = (decimalDigits n).head? := by
  rw [List.head?_append]
  cases front : (decimalDigits n).head? with
  | none =>
    exact absurd (List.head?_eq_none_iff.1 front) Nat.toDigits_ne_nil
  | some c =>
    rfl

theorem head_digits_ne_zero {n : Nat} (h : 0 < n) : (decimalDigits n).head? ≠ some '0' := by
  induction n using Nat.strongRecOn with
  | ind n ih =>
    by_cases small : n < 10
    · -- A single digit.
      rw [decimalDigits, Nat.toDigits_of_lt_base small]
      have all : ∀ d : Fin 10, 0 < d.val → d.val.digitChar ≠ '0' := by decide
      simpa using all ⟨n, small⟩ h
    · -- The digits of a tenth of the number stand in front.
      rw [decimalDigits, Nat.toDigits_of_base_le (by decide) (Nat.le_of_not_lt small),
        head?_digits_append]
      exact ih (n / 10) (by omega) (by omega)

theorem leading_digits (n : Nat) :
    (decimalDigits n).head? = some '0' → (decimalDigits n).length ≤ 1 := by
  intro zero
  cases n with
  | zero =>
    exact Nat.le_refl 1
  | succ n =>
    exact absurd zero (head_digits_ne_zero (Nat.succ_pos n))

/-! ## Characters of a literal -/

theorem exponentOfChars?_signed (e : Int) :
    exponentOfChars? ((if e < 0 then '-' else '+') :: decimalDigits e.natAbs) = some e := by
  have digits : (decimalDigits e.natAbs).all Char.isDigit = true :=
    List.all_eq_true.2 fun c hc => isDigit_decimalDigits hc
  have some_digit : (decimalDigits e.natAbs).isEmpty = false := by
    simp [List.isEmpty_eq_false_iff, Nat.toDigits_ne_nil]
  have number : natOfDigits (decimalDigits e.natAbs) = e.natAbs :=
    Nat.ofDigitChars_ten_toDigits
  by_cases negative : e < 0
  · have back : -(e.natAbs : Int) = e := by omega
    simp only [negative, if_true, exponentOfChars?, digits, some_digit, number, Bool.not_true,
      Bool.or_self, Bool.false_eq_true, if_false, back]
  · have back : (e.natAbs : Int) = e := by omega
    simp only [negative, if_false, exponentOfChars?, digits, some_digit, number, Bool.not_true,
      Bool.or_self, Bool.false_eq_true, back]

/-- The written exponent of a literal. -/
def exponentChars (l : Literal) : List Char := l.exponent.elim [] exponentText

theorem chars_eq (l : Literal) :
    l.chars = (if l.negative then ['-'] else [])
      ++ (l.whole ++ ((if l.fraction.isEmpty then [] else '.' :: l.fraction)
        ++ l.exponentChars)) := by
  unfold chars exponentChars
  cases l.exponent <;> simp

theorem tailOfChars?_exponentChars (l : Literal) :
    tailOfChars? { l with exponent := none } l.exponentChars = some l := by
  rcases l with ⟨negative, whole, fraction, exponent⟩
  cases exponent with
  | none =>
    rfl
  | some e =>
    simp [exponentChars, tailOfChars?, exponentText, exponentOfChars?_signed]

theorem magnitudeOfChars?_chars {l : Literal} (h : l.Proper) :
    magnitudeOfChars? l.negative
      (l.whole ++ ((if l.fraction.isEmpty then [] else '.' :: l.fraction) ++ l.exponentChars))
        = some l := by
  have bare := tailOfChars?_exponentChars l
  -- Digits in front of the exponent end where it starts, since it starts with a letter.
  have letter : ∀ c ∈ l.exponentChars.head?, c = 'e' := by
    unfold exponentChars
    cases l.exponent <;> simp [exponentText]
  have accepted : (l.whole.isEmpty || (l.whole.head? == some '0' && decide (1 < l.whole.length)))
      = false := by
    rw [Bool.or_eq_false_iff, Bool.and_eq_false_iff]
    refine ⟨by simpa using h.whole_ne_nil, ?_⟩
    by_cases zero : l.whole.head? = some '0'
    · right
      simpa using h.leading zero
    · left
      simpa using zero
  by_cases integral : l.fraction = []
  · -- Without a fraction the exponent follows at once.
    have parts := takeWhile_digits h.whole_digits (r := l.exponentChars)
      (fun c hc => by rw [letter c hc]; decide)
    have same : (⟨l.negative, l.whole, [], none⟩ : Literal) = { l with exponent := none } := by
      rw [← integral]
    simp only [integral, List.isEmpty_nil, if_true, List.nil_append, magnitudeOfChars?, parts,
      accepted]
    rw [if_neg (by decide)]
    split
    · next rest point =>
      rw [point] at letter
      exact absurd (letter '.' rfl) (by decide)
    · rw [same]
      exact bare
  · have parts := takeWhile_digits h.whole_digits (r := '.' :: l.fraction ++ l.exponentChars)
      (fun c hc => by cases hc; decide)
    have fraction := takeWhile_digits h.fraction_digits (r := l.exponentChars)
      (fun c hc => by rw [letter c hc]; decide)
    have some_digit : l.fraction.isEmpty = false := by simpa using integral
    simp only [some_digit, Bool.false_eq_true, if_false, magnitudeOfChars?, parts, accepted]
    simp only [List.cons_append, fraction, some_digit, Bool.false_eq_true, if_false]
    exact bare

/-- A proper literal is read from its characters. -/
theorem ofChars?_chars {l : Literal} (h : l.Proper) : ofChars? l.chars = some l := by
  have magnitude := magnitudeOfChars?_chars h
  rw [chars_eq]
  cases negative : l.negative with
  | true =>
    rw [negative] at magnitude
    exact magnitude
  | false =>
    rw [negative] at magnitude
    rcases List.exists_cons_of_ne_nil h.whole_ne_nil with ⟨first, others, whole⟩
    have digit : first.isDigit = true := h.whole_digits first (by simp [whole])
    rw [whole] at magnitude ⊢
    simp only [Bool.false_eq_true, if_false, List.nil_append, List.cons_append] at magnitude ⊢
    unfold ofChars?
    split
    · -- A digit is no sign.
      next sign =>
      cases sign
      cases digit
    · exact magnitude

/-- Every character of a proper literal belongs to a number, and the first one starts one. -/
theorem chars_cons {l : Literal} (h : l.Proper) :
    ∃ first rest, l.chars = first :: rest ∧ (first.isDigit = true ∨ first = '-') := by
  rcases List.exists_cons_of_ne_nil h.whole_ne_nil with ⟨first, others, whole⟩
  have digit : first.isDigit = true := h.whole_digits first (by simp [whole])
  rw [chars_eq, whole]
  cases l.negative with
  | true =>
    exact ⟨'-', _, rfl, Or.inr rfl⟩
  | false =>
    exact ⟨first, _, rfl, Or.inl digit⟩

/-! ## Literals of numbers -/

theorem proper_ofNat (n : Nat) : (ofNat n).Proper where
  whole_ne_nil := Nat.toDigits_ne_nil
  whole_digits _ hc := isDigit_decimalDigits hc
  leading := leading_digits n
  fraction_digits _ hc := nomatch hc

/-- An integer of 64 bits denotes itself. -/
theorem value_ofNat {n : Nat} (h : n ≤ maxWord) : (ofNat n).value = some (.natural n) := by
  have number : natOfDigits (decimalDigits n) = n := Nat.ofDigitChars_ten_toDigits
  simp [value, ofNat, number, h]

/-! ## Literals of binary numbers -/

theorem isDigit_parts (d : Decimal) :
    (∀ c ∈ d.parts.1, c.isDigit = true) ∧ ∀ c ∈ d.parts.2, c.isDigit = true := by
  have digits : ∀ c ∈ decimalDigits d.digits, c.isDigit = true := fun c hc =>
    isDigit_decimalDigits hc
  have zeros : ∀ n, ∀ c ∈ List.replicate n '0', c.isDigit = true := by
    intro n c hc
    rw [List.eq_of_mem_replicate hc]
    decide
  simp only [Decimal.parts]
  split
  · refine ⟨?_, by simp⟩
    intro c hc
    exact (List.mem_append.1 hc).elim (digits c) (zeros _ c)
  · split
    · rw [List.splitAt_eq]
      exact ⟨fun c hc => digits c (List.mem_of_mem_take hc),
        fun c hc => digits c (List.mem_of_mem_drop hc)⟩
    · refine ⟨by simp, ?_⟩
      intro c hc
      exact (List.mem_append.1 hc).elim (zeros _ c) (digits c)

theorem proper_parts {d : Decimal} (h : 0 < d.digits ∨ d.power ≤ 0) :
    d.parts.1 ≠ [] ∧ (∀ c ∈ d.parts.1, c.isDigit = true) ∧
      (d.parts.1.head? = some '0' → d.parts.1.length ≤ 1) ∧
      ∀ c ∈ d.parts.2, c.isDigit = true := by
  have some_digit : decimalDigits d.digits ≠ [] := Nat.toDigits_ne_nil
  have front : d.parts.1 ≠ [] ∧ (d.parts.1.head? = some '0' → d.parts.1.length ≤ 1) := by
    simp only [Decimal.parts]
    split
    · next integral =>
      -- The digits are all in front of the point, with zeros behind them.
      refine ⟨by simp [some_digit], ?_⟩
      intro zero
      rw [head?_digits_append] at zero
      rcases h with positive | small
      · exact absurd zero (head_digits_ne_zero positive)
      · -- Without a positive power no zeros are put behind the digits.
        have none : d.power.toNat = 0 := by omega
        simpa [none] using leading_digits d.digits zero
    · split
      · next short =>
        -- The point stands between the digits.
        rw [List.splitAt_eq]
        have front : 0 < (decimalDigits d.digits).length - (-d.power).toNat := by omega
        refine ⟨?_, ?_⟩
        · simpa [some_digit] using Nat.ne_of_gt front
        · intro zero
          rw [List.head?_take, if_neg (Nat.ne_of_gt front)] at zero
          exact Nat.le_trans (List.length_take_le' _ _) (leading_digits d.digits zero)
      · simp
  exact ⟨front.1, (isDigit_parts d).1, front.2, (isDigit_parts d).2⟩

theorem proper_ofDecimal (range : PositionalRange) (negative : Bool) {d : Decimal}
    (h : 0 < d.digits ∨ d.power ≤ 0) : (ofDecimal range negative d).Proper := by
  -- Without exponent the parts are those of the decimal; with it, one digit stands in front.
  rcases proper_parts h with ⟨whole_ne_nil, whole_digits, leading, fraction_digits⟩
  unfold ofDecimal
  dsimp only
  split
  · refine ⟨whole_ne_nil, whole_digits, leading, ?_⟩
    intro c hc
    dsimp only at hc
    split at hc
    · rw [List.mem_singleton.1 hc]
      decide
    · exact fraction_digits c hc
  · refine ⟨?_, ?_, ?_, ?_⟩
    · simp [Nat.toDigits_ne_nil]
    · exact fun c hc => isDigit_decimalDigits (List.mem_of_mem_take hc)
    · exact fun _ => List.length_take_le 1 _
    · exact fun c hc => isDigit_decimalDigits (List.mem_of_mem_drop hc)

end Literal
end Json

namespace Numeric

theorem significand_pos {F : BinaryFormat} {x : Binary F} (h : x.isZero = false) :
    0 < x.significand := by
  have positive : x.magnitude ≠ 0 := by simpa [Binary.isZero] using h
  unfold Binary.significand
  dsimp only
  split
  · next subnormal =>
    -- Below the normal numbers the fraction is all there is, so it is not zero.
    have parts := Nat.div_add_mod x.magnitude (Nat.pow 2 F.fractionBits)
    rw [subnormal, Nat.mul_zero, Nat.zero_add] at parts
    omega
  · exact Nat.add_pos_left (Nat.pow_pos (by decide)) _

theorem low_pos {F : BinaryFormat} {x : Binary F} (h : x.isZero = false) :
    0 < (RoundingInterval.of x).low := by
  have place : 0 < Nat.pow 2 x.exponent := Nat.pow_pos (by decide)
  have least : Nat.pow 2 x.exponent ≤ x.significand * Nat.pow 2 x.exponent :=
    Nat.le_mul_of_pos_left _ (significand_pos h)
  simp only [RoundingInterval.of, Nat.mul_assoc]
  split <;> omega

/-- A grid has no zero to offer in an interval of positive numbers. -/
theorem onGrid_digits_pos {i : RoundingInterval} (low : 0 < i.low) {tie : TieRule} {power : Int}
    {d : Decimal} (found : i.onGrid tie power = some d) : 0 < d.digits := by
  have down : 0 < Nat.pow 10 (-power).toNat := Nat.pow_pos (by decide)
  have outside : ∀ up, i.contains (0 * up) (Nat.pow 10 (-power).toNat) = false := by
    intro up
    have : 0 < i.low * Nat.pow 10 (-power).toNat := Nat.mul_pos low down
    unfold RoundingInterval.contains
    split
    · rw [Bool.and_eq_false_iff, decide_eq_false_iff_not]
      omega
    · rw [Bool.and_eq_false_iff, decide_eq_false_iff_not]
      omega
  simp only [RoundingInterval.onGrid] at found
  -- A neighbour on the grid has no digits only if it is zero, and that lies outside.
  generalize i.value * Nat.pow 10 (-power).toNat / (Nat.pow 10 power.toNat * i.scale) = floor
    at found
  cases floor with
  | zero =>
    rw [outside] at found
    split at found <;> simp_all
    all_goals subst found; exact Nat.one_pos
  | succ floor =>
    split at found <;> simp_all <;> subst found <;> simp
    split <;> omega

theorem search_digits_pos {i : RoundingInterval} (low : 0 < i.low) {tie : TieRule} {count : Nat}
    {power : Int} {d : Decimal} (found : i.search tie count power = some d) : 0 < d.digits := by
  induction count generalizing power with
  | zero =>
    cases found
  | succ count ih =>
    simp only [RoundingInterval.search] at found
    cases grid : i.onGrid tie power with
    | none =>
      rw [grid] at found
      exact ih found
    | some first =>
      rw [grid] at found
      cases found
      exact onGrid_digits_pos low grid

theorem strip_digits_pos {limit : Nat} {d : Decimal} (h : 0 < d.digits) :
    0 < (d.strip limit).digits := by
  induction limit generalizing d with
  | zero =>
    exact h
  | succ limit ih =>
    unfold Decimal.strip
    split
    · exact ih (by dsimp only; omega)
    · exact h

theorem shortest_digits {F : BinaryFormat} (tie : TieRule) (x : Binary F) :
    0 < (x.shortest tie).digits ∨ (x.shortest tie).power ≤ 0 := by
  unfold Binary.shortest
  cases zero : x.isZero with
  | true =>
    exact Or.inr (Int.le_refl 0)
  | false =>
    rw [if_neg (by decide)]
    dsimp only
    split
    · next d found =>
      exact Or.inl (strip_digits_pos (search_digits_pos (low_pos zero) found))
    · exact Or.inr (Int.le_refl 0)

end Numeric

namespace Json
namespace Literal

theorem proper_ofBinary {F : BinaryFormat} (range : PositionalRange) (x : Binary F) :
    (ofBinary range x).Proper :=
  proper_ofDecimal range x.negative (shortest_digits .toEven x)

end Literal
end Json
end PageBuilder
