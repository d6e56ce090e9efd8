import PageBuilder.Proofs.NumberText
import PageBuilder.Json.Reader
import PageBuilder.Json.Printer

/-!
# Texts of values read back

The indented text of a value is read as that value. The proof follows the two passes of the reader:
the characters of a value are scanned into its tokens, whatever ends the value behind them, and its
tokens are put together into the value, whatever is open around it. Values that cannot be written,
those with an unreadable part or with a number no literal stands for, are excluded.
-/

namespace PageBuilder
namespace Json

/-! ## Values that can be written -/

mutual

/-- Whether a value can be written: all its numbers are proper, and no part is unreadable. -/
def Writable : Json → Prop
  | number l => l.Proper
  | array items => WritableItems items
  | object members => WritableMembers members
  | unreadable => False
  | null => True
  | bool _ => True
  | string _ => True

def WritableItems : List Json → Prop
  | [] => True
  | item :: rest => Writable item ∧ WritableItems rest

def WritableMembers : List (String × Json) → Prop
  | [] => True
  | (_, value) :: rest => Writable value ∧ WritableMembers rest

end

theorem writableItems_of_forall {items : List Json} (h : ∀ item ∈ items, Writable item) :
    WritableItems items := by
  induction items with
  | nil =>
    exact trivial
  | cons item rest ih =>
    exact ⟨h item (List.mem_cons_self ..), ih fun other ho => h other (List.mem_cons_of_mem _ ho)⟩

theorem writableMembers_of_forall {members : List (String × Json)}
    (h : ∀ m ∈ members, Writable m.2) : WritableMembers members := by
  induction members with
  | nil =>
    exact trivial
  | cons member rest ih =>
    exact ⟨h member (List.mem_cons_self ..), ih fun other ho => h other (List.mem_cons_of_mem _ ho)⟩

mutual

/-- The tokens of a value. -/
def tokensOf : Json → List Token
  | null => [.null]
  | bool b => [.bool b]
  | number l => [.number l]
  | string s => [.string (some s)]
  | array [] => [.openArray, .closeArray]
  | array (item :: rest) => .openArray :: (tokensOf item ++ (tokensOfItems rest ++ [.closeArray]))
  | object [] => [.openObject, .closeObject]
  | object ((name, value) :: rest) =>
    .openObject :: .string (some name) :: .colon ::
      (tokensOf value ++ (tokensOfMembers rest ++ [.closeObject]))
  | unreadable => [.null]

def tokensOfItems : List Json → List Token
  | [] => []
  | item :: rest => .comma :: (tokensOf item ++ tokensOfItems rest)

def tokensOfMembers : List (String × Json) → List Token
  | [] => []
  | (name, value) :: rest =>
    .comma :: .string (some name) :: .colon :: (tokensOf value ++ tokensOfMembers rest)

end

/-! ## One character -/

theorem tokens_step {s next : Scan} {c : Char} {out : List Token}
    (stepped : s.step c = some (out, next)) (rest : List Char) : s.tokens (c :: rest) = (next.tokens rest).map (out ++ ·) := by
  simp only [Scan.tokens, stepped, Option.bind_eq_bind, Option.bind_some]
  cases next.tokens rest <;> rfl

theorem tokens_none {s : Scan} {c : Char} (stuck : s.step c = none) (rest : List Char) :
    s.tokens (c :: rest) = none := by
  simp only [Scan.tokens, stuck, Option.bind_eq_bind, Option.bind_none]

theorem tokens_silent {s next : Scan} {c : Char} (stepped : s.step c = some ([], next))
    (rest : List Char) : s.tokens (c :: rest) = next.tokens rest := by
  rw [tokens_step stepped]
  simp

/-! ## Strings -/

theorem hexValue?_hexDigit {n : Nat} (h : n < 16) : Scan.hexValue? (hexDigit n) = some n := by
  have all : ∀ d : Fin 16, Scan.hexValue? (hexDigit d) = some d.val := by decide
  exact all ⟨n, h⟩

/-- A unit below the surrogates stands for its character. -/
theorem join_unit {n : Nat} (h : n < 0x20) (rest : List Piece) :
    Piece.join (.unit n :: rest) = (Piece.join rest).map (Char.ofNat n :: ·) := by
  have high : Piece.isHigh n = false := by
    simp [Piece.isHigh]
    omega
  have low : Piece.isLow n = false := by
    simp [Piece.isLow]
    omega
  -- A unit pairs up with the next piece only if it is half of a surrogate pair.
  cases rest with
  | nil =>
    simp [Piece.join, high, low]
  | cons piece more =>
    cases piece with
    | char c =>
      simp [Piece.join, high, low]
    | unit m =>
      simp [Piece.join, high, low]

/-- A character in its written form is scanned as one piece that stands for it. -/
theorem scan_escapeChar (c : Char) :
    ∃ piece, (∀ more, Piece.join (piece :: more) = (Piece.join more).map (c :: ·)) ∧
      ∀ collected rest, (Scan.text collected).tokens (escapeChar c ++ rest) =
        (Scan.text (piece :: collected)).tokens rest := by
  by_cases control : c.toNat < 0x20 ∧ escapeChar c =
      ['\\', 'u', '0', '0', hexDigit (c.toNat / 16), hexDigit (c.toNat % 16)]
  · -- A control character without a short form is one unit, written with two hexadecimal digits.
    refine ⟨.unit c.toNat, ?_, ?_⟩
    · intro more
      rw [join_unit control.1, Char.ofNat_toNat]
    · intro collected rest
      have high := hexValue?_hexDigit (n := c.toNat / 16) (by omega)
      have low := hexValue?_hexDigit (n := c.toNat % 16) (by omega)
      have zero : Scan.hexValue? '0' = some 0 := by decide
      have whole : c.toNat / 16 * 16 + c.toNat % 16 = c.toNat := by omega
      rw [control.2]
      simp [Scan.tokens, Scan.step, zero, high, low, whole]
  · refine ⟨.char c, fun _ => rfl, ?_⟩
    intro collected rest
    -- The characters with a short form, and those that stand for themselves.
    unfold escapeChar at control ⊢
    split
    · next h => subst h; simp [Scan.tokens, Scan.step, Scan.escaped?]
    split
    · next h => subst h; simp [Scan.tokens, Scan.step, Scan.escaped?]
    split
    · next h => subst h; simp [Scan.tokens, Scan.step, Scan.escaped?]
    split
    · next h => subst h; simp [Scan.tokens, Scan.step, Scan.escaped?]
    split
    · next h => subst h; simp [Scan.tokens, Scan.step, Scan.escaped?]
    split
    · next h => subst h; simp [Scan.tokens, Scan.step, Scan.escaped?]
    split
    · next h => subst h; simp [Scan.tokens, Scan.step, Scan.escaped?]
    split
    · simp_all
    · next quote backslash _ _ _ _ _ plain =>
      exact tokens_silent (by simp [Scan.step, quote, backslash, plain]) rest

/-- The characters of a string are scanned as pieces that join to them. -/
theorem scan_escaped (text : List Char) :
    ∃ pieces, Piece.join pieces = some text ∧
      ∀ collected rest, (Scan.text collected).tokens (text.flatMap escapeChar ++ rest) =
        (Scan.text (pieces.reverse ++ collected)).tokens rest := by
  induction text with
  | nil =>
    exact ⟨[], rfl, fun _ _ => rfl⟩
  | cons c text ih =>
    -- The pieces are collected last first, hence the reversal.
    rcases ih with ⟨pieces, joined, scanned⟩
    rcases scan_escapeChar c with ⟨piece, stands, taken⟩
    refine ⟨piece :: pieces, by rw [stands, joined]; rfl, ?_⟩
    intro collected rest
    rw [List.flatMap_cons, List.append_assoc, taken, scanned]
    simp

theorem scan_quoted (text : String) (rest : List Char) :
    Scan.between.tokens (quoted text ++ rest) =
      (Scan.between.tokens rest).map (.string (some text) :: ·) := by
  rcases scan_escaped text.toList with ⟨pieces, joined, scanned⟩
  have opened : Scan.between.tokens (quoted text ++ rest) =
      (Scan.text []).tokens (text.toList.flatMap escapeChar ++ ('"' :: rest)) := by
    simp [quoted, Scan.tokens, Scan.step, Scan.start]
  -- The closing quote joins the pieces.
  have closed : (Scan.text (pieces.reverse ++ [])).step '"' =
      some ([.string (some text)], .between) := by
    simp [Scan.step, joined]
  rw [opened, scanned, tokens_step closed]
  rfl

/-! ## Words and numbers -/

/-- Whether a word or a number is over in front of a text. -/
def Ends (rest : List Char) : Prop :=
  ∀ c ∈ rest.head?, c.isAlpha = false ∧ Scan.isNumeric c = false

theorem ends_nil : Ends [] := by
  intro c hc
  cases hc

theorem ends_cons {c : Char} {rest : List Char} (alpha : c.isAlpha = false)
    (numeric : Scan.isNumeric c = false) : Ends (c :: rest) := by
  intro d hd
  cases hd
  exact ⟨alpha, numeric⟩

theorem ends_newline (level : Nat) (rest : List Char) : Ends (newline level ++ rest) :=
  ends_cons (by decide) (by decide)

theorem tokens_skip {c : Char} (h : Scan.isSeparator c = true) (rest : List Char) :
    Scan.between.tokens (c :: rest) = Scan.between.tokens rest := by
  have started : Scan.start c = some ([], .between) := by
    simp only [Scan.isSeparator, Bool.or_eq_true, decide_eq_true_eq] at h
    rcases h with ((rfl | rfl) | rfl) | rfl <;> decide
  exact tokens_silent (s := .between) started rest

theorem tokens_newline (level : Nat) (rest : List Char) :
    Scan.between.tokens (newline level ++ rest) = Scan.between.tokens rest := by
  rw [newline, List.cons_append, tokens_skip (by decide)]
  -- The break is skipped, and then the spaces of the indentation one by one.
  induction 2 * level with
  | zero =>
    rfl
  | succ n ih =>
    rw [List.replicate_succ, List.cons_append, tokens_skip (by decide), ih]

/-- What a word or a number was is settled by the text behind it, which is scanned as if it stood
alone. -/
theorem tokens_finish {s : Scan} {out : List Token} {rest : List Char}
    (settled : s.finish = some out)
    (leaves : ∀ c ∈ rest.head?, s.step c = (Scan.start c).map fun p => (out ++ p.1, p.2)) :
    s.tokens rest = (Scan.between.tokens rest).map (out ++ ·) := by
  cases rest with
  | nil =>
    rw [Scan.tokens, settled]
    simp [Scan.tokens, Scan.finish]
  | cons c rest =>
    have left := leaves c rfl
    cases started : Scan.start c with
    | none =>
      rw [started] at left
      rw [tokens_none left, tokens_none (s := .between) started]
      rfl
    | some p =>
      rw [started] at left
      rw [tokens_step left, tokens_step (s := .between) started, Option.map_map]
      simp [Function.comp_def]

/-- What is collected character by character is scanned as one token, once it is over. -/
theorem tokens_collected {state : List Char → Scan} {whole rest : List Char} {out : List Token}
    (takes : ∀ collected, ∀ c ∈ whole, (state collected).step c = some ([], state (c :: collected)))
    (settled : ∀ collected, collected.reverse = whole → (state collected).finish = some out)
    (leaves : ∀ collected, collected.reverse = whole → ∀ c ∈ rest.head?,
      (state collected).step c = (Scan.start c).map fun p => (out ++ p.1, p.2))
    (collected todo : List Char) (parts : collected.reverse ++ todo = whole) :
    (state collected).tokens (todo ++ rest) = (Scan.between.tokens rest).map (out ++ ·) := by
  -- By induction on what is still to come; what has been collected grows at its cost.
  induction todo generalizing collected with
  | nil =>
    rw [List.append_nil] at parts
    exact tokens_finish (settled collected parts) (leaves collected parts)
  | cons c todo ih =>
    have taken := takes collected c (by simp [← parts])
    have later := ih (c :: collected) (by simpa using parts)
    rw [List.cons_append, tokens_silent taken, later]

theorem tokens_word {word : List Char} {token : Token} {rest : List Char}
    (known : Scan.ofWord? word = some token) (letters : word.all Char.isAlpha = true)
    (ends : Ends rest) (collected todo : List Char) (parts : collected.reverse ++ todo = word) :
    (Scan.word collected).tokens (todo ++ rest) =
      (Scan.between.tokens rest).map ([token] ++ ·) := by
  have settled : ∀ done : List Char, done.reverse = word →
      (Scan.word done).finish = some [token] := by
    intro done whole
    simp [Scan.finish, whole, known]
  refine tokens_collected ?_ settled ?_ collected todo parts
  · intro done c hc
    have letter : c.isAlpha = true := List.all_eq_true.1 letters c hc
    simp [Scan.step, letter]
  · intro done whole c hc
    simp only [Scan.step, (ends c hc).1, settled done whole]
    cases Scan.start c <;> rfl

theorem tokens_digits {l : Literal} (proper : l.Proper)
    (numeric : ∀ c ∈ l.chars, Scan.isNumeric c = true) {rest : List Char} (ends : Ends rest)
    (collected todo : List Char) (parts : collected.reverse ++ todo = l.chars) :
    (Scan.digits collected).tokens (todo ++ rest) =
      (Scan.between.tokens rest).map ([.number l] ++ ·) := by
  have settled : ∀ done : List Char, done.reverse = l.chars →
      (Scan.digits done).finish = some [.number l] := by
    intro done whole
    simp [Scan.finish, whole, Literal.ofChars?_chars proper]
  refine tokens_collected ?_ settled ?_ collected todo parts
  · intro done c hc
    simp [Scan.step, numeric c hc]
  · intro done whole c hc
    simp only [Scan.step, (ends c hc).2, settled done whole]
    cases Scan.start c <;> rfl

/-- Every character of a proper literal can stand in a number. -/
theorem numeric_chars {l : Literal} (proper : l.Proper) :
    ∀ c ∈ l.chars, Scan.isNumeric c = true := by
  have digits : ∀ c : Char, c.isDigit = true → Scan.isNumeric c = true := by
    intro c digit
    simp [Scan.isNumeric, digit]
  intro c hc
  -- A character is in one of the four parts that a literal is written in.
  simp only [Literal.chars_eq, List.mem_append] at hc
  rcases hc with sign | whole | fraction | exponent
  · split at sign
    · rw [List.mem_singleton.1 sign]
      decide
    · cases sign
  · exact digits c (proper.whole_digits c whole)
  · split at fraction
    · cases fraction
    · rcases List.mem_cons.1 fraction with rfl | digit
      · decide
      · exact digits c (proper.fraction_digits c digit)
  · unfold Literal.exponentChars at exponent
    cases some_exponent : l.exponent with
    | none =>
      rw [some_exponent] at exponent
      cases exponent
    | some e =>
      rw [some_exponent] at exponent
      simp only [Option.elim_some, Literal.exponentText, List.mem_cons] at exponent
      rcases exponent with rfl | sign | digit
      · decide
      · rw [sign]
        split <;> decide
      · exact digits c (Literal.isDigit_decimalDigits digit)

theorem start_digit {c : Char} (digit : c.isDigit = true) :
    Scan.start c = some ([], .digits [c]) := by
  have ne : ∀ d : Char, d.isDigit = false → c ≠ d := by
    intro d other same
    rw [same, other] at digit
    cases digit
  have separator : Scan.isSeparator c = false := by
    simp [Scan.isSeparator, ne ' ' (by decide), ne '\t' (by decide), ne '\n' (by decide),
      ne '\r' (by decide)]
  have numeric : (Scan.isNumeric c && c ≠ 'e' && c ≠ 'E') = true := by
    simp [Scan.isNumeric, digit, ne 'e' (by decide), ne 'E' (by decide)]
  unfold Scan.start
  -- No digit is one of the characters that are tokens by themselves.
  split
  all_goals first | exact absurd digit (by decide) | skip
  rw [separator, numeric]
  rfl

theorem scan_number {l : Literal} (proper : l.Proper) {rest : List Char} (ends : Ends rest) :
    Scan.between.tokens (l.chars ++ rest) =
      (Scan.between.tokens rest).map ([.number l] ++ ·) := by
  rcases Literal.chars_cons proper with ⟨first, others, chars, starts⟩
  rw [chars]
  -- The first character starts a number, the others only continue it.
  have started : Scan.between.step first = some ([], .digits [first]) := by
    rcases starts with digit | rfl
    · exact start_digit digit
    · decide
  rw [List.cons_append, tokens_silent started]
  exact tokens_digits proper (numeric_chars proper) ends [first] others chars.symm

theorem scan_null {rest : List Char} (ends : Ends rest) :
    Scan.between.tokens (['n', 'u', 'l', 'l'] ++ rest) =
      (Scan.between.tokens rest).map ([.null] ++ ·) := by
  have started : Scan.between.step 'n' = some ([], .word ['n']) := by decide
  rw [List.cons_append, tokens_silent started]
  exact tokens_word (by decide) (by decide) ends ['n'] ['u', 'l', 'l'] rfl

theorem scan_bool (b : Bool) {rest : List Char} (ends : Ends rest) (level : Nat) :
    Scan.between.tokens (chars level (.bool b) ++ rest) =
      (Scan.between.tokens rest).map ([.bool b] ++ ·) := by
  cases b with
  | true =>
    have started : Scan.between.step 't' = some ([], .word ['t']) := by decide
    rw [chars, List.cons_append, tokens_silent started]
    exact tokens_word (by decide) (by decide) ends ['t'] ['r', 'u', 'e'] rfl
  | false =>
    have started : Scan.between.step 'f' = some ([], .word ['f']) := by decide
    rw [chars, List.cons_append, tokens_silent started]
    exact tokens_word (by decide) (by decide) ends ['f'] ['a', 'l', 's', 'e'] rfl

/-! ## Scanning a value -/

theorem ends_itemsChars (level : Nat) (items : List Json) {rest : List Char} (ends : Ends rest) :
    Ends (itemsChars level items ++ rest) := by
  cases items with
  | nil =>
    exact ends
  | cons item more =>
    rw [itemsChars]
    exact ends_cons (by decide) (by decide)

theorem ends_membersChars (level : Nat) (members : List (String × Json)) {rest : List Char}
    (ends : Ends rest) : Ends (membersChars level members ++ rest) := by
  cases members with
  | nil =>
    exact ends
  | cons member more =>
    rw [membersChars]
    exact ends_cons (by decide) (by decide)

/-- The marks between values are tokens by themselves. -/
theorem tokens_mark {c : Char} (token : Token) (mark : Scan.start c = some ([token], .between))
    (rest : List Char) :
    Scan.between.tokens (c :: rest) = (Scan.between.tokens rest).map (token :: ·) :=
  tokens_step (s := .between) mark rest

theorem scan_colon (rest : List Char) :
    Scan.between.tokens (':' :: ' ' :: rest) = (Scan.between.tokens rest).map (.colon :: ·) := by
  rw [tokens_mark .colon (by decide), tokens_skip (by decide)]

mutual

theorem scan_chars : ∀ (value : Json) (level : Nat) (rest : List Char), Writable value →
    Ends rest → Scan.between.tokens (chars level value ++ rest) =
      (Scan.between.tokens rest).map (tokensOf value ++ ·)
  | .null, level, rest, _, ends => scan_null ends
  | .bool b, level, rest, _, ends => scan_bool b ends level
  | .number l, level, rest, proper, ends => scan_number proper ends
  | .string s, level, rest, _, ends => scan_quoted s rest
  | .array [], level, rest, _, _ => by
    simp only [chars, List.cons_append, List.nil_append]
    rw [tokens_mark .openArray (by decide), tokens_mark .closeArray (by decide), Option.map_map]
    rfl
  | .array (item :: more), level, rest, writable, ends => by
    -- Behind each item stands a comma or a break, so a number in it is over there.
    have closing : Ends (newline level ++ (']' :: rest)) := ends_newline level _
    have others := scan_itemsChars more (level + 1) (newline level ++ (']' :: rest)) writable.2
      closing
    have first := scan_chars item (level + 1)
      (itemsChars (level + 1) more ++ (newline level ++ (']' :: rest))) writable.1
      (ends_itemsChars (level + 1) more closing)
    simp only [chars, List.cons_append, List.append_assoc, List.nil_append]
    rw [tokens_mark .openArray (by decide), tokens_newline, first, others, tokens_newline,
      tokens_mark .closeArray (by decide)]
    simp [tokensOf, Function.comp_def]
  | .object [], level, rest, _, _ => by
    simp only [chars, List.cons_append, List.nil_append]
    rw [tokens_mark .openObject (by decide), tokens_mark .closeObject (by decide), Option.map_map]
    rfl
  | .object ((name, value) :: more), level, rest, writable, ends => by
    have closing : Ends (newline level ++ ('\x7d' :: rest)) := ends_newline level _
    have others := scan_membersChars more (level + 1) (newline level ++ ('\x7d' :: rest)) writable.2
      closing
    have first := scan_chars value (level + 1)
      (membersChars (level + 1) more ++ (newline level ++ ('\x7d' :: rest))) writable.1
      (ends_membersChars (level + 1) more closing)
    simp only [chars, List.cons_append, List.append_assoc, List.nil_append]
    rw [tokens_mark .openObject (by decide), tokens_newline, scan_quoted, scan_colon, first, others,
      tokens_newline, tokens_mark .closeObject (by decide)]
    simp [tokensOf, Function.comp_def]
  | .unreadable, level, rest, writable, _ => writable.elim

theorem scan_itemsChars : ∀ (items : List Json) (level : Nat) (rest : List Char),
    WritableItems items → Ends rest → Scan.between.tokens (itemsChars level items ++ rest) =
      (Scan.between.tokens rest).map (tokensOfItems items ++ ·)
  | [], level, rest, _, _ => by
    simp [itemsChars, tokensOfItems]
  | item :: more, level, rest, writable, ends => by
    have others := scan_itemsChars more level rest writable.2 ends
    have first := scan_chars item level (itemsChars level more ++ rest) writable.1
      (ends_itemsChars level more ends)
    simp only [itemsChars, List.cons_append, List.append_assoc]
    rw [tokens_mark .comma (by decide), tokens_newline, first, others]
    simp [tokensOfItems, Function.comp_def]

theorem scan_membersChars : ∀ (members : List (String × Json)) (level : Nat) (rest : List Char),
    WritableMembers members → Ends rest → Scan.between.tokens (membersChars level members ++ rest) =
      (Scan.between.tokens rest).map (tokensOfMembers members ++ ·)
  | [], level, rest, _, _ => by
    simp [membersChars, tokensOfMembers]
  | (name, value) :: more, level, rest, writable, ends => by
    have others := scan_membersChars more level rest writable.2 ends
    have first := scan_chars value level (membersChars level more ++ rest) writable.1
      (ends_membersChars level more ends)
    simp only [membersChars, List.cons_append, List.append_assoc, List.nil_append]
    rw [tokens_mark .comma (by decide), tokens_newline, scan_quoted, scan_colon, first, others]
    simp [tokensOfMembers, Function.comp_def]

end

/-! ## Putting tokens together -/

theorem ofMembers_some (members : List (String × Json)) :
    ofMembers (members.map fun m => (some m.1, m.2)) = object members.reverse := by
  have all : ∀ ms : List (String × Json),
      (ms.map fun m => (some m.1, m.2)).mapM (fun m => m.1.map (·, m.2)) = some ms := by
    intro ms
    induction ms with
    | nil =>
      rfl
    | cons m ms ih =>
      simp [ih]
  simp [ofMembers, ← List.map_reverse, all]

/-- The first item of an array is read like any other value. -/
theorem run_firstItem (value : Json) (stack : List Frame) (rest : List Token) :
    Reading.run ⟨.firstItem, stack⟩ (tokensOf value ++ rest) =
      Reading.run ⟨.value, .items [] :: stack⟩ (tokensOf value ++ rest) := by
  cases value with
  | array items => cases items <;> rfl
  | object members => cases members <;> rfl
  | _ => rfl

mutual

theorem run_tokensOf : ∀ (value : Json) (stack : List Frame) (rest : List Token), Writable value →
    Reading.run ⟨.value, stack⟩ (tokensOf value ++ rest) = Reading.run ⟨.next value, stack⟩ rest
  | .null, _, _, _ => rfl
  | .bool _, _, _, _ => rfl
  | .number _, _, _, _ => rfl
  | .string _, _, _, _ => rfl
  | .array [], _, _, _ => rfl
  | .array (item :: more), stack, rest, writable => by
    have first := run_tokensOf item (.items [] :: stack)
      (tokensOfItems more ++ (.closeArray :: rest)) writable.1
    have others := run_tokensOfItems more [] item stack rest writable.2
    -- The first item is read like any value, although the array could have been closed instead.
    rw [← run_firstItem] at first
    simp only [tokensOf, List.cons_append, List.append_assoc, List.nil_append]
    exact first.trans others
  | .object [], _, _, _ => rfl
  | .object ((name, value) :: more), stack, rest, writable => by
    have first := run_tokensOf value (.members [] (some name) :: stack)
      (tokensOfMembers more ++ (.closeObject :: rest)) writable.1
    have others := run_tokensOfMembers more [] name value stack rest writable.2
    simp only [tokensOf, List.cons_append, List.append_assoc, List.nil_append]
    exact first.trans others
  | .unreadable, _, _, writable => writable.elim

theorem run_tokensOfItems : ∀ (items done : List Json) (read : Json) (stack : List Frame)
    (rest : List Token), WritableItems items →
    Reading.run ⟨.next read, .items done :: stack⟩ (tokensOfItems items ++ (.closeArray :: rest)) =
      Reading.run ⟨.next (.array ((read :: done).reverse ++ items)), stack⟩ rest
  | [], done, read, stack, rest, _ => by
    rw [List.append_nil]
    rfl
  | item :: more, done, read, stack, rest, writable => by
    have first := run_tokensOf item (.items (read :: done) :: stack)
      (tokensOfItems more ++ (.closeArray :: rest)) writable.1
    -- What was read last joins the items that are done once a comma comes.
    have others := run_tokensOfItems more (read :: done) item stack rest writable.2
    simp only [tokensOfItems, List.cons_append, List.append_assoc]
    refine (first.trans others).trans ?_
    simp

theorem run_tokensOfMembers : ∀ (members done : List (String × Json)) (name : String) (read : Json)
    (stack : List Frame) (rest : List Token), WritableMembers members →
    Reading.run ⟨.next read, .members (done.map fun m => (some m.1, m.2)) (some name) :: stack⟩
        (tokensOfMembers members ++ (.closeObject :: rest)) =
      Reading.run ⟨.next (.object (((name, read) :: done).reverse ++ members)), stack⟩ rest
  | [], done, name, read, stack, rest, _ => by
    rw [List.append_nil, ← ofMembers_some]
    rfl
  | (other, value) :: more, done, name, read, stack, rest, writable => by
    have first := run_tokensOf value
      (.members (((name, read) :: done).map fun m => (some m.1, m.2)) (some other) :: stack)
      (tokensOfMembers more ++ (.closeObject :: rest)) writable.1
    have others := run_tokensOfMembers more ((name, read) :: done) other value stack rest writable.2
    simp only [tokensOfMembers, List.cons_append, List.append_assoc]
    refine (first.trans others).trans ?_
    simp

end

/-- **A value is read from its text.** -/
theorem ofText?_pretty {value : Json} (writable : Writable value) :
    ofText? value.pretty = some value := by
  have scanned := scan_chars value 0 [] writable ends_nil
  have read := run_tokensOf value [] [] writable
  rw [List.append_nil] at scanned read
  have alone : Scan.between.tokens [] = some [] := rfl
  simp only [ofText?, pretty, tokenize, String.toList_ofList, scanned, alone, Option.map_some,
    List.append_nil, Option.bind_eq_bind, Option.bind_some]
  exact read

/-! ## Values that can be held whole -/

/-- Whether a value can be written and held whole, nested at most so deep. -/
structure Whole (bound : Nat) (value : Json) : Prop where
  writable : Writable value
  readable : value.readable = true
  depth_le : value.depth ≤ bound

theorem whole_string (bound : Nat) (s : String) : Whole bound (string s) :=
  ⟨trivial, rfl, Nat.zero_le _⟩

theorem whole_bool (bound : Nat) (b : Bool) : Whole bound (bool b) :=
  ⟨trivial, rfl, Nat.zero_le _⟩

theorem whole_ofNat (bound : Nat) {n : Nat} (h : n ≤ Literal.maxWord) :
    Whole bound (number (Literal.ofNat n)) where
  writable := Literal.proper_ofNat n
  readable := by simp [readable, Literal.value_ofNat h]
  depth_le := Nat.zero_le _

theorem wholeItems {bound : Nat} {items : List Json} (h : ∀ item ∈ items, Whole bound item) :
    readableItems items = true ∧ depthItems items ≤ bound := by
  induction items with
  | nil =>
    exact ⟨rfl, Nat.zero_le _⟩
  | cons item rest ih =>
    have here := h item (List.mem_cons_self ..)
    have later := ih fun other ho => h other (List.mem_cons_of_mem _ ho)
    refine ⟨?_, Nat.max_le.2 ⟨here.depth_le, later.2⟩⟩
    simp [readableItems, here.readable, later.1]

theorem wholeMembers {bound : Nat} {members : List (String × Json)}
    (h : ∀ m ∈ members, Whole bound m.2) :
    readableMembers members = true ∧ depthMembers members ≤ bound := by
  induction members with
  | nil =>
    exact ⟨rfl, Nat.zero_le _⟩
  | cons m rest ih =>
    have here := h m (List.mem_cons_self ..)
    have later := ih fun other ho => h other (List.mem_cons_of_mem _ ho)
    refine ⟨?_, Nat.max_le.2 ⟨here.depth_le, later.2⟩⟩
    simp [readableMembers, here.readable, later.1]

theorem whole_array {bound : Nat} {items : List Json} (h : ∀ item ∈ items, Whole bound item) :
    Whole (bound + 1) (array items) where
  writable := writableItems_of_forall fun item hi => (h item hi).writable
  readable := (wholeItems h).1
  depth_le := Nat.succ_le_succ (wholeItems h).2

theorem whole_object {bound : Nat} {members : List (String × Json)}
    (h : ∀ m ∈ members, Whole bound m.2) : Whole (bound + 1) (object members) where
  writable := writableMembers_of_forall fun m hm => (h m hm).writable
  readable := (wholeMembers h).1
  depth_le := Nat.succ_le_succ (wholeMembers h).2

theorem ofBoundedText?_pretty {bound : Nat} {value : Json} (whole : Whole bound value)
    (h : bound ≤ maxDepth) : ofBoundedText? value.pretty = some value := by
  have shallow : value.depth ≤ maxDepth := Nat.le_trans whole.depth_le h
  simp [ofBoundedText?, ofText?_pretty whole.writable, whole.readable, shallow]

end Json
end PageBuilder
