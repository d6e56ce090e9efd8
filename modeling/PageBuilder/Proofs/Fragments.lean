import PageBuilder.Render.Fragment

/-!
# The shape of fragments

Every fragment opens with the tag of its kind and the class attribute. What follows is a fixed text
of the kind with gaps for the texts of the element, and these are filled with escaped texts only.
The class attribute lists the class of the element, those of its kind, and the utility class of
every declaration in order.
-/

namespace PageBuilder

theorem Markup.toList_escape (text : String) :
    (escape text).toList = text.toList.flatMap escapeChar := by
  rw [escape, String.toList_ofList]

/-- A text without special characters is written as it is. -/
theorem Markup.escape_eq_self {chars : List Char}
    (plain : (chars.all fun c => escapeChar c = [c]) = true) :
    escape (String.ofList chars) = String.ofList chars := by
  have same : chars.flatMap escapeChar = chars := by
    induction chars with
    | nil => rfl
    | cons c rest ih =>
      rw [List.all_cons, Bool.and_eq_true, decide_eq_true_eq] at plain
      rw [List.flatMap_cons, plain.1, ih plain.2, List.singleton_append]
  rw [escape, String.toList_ofList, same]

theorem Content.escape_cardBody : Markup.escape cardBody = cardBody :=
  Markup.escape_eq_self (by decide)

theorem Content.escape_heroTagline : Markup.escape heroTagline = heroTagline :=
  Markup.escape_eq_self (by decide)

/-! ## Classes -/

theorem Declaration.utilityClass_ne_empty (d : Declaration) : d.utilityClass ≠ "" := by
  -- The body is opened as a whole: its equations take long to derive.
  delta utilityClass
  cases d with
  | gradient spec =>
    dsimp only
    split <;> simp only [ne_eq, String.append_eq_empty_iff, String.reduceEq, false_and,
      not_false_eq_true]
  | width mode =>
    cases mode <;> simp only [ne_eq, String.reduceEq, not_false_eq_true]
  | shadow preset =>
    cases preset <;> simp only [ne_eq, String.append_eq_empty_iff, String.reduceEq, false_and,
      not_false_eq_true]
  | _ =>
    simp only [ne_eq, String.append_eq_empty_iff, toString, String.reduceEq, false_and,
      not_false_eq_true]

namespace Styled

/-- What the utility classes are made of: those of each declaration, then the glass overlay. -/
def utilityParts (s : Styled) : List String :=
  s.declarations.map Declaration.utilityClass ++ if s.glass then [glassClasses] else []

theorem utilityParts_ne_empty (s : Styled) : ∀ part ∈ s.utilityParts, part ≠ "" := by
  intro part h
  rcases List.mem_append.1 h with declared | overlay
  · obtain ⟨d, -, rfl⟩ := List.mem_map.1 declared
    exact d.utilityClass_ne_empty
  · split at overlay
    · rw [List.mem_singleton.1 overlay]
      decide
    · cases overlay

theorem utilityClasses_eq (s : Styled) : s.utilityClasses = " ".intercalate s.utilityParts := rfl

end Styled

theorem Element.className_ne_empty (e : Element) : e.className ≠ "" := by
  simp [className, String.append_eq_empty_iff]

namespace Fragment

theorem intercalate_eq_empty_iff {parts : List String} (filled : ∀ part ∈ parts, part ≠ "") :
    " ".intercalate parts = "" ↔ parts = [] := by
  cases parts with
  | nil =>
    simp
  | cons first rest =>
    cases rest with
    | nil =>
      simpa using filled first List.mem_cons_self
    | cons second rest =>
      simp [String.intercalate_cons_cons]

variable (e : Element) (brand : Option Brand)

/-- **The class list, flat.** No utility class is dropped, and they stay in the order of the
declarations. -/
theorem classList_eq :
    classList e brand =
      " ".intercalate
        (e.className :: [e.baseClasses].filter (!·.isEmpty) ++ Styled.utilityParts ⟨e, brand⟩) := by
  have filtered : ∀ utility : String,
      [e.className, e.baseClasses, utility].filter (!·.isEmpty) =
        (e.className :: [e.baseClasses].filter (!·.isEmpty))
          ++ [utility].filter (!·.isEmpty) := by
    intro utility
    rw [List.filter_cons_of_pos (by simpa using e.className_ne_empty), List.cons_append,
      ← List.filter_append, List.singleton_append]
  rw [classList, filtered, Styled.utilityClasses_eq]
  by_cases unstyled : Styled.utilityParts ⟨e, brand⟩ = []
  · simp [unstyled]
  · have shown : " ".intercalate (Styled.utilityParts ⟨e, brand⟩) ≠ "" :=
      mt (intercalate_eq_empty_iff (Styled.utilityParts_ne_empty _)).1 unstyled
    have kept : [" ".intercalate (Styled.utilityParts ⟨e, brand⟩)].filter (!·.isEmpty) =
        [" ".intercalate (Styled.utilityParts ⟨e, brand⟩)] := by
      simpa using shown
    rw [kept, String.intercalate_append_of_ne_nil (List.cons_ne_nil _ _) (List.cons_ne_nil _ _),
      String.intercalate_append_of_ne_nil (List.cons_ne_nil _ _) unstyled,
      String.intercalate_singleton]

/-! ## Bodies -/

/-- A part of a fragment behind its class attribute. -/
inductive Piece
  /-- A text that all elements of the kind have. -/
  | fixed (text : String)
  | label
  /-- The address of an image. -/
  | source
  deriving DecidableEq, Repr

/-- The text of a part; what comes from the element is escaped. -/
def Piece.text (e : Element) : Piece → String
  | fixed text => text
  | label => Markup.escape e.label
  | source => Markup.escape e.imageSource

/-- What follows the class attribute in the fragments of a kind. -/
def body : Kind → List Piece
  | .button => [.fixed ">", .label, .fixed "</button>"]
  | .text => [.fixed ">", .label, .fixed "</p>"]
  | .badge => [.fixed ">", .label, .fixed "</span>"]
  | .input => [.fixed " placeholder=\"", .label, .fixed "\" />"]
  | .textarea => [.fixed " placeholder=\"", .label, .fixed "\"></textarea>"]
  | .select => [.fixed ">\n  <option>", .label, .fixed "</option>\n</select>"]
  | .toggle => [
    .fixed ">\n  <span class=\"w-10 h-6 rounded-full bg-white/20\"></span>\n  <span>", .label,
    .fixed "</span>\n</label>"]
  | .divider => [.fixed " />"]
  | .card => [
    .fixed ">\n  <h3 class=\"text-lg font-bold mb-2\">", .label,
    .fixed "</h3>\n  <p class=\"text-sm opacity-60\">", .fixed Content.cardBody,
    .fixed "</p>\n</div>"]
  | .hero => [
    .fixed ">\n  <h1 class=\"text-4xl font-black mb-4\">", .label,
    .fixed "</h1>\n  <p class=\"text-xl opacity-70 max-w-2xl mx-auto\">",
    .fixed Content.heroTagline, .fixed "</p>\n</section>"]
  | .navbar => [
    .fixed ">\n  <span class=\"font-bold text-xl\">", .label,
    .fixed "</span>\n  <div class=\"flex gap-4\">\n",
    .fixed "    <span class=\"text-sm opacity-60\">Home</span>\n",
    .fixed "    <span class=\"text-sm opacity-60\">About</span>\n", .fixed "  </div>\n</nav>"]
  | .image => [.fixed " src=\"", .source, .fixed "\" alt=\"", .label, .fixed "\" />"]

/-- The texts of parts, one after the other. -/
def fill (e : Element) (pieces : List Piece) : String := String.join (pieces.map (Piece.text e))

theorem toList_fill (pieces : List Piece) :
    (fill e pieces).toList = pieces.flatMap fun piece => (piece.text e).toList := by
  rw [fill, String.toList_join, List.flatMap_map]

/-- **A fragment is the body of its kind, filled, behind the tag and the class attribute.** -/
theorem render_eq :
    render e brand =
      "<" ++ e.kind.tag ++ attr "class" (classList e brand) ++ fill e (body e.kind) := by
  rcases e with ⟨id, kind, label, props⟩
  apply String.toList_inj.1
  -- In each kind the two sides have the same characters around the same escaped texts.
  cases kind
  all_goals
    simp only [render, Content.of, Content.navigationLinks, Content.escape_cardBody,
      Content.escape_heroTagline, enclosed, openTag, closeTag, emptyTag, headingStyle, attr,
      Kind.tag, body, toList_fill, Piece.text, reduceCtorEq, ↓reduceIte, List.map_cons,
      List.map_nil, List.flatMap_cons, List.flatMap_nil, String.join_cons, String.join_nil,
      String.toList_append, Markup.toList_escape, List.append_assoc, List.append_nil]
    generalize classList ⟨id, _, label, props⟩ brand = classes
    repeat rw [String.toList_ofList]
  all_goals simp only [List.cons_append, List.nil_append]
  all_goals rfl

end Fragment
end PageBuilder
