import Mathlib.Tactic.FinCases
import PageBuilder.Proofs.JsonText
import PageBuilder.Proofs.Records
import PageBuilder.Storage.Catalog

/-!
# Written pages are read back

Brands, properties, elements, documents and saved projects are read from their JSON form, and what
is imported also from its canonical form. Durations are the one thing that can be lost in it:
infinity has no form of its own, and whether another number is read back is up to how numbers are
printed. What is asked of a duration is therefore a hypothesis here, `ReadsBack`.
-/

namespace PageBuilder

open Json Numeric

/-! ## Parts -/

/-- Whether the text of a single is read as that single. -/
def ReadsBack (x : Single) : Prop :=
  (ofText? (writeSingle x).pretty).map asSingle = some (.ok x)

theorem writable_writeSingle (x : Single) : Writable (writeSingle x) := by
  unfold writeSingle
  split
  · exact trivial
  · exact Literal.proper_ofBinary _ x

theorem readsBack_iff {x : Single} : ReadsBack x ↔ x.isInfinite = false ∧
    (Literal.ofBinary Literal.singleRange x).value.map Number.toSingle = some x := by
  rw [ReadsBack, ofText?_pretty (writable_writeSingle x), writeSingle]
  cases x.isInfinite with
  | true =>
    simp [asSingle]
  | false =>
    cases value : (Literal.ofBinary Literal.singleRange x).value <;> simp [asSingle, value]

instance (x : Single) : Decidable (ReadsBack x) := decidable_of_iff _ readsBack_iff.symm

namespace ReadsBack

variable {x : Single}

theorem write_eq (h : ReadsBack x) :
    writeSingle x = number (Literal.ofBinary Literal.singleRange x) := by
  simp [writeSingle, (readsBack_iff.1 h).1]

theorem read (h : ReadsBack x) : asSingle (writeSingle x) = .ok x := by
  simpa [ReadsBack, ofText?_pretty (writable_writeSingle x)] using h

theorem asOption (h : ReadsBack x) : Json.asOption asSingle (writeSingle x) = .ok (some x) := by
  have read := h.read
  rw [h.write_eq] at read ⊢
  exact congrArg (Except.map some) read

theorem whole (h : ReadsBack x) (bound : Nat) : Whole bound (writeSingle x) := by
  rw [h.write_eq]
  refine ⟨Literal.proper_ofBinary _ x, ?_, Nat.zero_le _⟩
  rcases Option.map_eq_some_iff.1 (readsBack_iff.1 h).2 with ⟨v, value, -⟩
  simp [readable, value]

end ReadsBack

theorem asNatural_ofNat {bits n : Nat} (small : n < Nat.pow 2 bits) (word : n ≤ Literal.maxWord) :
    asNatural bits (number (Literal.ofNat n)) = .ok n := by
  simp only [asNatural, Literal.value_ofNat word]
  exact if_pos small

theorem uint32_le (n : UInt32) : n.toNat ≤ Literal.maxWord := by
  have small : n.toNat < 2 ^ 32 := n.toNat_lt
  have wide : 2 ^ 32 ≤ Literal.maxWord := by decide
  omega

theorem asUInt32_write (n : UInt32) : asUInt32 (writeUInt32 n) = .ok n := by
  simp [asUInt32, writeUInt32, asNatural_ofNat n.toNat_lt (uint32_le n), Except.map]

theorem count_le (c : Columns) : c.count ≤ Literal.maxWord := by
  cases c <;> decide

theorem Columns.read_write (c : Columns) : Columns.read c.write = .ok c := by
  have small : c.count < Nat.pow 2 8 := by
    cases c <;> decide
  simp [Columns.read, Columns.write, asNatural_ofNat small (count_le c), Columns.ofCount?_count]

theorem stable_columns : Stable Columns.read :=
  stable_of_plain (by simp [Columns.read, asNatural]) (by simp [Columns.read, asNatural])

theorem asOption_string (s : String) : asOption asString (.string s) = .ok (some s) :=
  rfl

theorem asOption_uint32 (n : UInt32) : asOption asUInt32 (writeUInt32 n) = .ok (some n) :=
  congrArg (Except.map some) (asUInt32_write n)

theorem asOption_choice {α : Type} [Choice α] (a : α) :
    asOption Choice.read (Choice.write a) = .ok (some a) :=
  congrArg (Except.map some) (Choice.read_write a)

theorem asOption_columns (c : Columns) : asOption Columns.read c.write = .ok (some c) :=
  congrArg (Except.map some) (Columns.read_write c)

theorem asList_map {α : Type} {read : Json → Except Fault α} {write : α → Json} {as : List α}
    (back : ∀ a ∈ as, read (write a) = .ok a) : asList read (array (as.map write)) = .ok as := by
  unfold asList
  induction as with
  | nil =>
    rfl
  | cons a rest ih =>
    have here := back a (List.mem_cons_self ..)
    have later := ih fun b hb => back b (List.mem_cons_of_mem _ hb)
    simp only [List.map_cons, List.mapM_cons, here, later]
    rfl

theorem whole_ofFields {bound : Nat} {parts : List (String × Option Json)}
    (h : ∀ m ∈ parts, ∀ v, m.2 = some v → Whole bound v) : Whole (bound + 1) (ofFields parts) := by
  refine whole_object fun m hm => ?_
  rcases List.mem_filterMap.1 hm with ⟨⟨name, part⟩, there, same⟩
  rcases Option.map_eq_some_iff.1 same with ⟨value, set, rfl⟩
  exact h _ there value set

theorem whole_map {α : Type} {bound : Nat} {write : α → Json} {o : Option α}
    (h : ∀ x, o = some x → Whole bound (write x)) : ∀ v, o.map write = some v → Whole bound v := by
  intro v mapped
  rcases Option.map_eq_some_iff.1 mapped with ⟨x, set, rfl⟩
  exact h x set

/-! ## Brands -/

theorem Brand.read_write (b : Brand) : Brand.read b.write = .ok b := by
  exact Brand.shape.read_object (by decide)
    (.required rfl <| .required rfl <| .required rfl <| .required (asUInt32_write b.radius) <|
      .required (Choice.read_write b.font) <| .required rfl .done) rfl

theorem Brand.whole_write (b : Brand) (bound : Nat) : Whole (bound + 1) b.write := by
  refine whole_object fun m hm => ?_
  fin_cases hm
  · exact whole_string _ _
  · exact whole_string _ _
  · exact whole_string _ _
  · exact whole_ofNat _ (uint32_le _)
  · exact whole_string _ _
  · exact whole_bool _ _

theorem Brand.orderly : Brand.shape.Orderly := by
  refine Sets.orderly (.cons stable_asString <| .cons stable_asString <| .cons stable_asString <|
    .cons stable_asUInt32 <| .cons stable_choice <| .cons stable_asBool .nil) ?_
  simp [Setter.Apart]

/-! ## Properties -/

/-- Whether the duration, if there is one, is read back. -/
def Props.Durable (p : Props) : Prop := ∀ x, p.animationDuration = some x → ReadsBack x

instance (p : Props) : Decidable p.Durable :=
  match duration : p.animationDuration with
  | none => isTrue fun x set => by simp [duration] at set
  | some x => decidable_of_iff (ReadsBack x) (by simp [Props.Durable, duration])

theorem Props.read_write {p : Props} (durable : p.Durable) : Props.read p.write = .ok p := by
  refine Props.shape.read_ofFields (by decide) ?_ rfl
  refine .optional (fun x _ => asOption_string x) rfl ?_
  refine .optional (fun x _ => asOption_string x) rfl ?_
  refine .optional (fun x _ => asOption_string x) rfl ?_
  refine .optional (fun x _ => asOption_choice x) rfl ?_
  refine .optional (fun x _ => asOption_choice x) rfl ?_
  refine .optional (fun x _ => asOption_uint32 x) rfl ?_
  refine .optional (fun x _ => asOption_uint32 x) rfl ?_
  refine .optional (fun x _ => asOption_choice x) rfl ?_
  refine .optional (fun x _ => asOption_string x) rfl ?_
  refine .optional (fun x _ => asOption_string x) rfl ?_
  refine .optional (fun x _ => asOption_columns x) rfl ?_
  refine .optional (fun x _ => asOption_uint32 x) rfl ?_
  refine .optional (fun x _ => asOption_uint32 x) rfl ?_
  refine .optional (fun x _ => asOption_choice x) rfl ?_
  refine .optional (fun x _ => asOption_string x) rfl ?_
  refine .optional (fun x _ => asOption_choice x) rfl ?_
  refine .optional (fun x h => (durable x h).asOption) rfl ?_
  exact .done

theorem Props.whole_write {p : Props} (durable : p.Durable) (bound : Nat) :
    Whole (bound + 1) p.write := by
  -- Only the duration needs its hypothesis; all other parts can always be written.
  have text : ∀ o : Option String, ∀ v, o.map Json.string = some v → Whole bound v :=
    fun o => whole_map fun x _ => whole_string _ x
  have natural : ∀ o : Option UInt32, ∀ v, o.map writeUInt32 = some v → Whole bound v :=
    fun o => whole_map fun x _ => whole_ofNat _ (uint32_le x)
  refine whole_ofFields fun m hm => ?_
  fin_cases hm
  · exact text _
  · exact text _
  · exact text _
  · exact whole_map fun x _ => whole_string _ _
  · exact whole_map fun x _ => whole_string _ _
  · exact natural _
  · exact natural _
  · exact whole_map fun x _ => whole_string _ _
  · exact text _
  · exact text _
  · exact whole_map fun x _ => whole_ofNat _ (count_le x)
  · exact natural _
  · exact natural _
  · exact whole_map fun x _ => whole_string _ _
  · exact text _
  · exact whole_map fun x _ => whole_string _ _
  · exact whole_map fun x set => (durable x set).whole _

theorem Props.orderly : Props.shape.Orderly := by
  have text := stable_asOption stable_asString
  have natural := stable_asOption stable_asUInt32
  refine Sets.orderly (.cons text <| .cons text <| .cons text <|
    .cons (stable_asOption stable_choice) <| .cons (stable_asOption stable_choice) <|
    .cons natural <| .cons natural <| .cons (stable_asOption stable_choice) <|
    .cons text <| .cons text <| .cons (stable_asOption stable_columns) <|
    .cons natural <| .cons natural <| .cons (stable_asOption stable_choice) <|
    .cons text <| .cons (stable_asOption stable_choice) <|
    .cons (stable_asOption stable_asSingle) .nil) ?_
  simp only [Setter.Apart, List.pairwise_cons, List.forall_mem_cons, List.not_mem_nil,
    List.Pairwise.nil, false_implies, implies_true, and_true]

/-! ## Elements -/

theorem Element.read_write {e : Element} (durable : e.props.Durable) :
    Element.read e.write = .ok e := by
  exact Element.shape.read_object (by decide)
    (.required rfl <| .required (Choice.read_write e.kind) <| .required rfl <|
      .required (Props.read_write durable) .done) rfl

theorem Element.whole_write {e : Element} (durable : e.props.Durable) (bound : Nat) :
    Whole (bound + 2) e.write := by
  refine whole_object fun m hm => ?_
  fin_cases hm
  · exact whole_string _ _
  · exact whole_string _ _
  · exact whole_string _ _
  · exact Props.whole_write durable bound

theorem Element.orderly : Element.shape.Orderly := by
  refine Sets.orderly (.cons stable_asString <| .cons stable_choice <| .cons stable_asString <|
    .cons Props.orderly.stable_read .nil) ?_
  simp [Setter.Apart]

/-! ## Documents -/

/-- Whether the durations of all elements are read back. -/
def Document.Durable (d : Document) : Prop := ∀ e ∈ d.elements, e.props.Durable

instance (d : Document) : Decidable d.Durable :=
  inferInstanceAs (Decidable (∀ e ∈ d.elements, e.props.Durable))

theorem Document.Durable.read_elements {d : Document} (durable : d.Durable) :
    asList Element.read (array (d.elements.map Element.write)) = .ok d.elements :=
  asList_map fun e he => Element.read_write (durable e he)

theorem Document.Durable.whole_elements {d : Document} (durable : d.Durable) (bound : Nat) :
    Whole (bound + 3) (array (d.elements.map Element.write)) := by
  refine whole_array fun item hi => ?_
  rcases List.mem_map.1 hi with ⟨e, he, rfl⟩
  exact Element.whole_write (durable e he) bound

/-- A document is read from its JSON form. -/
theorem Document.read_write {d : Document} (durable : d.Durable) :
    Document.read d.write = .ok d := by
  exact Document.shape.read_object (by decide)
    (.required durable.read_elements <| .required (Choice.read_write d.theme) <|
      .required (Columns.read_write d.columns) <| .required (Brand.read_write d.brand) .done) rfl

theorem Document.whole_write {d : Document} (durable : d.Durable) (bound : Nat) :
    Whole (bound + 4) d.write := by
  refine whole_object fun m hm => ?_
  fin_cases hm
  · exact durable.whole_elements bound
  · exact whole_string _ _
  · exact whole_ofNat _ (count_le _)
  · exact Brand.whole_write _ _

/-! ## Saved projects -/

/-- Whether the durations of all snapshots are read back. -/
def Catalog.Durable (c : Catalog) : Prop := ∀ p ∈ c.projects, p.document.Durable

instance (c : Catalog) : Decidable c.Durable :=
  inferInstanceAs (Decidable (∀ p ∈ c.projects, p.document.Durable))

theorem uint64_le (n : UInt64) : n.toNat ≤ Literal.maxWord := by
  have small : n.toNat < 2 ^ 64 := n.toNat_lt
  have wide : 2 ^ 64 = Literal.maxWord + 1 := by decide
  omega

theorem asUInt64_write (n : UInt64) : asUInt64 (number (Literal.ofNat n.toNat)) = .ok n := by
  simp [asUInt64, asNatural_ofNat n.toNat_lt (uint64_le n), Except.map]

theorem Project.read_write {p : Project} (durable : p.document.Durable) :
    Project.read p.write = .ok p := by
  exact Project.shape.read_object (by decide)
    (.required rfl <| .required rfl <| .required (Document.read_write durable) <|
      .required (asUInt64_write p.savedAt) .done) rfl

/-- A catalog is read from its JSON form. -/
theorem Catalog.read_write {c : Catalog} (durable : c.Durable) : Catalog.read c.write = .ok c := by
  have projects : asList Project.read c.write = .ok c.projects :=
    asList_map fun p hp => Project.read_write (durable p hp)
  rw [Catalog.read, projects]
  rfl

theorem Catalog.writable_write {c : Catalog} (durable : c.Durable) : Writable c.write := by
  refine writableItems_of_forall fun item hi => ?_
  rcases List.mem_map.1 hi with ⟨p, hp, rfl⟩
  refine writableMembers_of_forall fun m hm => ?_
  fin_cases hm
  · exact trivial
  · exact trivial
  · exact (Document.whole_write (durable p hp) 0).writable
  · exact Literal.proper_ofNat _

end PageBuilder
