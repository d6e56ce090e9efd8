import Mathlib.Data.String.Basic
import PageBuilder.Proofs.Records

/-!
# Canonical forms as maps

The canonical members of an object are sorted by name, and they are the last member of each name, in
canonical form. So two objects have the same canonical members if they give the same for every name.

What is read of a record from canonical members is settled by those that matter: a member that would
store nothing new can be there or not, and a member can be exchanged for one that is stored alike.
This holds also where reading fails; the fault is the same then.
-/

namespace PageBuilder
namespace Json

/-! ## Sorted members -/

/-- Members in ascending order of their names, which makes these distinct. -/
def Sorted (members : List (String × Json)) : Prop := members.Pairwise fun m n => m.1 < n.1

namespace Sorted

variable {members others : List (String × Json)}

theorem nodup_names (sorted : Sorted members) : (members.map Prod.fst).Nodup :=
  List.pairwise_map.2 (sorted.imp fun before => ne_of_lt before)

/-- Sorted lists with the same members are the same. -/
theorem ext (sorted : Sorted members) (sorted' : Sorted others)
    (same : ∀ m, m ∈ members ↔ m ∈ others) : members = others := by
  have perm : members.Perm others :=
    (List.perm_ext_iff_of_nodup sorted.nodup_names.of_map sorted'.nodup_names.of_map).2 same
  refine perm.eq_of_pairwise ?_ sorted sorted'
  intro m n _ _ before after
  exact absurd after (lt_asymm before)

theorem insertMember (sorted : Sorted members) (name : String) (value : Json) :
    Sorted (insertMember name value members) := by
  induction members with
  | nil => exact List.pairwise_singleton _ _
  | cons m rest ih =>
    rcases List.pairwise_cons.1 sorted with ⟨first, later⟩
    simp only [Json.insertMember]
    split
    · next before =>
      refine List.pairwise_cons.2 ⟨?_, sorted⟩
      intro n there
      rcases List.mem_cons.1 there with rfl | there
      · exact before
      · exact lt_trans before (first n there)
    · next notBefore =>
      split
      · exact sorted
      · next apart =>
        have before : m.1 < name := lt_of_le_of_ne (not_lt.1 notBefore) (Ne.symm apart)
        refine List.pairwise_cons.2 ⟨?_, ih later⟩
        intro n there
        rcases mem_insertMember (List.mem_map_of_mem there) with same | old
        · rw [same]
          exact before
        · rcases List.mem_map.1 old with ⟨o, member, same⟩
          rw [← same]
          exact first o member

/-- A member is put in unless there is one of its name. -/
theorem mem_insertMember (sorted : Sorted members) {name : String} {value : Json}
    {m : String × Json} : m ∈ Json.insertMember name value members ↔
      m ∈ members ∨ m = (name, value) ∧ name ∉ members.map Prod.fst := by
  induction members with
  | nil => simp [Json.insertMember]
  | cons n rest ih =>
    rcases List.pairwise_cons.1 sorted with ⟨first, later⟩
    simp only [Json.insertMember]
    split
    · next before =>
      -- All names that are there come after the new one.
      have fresh : name ∉ (n :: rest).map Prod.fst := by
        intro there
        rcases List.mem_map.1 there with ⟨o, member, rfl⟩
        rcases List.mem_cons.1 member with rfl | member
        · exact lt_irrefl _ before
        · exact lt_asymm before (first o member)
      simp only [List.mem_cons, fresh, not_false_eq_true, and_true]
      tauto
    · split
      · next same => simp [same]
      · next apart =>
        simp only [List.mem_cons, ih later, List.map_cons, apart, false_or, or_assoc]

end Sorted

theorem sorted_canonicalMembers (members : List (String × Json)) :
    Sorted (canonicalMembers members) := by
  induction members with
  | nil => exact List.Pairwise.nil
  | cons m rest ih => exact ih.insertMember m.1 m.2.canonical

/-! ## Members by name -/

variable {name : String} {members others front back : List (String × Json)}

theorem member?_append (front back : List (String × Json)) :
    member? name (object (front ++ back)) =
      (member? name (object back)).or (member? name (object front)) := by
  simp [member?, List.find?_append, Option.map_or]

theorem member?_cons (other : String) (value : Json) :
    member? name (object ((other, value) :: back)) =
      (member? name (object back)).or (if other = name then some value else none) := by
  have single : member? name (object [(other, value)]) =
      if other = name then some value else none := by
    by_cases same : other = name <;> simp [member?, same]
  rw [← single]
  exact member?_append [(other, value)] back

theorem member?_eq_none_iff :
    member? name (object members) = none ↔ name ∉ members.map Prod.fst := by
  simp only [member?, Option.map_eq_none_iff, List.find?_eq_none, List.mem_reverse, beq_iff_eq,
    List.mem_map, not_exists, not_and]

/-- Whether the removal of a member between others uncovers an earlier one: it is the last of its
name, and the one before it has another value than `null`. -/
def Uncovers (name : String) (front back : List (String × Json)) : Prop :=
  name ∉ back.map Prod.fst ∧ ∃ value, member? name (object front) = some value ∧ value ≠ null

theorem mem_of_member? {value : Json} (found : member? name (object members) = some value) :
    (name, value) ∈ members := by
  rcases Option.map_eq_some_iff.1 found with ⟨m, last, rfl⟩
  have same : m.1 = name := by simpa using List.find?_some last
  rw [← same]
  exact List.mem_reverse.1 (List.mem_of_find?_eq_some last)

theorem member?_of_mem (distinct : (members.map Prod.fst).Nodup) {m : String × Json}
    (there : m ∈ members) : member? m.1 (object members) = some m.2 := by
  cases found : member? m.1 (object members) with
  | none => exact absurd (List.mem_map_of_mem there) (member?_eq_none_iff.1 found)
  | some value =>
    have last := mem_of_member? found
    have same : (m.1, value) = m := List.inj_on_of_nodup_map distinct last there rfl
    rw [← same]

theorem member?_filter (p : String → Bool) :
    member? name (object (members.filter (p ·.1))) =
      if p name then member? name (object members) else none := by
  induction members with
  | nil => simp [member?]
  | cons m rest ih =>
    rcases m with ⟨other, value⟩
    simp only [List.filter_cons]
    by_cases same : other = name
    · subst same
      cases asked : p other <;> simp [member?_cons, ih, asked]
    · cases p other <;> simp [member?_cons, ih, same]

theorem filter_of_absent (absent : name ∉ members.map Prod.fst) :
    members.filter (·.1 != name) = members := by
  refine List.filter_eq_self.2 ?_
  intro m there
  refine bne_iff_ne.2 ?_
  intro same
  exact absent (same ▸ List.mem_map_of_mem there)

/-- The canonical members are the last of each name. -/
theorem mem_canonicalMembers_iff {m : String × Json} : m ∈ canonicalMembers members ↔
    (member? m.1 (object members)).map canonical = some m.2 := by
  induction members generalizing m with
  | nil => simp [canonicalMembers, member?]
  | cons n rest ih =>
    rcases n with ⟨other, value⟩
    rcases m with ⟨name, v⟩
    have sorted := sorted_canonicalMembers rest
    simp only [canonicalMembers, sorted.mem_insertMember, ih, member?_cons, Prod.mk.injEq]
    cases found : member? name (object rest) with
    | none =>
      have fresh : name ∉ (canonicalMembers rest).map Prod.fst := by
        intro there
        exact member?_eq_none_iff.1 found (mem_canonicalMembers there)
      by_cases same : other = name
      · subst same
        simp [fresh, eq_comm]
      · simp [same, Ne.symm same]
    | some w =>
      -- The rest has a member of this name, so the first one does not count.
      have there : (name, w.canonical) ∈ canonicalMembers rest :=
        ih.2 (by simp [found])
      have taken : name ∈ (canonicalMembers rest).map Prod.fst := List.mem_map_of_mem there
      simp only [Option.map_some, Option.some.injEq, Option.some_or]
      refine or_iff_left ?_
      rintro ⟨⟨same, -⟩, fresh⟩
      exact fresh (same ▸ taken)

theorem canonicalMembers_congr
    (same : ∀ name, (member? name (object members)).map canonical =
      (member? name (object others)).map canonical) :
    canonicalMembers members = canonicalMembers others := by
  refine (sorted_canonicalMembers members).ext (sorted_canonicalMembers others) ?_
  intro m
  rw [mem_canonicalMembers_iff, mem_canonicalMembers_iff, same]

theorem canonicalMembers_filter (p : String → Bool) (members : List (String × Json)) :
    canonicalMembers (members.filter (p ·.1)) = (canonicalMembers members).filter (p ·.1) := by
  have sorted := sorted_canonicalMembers members
  refine (sorted_canonicalMembers _).ext (sorted.sublist List.filter_sublist) ?_
  intro m
  rw [List.mem_filter, mem_canonicalMembers_iff, mem_canonicalMembers_iff, member?_filter]
  cases p m.1 <;> simp

/-- The order of distinct names does not matter. -/
theorem canonicalMembers_perm (perm : members.Perm others)
    (distinct : (members.map Prod.fst).Nodup) :
    canonicalMembers members = canonicalMembers others := by
  refine canonicalMembers_congr ?_
  intro name
  congr 1
  have distinct' : (others.map Prod.fst).Nodup := (perm.map Prod.fst).nodup_iff.1 distinct
  ext value
  refine ⟨?_, ?_⟩
  · intro found
    exact member?_of_mem distinct' (perm.subset (mem_of_member? found))
  · intro found
    exact member?_of_mem distinct (perm.symm.subset (mem_of_member? found))

/-- A member that another one of its name follows does not matter. -/
theorem canonicalMembers_shadowed {value : Json} (later : name ∈ back.map Prod.fst) :
    canonicalMembers (front ++ (name, value) :: back) = canonicalMembers (front ++ back) := by
  refine canonicalMembers_congr ?_
  intro other
  have shadowed : member? other (object ((name, value) :: back)) = member? other (object back) := by
    rw [member?_cons]
    by_cases same : name = other
    · subst same
      cases found : member? name (object back) with
      | none => exact absurd later (member?_eq_none_iff.1 found)
      | some last => rfl
    · simp [same]
  rw [member?_append, member?_append, shadowed]

/-! ## Records from canonical members -/

namespace Shape

variable {α δ : Type} {shape : Shape δ α} {d : δ}

/-- Members of different names are stored one after another. -/
theorem storeMembers_eq_foldlM {seen : List String} (distinct : (members.map Prod.fst).Nodup)
    (unseen : ∀ m ∈ members, m.1 ∉ seen) :
    shape.storeMembers seen members d = members.foldlM shape.put d := by
  induction members generalizing seen d with
  | nil => rfl
  | cons m rest ih =>
    rcases m with ⟨name, value⟩
    simp only [List.map_cons, List.nodup_cons] at distinct
    rcases List.forall_mem_cons.1 unseen with ⟨here, later⟩
    simp only [storeMembers, List.foldlM_cons, put]
    cases shape.fields.find? (·.name == name) with
    | none => exact ih distinct.2 later
    | some field =>
      simp only [List.contains_eq_mem, here, decide_false, Bool.false_eq_true, if_false]
      cases field.store d value with
      | error fault => rfl
      | ok next =>
        refine ih distinct.2 ?_
        intro n there again
        rcases List.mem_cons.1 again with same | old
        · exact distinct.1 (same ▸ List.mem_map_of_mem there)
        · exact later n there old

/-- What is read of an object is settled by how its canonical members are stored. -/
theorem read_canonical_congr
    (same : (canonicalMembers members).foldlM shape.put shape.blank =
      (canonicalMembers others).foldlM shape.put shape.blank) :
    shape.read (object members).canonical = shape.read (object others).canonical := by
  have stored : ∀ ms, shape.storeMembers [] (canonicalMembers ms) shape.blank =
      (canonicalMembers ms).foldlM shape.put shape.blank := by
    intro ms
    exact storeMembers_eq_foldlM (sorted_canonicalMembers ms).nodup_names (by simp)
  simp only [canonical, read, stored, same]

/-! ### Members that do not matter -/

/-- Whether a member stores nothing new. -/
def Idle (shape : Shape δ α) (name : String) (value : Json) : Prop :=
  shape.put shape.blank (name, value) = .ok shape.blank

theorem put_of_unknown {name : String} (unknown : name ∉ shape.fields.map (·.name)) (value : Json)
    (d : δ) : shape.put d (name, value) = .ok d := by
  have none : shape.fields.find? (·.name == name) = none := by
    refine List.find?_eq_none.2 ?_
    intro field member same
    exact unknown (beq_iff_eq.1 same ▸ List.mem_map_of_mem member)
  simp [put, none]

/-- A member that stores nothing new in a draft does so also after members of other names. -/
theorem put_of_idle (orderly : shape.Orderly) {m n : String × Json} (apart : m.1 ≠ n.1)
    {next : δ} (idle : shape.put d m = .ok d) (stored : shape.put d n = .ok next) :
    shape.put next m = .ok next := by
  have first : (shape.put d m).bind (shape.put · n) = .ok next := by
    rw [idle]
    exact stored
  have second := (put_commute orderly apart d next).1 first
  rw [stored] at second
  exact second

theorem foldlM_put_idle (orderly : shape.Orderly) {m : String × Json}
    (idle : shape.put d m = .ok d) (fresh : m.1 ∉ front.map Prod.fst) :
    (front ++ m :: back).foldlM shape.put d = (front ++ back).foldlM shape.put d := by
  -- By induction on the members before: the draft stays one in which nothing new is stored.
  induction front generalizing d with
  | nil =>
    simp only [List.nil_append, List.foldlM_cons, idle]
    rfl
  | cons n rest ih =>
    simp only [List.map_cons, List.mem_cons, not_or] at fresh
    simp only [List.cons_append, List.foldlM_cons]
    cases stored : shape.put d n with
    | error fault => rfl
    | ok next => exact ih (put_of_idle orderly fresh.1 idle stored) fresh.2

/-- All members of a name can be left out if the last of them stores nothing new. -/
theorem foldlM_put_without (orderly : shape.Orderly) (name : String)
    (members : List (String × Json))
    (idle : ∀ v, member? name (object members) = some v → shape.Idle name v.canonical) :
    (canonicalMembers members).foldlM shape.put shape.blank =
      (canonicalMembers (members.filter (·.1 != name))).foldlM shape.put shape.blank := by
  rw [canonicalMembers_filter (· != name)]
  have sorted := sorted_canonicalMembers members
  cases found : member? name (object members) with
  | none =>
    have absent : name ∉ (canonicalMembers members).map Prod.fst := by
      intro there
      exact member?_eq_none_iff.1 found (mem_canonicalMembers there)
    rw [filter_of_absent absent]
  | some value =>
    have there : (name, value.canonical) ∈ canonicalMembers members := by
      simp [mem_canonicalMembers_iff, found]
    rcases List.append_of_mem there with ⟨first, rest, split⟩
    have distinct := sorted.nodup_names
    simp only [split, List.map_append, List.map_cons, List.nodup_append,
      List.nodup_cons] at distinct
    rcases distinct with ⟨-, ⟨behind, -⟩, apart⟩
    have before : name ∉ first.map Prod.fst := by
      intro here
      exact apart name here name List.mem_cons_self rfl
    have kept : (first ++ (name, value.canonical) :: rest).filter (·.1 != name) =
        first ++ rest := by
      simp [filter_of_absent before, filter_of_absent behind]
    rw [split, kept]
    exact foldlM_put_idle orderly (idle value found) before

/-- A member with the name of no field can be put in anywhere. -/
theorem read_extra (orderly : shape.Orderly) (unknown : name ∉ shape.fields.map (·.name))
    (front back : List (String × Json)) (value : Json) :
    shape.read (object (front ++ (name, value) :: back)).canonical =
      shape.read (object (front ++ back)).canonical := by
  refine read_canonical_congr ?_
  have without : ∀ ms : List (String × Json),
      (canonicalMembers ms).foldlM shape.put shape.blank =
        (canonicalMembers (ms.filter (·.1 != name))).foldlM shape.put shape.blank := by
    intro ms
    exact foldlM_put_without orderly name ms fun v _ => put_of_unknown unknown v.canonical _
  rw [without, without (front ++ back)]
  simp

/-- A member that is `null` can be removed, if this sets its field to what it is when missing. -/
theorem read_unset (orderly : shape.Orderly) (idle : shape.Idle name null)
    (covered : ¬ Uncovers name front back) :
    shape.read (object (front ++ (name, null) :: back)).canonical =
      shape.read (object (front ++ back)).canonical := by
  by_cases later : name ∈ back.map Prod.fst
  · simp only [canonical, canonicalMembers_shadowed later]
  · -- With and without the member, the last one of its name is `null`, if there is one.
    have last : member? name (object back) = none := member?_eq_none_iff.2 later
    refine read_canonical_congr ?_
    rw [foldlM_put_without orderly name, foldlM_put_without orderly name (front ++ back)]
    · simp
    · intro value found
      simp only [member?_append, last, Option.none_or] at found
      by_cases unset : value = null
      · rw [unset]
        exact idle
      · exact absurd ⟨later, value, found, unset⟩ covered
    · intro value found
      simp only [member?_append, member?_cons, last, if_true, Option.none_or, Option.some_or,
        Option.some.injEq] at found
      rw [← found]
      exact idle

/-! ### Members that are stored alike -/

/-- Whether two members have one name and are stored alike. -/
def Like (shape : Shape δ α) (m n : String × Json) : Prop :=
  m.1 = n.1 ∧ ∀ d, shape.put d m = shape.put d n

theorem Like.refl (shape : Shape δ α) (m : String × Json) : shape.Like m m :=
  ⟨rfl, fun _ => rfl⟩

theorem like_insertMember {value value' : Json}
    (like : shape.Like (name, value) (name, value'))
    (rest : List.Forall₂ shape.Like members others) :
    List.Forall₂ shape.Like (insertMember name value members)
      (insertMember name value' others) := by
  induction rest with
  | nil => exact .cons like .nil
  | @cons m n ms ns here later ih =>
    rcases m with ⟨other, v⟩
    rcases n with ⟨other', v'⟩
    have same : other = other' := here.1
    subst same
    simp only [insertMember]
    split
    · exact .cons like (.cons here later)
    · split
      · exact .cons here later
      · exact .cons here ih

theorem foldlM_put_like (like : List.Forall₂ shape.Like members others) :
    members.foldlM shape.put d = others.foldlM shape.put d := by
  induction like generalizing d with
  | nil => rfl
  | @cons m n ms ns here later ih =>
    simp only [List.foldlM_cons, here.2 d]
    cases shape.put d n with
    | error fault => rfl
    | ok next => exact ih

/-- A member can be exchanged for one that is stored alike. -/
theorem read_like (front back : List (String × Json)) {value value' : Json}
    (like : shape.Like (name, value.canonical) (name, value'.canonical)) :
    shape.read (object (front ++ (name, value) :: back)).canonical =
      shape.read (object (front ++ (name, value') :: back)).canonical := by
  refine read_canonical_congr (foldlM_put_like ?_)
  have same : ∀ ms : List (String × Json), List.Forall₂ shape.Like ms ms := by
    intro ms
    exact List.forall₂_same.2 fun m _ => Like.refl shape m
  induction front with
  | nil => exact like_insertMember like (same _)
  | cons m rest ih => exact like_insertMember (Like.refl shape _) ih

/-- An item can be exchanged for one that the field in its place stores alike. -/
theorem storeItems_like {fields : List (Field δ)} (before after : List Json) {item item' : Json}
    (like : ∀ f, fields[before.length]? = some f → ∀ d, f.store d item = f.store d item') :
    storeItems fields (before ++ item :: after) d =
      storeItems fields (before ++ item' :: after) d := by
  induction before generalizing fields d with
  | nil =>
    cases fields with
    | nil => rfl
    | cons f fields => simp only [List.nil_append, storeItems, like f rfl d]
  | cons first before ih =>
    cases fields with
    | nil => rfl
    | cons f fields =>
      simp only [List.cons_append, storeItems]
      cases f.store d first with
      | error fault => rfl
      | ok next => exact ih like

end Shape

theorem canonicalItems_append (items more : List Json) :
    canonicalItems (items ++ more) = canonicalItems items ++ canonicalItems more := by
  induction items with
  | nil => rfl
  | cons item rest ih => simp only [List.cons_append, canonicalItems, ih]

theorem Shape.read_item {α δ : Type} {shape : Shape δ α} (before after : List Json)
    {item item' : Json}
    (like : ∀ f, shape.fields[before.length]? = some f →
      ∀ d, f.store d item.canonical = f.store d item'.canonical) :
    shape.read (array (before ++ item :: after)).canonical =
      shape.read (array (before ++ item' :: after)).canonical := by
  have stored : ∀ d, storeItems shape.fields (canonicalItems (before ++ item :: after)) d =
      storeItems shape.fields (canonicalItems (before ++ item' :: after)) d := by
    intro d
    simp only [canonicalItems_append, canonicalItems]
    refine storeItems_like _ _ ?_
    rw [length_canonicalItems]
    exact like
  simp only [canonical, read, stored, length_canonicalItems, List.length_append, List.length_cons]

/-- An item of a list can be exchanged for one that is read alike. -/
theorem asList_item {α : Type} {read : Json → Except Fault α} (before after : List Json)
    {item item' : Json} (like : read item.canonical = read item'.canonical) :
    asList read (array (before ++ item :: after)).canonical =
      asList read (array (before ++ item' :: after)).canonical := by
  simp only [canonical, asList, canonicalItems_append, canonicalItems, List.mapM_append,
    List.mapM_cons, like]

end Json
end PageBuilder
