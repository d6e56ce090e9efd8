import Mathlib.Data.List.Nodup
import Mathlib.Data.List.Pairwise
import Mathlib.Data.List.Perm.Basic
import PageBuilder.Json.Record
import PageBuilder.Json.Choice

/-!
# Reading records in any order

What is read from a value as it is written is read alike from its canonical form, where the members
of every object are sorted. For a record this needs two properties of its fields: each of them reads
canonical forms alike, and storing two of them in either order gives the same draft.

Only successful reading is treated: which of several faults is reported does depend on the order.
-/

namespace PageBuilder
namespace Json

variable {α δ : Type}

/-- A reader that reads the canonical form of a value like the value itself. -/
def Stable (read : Json → Except Fault α) : Prop :=
  ∀ value a, read value = .ok a → read value.canonical = .ok a

theorem bind_eq_ok_iff {ε β γ : Type} {x : Except ε β} {f : β → Except ε γ} {c : γ} :
    x.bind f = .ok c ↔ ∃ b, x = .ok b ∧ f b = .ok c := by
  cases x <;> simp [Except.bind]

/-! ## Canonical members -/

/-- The canonical form of a member. -/
def canonicalMember (m : String × Json) : String × Json := (m.1, m.2.canonical)

theorem mem_insertMember {name other : String} {value : Json} {members : List (String × Json)}
    (h : other ∈ (insertMember name value members).map Prod.fst) :
    other = name ∨ other ∈ members.map Prod.fst := by
  induction members with
  | nil =>
    simpa [insertMember] using h
  | cons m rest ih =>
    simp only [insertMember] at h
    split at h
    · simpa using h
    · split at h
      · exact Or.inr h
      · rcases List.mem_cons.1 h with here | later
        · exact Or.inr (by simp [here])
        · rcases ih later with same | there
          · exact Or.inl same
          · exact Or.inr (by simp [there])

theorem mem_canonicalMembers {name : String} {members : List (String × Json)}
    (h : name ∈ (canonicalMembers members).map Prod.fst) : name ∈ members.map Prod.fst := by
  induction members with
  | nil =>
    exact h
  | cons m rest ih =>
    -- A name of the canonical members is the first one or comes from the rest.
    rcases mem_insertMember h with here | there
    · simp [here]
    · simp [ih there]

/-- Putting in a member that is not asked for changes nothing of what is. -/
theorem filter_insertMember_of_neg {p : String → Bool} {name : String} (h : p name = false)
    (value : Json) (members : List (String × Json)) :
    (insertMember name value members).filter (p ·.1) = members.filter (p ·.1) := by
  induction members with
  | nil =>
    simp [insertMember, h]
  | cons m rest ih =>
    simp only [insertMember]
    split
    · simp [h]
    · split
      · rfl
      · simp only [List.filter_cons, ih]

theorem filter_insertMember_of_pos {p : String → Bool} {name : String} (h : p name = true)
    (value : Json) {members : List (String × Json)} (fresh : name ∉ members.map Prod.fst) :
    ((insertMember name value members).filter (p ·.1)).Perm
      ((name, value) :: members.filter (p ·.1)) := by
  induction members with
  | nil =>
    simp [insertMember, h]
  | cons m rest ih =>
    simp only [List.map_cons, List.mem_cons, not_or] at fresh
    simp only [insertMember]
    split
    · simp [h]
    · rw [if_neg fresh.1]
      simp only [List.filter_cons]
      split
      · exact ((ih fresh.2).cons m).trans (List.Perm.swap _ _ _)
      · exact ih fresh.2

/-- The members of some names, if none of these is repeated, are in another order only. -/
theorem filter_canonicalMembers {p : String → Bool} {members : List (String × Json)}
    (distinct : ((members.filter (p ·.1)).map Prod.fst).Nodup) :
    ((canonicalMembers members).filter (p ·.1)).Perm
      ((members.filter (p ·.1)).map canonicalMember) := by
  induction members with
  | nil =>
    exact List.Perm.nil
  | cons m rest ih =>
    rcases m with ⟨name, value⟩
    cases asked : p name with
    | false =>
      rw [List.filter_cons_of_neg (by simp [asked])] at distinct ⊢
      rw [canonicalMembers, filter_insertMember_of_neg asked]
      exact ih distinct
    | true =>
      rw [List.filter_cons_of_pos (by simpa using asked)] at distinct ⊢
      rw [List.map_cons, List.nodup_cons] at distinct
      -- The member is put in as a new one, because its name does not come again.
      have fresh : name ∉ (canonicalMembers rest).map Prod.fst := by
        intro there
        rcases List.mem_map.1 (mem_canonicalMembers there) with ⟨other, member, same⟩
        refine distinct.1 (List.mem_map.2 ⟨other, List.mem_filter.2 ⟨member, ?_⟩, same⟩)
        rw [same]
        exact asked
      rw [canonicalMembers]
      exact (filter_insertMember_of_pos asked _ fresh).trans ((ih distinct.2).cons _)

/-! ## Fields -/

/-- Two fields that can be stored in either order. -/
def Field.Commute (f g : Field δ) : Prop :=
  ∀ d v w d', (f.store d v).bind (g.store · w) = .ok d' ↔ (g.store d w).bind (f.store · v) = .ok d'

theorem Field.Commute.symm {f g : Field δ} (h : f.Commute g) : g.Commute f :=
  fun d v w d' => (h d w v d').symm

/-- A way to set one place of a draft. -/
structure Setter (δ : Type) where
  {value : Type}
  set : δ → value → δ

/-- Setting two places that are not the same: either can be set first. -/
def Setter.Apart (s t : Setter δ) : Prop := ∀ d x y, t.set (s.set d x) y = s.set (t.set d y) x

/-- Fields that read a value and set a place of their own to it can be stored in either order. -/
theorem Field.commute_of_apart {β γ : Type} {name other : String} {readF : Json → Except Fault β}
    {readG : Json → Except Fault γ} {setF : δ → β → δ} {setG : δ → γ → δ}
    (apart : Setter.Apart ⟨setF⟩ ⟨setG⟩) :
    Field.Commute ⟨name, fun d v => (readF v).map (setF d)⟩
      ⟨other, fun d v => (readG v).map (setG d)⟩ := by
  intro d v w d'
  dsimp only
  cases readF v with
  | error fault =>
    cases readG w <;> simp [Except.map, Except.bind]
  | ok x =>
    cases readG w with
    | error fault =>
      simp [Except.map, Except.bind]
    | ok y =>
      have same : setG (setF d x) y = setF (setG d y) x := apart d x y
      simp [Except.map, Except.bind, same]

/-- A shape whose fields read canonical forms alike and can be stored in any order. -/
structure Shape.Orderly (shape : Shape δ α) : Prop where
  stable : ∀ f ∈ shape.fields, ∀ d, Stable (f.store d)
  commute : shape.fields.Pairwise Field.Commute

namespace Shape

variable {shape : Shape δ α}

/-- Stores one member, unless it is to be left out. -/
def put (shape : Shape δ α) (d : δ) (m : String × Json) : Except Fault δ :=
  match shape.fields.find? (·.name == m.1) with
  | none => .ok d
  | some field => field.store d m.2

/-- Whether a name is that of a field. -/
def knows (shape : Shape δ α) (name : String) : Bool :=
  (shape.fields.find? (·.name == name)).isSome

/-- Members are stored one after another; those with a known name must not be repeated. -/
theorem storeMembers_eq_ok_iff {seen : List String} {members : List (String × Json)} {d d' : δ} :
    shape.storeMembers seen members d = .ok d' ↔
      ((members.filter (shape.knows ·.1)).map Prod.fst).Nodup ∧
      (∀ m ∈ members.filter (shape.knows ·.1), m.1 ∉ seen) ∧
      (members.filter (shape.knows ·.1)).foldlM shape.put d = .ok d' := by
  induction members generalizing seen d with
  | nil =>
    simp [storeMembers, pure, Except.pure]
  | cons m rest ih =>
    rcases m with ⟨name, value⟩
    -- A name that no field has is left out on both sides.
    cases found : shape.fields.find? (·.name == name) with
    | none =>
      have unknown : shape.knows name = false := by simp [knows, found]
      rw [List.filter_cons_of_neg (by simp [unknown])]
      simpa only [storeMembers, found] using ih
    | some field =>
      have known : shape.knows name = true := by simp [knows, found]
      rw [List.filter_cons_of_pos (by simpa using known)]
      simp only [storeMembers, found]
      -- A known name must not have been seen, and counts as seen for the rest.
      by_cases repeated : name ∈ seen
      · simp [repeated]
      · have stored : shape.put d (name, value) = field.store d value := by simp [put, found]
        simp only [List.contains_eq_mem, repeated, decide_false, Bool.false_eq_true, if_false,
          List.map_cons, List.nodup_cons, List.foldlM_cons, stored, List.forall_mem_cons,
          not_false_eq_true, true_and]
        cases field.store d value with
        | error fault =>
          simp [bind, Except.bind]
        | ok next =>
          -- Not being repeated later is asked once of the rest, by way of what has been seen.
          have apart : (∀ m ∈ rest.filter (shape.knows ·.1), m.1 ∉ name :: seen) ↔
              name ∉ (rest.filter (shape.knows ·.1)).map Prod.fst ∧
                ∀ m ∈ rest.filter (shape.knows ·.1), m.1 ∉ seen := by
            simp only [List.mem_cons, not_or, List.mem_map, not_exists, not_and, forall_and]
          simp only [bind, Except.bind, ih, apart]
          tauto

/-- Members of different names can be stored in either order. -/
theorem put_commute (orderly : shape.Orderly) {m n : String × Json} (apart : m.1 ≠ n.1) (d d' : δ) :
    (shape.put d m).bind (shape.put · n) = .ok d' ↔
      (shape.put d n).bind (shape.put · m) = .ok d' := by
  -- Members that are left out commute with all others; so two fields are left to compare.
  cases here : shape.fields.find? (·.name == m.1) with
  | none =>
    have skipped : ∀ e, shape.put e m = .ok e := fun e => by simp [put, here]
    simp [bind_eq_ok_iff, skipped]
  | some f =>
    cases there : shape.fields.find? (·.name == n.1) with
    | none =>
      have skipped : ∀ e, shape.put e n = .ok e := fun e => by simp [put, there]
      simp [bind_eq_ok_iff, skipped]
    | some g =>
      have : Std.Symm (Field.Commute (δ := δ)) := ⟨fun _ _ => Field.Commute.symm⟩
      have distinct : f ≠ g := by
        rintro rfl
        have same : f.name = m.1 := by simpa using List.find?_some here
        have alike : f.name = n.1 := by simpa using List.find?_some there
        exact apart (same.symm.trans alike)
      have commute : f.Commute g :=
        orderly.commute.forall (List.mem_of_find?_eq_some here) (List.mem_of_find?_eq_some there)
          distinct
      simpa only [put, here, there] using commute d m.2 n.2 d'

theorem foldlM_put_perm (orderly : shape.Orderly) {members others : List (String × Json)}
    (p : members.Perm others) (distinct : (members.map Prod.fst).Nodup) (d d' : δ) :
    members.foldlM shape.put d = .ok d' ↔ others.foldlM shape.put d = .ok d' := by
  -- By induction on how one order comes from the other; only the exchange of two neighbours takes
  -- an argument.
  induction p generalizing d with
  | nil =>
    rfl
  | cons m p ih =>
    simp only [List.map_cons, List.nodup_cons] at distinct
    simp only [List.foldlM_cons]
    cases shape.put d m with
    | error fault =>
      rfl
    | ok next =>
      exact ih distinct.2 next
  | swap m n rest =>
    simp only [List.map_cons, List.nodup_cons, List.mem_cons, not_or] at distinct
    -- The rest is stored after either order of the two, so it is enough that these give the same.
    have step : ∀ a b : String × Json, (a :: b :: rest).foldlM shape.put d =
        ((shape.put d a).bind (shape.put · b)).bind (rest.foldlM shape.put) := by
      intro a b
      simp only [List.foldlM_cons, bind]
      cases shape.put d a <;> rfl
    have either : ∀ next, (shape.put d n).bind (shape.put · m) = .ok next ↔
        (shape.put d m).bind (shape.put · n) = .ok next :=
      put_commute orderly distinct.1.1 d
    rw [step, step, bind_eq_ok_iff, bind_eq_ok_iff]
    exact exists_congr fun next => and_congr_left' (either next)
  | trans p q ihp ihq =>
    rw [ihp distinct d, ihq ((p.map Prod.fst).nodup_iff.1 distinct) d]

theorem put_canonicalMember (orderly : shape.Orderly) {d d' : δ} {m : String × Json}
    (h : shape.put d m = .ok d') : shape.put d (canonicalMember m) = .ok d' := by
  unfold put at h ⊢
  cases found : shape.fields.find? (·.name == m.1) with
  | none =>
    simpa [canonicalMember, found] using h
  | some f =>
    have stable : Stable (f.store d) := orderly.stable f (List.mem_of_find?_eq_some found) d
    simp only [found] at h
    simpa only [canonicalMember, found] using stable m.2 d' h

theorem foldlM_put_canonical (orderly : shape.Orderly) {members : List (String × Json)} {d d' : δ}
    (h : members.foldlM shape.put d = .ok d') :
    (members.map canonicalMember).foldlM shape.put d = .ok d' := by
  induction members generalizing d with
  | nil =>
    exact h
  | cons m rest ih =>
    cases stored : shape.put d m with
    | error fault =>
      simp [stored, bind, Except.bind] at h
    | ok next =>
      simp only [List.map_cons, List.foldlM_cons, put_canonicalMember orderly stored]
      simp only [List.foldlM_cons, stored] at h
      exact ih h

theorem storeMembers_canonicalMembers (orderly : shape.Orderly) {members : List (String × Json)}
    {d d' : δ} (h : shape.storeMembers [] members d = .ok d') :
    shape.storeMembers [] (canonicalMembers members) d = .ok d' := by
  rcases storeMembers_eq_ok_iff.1 h with ⟨distinct, -, stored⟩
  -- The canonical form sorts the known members, and it does not change their names.
  have sorted := filter_canonicalMembers (p := shape.knows) distinct
  have names : ((members.filter (shape.knows ·.1)).map canonicalMember).map Prod.fst =
      (members.filter (shape.knows ·.1)).map Prod.fst := by
    simp [canonicalMember, Function.comp_def]
  have apart : (((canonicalMembers members).filter (shape.knows ·.1)).map Prod.fst).Nodup := by
    rw [(sorted.map Prod.fst).nodup_iff, names]
    exact distinct
  refine storeMembers_eq_ok_iff.2 ⟨apart, by simp, ?_⟩
  rw [foldlM_put_perm orderly sorted apart]
  exact foldlM_put_canonical orderly stored

theorem storeItems_canonicalItems {fields : List (Field δ)}
    (stable : ∀ f ∈ fields, ∀ d, Stable (f.store d)) {items : List Json} {d d' : δ}
    (h : storeItems fields items d = .ok d') :
    storeItems fields (canonicalItems items) d = .ok d' := by
  induction fields generalizing items d with
  | nil =>
    cases items <;> exact h
  | cons f fields ih =>
    cases items with
    | nil =>
      exact h
    | cons item items =>
      simp only [storeItems] at h
      cases stored : f.store d item with
      | error fault =>
        simp [stored] at h
      | ok next =>
        simp only [stored] at h
        have here := stable f (List.mem_cons_self ..) d item next stored
        simp only [canonicalItems, storeItems, here]
        exact ih (fun g hg => stable g (List.mem_cons_of_mem _ hg)) h

end Shape

theorem length_canonicalItems (items : List Json) :
    (canonicalItems items).length = items.length := by
  induction items with
  | nil =>
    rfl
  | cons item rest ih =>
    simp [canonicalItems, ih]

/-- A record of an orderly shape is read alike from the canonical form of its value. -/
theorem Shape.Orderly.stable_read {shape : Shape δ α} (orderly : shape.Orderly) :
    Stable shape.read := by
  intro value a h
  cases value with
  | object members =>
    simp only [Shape.read] at h
    cases stored : shape.storeMembers [] members shape.blank with
    | error fault =>
      simp [stored] at h
    | ok draft =>
      simp only [stored] at h
      simpa only [canonical, Shape.read, Shape.storeMembers_canonicalMembers orderly stored] using h
  | array items =>
    simp only [Shape.read] at h
    cases stored : Shape.storeItems shape.fields items shape.blank with
    | error fault =>
      simp [stored] at h
    | ok draft =>
      simp only [stored] at h
      simpa only [canonical, Shape.read, Shape.storeItems_canonicalItems orderly.stable stored,
        length_canonicalItems] using h
  | null => exact h
  | bool b => exact h
  | number l => exact h
  | string s => exact h
  | unreadable => exact h

/-! ## Parts of records -/

/-- A reader that takes neither arrays nor objects reads canonical forms alike. -/
theorem stable_of_plain {read : Json → Except Fault α}
    (arrays : ∀ items a, read (array items) ≠ .ok a)
    (objects : ∀ members a, read (object members) ≠ .ok a) : Stable read := by
  intro value a h
  cases value with
  | array items => exact absurd h (arrays items a)
  | object members => exact absurd h (objects members a)
  | null => exact h
  | bool b => exact h
  | number l => exact h
  | string s => exact h
  | unreadable => exact h

theorem Stable.map {β : Type} {read : Json → Except Fault α} (h : Stable read) (f : α → β) :
    Stable fun value => (read value).map f := by
  intro value b mapped
  cases got : read value with
  | error fault =>
    simp [got, Except.map] at mapped
  | ok a =>
    simpa [h value a got, got] using mapped

theorem stable_asString : Stable asString :=
  stable_of_plain (by simp [asString]) (by simp [asString])

theorem stable_asBool : Stable asBool :=
  stable_of_plain (by simp [asBool]) (by simp [asBool])

theorem stable_asNatural (bits : Nat) : Stable (asNatural bits) :=
  stable_of_plain (by simp [asNatural]) (by simp [asNatural])

theorem stable_asUInt32 : Stable asUInt32 :=
  (stable_asNatural 32).map UInt32.ofNat

theorem stable_asSingle : Stable asSingle :=
  stable_of_plain (by simp [asSingle]) (by simp [asSingle])

theorem stable_choice [Choice α] : Stable (Choice.read (α := α)) := by
  intro value a h
  cases value with
  | object members =>
    match members with
    | [] => simp [Choice.read] at h
    | [(name, value)] =>
      -- Only `null` can stand beside the name, and it is its own canonical form.
      cases value with
      | null =>
        simpa [canonical, canonicalMembers, insertMember] using h
      | _ =>
        simp only [Choice.read] at h
        cases known : Choice.named (α := α) name <;> simp [known, bind, Except.bind] at h
    | _ :: _ :: _ => simp [Choice.read] at h
  | array items => simp [Choice.read] at h
  | null => exact h
  | bool b => exact h
  | number l => exact h
  | string s => exact h
  | unreadable => exact h

theorem stable_asOption {read : Json → Except Fault α} (h : Stable read) :
    Stable (asOption read) := by
  intro value a got
  cases value with
  | null => exact got
  | array items => exact (h.map some) (array items) a got
  | object members => exact (h.map some) (object members) a got
  | bool b => exact got
  | number l => exact got
  | string s => exact got
  | unreadable => exact got

theorem stable_asList {item : Json → Except Fault α} (h : Stable item) : Stable (asList item) := by
  have each : ∀ items as, items.mapM item = .ok as → (canonicalItems items).mapM item = .ok as := by
    intro items
    induction items with
    | nil =>
      intro as got
      exact got
    | cons v rest ih =>
      intro as got
      rw [List.mapM_cons] at got
      rw [canonicalItems, List.mapM_cons]
      cases first : item v with
      | error fault =>
        simp [first, bind, Except.bind] at got
      | ok a =>
        cases later : rest.mapM item with
        | error fault =>
          simp [first, later, bind, Except.bind] at got
        | ok more =>
          simpa [first, later, h v a first, ih more later, bind, Except.bind] using got
  intro value as got
  cases value with
  | array items => exact each items as got
  | object members => simp [asList] at got
  | null => exact got
  | bool b => exact got
  | number l => exact got
  | string s => exact got
  | unreadable => exact got

/-! ## Records that are set place by place -/

/-- Fields and their setters: each field reads a value, from its canonical form alike, and sets its
place in the draft to what it has read. -/
inductive Sets : List (Field δ) → List (Setter δ) → Prop
  | nil : Sets [] []
  | cons {β : Type} {name : String} {read : Json → Except Fault β} {set : δ → β → δ}
      {fields : List (Field δ)} {setters : List (Setter δ)} (stable : Stable read)
      (rest : Sets fields setters) :
      Sets (⟨name, fun d v => (read v).map (set d)⟩ :: fields) (⟨set⟩ :: setters)

namespace Sets

variable {fields : List (Field δ)} {setters : List (Setter δ)}

theorem stable (sets : Sets fields setters) : ∀ f ∈ fields, ∀ d, Stable (f.store d) := by
  induction sets with
  | nil =>
    exact nofun
  | @cons β name read set fields setters stable rest ih =>
    intro f there d
    rcases List.mem_cons.1 there with rfl | later
    · exact stable.map (set d)
    · exact ih f later d

/-- A field commutes with those that set other places. -/
theorem commute_of_apart {β : Type} {name : String} {read : Json → Except Fault β} {set : δ → β → δ}
    (sets : Sets fields setters) (apart : ∀ t ∈ setters, Setter.Apart ⟨set⟩ t) :
    ∀ g ∈ fields, Field.Commute ⟨name, fun d v => (read v).map (set d)⟩ g := by
  induction sets with
  | nil =>
    exact nofun
  | @cons γ other readOther setOther fields setters stable rest ih =>
    intro g there
    rcases List.mem_cons.1 there with rfl | later
    · exact Field.commute_of_apart (apart ⟨setOther⟩ (List.mem_cons_self ..))
    · exact ih (fun t ht => apart t (List.mem_cons_of_mem _ ht)) g later

theorem commute (sets : Sets fields setters) (apart : setters.Pairwise Setter.Apart) :
    fields.Pairwise Field.Commute := by
  induction sets with
  | nil =>
    exact List.Pairwise.nil
  | cons stable rest ih =>
    rcases List.pairwise_cons.1 apart with ⟨first, others⟩
    exact List.Pairwise.cons (rest.commute_of_apart first) (ih others)

/-- A record is orderly if each of its fields sets a place of its own. -/
theorem orderly {shape : Shape δ α} (sets : Sets shape.fields setters)
    (apart : setters.Pairwise Setter.Apart) : shape.Orderly :=
  ⟨sets.stable, sets.commute apart⟩

end Sets

/-! ## Written records -/

/-- How the parts of a record fill a draft: field by field, where a part may be left out, and those
of the last fields may all be missing. -/
inductive Fills : List (Field δ) → List (String × Option Json) → δ → δ → Prop
  | done {fields : List (Field δ)} {d : δ} : Fills fields [] d d
  | absent {f : Field δ} {fields : List (Field δ)} {parts : List (String × Option Json)} {d d' : δ}
      (rest : Fills fields parts d d') : Fills (f :: fields) ((f.name, none) :: parts) d d'
  | present {f : Field δ} {fields : List (Field δ)} {value : Json}
      {parts : List (String × Option Json)} {d next d' : δ} (stored : f.store d value = .ok next)
      (rest : Fills fields parts next d') :
      Fills (f :: fields) ((f.name, some value) :: parts) d d'

/-- The members of the parts that are there. -/
def given (parts : List (String × Option Json)) : List (String × Json) :=
  parts.filterMap fun (name, value) => value.map (name, ·)

namespace Fills

variable {β : Type} {fields : List (Field δ)} {parts : List (String × Option Json)} {name : String}
  {d d' : δ}

/-- A part that is always there. -/
theorem required {read : Json → Except Fault β} {set : δ → β → δ} {value : Json} {x : β}
    (back : read value = .ok x) (rest : Fills fields parts (set d x) d') :
    Fills (⟨name, fun d v => (read v).map (set d)⟩ :: fields)
      ((name, some value) :: parts) d d' := by
  have stored : (read value).map (set d) = .ok (set d x) := by
    rw [back]
    rfl
  exact .present stored rest

/-- A part that is left out when it is unset. -/
theorem optional {read : Json → Except Fault β} {write : β → Json} {set : δ → Option β → δ}
    {o : Option β} (back : ∀ x, o = some x → asOption read (write x) = .ok (some x))
    (unset : set d none = d) (rest : Fills fields parts (set d o) d') :
    Fills (⟨name, fun d v => (asOption read v).map (set d)⟩ :: fields)
      ((name, o.map write) :: parts) d d' := by
  cases o with
  | none =>
    rw [unset] at rest
    exact .absent rest
  | some x =>
    exact .required (back x rfl) rest

theorem names_sublist (fills : Fills fields parts d d') :
    ((given parts).map Prod.fst).Sublist (fields.map (·.name)) := by
  induction fills with
  | done =>
    exact List.nil_sublist _
  | @absent f fields parts d d' rest ih =>
    exact ih.cons f.name
  | @present f fields value parts d next d' stored rest ih =>
    exact ih.cons_cons f.name

theorem foldlM_put {shape : Shape δ α} (fills : Fills fields parts d d')
    (found : ∀ f ∈ fields, shape.fields.find? (·.name == f.name) = some f) :
    (given parts).foldlM shape.put d = .ok d' := by
  induction fills with
  | done =>
    rfl
  | absent rest ih =>
    exact ih fun g hg => found g (List.mem_cons_of_mem _ hg)
  | @present f fields value parts d next d' stored rest ih =>
    have here : shape.put d (f.name, value) = .ok next := by
      simpa [Shape.put, found f (List.mem_cons_self ..)] using stored
    have members : given ((f.name, some value) :: parts) =
        (f.name, value) :: given parts := rfl
    rw [members, List.foldlM_cons, here]
    exact ih fun g hg => found g (List.mem_cons_of_mem _ hg)

end Fills

theorem find?_of_nodup {fields : List (Field δ)} (distinct : (fields.map (·.name)).Nodup)
    {f : Field δ} (h : f ∈ fields) : fields.find? (·.name == f.name) = some f := by
  induction fields with
  | nil =>
    cases h
  | cons g fields ih =>
    simp only [List.map_cons, List.nodup_cons] at distinct
    rcases List.mem_cons.1 h with rfl | later
    · simp
    · have apart : g.name ≠ f.name := by
        intro same
        exact distinct.1 (same ▸ List.mem_map_of_mem later)
      simpa [List.find?_cons, apart] using ih distinct.2 later

/-- A record is read from parts that fill its draft. -/
theorem Shape.read_ofFields (shape : Shape δ α) {parts : List (String × Option Json)} {draft : δ}
    {a : α} (distinct : (shape.fields.map (·.name)).Nodup)
    (fills : Fills shape.fields parts shape.blank draft) (finished : shape.finish draft = .ok a) :
    shape.read (ofFields parts) = .ok a := by
  have names := fills.names_sublist
  -- Every part has the name of a field, so none is left out.
  have known : (given parts).filter (shape.knows ·.1) = given parts := by
    refine List.filter_eq_self.2 fun m hm => ?_
    rcases List.mem_map.1 (names.subset (List.mem_map_of_mem hm)) with ⟨f, there, same⟩
    simp [Shape.knows, ← same, find?_of_nodup distinct there]
  have stored : shape.storeMembers [] (given parts) shape.blank = .ok draft := by
    refine Shape.storeMembers_eq_ok_iff.2 ⟨?_, by simp, ?_⟩
    · rw [known]
      exact distinct.sublist names
    · rw [known]
      exact fills.foldlM_put fun f hf => find?_of_nodup distinct hf
  unfold given at stored
  simp [ofFields, Shape.read, stored, finished]

theorem ofFields_some (members : List (String × Json)) :
    ofFields (members.map fun m => (m.1, some m.2)) = object members := by
  simp [ofFields, List.filterMap_map]

theorem Shape.read_object (shape : Shape δ α) {members : List (String × Json)} {draft : δ} {a : α}
    (distinct : (shape.fields.map (·.name)).Nodup)
    (fills : Fills shape.fields (members.map fun m => (m.1, some m.2)) shape.blank draft)
    (finished : shape.finish draft = .ok a) : shape.read (object members) = .ok a := by
  rw [← ofFields_some]
  exact shape.read_ofFields distinct fills finished

end Json
end PageBuilder
