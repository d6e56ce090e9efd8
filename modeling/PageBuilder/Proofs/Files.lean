import Mathlib.Data.List.Infix
import PageBuilder.Storage.Disk

/-!
# What a change of a disk leaves alone

A walk leads through directories only, so it never comes to a place that is none, or below one. A
change at such places therefore leaves every walk as it was. This is what makes it safe to write and
rename files in a directory that is still to be found by its path.
-/

namespace PageBuilder

/-! ## Paths in a directory -/

namespace Path

/-- A name that leads one place further in. -/
structure Plain (name : String) : Prop where
  moves : Place.stays name = false
  not_outer : name ≠ ".."
  no_slash : '/' ∉ name.toList

theorem Plain.not_root {name : String} (h : Plain name) : name ≠ "/" := by
  intro same
  exact h.no_slash (by simp [same])

theorem segments_of_no_slash {cs : List Char} (h : '/' ∉ cs) : segments cs = [cs] := by
  induction cs with
  | nil =>
    rfl
  | cons c rest ih =>
    simp only [List.mem_cons, not_or] at h
    have apart : c ≠ '/' := fun same => h.1 same.symm
    simp [segments, ih h.2, apart]

theorem segments_append (cs ds : List Char) :
    segments (cs ++ '/' :: ds) = segments cs ++ segments ds := by
  have some_name : ∀ es, ∃ name names, segments es = name :: names := by
    intro es
    cases es with
    | nil =>
      exact ⟨[], [], rfl⟩
    | cons e more =>
      unfold segments
      split
      · exact ⟨_, _, rfl⟩
      · split
        · exact ⟨_, _, rfl⟩
        · exact ⟨_, _, rfl⟩
  induction cs with
  | nil =>
    rcases some_name ds with ⟨name, names, found⟩
    simp [segments, found]
  | cons c rest ih =>
    rcases some_name rest with ⟨name, names, found⟩
    rw [found] at ih
    -- A slash starts a new name, any other character goes in front of the first one.
    by_cases slash : c = '/'
    · simp [segments, ih, found, slash]
    · simp [segments, ih, found, slash]

/-- The names that lead to a directory, when something in it is asked for. -/
def inside (home : String) : List String := (names (join home "")).dropLast

theorem names_join (home : String) {file : String} (h : '/' ∉ file.toList) :
    names (join home file) = inside home ++ [file] := by
  have join_eq : ∃ front, ∀ f : String, '/' ∉ f.toList →
      segments (join home f).toList = front ++ [f.toList] := by
    -- Without a directory there are no names in front; a slash between the two is put in unless the
    -- directory ends in one.
    by_cases empty : home.isEmpty
    · refine ⟨[], fun f hf => ?_⟩
      simp [join, empty, segments_of_no_slash hf]
    · have relative : ∀ f : String, '/' ∉ f.toList → (f.toList.head? == some '/') = false := by
        intro f hf
        cases chars : f.toList with
        | nil => rfl
        | cons c rest =>
          simp only [chars, List.mem_cons, not_or] at hf
          simpa using fun same => hf.1 same.symm
      by_cases last : home.toList.getLast? = some '/'
      · rcases List.getLast?_eq_some_iff.1 last with ⟨front, same⟩
        refine ⟨segments front, fun f hf => ?_⟩
        have chars : (join home f).toList = front ++ '/' :: f.toList := by
          simp [join, empty, relative f hf, same]
        rw [chars, segments_append, segments_of_no_slash hf]
      · refine ⟨segments home.toList, fun f hf => ?_⟩
        have chars : (join home f).toList = home.toList ++ '/' :: f.toList := by
          simp [join, empty, relative f hf, last]
        rw [chars, segments_append, segments_of_no_slash hf]
  rcases join_eq with ⟨front, split⟩
  have bare : names (join home "") = front.map String.ofList ++ [""] := by
    simp [names, split "" (by simp)]
  have full : names (join home file) = front.map String.ofList ++ [file] := by
    simp [names, split file h]
  rw [inside, bare, full, List.dropLast_concat]

theorem start_join (home : String) {file : String} (h : '/' ∉ file.toList) :
    start (join home file) = start home := by
  have relative : file.toList.head? ≠ some '/' := by
    intro head
    exact h (List.mem_of_head? head)
  have absent : (file.toList.head? == some '/') = false := by simpa using relative
  by_cases empty : home.isEmpty
  · have nothing : home = "" := by simpa using empty
    simp [start, join, nothing, relative]
  · have head : ∀ rest : List Char, (home.toList ++ rest).head? = home.toList.head? := by
      intro rest
      cases chars : home.toList with
      | nil => exact absurd (by simpa using chars) empty
      | cons c more => rfl
    unfold start join
    by_cases last : home.toList.getLast? = some '/'
    · simp [empty, absent, last, head]
    · simp [empty, absent, last, head]

/-- The directories that a path asks for are passed on the way to what it means. -/
theorem requested_prefix (path : String) : requested path <+: names path := by
  -- Read from its end, a path loses names only at the front.
  have behind : ∃ l, l <:+ (names path).reverse ∧ requested path = l.reverse := by
    unfold requested
    have trimmed := List.dropWhile_suffix (l := (names path).reverse) (·.isEmpty)
    split
    · next rest here =>
      rw [here] at trimmed
      refine ⟨(rest.dropWhile Place.stays).drop 1, ?_, rfl⟩
      calc (rest.dropWhile Place.stays).drop 1
          <:+ rest.dropWhile Place.stays := List.drop_suffix 1 _
        _ <:+ rest := List.dropWhile_suffix _
        _ <:+ "." :: rest := List.suffix_cons _ _
        _ <:+ (names path).reverse := trimmed
    · exact ⟨_, trimmed, rfl⟩
  rcases behind with ⟨l, within, same⟩
  rw [same, ← List.reverse_suffix, List.reverse_reverse]
  exact within

end Path

/-! ## Places off every way -/

namespace Place

/-- A place with a name of its own. -/
def Named (place : Place) : Prop := ∃ name rest, place = name :: rest ∧ name ≠ ".." ∧ name ≠ "/"

theorem named_of_plain {name : String} (plain : Path.Plain name) (here : Place) :
    Named (name :: here) :=
  ⟨name, here, rfl, plain.not_outer, plain.not_root⟩

variable {x here : Place}

theorem Named.isAnchor (named : x.Named) : x.isAnchor = false := by
  rcases named with ⟨name, rest, rfl, not_outer, not_root⟩
  simp [Place.isAnchor, root, not_outer, not_root]

theorem Named.not_within_start (named : x.Named) (path : String) : ¬ x <:+ Path.start path := by
  rcases named with ⟨name, rest, rfl, -, not_root⟩
  intro within
  unfold Path.start at within
  split at within
  · have same : name :: rest = ["/"] := by simpa [root, List.suffix_cons_iff] using within
    exact not_root (List.cons.inj same).1
  · simp [working] at within

/-- One step leads to a named place or below it only from below it, or onto it. -/
theorem Named.not_within_step (named : x.Named) (out : ¬ x <:+ here) {name : String}
    (other : here.step name ≠ x) : ¬ x <:+ here.step name := by
  rcases named with ⟨first, more, rfl, not_outer, not_root⟩
  intro within
  unfold step at within other
  -- A step stays, goes back, or goes one name further in.
  by_cases stay : stays name
  · rw [if_pos stay] at within
    exact out within
  · rw [if_neg stay] at within other
    by_cases back : name = ".."
    · rw [if_pos back] at within
      -- Going back leads to a shorter place, or to an anchor.
      cases here with
      | nil =>
        simp [outer, List.suffix_cons_iff, not_outer] at within
      | cons last rest =>
        simp only [outer] at within
        by_cases around : last = ".."
        · rw [if_pos around] at within
          rcases List.suffix_cons_iff.1 within with same | below
          · exact not_outer (List.cons.inj same).1
          · exact out below
        · rw [if_neg around] at within
          by_cases top : last = "/"
          · rw [if_pos top] at within
            have same : first :: more = ["/"] := by
              simpa [root, List.suffix_cons_iff] using within
            exact not_root (List.cons.inj same).1
          · rw [if_neg top] at within
            exact out (within.trans (List.suffix_cons last rest))
    · rw [if_neg back] at within other
      rcases List.suffix_cons_iff.1 within with same | below
      · exact other same.symm
      · exact out below

end Place

namespace Disk

variable {d d' : Disk} {here r : Place}

/-! ## Walks -/

/-- Two trees that differ at or below some places only. -/
def SameApart (xs : List Place) (d d' : Disk) : Prop :=
  ∀ p, (∀ x ∈ xs, ¬ x <:+ p) → d'.entryAt? p = d.entryAt? p

/-- A walk that does not start below places where there are no directories never comes there, so it
does not matter what changes there. -/
theorem walk?_of_sameApart {xs : List Place} (named : ∀ x ∈ xs, x.Named)
    (shut : ∀ x ∈ xs, d.entryAt? x ≠ some .directory) (same : SameApart xs d d')
    {names : List String} (out : ∀ x ∈ xs, ¬ x <:+ here) (walked : d.walk? here names = some r) :
    d'.walk? here names = some r ∧ ∀ x ∈ xs, ¬ x <:+ r := by
  induction names generalizing here with
  | nil =>
    cases walked
    exact ⟨rfl, out⟩
  | cons name rest ih =>
    unfold walk? enter? at walked ⊢
    cases entry : d.entryAt? (here.step name) with
    | none =>
      simp [entry] at walked
    | some found =>
      cases found with
      | file contents =>
        simp [entry] at walked
      | directory =>
        -- The step leads into a directory, so onto none of the places, and hence not below one.
        have outside : ∀ x ∈ xs, ¬ x <:+ here.step name := by
          intro x hx
          refine (named x hx).not_within_step (out x hx) ?_
          intro onto
          exact shut x hx (onto ▸ entry)
        have entered : d'.entryAt? (here.step name) = some .directory :=
          (same _ outside).trans entry
        simp only [entry] at walked
        simp only [entered]
        exact ih outside walked

theorem walk?_append {front back : List String} :
    d.walk? here (front ++ back) = (d.walk? here front).bind (d.walk? · back) := by
  induction front generalizing here with
  | nil =>
    rfl
  | cons name rest ih =>
    simp only [List.cons_append, walk?]
    cases d.enter? here name with
    | none => rfl
    | some next => exact ih

/-! ## Putting -/

theorem lookup_filter_ne {entries : List (Place × Entry)} {place other : Place}
    (h : other ≠ place) : (entries.filter (·.1 ≠ place)).lookup other = entries.lookup other := by
  induction entries with
  | nil =>
    rfl
  | cons e rest ih =>
    rcases e with ⟨p, entry⟩
    by_cases here : p = place
    · have apart : (other == p) = false := by simpa [here] using h
      rw [List.filter_cons_of_neg (by simpa using here), List.lookup_cons, apart]
      exact ih
    · rw [List.filter_cons_of_pos (by simpa using here), List.lookup_cons, List.lookup_cons, ih]

theorem entryAt?_put_self {place : Place} (named : place.Named) (entry : Entry) :
    (d.put place entry).entryAt? place = some entry := by
  simp [entryAt?, named.isAnchor, put]

theorem entryAt?_put_of_ne {place other : Place} (entry : Entry) (h : other ≠ place) :
    (d.put place entry).entryAt? other = d.entryAt? other := by
  have apart : (other == place) = false := by simpa using h
  simp only [entryAt?, put, List.lookup_cons, apart, lookup_filter_ne h]

theorem sameApart_put (d : Disk) (place : Place) (entry : Entry) :
    SameApart [place] d (d.put place entry) := by
  intro p out
  refine entryAt?_put_of_ne entry ?_
  rintro rfl
  exact out p (List.mem_cons_self ..) (List.suffix_refl p)

/-! ## Carrying -/

theorem isWithin_iff {around place : Place} : around.isWithin place = true ↔ around <:+ place :=
  List.isSuffixOf_iff_suffix

/-- What is carried ends up at or below the target. -/
theorem within_carried (source target place : Place) : target <:+ source.carried target place :=
  List.suffix_append _ _

/-- Only what stood at the source itself ends up at the target. -/
theorem eq_of_carried {source target place : Place} (within : source <:+ place)
    (onto : source.carried target place = target) : place = source := by
  have none : place.take (place.length - source.length) = [] := List.append_left_eq_self.1 onto
  have shorter : place.length ≤ source.length := by
    rcases List.take_eq_nil_iff.1 none with zero | rfl
    · omega
    · exact Nat.zero_le _
  exact (within.eq_of_length_le shorter).symm

theorem lookup_carry (source : Place) {target p : Place} (out : ¬ target <:+ p) (d : Disk) :
    (d.carry source target).entries.lookup p =
      if source.isWithin p then none else d.entries.lookup p := by
  have ne : p ≠ target := by
    rintro rfl
    exact out (List.suffix_refl p)
  -- By induction on the entries: each is dropped, carried below the target, or stays.
  unfold carry
  induction d.entries with
  | nil =>
    simp
  | cons e rest ih =>
    rcases e with ⟨q, entry⟩
    by_cases replaced : q = target
    · have apart : (p == q) = false := by simpa [replaced] using ne
      rw [List.filter_cons_of_neg (by simpa using replaced), ih, List.lookup_cons, apart]
    · rw [List.filter_cons_of_pos (by simpa using replaced), List.map_cons, List.lookup_cons, ih]
      by_cases moved : source.isWithin q
      · -- The entry goes below the target, and so not to the place that is asked for.
        have away : (p == Place.carried source target q) = false := by
          simp only [beq_eq_false_iff_ne]
          intro same
          exact out (same ▸ within_carried source target q)
        simp only [moved, if_true, away]
        by_cases asked : source.isWithin p
        · simp [asked]
        · have apart : (p == q) = false := by
            simp only [beq_eq_false_iff_ne]
            rintro rfl
            exact asked moved
          simp [asked, List.lookup_cons, apart]
      · simp only [moved, Bool.false_eq_true, if_false]
        by_cases onto : p = q
        · subst onto
          simp [moved]
        · have apart : (p == q) = false := by simpa using onto
          simp [apart, List.lookup_cons]

theorem sameApart_carry (d : Disk) (source target : Place) :
    SameApart [source, target] d (d.carry source target) := by
  intro p out
  have away : source.isWithin p = false := by
    rw [Bool.eq_false_iff]
    exact fun within => out source (by simp) (isWithin_iff.1 within)
  have looked := lookup_carry source (out target (by simp)) d
  simp only [entryAt?, looked, away, Bool.false_eq_true, if_false]

theorem entryAt?_carry_source {source target : Place} (named : source.Named)
    (out : ¬ target <:+ source) : (d.carry source target).entryAt? source = none := by
  have within : source.isWithin source = true := isWithin_iff.2 (List.suffix_refl source)
  simp [entryAt?, named.isAnchor, lookup_carry source out, within]

/-- What stood at the source stands at the target afterwards. -/
theorem entryAt?_carry_target {source target : Place} (named : source.Named) (named' : target.Named)
    (apart : source ≠ target) : (d.carry source target).entryAt? target = d.entryAt? source := by
  simp only [entryAt?, named.isAnchor, named'.isAnchor, Bool.false_eq_true, if_false]
  -- By induction on the entries: the target's own is dropped, and only the source becomes the target.
  unfold carry
  induction d.entries with
  | nil =>
    rfl
  | cons e rest ih =>
    rcases e with ⟨q, entry⟩
    by_cases replaced : q = target
    · have other : (source == q) = false := by simpa [replaced] using apart
      rw [List.filter_cons_of_neg (by simpa using replaced), ih, List.lookup_cons, other]
    · rw [List.filter_cons_of_pos (by simpa using replaced), List.map_cons, List.lookup_cons, ih,
        List.lookup_cons]
      by_cases onto : source = q
      · subst onto
        have within : source.isWithin source = true := isWithin_iff.2 (List.suffix_refl source)
        simp [within, Place.carried]
      · have other : (source == q) = false := by simpa using onto
        by_cases moved : source.isWithin q
        · have away : (target == source.carried target q) = false := by
            simp only [beq_eq_false_iff_ne]
            exact fun same => onto (eq_of_carried (isWithin_iff.1 moved) same.symm).symm
          simp [moved, away, other]
        · have away : (target == q) = false := by simpa using Ne.symm replaced
          simp [moved, away, other]

/-! ## Directories -/

/-- A way that can be walked need not be made. -/
theorem makeWay_of_walk? {names : List String} (walked : d.walk? here names = some r) :
    d.makeWay here names = (true, d) := by
  induction names generalizing here with
  | nil =>
    rfl
  | cons name rest ih =>
    unfold walk? enter? at walked
    cases entry : d.entryAt? (here.step name) with
    | none =>
      simp [entry] at walked
    | some found =>
      cases found with
      | file contents =>
        simp [entry] at walked
      | directory =>
        simp only [entry] at walked
        simpa [makeWay, entry] using ih walked

/-- Whether a path leads to a directory. The empty one stands for the working directory. -/
def Holds (d : Disk) (home : String) : Prop :=
  home = "" ∨ Path.isUsable home = true ∧
    (d.walk? (Path.start home) (Path.names home)).isSome = true

theorem holds_of_makeDirectory {home : String} (made : d.makeDirectory home = (true, d')) :
    d'.Holds home := by
  unfold makeDirectory at made
  split at made
  · next empty =>
    exact Or.inl (by simpa using empty)
  · split at made
    · next usable =>
      simp only [Prod.mk.injEq, Bool.and_eq_true] at made
      rw [← made.2]
      exact Or.inr ⟨usable, made.1.2⟩
    · cases made

/-- A directory that is there need not be made. -/
theorem makeDirectory_of_holds {home : String} (holds : d.Holds home) :
    d.makeDirectory home = (true, d) := by
  unfold makeDirectory
  rcases holds with rfl | ⟨usable, walked⟩
  · rfl
  · rcases Option.isSome_iff_exists.1 walked with ⟨r, reached⟩
    rcases Path.requested_prefix home with ⟨back, names⟩
    have front : ∃ m, d.walk? (Path.start home) (Path.requested home) = some m := by
      rw [← names, walk?_append] at reached
      rcases Option.bind_eq_some_iff.1 reached with ⟨m, first, -⟩
      exact ⟨m, first⟩
    rcases front with ⟨m, first⟩
    simp [usable, makeWay_of_walk? first, walked]

end Disk

end PageBuilder
