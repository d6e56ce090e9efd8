import PageBuilder.Proofs.Files
import PageBuilder.Proofs.JsonText
import PageBuilder.Storage.Store

/-!
# The files of a data directory

What a store writes is what it loads later. The two data files stand beside each other in one
directory, so neither a write of one of them nor setting it aside changes the other one, and the
directory stays where it is.
-/

namespace PageBuilder

open Json

def dataFiles : List String := [stateFile, projectsFile]

theorem plain_dataFile {file : String} (h : file ∈ dataFiles) : Path.Plain file := by
  simp only [dataFiles, List.mem_cons, List.not_mem_nil, or_false] at h
  rcases h with rfl | rfl
  · exact ⟨by decide, by decide, by decide⟩
  · exact ⟨by decide, by decide, by decide⟩

theorem plain_asideName {file : String} (h : file ∈ dataFiles) : Path.Plain (asideName file) := by
  simp only [dataFiles, List.mem_cons, List.not_mem_nil, or_false] at h
  rcases h with rfl | rfl
  · exact ⟨by decide, by decide, by decide⟩
  · exact ⟨by decide, by decide, by decide⟩

/-- No data file has the name under which one is set aside. -/
theorem asideName_ne {file other : String} (h : file ∈ dataFiles) (h' : other ∈ dataFiles) :
    other ≠ asideName file := by
  simp only [dataFiles, List.mem_cons, List.not_mem_nil, or_false] at h h'
  rcases h with rfl | rfl
  · rcases h' with rfl | rfl <;> decide
  · rcases h' with rfl | rfl <;> decide

theorem isName_dataFile {file : String} (h : file ∈ dataFiles) : Path.isName file = true := by
  simp only [dataFiles, List.mem_cons, List.not_mem_nil, or_false] at h
  rcases h with rfl | rfl <;> decide

theorem not_suffix_sibling {name other : String} (h : name ≠ other) (here : Place) :
    ¬ name :: here <:+ other :: here := by
  intro within
  rcases List.suffix_cons_iff.1 within with same | below
  · exact h (List.cons.inj same).1
  · have shorter : here.length + 1 ≤ here.length := below.length_le
    omega

theorem Disk.target?_join {d : Disk} {home file : String} {here : Place} (plain : Path.Plain file)
    (usable : Path.isUsable (Path.join home file) = true)
    (walked : d.walk? (Path.start home) (Path.inside home) = some here) :
    d.target? (Path.join home file) = some (file :: here) := by
  have step : here.step file = file :: here := by
    simp [Place.step, plain.moves, plain.not_outer]
  simp [Disk.target?, usable, Path.names_join home plain.no_slash,
    Path.start_join home plain.no_slash, walked, step]

namespace Store

/-- A store whose data files can be written, and renamed as far as they are there. -/
structure Serves (s : Store) : Prop where
  writes : ∀ file ∈ dataFiles, ∀ path, s.path? file = some path →
    ∀ contents, (s.disk.write? path contents).isSome = true
  renames : ∀ file ∈ dataFiles, ∀ path, s.path? file = some path →
    s.disk.pathExists path = true → (s.setAside file).1.isSome = true

/-- A store in the directory that `home` leads to, at the place `here`, whose data files can be
written. -/
structure Ready (s : Store) (home : String) (here : Place) : Prop where
  home_eq : s.home = some home
  holds : s.disk.Holds home
  walked : s.disk.walk? (Path.start home) (Path.inside home) = some here
  usable : ∀ file ∈ dataFiles, Path.isUsable (Path.join home file) = true
  shut : ∀ file ∈ dataFiles, s.disk.entryAt? (file :: here) ≠ some .directory
  named : ∀ file ∈ dataFiles, s.disk.entryAt? (file :: here) = none →
    (file :: here).all Path.isName = true

/-! ## Opening a directory -/

theorem walked_of_write? {d d' : Disk} {home file : String} (plain : Path.Plain file)
    {contents : ByteArray} (written : d.write? (Path.join home file) contents = some d') :
    ∃ here, Path.isUsable (Path.join home file) = true ∧
      d.walk? (Path.start home) (Path.inside home) = some here ∧
      d.entryAt? (file :: here) ≠ some .directory ∧
      (d.entryAt? (file :: here) = none → (file :: here).all Path.isName = true) := by
  by_cases usable : Path.isUsable (Path.join home file) = true
  · cases walked : d.walk? (Path.start home) (Path.inside home) with
    | none =>
      simp [Disk.write?, Disk.target?, usable, Path.names_join home plain.no_slash,
        Path.start_join home plain.no_slash, walked] at written
    | some here =>
      refine ⟨here, usable, rfl, ?_⟩
      simp only [Disk.write?, Disk.target?_join plain usable walked] at written
      cases entry : d.entryAt? (file :: here) with
      | none =>
        simp only [entry, Option.ite_none_right_eq_some] at written
        exact ⟨by simp, fun _ => written.1⟩
      | some found =>
        cases found with
        | directory => simp [entry] at written
        | file old => exact ⟨by simp, by simp⟩
  · simp [Disk.write?, Disk.target?, usable] at written

theorem ready_of_inDirectory {disk : Disk} {home : String} {s : Store}
    (opened : inDirectory disk home = .ok s) (serves : s.Serves) : ∃ here, s.Ready home here := by
  have home_eq : s.home = some home := by
    unfold inDirectory at opened
    split at opened <;> simp at opened
    rw [← opened]
  have holds : s.disk.Holds home := by
    unfold inDirectory at opened
    split at opened
    · next made =>
      simp only [Except.ok.injEq] at opened
      rw [← opened]
      exact Disk.holds_of_makeDirectory made
    · simp at opened
  -- That a file can be written tells where it is, whatever would be written.
  have written : ∀ file ∈ dataFiles, ∃ d',
      s.disk.write? (Path.join home file) .empty = some d' := by
    intro file h
    have := serves.writes file h (Path.join home file) (by simp [path?, home_eq]) .empty
    exact Option.isSome_iff_exists.1 this
  rcases written stateFile (by simp [dataFiles]) with ⟨d₁, first⟩
  rcases walked_of_write? (plain_dataFile (by simp [dataFiles])) first with ⟨here, -, walked, -, -⟩
  -- Both files are looked for in the same directory.
  have each : ∀ file ∈ dataFiles, Path.isUsable (Path.join home file) = true ∧
      s.disk.entryAt? (file :: here) ≠ some .directory ∧
      (s.disk.entryAt? (file :: here) = none → (file :: here).all Path.isName = true) := by
    intro file h
    rcases written file h with ⟨d₂, there⟩
    rcases walked_of_write? (plain_dataFile h) there with ⟨place, usable, reached, shut, named⟩
    have same : place = here := Option.some.inj (reached.symm.trans walked)
    rw [same] at shut named
    exact ⟨usable, shut, named⟩
  exact ⟨here, home_eq, holds, walked, fun f h => (each f h).1, fun f h => (each f h).2.1,
    fun f h => (each f h).2.2⟩

/-- A directory that is in place is opened without change. -/
theorem Ready.inDirectory_eq {s : Store} {home : String} {here : Place}
    (ready : s.Ready home here) : inDirectory s.disk home = .ok s := by
  have made := Disk.makeDirectory_of_holds ready.holds
  have home_eq := ready.home_eq
  cases s
  simp_all [inDirectory]

/-- What it takes for a data file to be set aside. -/
structure Movable (s : Store) (home : String) (here : Place) (file : String) : Prop where
  usable : Path.isUsable (Path.join home (asideName file)) = true
  named : (asideName file :: here).all Path.isName = true
  source : ∃ contents, s.disk.entryAt? (file :: here) = some (.file contents)
  target : s.disk.entryAt? (asideName file :: here) ≠ some .directory

/-- What is left once a data file is set aside: the file has its new name, in place of one that was
set aside before, there is none of its old name, and all others are as they were. -/
structure Aside (s s' : Store) (here : Place) (file : String) : Prop where
  moved : s'.disk.entryAt? (asideName file :: here) = s.disk.entryAt? (file :: here)
  gone : s'.disk.entryAt? (file :: here) = none
  other : ∀ f, f ≠ file → f ≠ asideName file →
    s'.disk.entryAt? (f :: here) = s.disk.entryAt? (f :: here)

/-! ## Changes of the disk -/

namespace Ready

variable {s : Store} {home file : String} {here : Place}

/-- Changes at places beside the directory leave a store ready, if they leave the data files
writable. -/
theorem of_sameApart (ready : s.Ready home here) {xs : List Place} {d : Disk}
    (named : ∀ x ∈ xs, x.Named) (shut : ∀ x ∈ xs, s.disk.entryAt? x ≠ some .directory)
    (same : Disk.SameApart xs s.disk d)
    (shut' : ∀ f ∈ dataFiles, d.entryAt? (f :: here) ≠ some .directory)
    (named' : ∀ f ∈ dataFiles, d.entryAt? (f :: here) = none →
      (f :: here).all Path.isName = true) :
    ({ s with disk := d } : Store).Ready home here where
  home_eq := ready.home_eq
  holds := by
    rcases ready.holds with empty | ⟨usable, walked⟩
    · exact Or.inl empty
    · rcases Option.isSome_iff_exists.1 walked with ⟨r, reached⟩
      have again := Disk.walk?_of_sameApart named shut same
        (fun x hx => (named x hx).not_within_start home) reached
      exact Or.inr ⟨usable, by simp [again.1]⟩
  walked := (Disk.walk?_of_sameApart named shut same
    (fun x hx => (named x hx).not_within_start home) ready.walked).1
  usable := ready.usable
  shut := shut'
  named := named'

theorem path?_eq (ready : s.Ready home here) : s.path? file = some (Path.join home file) := by
  simp [path?, ready.home_eq]

theorem entry?_join (ready : s.Ready home here) (h : file ∈ dataFiles) :
    s.disk.entry? (Path.join home file) = s.disk.entryAt? (file :: here) := by
  simp [Disk.entry?, Disk.target?_join (plain_dataFile h) (ready.usable file h) ready.walked]

/-! ### Writing -/

theorem write?_join (ready : s.Ready home here) (h : file ∈ dataFiles) (contents : ByteArray) :
    s.disk.write? (Path.join home file) contents =
      some (s.disk.put (file :: here) (.file contents)) := by
  simp only [Disk.write?, Disk.target?_join (plain_dataFile h) (ready.usable file h) ready.walked]
  cases entry : s.disk.entryAt? (file :: here) with
  | none =>
    exact if_pos (ready.named file h entry)
  | some found =>
    cases found with
    | directory => exact absurd entry (ready.shut file h)
    | file old => rfl

/-- A data file can be written without harm. -/
theorem put (ready : s.Ready home here) (h : file ∈ dataFiles) (contents : ByteArray) :
    ({ s with disk := s.disk.put (file :: here) (.file contents) } : Store).Ready home here := by
  have self := s.disk.entryAt?_put_self (Place.named_of_plain (plain_dataFile h) here)
    (.file contents)
  have other : ∀ f, f ≠ file →
      (s.disk.put (file :: here) (.file contents)).entryAt? (f :: here) =
        s.disk.entryAt? (f :: here) :=
    fun f ne => Disk.entryAt?_put_of_ne _ fun same => ne (List.cons.inj same).1
  refine ready.of_sameApart ?_ ?_ (Disk.sameApart_put _ _ _) ?_ ?_
  · intro x hx
    rw [List.mem_singleton.1 hx]
    exact Place.named_of_plain (plain_dataFile h) here
  · intro x hx
    rw [List.mem_singleton.1 hx]
    exact ready.shut file h
  · intro f hf
    by_cases same : f = file
    · rw [same, self]
      simp
    · rw [other f same]
      exact ready.shut f hf
  · intro f hf none
    by_cases same : f = file
    · rw [same, self] at none
      cases none
    · rw [other f same] at none
      exact ready.named f hf none

theorem persist_eq (ready : s.Ready home here) (h : file ∈ dataFiles) (value : Json) :
    s.persist file value =
      { s with disk := s.disk.put (file :: here) (.file value.pretty.toUTF8) } := by
  simp only [Store.persist, ready.path?_eq, ready.write?_join h]

theorem entryAt?_persist_self (ready : s.Ready home here) (h : file ∈ dataFiles) (value : Json) :
    (s.persist file value).disk.entryAt? (file :: here) = some (.file value.pretty.toUTF8) := by
  rw [ready.persist_eq h]
  exact Disk.entryAt?_put_self (Place.named_of_plain (plain_dataFile h) here) _

theorem entryAt?_persist_other (ready : s.Ready home here) (h : file ∈ dataFiles) (value : Json)
    {other : String} (ne : other ≠ file) :
    (s.persist file value).disk.entryAt? (other :: here) = s.disk.entryAt? (other :: here) := by
  rw [ready.persist_eq h]
  exact Disk.entryAt?_put_of_ne _ fun same => ne (List.cons.inj same).1

theorem persist (ready : s.Ready home here) (h : file ∈ dataFiles) (value : Json) :
    (s.persist file value).Ready home here := by
  rw [ready.persist_eq h]
  exact ready.put h _

/-! ### Setting aside -/

theorem movable_of_setAside (ready : s.Ready home here) (h : file ∈ dataFiles)
    (renamed : (s.setAside file).1.isSome = true) : Movable s home here file := by
  have plain := plain_asideName h
  have source := Disk.target?_join (plain_dataFile h) (ready.usable file h) ready.walked
  have moved : ∃ d, s.disk.rename? (Path.join home file) (Path.join home (asideName file)) =
      some d := by
    simp only [Store.setAside, ready.home_eq] at renamed
    split at renamed
    · next d done => exact ⟨d, done⟩
    · cases renamed
  rcases moved with ⟨d, moved⟩
  -- A rename that succeeds tells what it needed.
  have usable : Path.isUsable (Path.join home (asideName file)) = true := by
    by_contra unusable
    simp [Disk.rename?, Disk.target?, unusable] at moved
  have target := Disk.target?_join plain usable ready.walked
  have ne : file :: here ≠ asideName file :: here :=
    fun same => asideName_ne h h (List.cons.inj same).1
  simp only [Disk.rename?, source, target, Disk.moveEntry?, if_neg ne] at moved
  split at moved
  · cases moved
  · next anchored =>
    have named : (asideName file :: here).all Path.isName = true := by
      simp only [Bool.or_eq_true, not_or, Bool.not_eq_true', Bool.not_eq_false] at anchored
      exact anchored.2
    split at moved
    · cases moved
    · cases there : s.disk.entryAt? (file :: here) with
      | none =>
        simp [there] at moved
      | some found =>
        cases found with
        | directory =>
          exact absurd there (ready.shut file h)
        | file contents =>
          refine ⟨usable, named, ⟨contents, there⟩, ?_⟩
          intro taken
          simp [there, taken] at moved

theorem setAside_eq (ready : s.Ready home here) (h : file ∈ dataFiles)
    (movable : Movable s home here file) :
    s.setAside file = (some (Path.join home (asideName file)),
      { s with disk := s.disk.carry (file :: here) (asideName file :: here) }) := by
  have source := Disk.target?_join (plain_dataFile h) (ready.usable file h) ready.walked
  have target := Disk.target?_join (plain_asideName h) movable.usable ready.walked
  have ne : file ≠ asideName file := asideName_ne h h
  have apart : file :: here ≠ asideName file :: here := fun same => ne (List.cons.inj same).1
  have beside : Place.isWithin (file :: here) (asideName file :: here) = false := by
    rw [Bool.eq_false_iff]
    exact fun within => not_suffix_sibling ne here (Disk.isWithin_iff.1 within)
  -- The two names are different, and neither place is below the other.
  have moved : s.disk.moveEntry? (file :: here) (asideName file :: here) =
      some (s.disk.carry (file :: here) (asideName file :: here)) := by
    rcases movable.source with ⟨contents, there⟩
    simp only [Disk.moveEntry?, (Place.named_of_plain (plain_dataFile h) here).isAnchor,
      (Place.named_of_plain (plain_asideName h) here).isAnchor, movable.named, apart, beside, there]
    cases entry : s.disk.entryAt? (asideName file :: here) with
    | none => simp
    | some found =>
      cases found with
      | directory => exact absurd entry movable.target
      | file old => simp
  simp [Store.setAside, ready.home_eq, Disk.rename?, source, target, moved]

theorem setAside (ready : s.Ready home here) (h : file ∈ dataFiles)
    (movable : Movable s home here file) :
    (s.setAside file).2.Ready home here ∧ Aside s (s.setAside file).2 here file := by
  rw [ready.setAside_eq h movable]
  have same := Disk.sameApart_carry s.disk (file :: here) (asideName file :: here)
  have aside : Aside s { s with disk := s.disk.carry (file :: here) (asideName file :: here) }
      here file := by
    have ne : file :: here ≠ asideName file :: here :=
      fun same => asideName_ne h h (List.cons.inj same).1
    refine ⟨?_, ?_, fun f source target => ?_⟩
    · exact Disk.entryAt?_carry_target (Place.named_of_plain (plain_dataFile h) here)
        (Place.named_of_plain (plain_asideName h) here) ne
    · exact Disk.entryAt?_carry_source (Place.named_of_plain (plain_dataFile h) here)
        (not_suffix_sibling (asideName_ne h h).symm here)
    · refine same (f :: here) fun x hx => ?_
      rcases List.mem_pair.1 hx with rfl | rfl
      · exact not_suffix_sibling source.symm here
      · exact not_suffix_sibling target.symm here
  refine ⟨ready.of_sameApart ?_ ?_ same ?_ ?_, aside⟩
  · intro x hx
    rcases List.mem_pair.1 hx with rfl | rfl
    · exact Place.named_of_plain (plain_dataFile h) here
    · exact Place.named_of_plain (plain_asideName h) here
  · intro x hx
    rcases List.mem_pair.1 hx with rfl | rfl
    · exact ready.shut file h
    · exact movable.target
  · intro f hf
    by_cases moved : f = file
    · rw [moved, aside.gone]
      simp
    · rw [aside.other f moved (asideName_ne h hf)]
      exact ready.shut f hf
  · intro f hf none
    by_cases moved : f = file
    · have around := movable.named
      simp only [List.all_cons, Bool.and_eq_true] at around ⊢
      exact ⟨isName_dataFile hf, around.2⟩
    · rw [aside.other f moved (asideName_ne h hf)] at none
      exact ready.named f hf none

/-- A data file that cannot be renamed stays. -/
theorem movable_or_stays (ready : s.Ready home here) (h : file ∈ dataFiles) :
    Movable s home here file ∨ (s.setAside file).2 = s := by
  cases renamed : s.disk.rename? (Path.join home file) (Path.join home (asideName file)) with
  | some disk =>
    exact Or.inl (ready.movable_of_setAside h (by simp [Store.setAside, ready.home_eq, renamed]))
  | none =>
    exact Or.inr (by simp [Store.setAside, ready.home_eq, renamed])

end Ready

/-! ## Loading -/

namespace Ready

variable {s s' : Store} {home file : String} {here : Place} {α : Type}
  {read : Json → Except Json.Fault α}

/-- What is loaded depends on the data file alone. -/
theorem load_congr (ready : s.Ready home here) (ready' : s'.Ready home here)
    (h : file ∈ dataFiles)
    (same : s'.disk.entryAt? (file :: here) = s.disk.entryAt? (file :: here)) :
    s'.load file read = s.load file read := by
  have entry : s'.disk.entry? (Path.join home file) = s.disk.entry? (Path.join home file) := by
    rw [ready.entry?_join h, ready'.entry?_join h, same]
  simp only [load, ready.path?_eq, ready'.path?_eq, Disk.pathExists, Disk.readText?, Disk.read?,
    entry]
  rfl

theorem load_none (ready : s.Ready home here) (h : file ∈ dataFiles)
    (gone : s.disk.entryAt? (file :: here) = none) : s.load file read = .ok none := by
  simp [load, ready.path?_eq, Disk.pathExists, ready.entry?_join h, gone]

/-- A data file with the text of a value is loaded as what the value is read as. -/
theorem load_text (ready : s.Ready home here) (h : file ∈ dataFiles) {value : Json} {a : α}
    (there : s.disk.entryAt? (file :: here) = some (.file value.pretty.toUTF8))
    (writable : Writable value) (back : read value = .ok a) : s.load file read = .ok (some a) := by
  have entry := (ready.entry?_join h).trans there
  -- The bytes of a text are read as that text, and that as the value it was printed from.
  have text : String.fromUTF8? value.pretty.toUTF8 = some value.pretty :=
    dif_pos value.pretty.isValidUTF8
  have found : s.disk.readText? (Path.join home file) = some value.pretty := by
    simp only [Disk.readText?, Disk.read?, entry]
    exact text
  simp only [load, ready.path?_eq, Disk.pathExists, entry, Option.isSome_some, if_true, found,
    ofText?_pretty writable, back]

theorem exists_of_load_error (ready : s.Ready home here) {fault : StoreFault}
    (failed : s.load file read = .error fault) :
    s.disk.pathExists (Path.join home file) = true := by
  by_contra absent
  simp [load, ready.path?_eq, absent] at failed

end Ready

end Store

end PageBuilder
