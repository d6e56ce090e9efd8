import Mathlib.Data.List.Induction
import Mathlib.Data.List.Nodup
import PageBuilder.Proofs.Snapshots

/-!
# Catalogs and their last saves

A catalog is changed by saving a document under a name and by taking a name out. What it has after a
run of such edits can be told from the run alone: for every name the last edit counts, and the
projects stand in the order of the saves that count. A catalog from elsewhere may have a name twice;
an edit of that name makes up for it, and the entries under names that no edit concerns stay.
-/

namespace PageBuilder

/-- A change of a catalog. -/
inductive CatalogEdit
  | save (name : String) (document : Document) (stamp : Stamp)
  | remove (name : String)

namespace CatalogEdit

/-- The name that an edit concerns. -/
def name : CatalogEdit → String
  | save name _ _ => name
  | remove name => name

/-- The project that an edit saves, if it is a save. -/
def saved? : CatalogEdit → Option Project
  | save name document stamp => some ⟨stamp.id, name, document, stamp.time⟩
  | remove _ => none

/-- Whether a run has an edit that concerns a name. -/
def concerned (edits : List CatalogEdit) (name : String) : Bool := edits.any (·.name == name)

/-- The last edit of a run that concerns a name. -/
def last? (edits : List CatalogEdit) (name : String) : Option CatalogEdit :=
  edits.reverse.find? (·.name == name)

/-- The edits of a run that no later edit of the same name follows, in order. -/
def lasting : List CatalogEdit → List CatalogEdit
  | [] => []
  | edit :: rest =>
    if concerned rest edit.name then lasting rest else edit :: lasting rest

theorem name_saved? {edit : CatalogEdit} {project : Project} (saved : edit.saved? = some project) :
    project.name = edit.name := by
  cases edit with
  | save name document stamp =>
    cases saved
    rfl
  | remove name => cases saved

theorem filter_saved? (edit : CatalogEdit) (rest : List CatalogEdit) :
    edit.saved?.toList.filter (fun project => !concerned rest project.name) =
      if concerned rest edit.name then [] else edit.saved?.toList := by
  cases saves : edit.saved? with
  | none => simp
  | some project =>
    have same : project.name = edit.name := name_saved? saves
    cases later : concerned rest edit.name <;> simp [same, later]

theorem last?_concat (edits : List CatalogEdit) (edit : CatalogEdit) (name : String) :
    last? (edits ++ [edit]) name = if edit.name = name then some edit else last? edits name := by
  by_cases same : edit.name = name <;> simp [last?, same]

end CatalogEdit

namespace Catalog

/-- The catalog after an edit. Taking out a name that is not there changes nothing. -/
def edit (c : Catalog) : CatalogEdit → Catalog
  | .save name document stamp => c.save name document stamp
  | .remove name => (c.remove? name).getD c

/-- The catalog after a run of edits. -/
def editAll (c : Catalog) (edits : List CatalogEdit) : Catalog := edits.foldl edit c

variable {c : Catalog} {name : String}

/-! ## One edit -/

theorem without_of_not_mem (missing : name ∉ c.names) : c.without name = c := by
  have kept : c.projects.filter (·.name ≠ name) = c.projects := by
    refine List.filter_eq_self.2 fun project there => decide_eq_true ?_
    rintro rfl
    exact missing (List.mem_map_of_mem there)
  exact congrArg Catalog.mk kept

/-- A name is taken out if it is there. -/
theorem remove?_eq (c : Catalog) (name : String) :
    c.remove? name = if name ∈ c.names then some (c.without name) else none := by
  have present : c.projects.any (·.name == name) = true ↔ name ∈ c.names := by
    simp [names]
  simp only [remove?, present]

/-- Step lemma: an edit takes out what was under its name, and puts what it saves at the end. -/
theorem projects_edit (c : Catalog) (edit : CatalogEdit) :
    (c.edit edit).projects = c.projects.filter (·.name ≠ edit.name) ++ edit.saved?.toList := by
  cases edit with
  | save name document stamp => rfl
  | remove name =>
    have rest : (c.remove? name).getD c = c.without name := by
      by_cases there : name ∈ c.names
      · simp [remove?_eq, there]
      · simp [remove?_eq, there, without_of_not_mem there]
    calc
      (c.edit (.remove name)).projects = (c.without name).projects := congrArg projects rest
      _ = c.projects.filter (·.name ≠ name) ++ [] := (List.append_nil _).symm

theorem names_edit (c : Catalog) (edit : CatalogEdit) :
    (c.edit edit).names =
      c.names.filter (· ≠ edit.name) ++ edit.saved?.toList.map (·.name) := by
  have others : (c.projects.filter (·.name ≠ edit.name)).map (·.name) =
      c.names.filter (· ≠ edit.name) := by
    rw [names, List.filter_map]
    rfl
  rw [names, projects_edit, List.map_append, others]

theorem get?_edit (c : Catalog) (edit : CatalogEdit) (name : String) :
    (c.edit edit).get? name = if edit.name = name then edit.saved? else c.get? name := by
  cases edit with
  | save other document stamp =>
    by_cases same : other = name
    · subst same
      simpa [edit, CatalogEdit.name, CatalogEdit.saved?] using c.get?_save_self other document stamp
    · have kept := c.get?_save_of_ne (Ne.symm same) document stamp
      simpa [edit, CatalogEdit.name, same] using kept
  | remove other =>
    by_cases same : other = name
    · subst same
      have gone : other ∉ (c.edit (.remove other)).names := by
        simp [names_edit, CatalogEdit.name, CatalogEdit.saved?]
      simpa [CatalogEdit.name, CatalogEdit.saved?] using get?_of_not_mem gone
    · have kept : ((c.remove? other).getD c).get? name = c.get? name := by
        cases removed : c.remove? other with
        | none => rfl
        | some next => exact get?_remove? (Ne.symm same) removed
      simpa [edit, CatalogEdit.name, same] using kept

/-- Step lemma: an edit names nothing twice that was not named twice before. -/
theorem nodup_names_edit (distinct : c.names.Nodup) (edit : CatalogEdit) :
    (c.edit edit).names.Nodup := by
  have others : (c.names.filter (· ≠ edit.name)).Nodup := distinct.filter _
  have apart : ∀ name ∈ edit.saved?.toList.map (·.name), name = edit.name := by
    intro name there
    rcases List.mem_map.1 there with ⟨project, saved, rfl⟩
    exact CatalogEdit.name_saved? (Option.mem_toList.1 saved)
  rw [names_edit]
  refine List.nodup_append'.2 ⟨others, ?_, ?_⟩
  · cases edit.saved? <;> simp
  · intro name kept new
    exact of_decide_eq_true (List.mem_filter.1 kept).2 (apart name new)

/-- An edit leaves its name once if it is a save, and not at all otherwise. -/
theorem count_names_edit (c : Catalog) (edit : CatalogEdit) :
    (c.edit edit).names.count edit.name = if edit.saved?.isSome then 1 else 0 := by
  have gone : (c.names.filter (· ≠ edit.name)).count edit.name = 0 :=
    List.count_eq_zero.2 (by simp)
  rw [names_edit, List.count_append, gone]
  cases saves : edit.saved? with
  | none => rfl
  | some project => simp [CatalogEdit.name_saved? saves]

/-- An edit leaves the projects of all other names in their order. -/
theorem others_edit (c : Catalog) (edit : CatalogEdit) :
    (c.edit edit).projects.filter (·.name ≠ edit.name) =
      c.projects.filter (·.name ≠ edit.name) := by
  have own : edit.saved?.toList.filter (·.name ≠ edit.name) = [] := by
    cases saves : edit.saved? with
    | none => rfl
    | some project => simp [CatalogEdit.name_saved? saves]
  rw [projects_edit, List.filter_append, own, List.filter_filter, List.append_nil]
  simp

/-! ## Runs -/

/-- Run lemma: what is under no name of the run stays, and behind it are the saves that last. -/
theorem projects_editAll (c : Catalog) (edits : List CatalogEdit) :
    (c.editAll edits).projects =
      c.projects.filter (fun project => !CatalogEdit.concerned edits project.name) ++
        (CatalogEdit.lasting edits).filterMap CatalogEdit.saved? := by
  induction edits generalizing c with
  | nil =>
    simp [editAll, CatalogEdit.concerned, CatalogEdit.lasting]
  | cons edit rest ih =>
    -- What was there before stays if neither this edit nor one of the rest concerns its name.
    have before : (c.projects.filter (·.name ≠ edit.name)).filter
          (fun project => !CatalogEdit.concerned rest project.name) =
        c.projects.filter
          (fun project => !CatalogEdit.concerned (edit :: rest) project.name) := by
      rw [List.filter_filter]
      refine List.filter_congr fun project _ => ?_
      by_cases same : project.name = edit.name
      · simp [CatalogEdit.concerned, same]
      · simp [CatalogEdit.concerned, same, Ne.symm same]
    -- What this edit saves lasts if no edit of the rest concerns its name.
    have here : edit.saved?.toList.filter
            (fun project => !CatalogEdit.concerned rest project.name) ++
          (CatalogEdit.lasting rest).filterMap CatalogEdit.saved? =
        (CatalogEdit.lasting (edit :: rest)).filterMap CatalogEdit.saved? := by
      rw [CatalogEdit.filter_saved?, CatalogEdit.lasting]
      cases CatalogEdit.concerned rest edit.name with
      | true => rfl
      | false => cases saves : edit.saved? <;> simp [saves]
    calc
      (c.editAll (edit :: rest)).projects
          = (c.edit edit).projects.filter
                (fun project => !CatalogEdit.concerned rest project.name) ++
              (CatalogEdit.lasting rest).filterMap CatalogEdit.saved? := ih (c.edit edit)
      _ = c.projects.filter
              (fun project => !CatalogEdit.concerned (edit :: rest) project.name) ++
            (CatalogEdit.lasting (edit :: rest)).filterMap CatalogEdit.saved? := by
        rw [projects_edit, List.filter_append, before, List.append_assoc, here]

theorem get?_editAll (c : Catalog) (edits : List CatalogEdit) (name : String) :
    (c.editAll edits).get? name =
      (CatalogEdit.last? edits name).elim (c.get? name) CatalogEdit.saved? := by
  -- The last edit decides, so the induction takes the run from its end.
  induction edits using List.reverseRecOn with
  | nil => rfl
  | append_singleton edits edit ih =>
    have run : c.editAll (edits ++ [edit]) = (c.editAll edits).edit edit := by
      simp [editAll]
    rw [run, get?_edit, CatalogEdit.last?_concat, ih]
    split <;> rfl

theorem nodup_names_editAll (distinct : c.names.Nodup) (edits : List CatalogEdit) :
    (c.editAll edits).names.Nodup := by
  induction edits generalizing c with
  | nil => exact distinct
  | cons edit rest ih => exact ih (nodup_names_edit distinct edit)

/-- **A catalog is a map in the order of the last saves.** After a run of edits of an empty catalog
no name is there twice; a name has what was saved under it last, unless it was taken out after that;
the projects are those of the saves that no later edit of the name follows, in their order; and a
name can be taken out just if it is there. In a catalog from elsewhere, which may have names twice,
a run does the same behind the projects whose names it does not concern; and one edit leaves its
name once if it is a save and not at all otherwise, and all other projects in their order. -/
theorem lastSaves_of_edits (edits : List CatalogEdit) :
    let c := ({} : Catalog).editAll edits
    c.names.Nodup ∧
    (∀ name, c.get? name = (CatalogEdit.last? edits name).bind CatalogEdit.saved?) ∧
    c.projects = (CatalogEdit.lasting edits).filterMap CatalogEdit.saved? ∧
    (∀ name, (c.remove? name).isSome = true ↔ name ∈ c.names) ∧
    ∀ loaded : Catalog,
      (loaded.editAll edits).projects =
        loaded.projects.filter (fun project => !CatalogEdit.concerned edits project.name) ++
          c.projects ∧
      ∀ edit, (loaded.edit edit).names.count edit.name =
          (if edit.saved?.isSome then 1 else 0) ∧
        (loaded.edit edit).projects.filter (·.name ≠ edit.name) =
          loaded.projects.filter (·.name ≠ edit.name) := by
  intro c
  have own : c.projects = (CatalogEdit.lasting edits).filterMap CatalogEdit.saved? :=
    projects_editAll {} edits
  have distinct : ({} : Catalog).names.Nodup := List.nodup_nil
  refine ⟨nodup_names_editAll distinct edits, ?_, own, ?_, ?_⟩
  · intro name
    have found : c.get? name =
        (CatalogEdit.last? edits name).elim none CatalogEdit.saved? := get?_editAll {} edits name
    cases last : CatalogEdit.last? edits name <;> simpa [last] using found
  · intro name
    simp [remove?_eq]
  · intro loaded
    refine ⟨?_, fun edit => ⟨?_, ?_⟩⟩
    · rw [projects_editAll, own]
    · exact count_names_edit loaded edit
    · exact others_edit loaded edit

example :
    (({} : Catalog).editAll
      [.save "A" {} ⟨"p-1", 1⟩, .save "B" {} ⟨"p-2", 2⟩, .save "A" {} ⟨"p-3", 3⟩]).names =
      ["B", "A"] := by
  decide +kernel

end Catalog
end PageBuilder
