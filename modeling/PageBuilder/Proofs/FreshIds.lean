import Mathlib.Data.List.Nodup
import PageBuilder.Proofs.Ids
import PageBuilder.Editing.Operation

/-!
# Ids are never reused

All ids of a session come from one counter, which no operation sets back. The documents that come
back through undo, redo and saved projects are old ones, so their ids were handed out before, and
an id that is handed out is new to all of them.

Documents from outside the session can have any ids: imported texts, and elements and documents that
are put in as they are. Operations that do this are excluded.
-/

namespace PageBuilder

/-- Whether an operation takes no elements from outside. -/
def Operation.isOwn : Operation → Bool
  | .importText _ => false
  | .commit _ => false
  | .append _ => false
  | _ => true

/-- The ids that an outcome gives back. -/
def Outcome.given : Outcome → List ElementId
  | .id new => [new]
  | .copy new => new.toList
  | .ids new => new
  | _ => []

theorem Outcome.given_ofExcept (result : Except Failure Unit) : (ofExcept result).given = [] := by
  cases result <;> rfl

namespace Editor

/-- The documents that are there or can come back: the current one, those of the history, and those
of the saved projects. -/
def documents (e : Editor) : List Document :=
  e.document :: e.history.past ++ e.history.future ++ e.catalog.projects.map (·.document)

/-- The ids that a shortcut hands out. -/
def handedOutBy (e : Editor) : Shortcut → List ElementId
  | .duplicate => (e.view.selected.bind fun id => (e.duplicate id).1).toList
  | _ => []

/-- The ids that an operation hands out to new elements: those it gives back, and those of the two
operations that do not give them back. -/
def handedOut (e : Editor) : Operation → List ElementId
  | .loadPremade premade => (Blueprint.build e.ids .template premade.blueprints).1.map (·.id)
  | .press key typing _ => (Shortcut.ofKeyPress? key typing).elim [] e.handedOutBy
  | operation => (e.perform operation).1.given

/-- The ids that a run hands out, in order. -/
def ledger (e : Editor) : List Operation → List ElementId
  | [] => []
  | operation :: rest => e.handedOut operation ++ (e.perform operation).2.ledger rest

theorem mem_documents {e : Editor} {d : Document} :
    d ∈ e.documents ↔ d = e.document ∨ d ∈ e.history.past ∨ d ∈ e.history.future ∨
      ∃ p ∈ e.catalog.projects, p.document = d := by
  simp only [documents, List.cons_append, List.mem_cons, List.mem_append, List.mem_map, or_assoc]

/-! ## One operation -/

/-- What an operation does that hands out some ids: they are drawn from the source, and every
document has ids that one document had before, or that are handed out. -/
structure Issues (s : Editor) (new : List ElementId) (t : Editor) : Prop where
  drawn : ∃ scopes ids, s.ids.take scopes = (ids, t.ids) ∧ new.Sublist ids
  documents : ∀ d ∈ t.documents, ∃ old ∈ s.documents, d.ids.Subperm (old.ids ++ new)

theorem Issues.of_subset {s t : Editor} (ids : t.ids = s.ids)
    (old : ∀ d ∈ t.documents, d ∈ s.documents) : Issues s [] t where
  drawn := ⟨[], [], by rw [ids]; rfl, List.Sublist.refl _⟩
  documents d hd := ⟨d, old d hd, by rw [List.append_nil]⟩

theorem Issues.refl (s : Editor) : Issues s [] s :=
  .of_subset rfl fun _ hd => hd

theorem Issues.trans {s t u : Editor} {new more : List ElementId} (first : Issues s new t)
    (second : Issues t more u) : Issues s (new ++ more) u := by
  -- The ids of the second step are drawn where the first one stopped.
  rcases first.drawn with ⟨scopes, ids, taken, part⟩
  rcases second.drawn with ⟨scopes', ids', taken', part'⟩
  refine ⟨⟨_, _, IdSource.take_append taken taken', part.append part'⟩, fun d hd => ?_⟩
  rcases second.documents d hd with ⟨mid, hmid, later⟩
  rcases first.documents mid hmid with ⟨old, hold, earlier⟩
  refine ⟨old, hold, later.trans ?_⟩
  rw [← List.append_assoc]
  exact (List.subperm_append_right more).2 earlier

/-- Ids that are drawn belong to no document yet. -/
theorem Issues.draw {s : Editor} {scopes : List Scope} {ids : List ElementId} {source : IdSource}
    (taken : s.ids.take scopes = (ids, source)) {new : List ElementId} (part : new.Sublist ids)
    (view : View) (projectName : String) :
    Issues s new { s with ids := source, view, projectName } where
  drawn := ⟨scopes, ids, taken, part⟩
  documents d hd := ⟨d, hd, (List.sublist_append_left d.ids new).subperm⟩

/-- What belongs to the session alone may change after a step. -/
theorem Issues.ending {s t : Editor} {new : List ElementId} (h : Issues s new t) (view : View)
    (projectName : String) (chat : Conversation) :
    Issues s new { t with view, projectName, chat } :=
  ⟨h.drawn, h.documents⟩

theorem Issues.commit {s t : Editor} {new : List ElementId} (h : Issues s new t) (next : Document)
    (from_old : ∃ old ∈ s.documents, next.ids.Subperm (old.ids ++ new)) :
    Issues s new (t.commit next).2 := by
  unfold Editor.commit
  split
  · exact h
  · refine ⟨h.drawn, fun d hd => ?_⟩
    rcases mem_documents.1 hd with rfl | past | future | saved
    · exact from_old
    · -- The oldest document of the past may be dropped, and the replaced one is put in front.
      rcases List.mem_cons.1 (List.mem_of_mem_take past) with rfl | before
      · exact h.documents _ (mem_documents.2 (Or.inl rfl))
      · exact h.documents d (mem_documents.2 (Or.inr (Or.inl before)))
    · cases future
    · exact h.documents d (mem_documents.2 (Or.inr (Or.inr (Or.inr saved))))

variable (s : Editor)

theorem current_mem : s.document ∈ s.documents :=
  mem_documents.2 (Or.inl rfl)

/-- A change of the current document that keeps its ids, or some of them. -/
theorem issues_commit {next : Document} (h : next.ids.Subperm s.document.ids) :
    Issues s [] (s.commit next).2 :=
  (Issues.refl s).commit next ⟨s.document, current_mem s, by rwa [List.append_nil]⟩

theorem issues_commit? {next : Option Document}
    (h : ∀ d, next = some d → d.ids.Subperm s.document.ids) : Issues s [] (s.commit? next).2 := by
  cases next with
  | none =>
    exact .refl s
  | some d =>
    exact issues_commit s (h d rfl)

theorem issues_undo : Issues s [] s.undo.2 := by
  unfold undo History.undo?
  cases behind : s.history.past with
  | nil =>
    exact .refl s
  | cons previous past =>
    refine .of_subset rfl fun d hd => mem_documents.2 ?_
    rcases mem_documents.1 hd with rfl | before | after | saved
    · exact Or.inr (Or.inl (by simp [behind]))
    · exact Or.inr (Or.inl (behind ▸ List.mem_cons_of_mem _ before))
    · rcases List.mem_cons.1 after with rfl | undone
      · exact Or.inl rfl
      · exact Or.inr (Or.inr (Or.inl undone))
    · exact Or.inr (Or.inr (Or.inr saved))

theorem issues_redo : Issues s [] s.redo.2 := by
  unfold redo History.redo?
  cases ahead : s.history.future with
  | nil =>
    exact .refl s
  | cons next future =>
    refine .of_subset rfl fun d hd => mem_documents.2 ?_
    rcases mem_documents.1 hd with rfl | before | after | saved
    · exact Or.inr (Or.inr (Or.inl (by simp [ahead])))
    · rcases List.mem_cons.1 (List.mem_of_mem_take before) with rfl | earlier
      · exact Or.inl rfl
      · exact Or.inr (Or.inl earlier)
    · exact Or.inr (Or.inr (Or.inl (ahead ▸ List.mem_cons_of_mem _ after)))
    · exact Or.inr (Or.inr (Or.inr saved))

/-- A catalog whose snapshots are documents that are there already. -/
theorem issues_catalog (catalog : Catalog) (store : Store)
    (old : ∀ p ∈ catalog.projects, p.document ∈ s.documents) :
    Issues s [] { s with catalog, store } := by
  refine .of_subset rfl fun d hd => ?_
  rcases mem_documents.1 hd with rfl | before | after | ⟨p, hp, rfl⟩
  · exact current_mem s
  · exact mem_documents.2 (Or.inr (Or.inl before))
  · exact mem_documents.2 (Or.inr (Or.inr (Or.inl after)))
  · exact old p hp

theorem saved_mem {p : Project} (hp : p ∈ s.catalog.projects) : p.document ∈ s.documents :=
  mem_documents.2 (Or.inr (Or.inr (Or.inr ⟨p, hp, rfl⟩)))

theorem issues_saveProject (stamp : Stamp) : Issues s [] (s.saveProject stamp) := by
  refine issues_catalog s _ _ fun p hp => ?_
  rcases List.mem_append.1 hp with kept | saved
  · exact saved_mem s (List.mem_filter.1 kept).1
  · rw [List.mem_singleton.1 saved]
    exact current_mem s

theorem issues_deleteProject (name : String) : Issues s [] (s.deleteProject name).2 := by
  unfold deleteProject
  split
  · next catalog removed =>
    refine issues_catalog s _ _ fun p hp => saved_mem s ?_
    unfold Catalog.remove? at removed
    split at removed
    · cases removed
      exact (List.mem_filter.1 hp).1
    · cases removed
  · exact .refl s

theorem issues_loadProject (name : String) : Issues s [] (s.loadProject name).2 := by
  unfold loadProject
  split
  · next project found =>
    have there : project ∈ s.catalog.projects := List.mem_of_find?_eq_some found
    refine ((Issues.refl s).ending s.view.escape name s.chat).commit _ ⟨_, saved_mem s there, ?_⟩
    rw [List.append_nil]
  · exact .refl s

theorem issues_delete (id : ElementId) : Issues s [] (s.delete id).2 := by
  have committed : Issues s [] (s.commit? (s.document.remove? id)).2 :=
    issues_commit? s fun d removed => (Document.ids_remove? removed).subperm
  unfold delete
  dsimp only
  split
  · exact committed.ending _ _ _
  · exact committed

theorem issues_clear : Issues s [] s.clear.2 := by
  refine ((Issues.refl s).ending s.view.deselect s.projectName s.chat).commit _
    ⟨s.document, current_mem s, ?_⟩
  exact List.nil_subperm

theorem issues_setTheme (theme : Theme) : Issues s [] (s.setTheme theme).2 := by
  refine ((Issues.refl s).ending (s.view.closePanel .themes) s.projectName s.chat).commit _
    ⟨s.document, current_mem s, ?_⟩
  rw [List.append_nil]
  exact List.Subperm.refl _

/-! ### Operations that hand out ids -/

theorem issues_add (kind : Kind) : Issues s [(s.add kind).1] (s.add kind).2 := by
  have taken : s.ids.take [.node] = ([(s.add kind).1], (s.ids.next .node).2) := rfl
  have drawn := Issues.draw taken (List.Sublist.refl _) s.view s.projectName
  refine (drawn.commit _ ⟨s.document, current_mem s, ?_⟩).ending _ _ _
  rw [Document.ids_append]
  exact List.Subperm.refl _

theorem issues_duplicate (id : ElementId) :
    Issues s (s.duplicate id).1.toList (s.duplicate id).2 := by
  unfold duplicate
  split
  · have taken : s.ids.take [.node] = ([(s.ids.next .node).1], (s.ids.next .node).2) := rfl
    dsimp only
    cases copy : s.document.duplicate? id (s.ids.next .node).1 with
    | none =>
      exact Issues.draw taken (List.nil_sublist _) s.view s.projectName
    | some next =>
      have ids := (Document.ids_duplicate? copy).subperm
      -- The id is given back only if the document changed, so both outcomes are looked at.
      cases same : next == s.document with
      | true =>
        simp only [commit?, commit, same, if_true]
        exact Issues.draw taken (List.nil_sublist _) s.view s.projectName
      | false =>
        have drawn := Issues.draw taken (List.Sublist.refl _) s.view s.projectName
        have changed := drawn.commit next ⟨s.document, current_mem s, ids⟩
        simp only [commit, same, Bool.false_eq_true, if_false] at changed
        simp only [commit?, commit, same, Bool.false_eq_true, if_false, if_true]
        exact changed
  · exact .refl s

theorem issues_addBlueprints (scope : Scope) (blueprints : List Blueprint) :
    Issues s (s.addBlueprints scope blueprints).1 (s.addBlueprints scope blueprints).2 := by
  have taken := Blueprint.build_eq_take s.ids scope blueprints
  have drawn := Issues.draw taken (List.Sublist.refl _) s.view s.projectName
  unfold addBlueprints append
  dsimp only
  split
  · exact drawn
  · refine drawn.commit _ ⟨s.document, current_mem s, ?_⟩
    rw [Document.ids_append]

theorem issues_synthesize (prompt : String) :
    Issues s (s.synthesize prompt).1 (s.synthesize prompt).2 := by
  unfold synthesize
  split
  · exact .refl s
  · exact (issues_addBlueprints s _ _).ending _ _ _

theorem issues_loadPremade (premade : Premade) :
    Issues s ((Blueprint.build s.ids .template premade.blueprints).1.map (·.id))
      (s.loadPremade premade).2 := by
  have taken := Blueprint.build_eq_take s.ids .template premade.blueprints
  have drawn := Issues.draw taken (List.Sublist.refl _) s.view.deselect (Choice.name premade)
  refine drawn.commit _ ⟨s.document, current_mem s, ?_⟩
  exact (List.sublist_append_right s.document.ids _).subperm

/-! ### The assistant and the keyboard -/

theorem issues_apply (command : Command) : Issues s [] (s.apply command).2 := by
  have patched : ∀ patch, (s.document.patchAll patch).ids.Subperm s.document.ids := by
    intro patch
    have same : (s.document.patchAll patch).ids = s.document.ids := Document.ids_map fun _ => rfl
    rw [same]
  cases command with
  | recolor swatch =>
    exact issues_commit s (patched _)
  | centerAll =>
    exact issues_commit s (patched _)
  | clear =>
    exact issues_clear s
  | setTheme theme =>
    exact issues_setTheme s theme
  | help =>
    exact .refl s

theorem issues_answerAll (pending : List Pending) : Issues s [] (s.answerAll pending).2 := by
  -- The editor changes from answer to answer, and none of them hands out ids.
  have each : ∀ t : Editor, Issues s [] t →
      Issues s [] (pending.foldl (fun e p => e.answer p.input) t) := by
    induction pending with
    | nil =>
      intro t h
      exact h
    | cons p rest ih =>
      intro t h
      exact ih _ (h.trans ((issues_apply t _).ending _ _ _))
  exact each s (.refl s)

theorem issues_invoke (stamp : Stamp) (shortcut : Shortcut) :
    Issues s (s.handedOutBy shortcut) (s.invoke stamp shortcut) := by
  cases shortcut with
  | undo => exact issues_undo s
  | redo => exact issues_redo s
  | duplicate =>
    simp only [handedOutBy, invoke]
    cases s.view.selected with
    | none => exact .refl s
    | some id => exact issues_duplicate s id
  | saveProject => exact issues_saveProject s stamp
  | deleteSelected =>
    simp only [handedOutBy, invoke]
    cases s.view.selected with
    | none => exact .refl s
    | some id => exact issues_delete s id
  | escape => exact (Issues.refl s).ending _ _ _
  | zoomIn => exact (Issues.refl s).ending _ _ _
  | zoomOut => exact (Issues.refl s).ending _ _ _
  | zoomReset => exact (Issues.refl s).ending _ _ _

/-! ### Every operation -/

theorem issues_perform {operation : Operation} (own : operation.isOwn = true) :
    Issues s (s.handedOut operation) (s.perform operation).2 := by
  cases operation with
  | add kind =>
    exact issues_add s kind
  | relabel id label =>
    refine issues_commit? s fun d changed => ?_
    have same : d.ids = s.document.ids :=
      Document.ids_modify? (f := fun e => { e with label }) (fun _ => rfl) changed
    rw [same]
  | patch id patch =>
    refine issues_commit? s fun d changed => ?_
    have same : d.ids = s.document.ids :=
      Document.ids_modify? (f := (·.patched patch)) (fun _ => rfl) changed
    rw [same]
  | delete id =>
    exact issues_delete s id
  | duplicate id =>
    exact issues_duplicate s id
  | move id direction =>
    exact issues_commit? s fun d moved => (Document.ids_move? moved).subperm
  | reorder source target =>
    exact issues_commit? s fun d moved => (Document.ids_reorder? moved).subperm
  | clear =>
    exact issues_clear s
  | append batch =>
    cases own
  | insertTemplate template =>
    exact issues_addBlueprints s _ _
  | synthesize prompt =>
    exact issues_synthesize s prompt
  | setTheme theme =>
    exact issues_setTheme s theme
  | setColumns columns =>
    exact issues_commit s (List.Subperm.refl _)
  | setBrand brand =>
    exact issues_commit s (List.Subperm.refl _)
  | syncBrand fields =>
    refine issues_commit s ?_
    have same : (s.document.syncBrand fields).ids = s.document.ids :=
      Document.ids_map fun _ => rfl
    rw [same]
  | loadPremade premade =>
    exact issues_loadPremade s premade
  | commit document =>
    cases own
  | undo =>
    exact issues_undo s
  | redo =>
    exact issues_redo s
  | importText text =>
    cases own
  | rename name =>
    exact (Issues.refl s).ending _ _ _
  | saveProject stamp =>
    exact issues_saveProject s stamp
  | loadProject name =>
    have none : s.handedOut (.loadProject name) = [] := Outcome.given_ofExcept _
    rw [none]
    exact issues_loadProject s name
  | deleteProject name =>
    have none : s.handedOut (.deleteProject name) = [] := Outcome.given_ofExcept _
    rw [none]
    exact issues_deleteProject s name
  | sendChat text now =>
    unfold perform sendChat
    dsimp only
    split
    · exact (Issues.refl s).ending _ _ _
    · exact .refl s
  | resolveReplies now =>
    exact ((Issues.refl s).ending _ _ _).trans (issues_answerAll _ _)
  | resolveAllReplies =>
    exact ((Issues.refl s).ending _ _ _).trans (issues_answerAll _ _)
  | apply command =>
    exact issues_apply s command
  | press key typing stamp =>
    simp only [handedOut, perform, press]
    cases Shortcut.ofKeyPress? key typing with
    | none => exact .refl s
    | some shortcut => exact issues_invoke s stamp shortcut
  | view change =>
    exact (Issues.refl s).ending _ _ _

/-! ## Runs -/

/-- The ledger accounts for every id there is: its ids are distinct and numbered up to what the
source has issued, and each document has its ids from it, none of them twice. -/
structure Accounted (ledger : List ElementId) (e : Editor) : Prop where
  distinct : ledger.Nodup
  numbered : ∀ id ∈ ledger, ∃ session scope n, n ≤ e.ids.issued ∧
    id = IdSource.idOf session scope n
  documents : ∀ d ∈ e.documents, d.ids.Nodup ∧ d.ids ⊆ ledger

variable {s}

theorem Accounted.disjoint {ledger new : List ElementId} {t : Editor} (h : Accounted ledger s)
    (issues : Issues s new t) : ledger.Disjoint new := by
  rcases issues.drawn with ⟨scopes, ids, taken, part⟩
  rcases IdSource.number_of_take taken with ⟨-, -, later⟩
  intro id old fresh
  rcases h.numbered id old with ⟨session, scope, n, below, rfl⟩
  rcases later _ (part.subset fresh) with ⟨scope', m, above, -, same⟩
  have number : n = m := number_of_idOf same
  omega

theorem Accounted.issue {ledger new : List ElementId} {t : Editor} (h : Accounted ledger s)
    (issues : Issues s new t) : Accounted (ledger ++ new) t := by
  have apart := h.disjoint issues
  rcases issues.drawn with ⟨scopes, ids, taken, part⟩
  rcases IdSource.number_of_take taken with ⟨-, grown, later⟩
  have fresh : new.Nodup := (IdSource.nodup_take taken).sublist part
  refine ⟨List.nodup_append'.2 ⟨h.distinct, fresh, apart⟩, ?_, ?_⟩
  · intro id member
    rcases List.mem_append.1 member with old | drawn
    · rcases h.numbered id old with ⟨session, scope, n, below, same⟩
      exact ⟨session, scope, n, by omega, same⟩
    · rcases later id (part.subset drawn) with ⟨scope, n, -, below, same⟩
      exact ⟨_, scope, n, below, same⟩
  · intro d hd
    rcases issues.documents d hd with ⟨old, hold, within⟩
    rcases h.documents old hold with ⟨distinct, known⟩
    -- The old ids are in the ledger, so the new ones are different from them.
    have whole : (old.ids ++ new).Nodup :=
      List.nodup_append'.2 ⟨distinct, fresh, fun id here => apart (known here)⟩
    refine ⟨?_, fun id member => ?_⟩
    · rcases within with ⟨l, same, part⟩
      exact same.nodup_iff.1 (whole.sublist part)
    · rcases List.mem_append.1 (within.subset member) with before | given
      · exact List.mem_append_left _ (known before)
      · exact List.mem_append_right _ given

theorem Accounted.run {ledger : List ElementId} (h : Accounted ledger s)
    {operations : List Operation} (own : ∀ o ∈ operations, o.isOwn = true) :
    Accounted (ledger ++ s.ledger operations) (s.run operations) := by
  induction operations generalizing s ledger with
  | nil =>
    rw [Editor.ledger, List.append_nil]
    exact h
  | cons operation rest ih =>
    have first := h.issue (issues_perform s (own operation (List.mem_cons_self ..)))
    have later := ih first fun o ho => own o (List.mem_cons_of_mem _ ho)
    rw [List.append_assoc] at later
    exact later

/-- **Ids are unique and never reused.** A session starts with no elements, in the document or in
saved projects, and takes none from outside. Then at any point of it, the ids handed out so far are
distinct, the ids of every document that is there or can come back are distinct and among them, and
what the next operation hands out is none of them and in no document. -/
theorem ids_unique_of_run (store : Store) (session : String)
    (empty : (openOn store ⟨session, 0⟩).document.elements = [])
    (unsaved : (openOn store ⟨session, 0⟩).catalog.projects = [])
    (operations : List Operation) (own : ∀ o ∈ operations, o.isOwn = true) :
    let start := openOn store ⟨session, 0⟩
    let e := start.run operations
    (start.ledger operations).Nodup ∧
    (∀ d ∈ e.documents, d.ids.Nodup ∧ d.ids ⊆ start.ledger operations) ∧
    ∀ o : Operation, o.isOwn = true → (e.handedOut o).Nodup ∧
      ∀ id ∈ e.handedOut o, id ∉ start.ledger operations ∧ ∀ d ∈ e.documents, id ∉ d.ids := by
  intro start e
  -- At the start there are no ids at all.
  have none : Accounted [] start := by
    refine ⟨List.nodup_nil, by simp, fun d hd => ?_⟩
    have ids : d.ids = [] := by
      rcases mem_documents.1 hd with rfl | past | future | ⟨p, hp, -⟩
      · simp [Document.ids, start, empty]
      · cases past
      · cases future
      · simp [start, unsaved] at hp
    simp [ids]
  have accounted : Accounted (start.ledger operations) e := none.run own
  refine ⟨accounted.distinct, accounted.documents, fun o ho => ?_⟩
  have next := accounted.issue (issues_perform e ho)
  have apart := accounted.disjoint (issues_perform e ho)
  refine ⟨(List.nodup_append'.1 next.distinct).2.1, fun id new => ⟨fun old => apart old new, ?_⟩⟩
  intro d hd there
  exact apart ((accounted.documents d hd).2 there) new

/-- A session in which elements are deleted and undone before others are created. -/
theorem ids_unique_of_short_run :
    let start := openOn {} ⟨"a-1", 0⟩
    let operations : List Operation :=
      [.add .card, .duplicate "node-a-1-1", .saveProject ⟨"p", 7⟩, .delete "node-a-1-2", .undo,
        .undo, .loadPremade .eventLanding, .loadProject "My Project", .synthesize "pricing"]
    let e := start.run operations
    start.document.elements = [] ∧ start.catalog.projects = [] ∧
    (∀ o ∈ operations, o.isOwn = true) ∧
    (start.ledger operations).Nodup ∧
    (∀ d ∈ e.documents, d.ids.Nodup ∧ d.ids ⊆ start.ledger operations) ∧
    ∀ o : Operation, o.isOwn = true → (e.handedOut o).Nodup ∧
      ∀ id ∈ e.handedOut o, id ∉ start.ledger operations ∧ ∀ d ∈ e.documents, id ∉ d.ids := by
  intro start operations
  have own : ∀ o ∈ operations, o.isOwn = true := by decide
  exact ⟨rfl, rfl, own, ids_unique_of_run {} "a-1" rfl rfl operations own⟩

end Editor
end PageBuilder
