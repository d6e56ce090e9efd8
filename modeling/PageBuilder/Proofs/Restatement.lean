import Mathlib.Logic.Relation
import Mathlib.Tactic.FinCases
import PageBuilder.Proofs.Canonical
import PageBuilder.Proofs.Interchange

/-!
# One page in many forms

The same page can be written in many ways: with the members of its objects in another order, with
members beside those that are read, or with `null` for what is not set. `Restated` says when one
value is another form of the other. An import has the same outcome for all forms, also where it
fails: the first fault is found in the canonical form, and that is settled by what is read.

Where names are repeated, the last member counts. So a member that is `null` cannot be removed from
behind one of its name with a value: that one would count then.
-/

namespace PageBuilder

open Json

namespace Json

/-! ## Sizes of members and items -/

variable {members others : List (String × Json)}

theorem readableMembers_append (front back : List (String × Json)) :
    readableMembers (front ++ back) = (readableMembers front && readableMembers back) := by
  induction front with
  | nil => rfl
  | cons m rest ih => simp only [List.cons_append, readableMembers, ih, Bool.and_assoc]

theorem readableItems_append (before after : List Json) :
    readableItems (before ++ after) = (readableItems before && readableItems after) := by
  induction before with
  | nil => rfl
  | cons item rest ih => simp only [List.cons_append, readableItems, ih, Bool.and_assoc]

theorem depthMembers_append (front back : List (String × Json)) :
    depthMembers (front ++ back) = max (depthMembers front) (depthMembers back) := by
  induction front with
  | nil => simp only [List.nil_append, depthMembers, Nat.zero_max]
  | cons m rest ih => simp only [List.cons_append, depthMembers, ih, Nat.max_assoc]

theorem depthItems_append (before after : List Json) :
    depthItems (before ++ after) = max (depthItems before) (depthItems after) := by
  induction before with
  | nil => simp only [List.nil_append, depthItems, Nat.zero_max]
  | cons item rest ih => simp only [List.cons_append, depthItems, ih, Nat.max_assoc]

theorem readableMembers_perm (perm : members.Perm others) :
    readableMembers members = readableMembers others := by
  induction perm with
  | nil => rfl
  | cons m _ ih => simp only [readableMembers, ih]
  | swap m n rest => simp only [readableMembers, Bool.and_left_comm]
  | trans _ _ first second => exact first.trans second

theorem depthMembers_perm (perm : members.Perm others) :
    depthMembers members = depthMembers others := by
  induction perm with
  | nil => rfl
  | cons m _ ih => simp only [depthMembers, ih]
  | swap m n rest => simp only [depthMembers, Nat.max_left_comm]
  | trans _ _ first second => exact first.trans second

/-! ## Another order -/

/-- Whether a value differs from another one in the order of the members of an object that repeats
no name, anywhere in it. -/
inductive Reordered : Json → Json → Prop
  | members {members others : List (String × Json)} (perm : members.Perm others)
      (distinct : (members.map Prod.fst).Nodup) : Reordered (object members) (object others)
  | item {value other : Json} (before after : List Json) (within : Reordered value other) :
      Reordered (array (before ++ value :: after)) (array (before ++ other :: after))
  | member {value other : Json} (name : String) (front back : List (String × Json))
      (within : Reordered value other) :
      Reordered (object (front ++ (name, value) :: back)) (object (front ++ (name, other) :: back))

namespace Reordered

variable {value other : Json}

theorem canonical_eq (reordered : Reordered value other) : value.canonical = other.canonical := by
  induction reordered with
  | members perm distinct => simp only [canonical, canonicalMembers_perm perm distinct]
  | item before after within ih => simp only [canonical, canonicalItems_append, canonicalItems, ih]
  | member name front back within ih =>
    simp only [canonical, object.injEq]
    induction front with
    | nil => simp only [List.nil_append, canonicalMembers, ih]
    | cons m rest later => simp only [List.cons_append, canonicalMembers, later]

theorem readable_eq (reordered : Reordered value other) : value.readable = other.readable := by
  induction reordered with
  | members perm distinct => simp only [readable, readableMembers_perm perm]
  | item before after within ih => simp only [readable, readableItems_append, readableItems, ih]
  | member name front back within ih =>
    simp only [readable, readableMembers_append, readableMembers, ih]

theorem depth_eq (reordered : Reordered value other) : value.depth = other.depth := by
  induction reordered with
  | members perm distinct => simp only [depth, depthMembers_perm perm]
  | item before after within ih => simp only [depth, depthItems_append, depthItems, ih]
  | member name front back within ih => simp only [depth, depthMembers_append, depthMembers, ih]

end Reordered

theorem member?_canonical (name : String) (value : Json) :
    member? name value.canonical = (member? name value).map canonical := by
  cases value with
  | object members =>
    have distinct := (sorted_canonicalMembers members).nodup_names
    ext v
    refine ⟨?_, ?_⟩
    · intro found
      exact mem_canonicalMembers_iff.1 (mem_of_member? found)
    · intro found
      exact member?_of_mem distinct (mem_canonicalMembers_iff (m := (name, v)).2 found)
  | _ => rfl

end Json

/-! ## Parts of a page -/

/-- Where an element stands in a page: as an item of its elements. -/
structure Row where
  front : List (String × Json) := []
  before : List Json := []
  after : List Json := []
  back : List (String × Json) := []

def Row.fill (row : Row) (element : Json) : Json :=
  object (row.front ++ ("elements", array (row.before ++ element :: row.after)) :: row.back)

/-- A part of a page that is read from an object: the page itself, its brand, an element, or the
properties of an element, where the element is an object or lists its fields in an array. -/
inductive PagePart
  | page
  | brand (front back : List (String × Json))
  | element (row : Row)
  | props (row : Row) (front back : List (String × Json))
  | listedProps (row : Row) (id kind label : Json) (more : List Json)

namespace PagePart

/-- The page in which a part is the object of some members. -/
def fill (members : List (String × Json)) : PagePart → Json
  | page => object members
  | brand front back => object (front ++ ("brand", object members) :: back)
  | element row => row.fill (object members)
  | props row front back => row.fill (object (front ++ ("props", object members) :: back))
  | listedProps row id kind label more =>
    row.fill (array (id :: kind :: label :: object members :: more))

/-- The names of the fields of a part. -/
def fields : PagePart → List String
  | page => Payload.shape.fields.map (·.name)
  | brand _ _ => Brand.shape.fields.map (·.name)
  | element _ => Element.shape.fields.map (·.name)
  | props _ _ _ => Props.shape.fields.map (·.name)
  | listedProps _ _ _ _ _ => Props.shape.fields.map (·.name)

/-- The names of the fields of a part that may be `null`. -/
def nullable : PagePart → List String
  | page => ["theme", "columns", "brand"]
  | brand _ _ => []
  | element _ => []
  | props _ _ _ => Props.shape.fields.map (·.name)
  | listedProps _ _ _ _ _ => Props.shape.fields.map (·.name)

/-- How many arrays and objects are around the members of a part. -/
def level : PagePart → Nat
  | page => 1
  | brand _ _ => 2
  | element _ => 3
  | props _ _ _ => 4
  | listedProps _ _ _ _ _ => 4

theorem readable_fill (part : PagePart) (members : List (String × Json)) :
    (part.fill members).readable = ((part.fill []).readable && readableMembers members) := by
  cases part <;>
    simp only [fill, Row.fill, readable, readableMembers_append, readableMembers,
      readableItems_append, readableItems, Bool.true_and, Bool.and_assoc] <;>
    ac_rfl

theorem depth_fill_le (part : PagePart) (members : List (String × Json)) {bound : Nat} :
    (part.fill members).depth ≤ bound ↔
      (part.fill []).depth ≤ bound ∧ depthMembers members + part.level ≤ bound := by
  -- All depths are maxima of sums, so each bound is a conjunction of bounds of the parts.
  have shift : ∀ a b : Nat, max a b + 1 = max (a + 1) (b + 1) := fun a b =>
    (Nat.add_max_add_right a b 1).symm
  cases part <;>
    simp only [fill, Row.fill, depth, depthMembers_append, depthMembers, depthItems_append,
      depthItems, level, shift, Nat.max_le] <;>
    omega

/-! ### Reading a part -/

/-- Whether a part is read alike from two values. -/
def Same (value other : Json) : PagePart → Prop
  | page => Payload.shape.read value.canonical = Payload.shape.read other.canonical
  | brand _ _ => Brand.read value.canonical = Brand.read other.canonical
  | element _ => Element.read value.canonical = Element.read other.canonical
  | props _ _ _ => Props.read value.canonical = Props.read other.canonical
  | listedProps _ _ _ _ _ => Props.read value.canonical = Props.read other.canonical

theorem read_row (row : Row) {value other : Json}
    (same : Element.read value.canonical = Element.read other.canonical) :
    Payload.shape.read (row.fill value).canonical =
      Payload.shape.read (row.fill other).canonical := by
  refine Shape.read_like row.front row.back ⟨rfl, ?_⟩
  intro d
  exact congrArg (Except.map _) (asList_item row.before row.after same)

/-- A page is read alike if one of its parts is. -/
theorem read_fill (part : PagePart) {members others : List (String × Json)}
    (same : part.Same (object members) (object others)) :
    Payload.shape.read (part.fill members).canonical =
      Payload.shape.read (part.fill others).canonical := by
  cases part with
  | page => exact same
  | brand front back =>
    refine Shape.read_like front back ⟨rfl, ?_⟩
    intro d
    exact congrArg (fun brand => (Except.map some brand).map fun x => { d with brand := x }) same
  | element row => exact read_row row same
  | props row front back =>
    refine read_row row (Shape.read_like front back ⟨rfl, ?_⟩)
    intro d
    exact congrArg (Except.map _) same
  | listedProps row id kind label more =>
    refine read_row row (Shape.read_item [id, kind, label] more ?_)
    intro f there d
    cases there
    exact congrArg (Except.map _) same

theorem same_extra (part : PagePart) {name : String} (unknown : name ∉ part.fields)
    (front back : List (String × Json)) (value : Json) :
    part.Same (object (front ++ (name, value) :: back)) (object (front ++ back)) := by
  cases part with
  | page => exact Shape.read_extra Payload.orderly unknown front back value
  | brand _ _ => exact Shape.read_extra Brand.orderly unknown front back value
  | element _ => exact Shape.read_extra Element.orderly unknown front back value
  | props _ _ _ => exact Shape.read_extra Props.orderly unknown front back value
  | listedProps _ _ _ _ _ => exact Shape.read_extra Props.orderly unknown front back value

theorem idle_of_nullable {name : String} (nullable : name ∈ PagePart.page.nullable) :
    Payload.shape.Idle name null := by
  fin_cases nullable <;> rfl

theorem idle_of_property {name : String} (property : name ∈ Props.shape.fields.map (·.name)) :
    Props.shape.Idle name null := by
  fin_cases property <;> rfl

theorem same_unset (part : PagePart) {name : String} (nullable : name ∈ part.nullable)
    {front back : List (String × Json)} (covered : ¬ Uncovers name front back) :
    part.Same (object (front ++ (name, null) :: back)) (object (front ++ back)) := by
  cases part with
  | page => exact Shape.read_unset Payload.orderly (idle_of_nullable nullable) covered
  | brand _ _ => cases nullable
  | element _ => cases nullable
  | props _ _ _ => exact Shape.read_unset Props.orderly (idle_of_property nullable) covered
  | listedProps _ _ _ _ _ =>
    exact Shape.read_unset Props.orderly (idle_of_property nullable) covered

/-! ### The elements of a page -/

theorem hasElements_row (row : Row) (value other : Json) :
    Payload.hasElements (row.fill value) = Payload.hasElements (row.fill other) := by
  simp only [Payload.hasElements, Row.fill, member?_append, member?_cons, if_true]
  cases member? "elements" (object row.back) <;> rfl

/-- Whether a page has elements is settled by its own members, not by those of other parts. -/
theorem hasElements_fill (part : PagePart) {members others : List (String × Json)}
    (same : "elements" ∈ part.fields →
      member? "elements" (object members) = member? "elements" (object others)) :
    Payload.hasElements (part.fill members) = Payload.hasElements (part.fill others) := by
  cases part with
  | page =>
    have there : "elements" ∈ PagePart.page.fields := by decide
    simp only [fill, Payload.hasElements, same there]
  | brand front back => simp [fill, Payload.hasElements, member?_append, member?_cons]
  | element row => exact hasElements_row row _ _
  | props row front back => exact hasElements_row row _ _
  | listedProps row id kind label more => exact hasElements_row row _ _

theorem member?_elements {name : String} (other : name ≠ "elements")
    (front back : List (String × Json)) (value : Json) :
    member? "elements" (object (front ++ (name, value) :: back)) =
      member? "elements" (object (front ++ back)) := by
  simp [member?_append, member?_cons, other]

theorem ne_of_nullable (part : PagePart) {name : String} (nullable : name ∈ part.nullable)
    (elements : "elements" ∈ part.fields) : name ≠ "elements" := by
  have apart : "elements" ∉ Props.shape.fields.map (·.name) := by decide
  rintro rfl
  cases part with
  | page => exact absurd nullable (by decide)
  | brand _ _ => cases nullable
  | element _ => cases nullable
  | props _ _ _ => exact apart elements
  | listedProps _ _ _ _ _ => exact apart elements

end PagePart

/-! ## Restatements -/

/-- One change of the form of a page: the order of members, a member that is not read, or a member
that is `null`. -/
inductive Restated : Json → Json → Prop
  | reordered {value other : Json} (reordered : Reordered value other) : Restated value other
  | extra (part : PagePart) (front back : List (String × Json)) (name : String) (value : Json)
      (unknown : name ∉ part.fields) (readable : value.readable = true)
      (shallow : value.depth + part.level ≤ maxDepth) :
      Restated (part.fill (front ++ back)) (part.fill (front ++ (name, value) :: back))
  | unset (part : PagePart) (front back : List (String × Json)) (name : String)
      (nullable : name ∈ part.nullable) (covered : ¬ Uncovers name front back) :
      Restated (part.fill (front ++ (name, null) :: back)) (part.fill (front ++ back))

namespace Payload

/-- What comes of a value that a text has. -/
def take (value : Json) : Except Failure Payload :=
  if value.readable && value.depth ≤ maxDepth then read value
  else .error (.invalidImport .malformed)

theorem parse_eq_take {text : String} {value : Json} (given : ofText? text = some value) :
    parse text = take value := by
  simp only [parse, ofBoundedText?, given, take, Option.filter_some]
  cases value.readable && decide (value.depth ≤ maxDepth) <;> rfl

/-- What settles the outcome of an import is alike in two values. -/
structure Alike (value other : Json) : Prop where
  readable : value.readable = other.readable
  bounded : value.depth ≤ maxDepth ↔ other.depth ≤ maxDepth
  elements : hasElements value = hasElements other
  read : shape.read value.canonical = shape.read other.canonical

theorem Alike.take_eq {value other : Json} (alike : Alike value other) :
    take value = take other := by
  simp only [take, Payload.read, alike.readable, alike.bounded, alike.elements, alike.read]

theorem hasElements_canonical (value : Json) : hasElements value.canonical = hasElements value := by
  simp only [hasElements, member?_canonical]
  cases member? "elements" value with
  | none => rfl
  | some elements => cases elements <;> rfl

theorem alike_of_reordered {value other : Json} (reordered : Reordered value other) :
    Alike value other where
  readable := reordered.readable_eq
  bounded := by rw [reordered.depth_eq]
  elements := by
    rw [← hasElements_canonical value, ← hasElements_canonical other, reordered.canonical_eq]
  read := congrArg shape.read reordered.canonical_eq

/-- A member that is not read, and can be held, may be there or not. -/
theorem alike_of_member (part : PagePart) {front back : List (String × Json)} {name : String}
    {value : Json} (readable : value.readable = true)
    (shallow : value.depth + part.level ≤ maxDepth)
    (other : "elements" ∈ part.fields → name ≠ "elements")
    (same : part.Same (object (front ++ (name, value) :: back)) (object (front ++ back))) :
    Alike (part.fill (front ++ (name, value) :: back)) (part.fill (front ++ back)) where
  readable := by
    rw [part.readable_fill, part.readable_fill (front ++ back)]
    simp only [readableMembers_append, readableMembers, readable, Bool.true_and]
  bounded := by
    rw [part.depth_fill_le, part.depth_fill_le (front ++ back)]
    simp only [depthMembers_append, depthMembers, ← Nat.add_max_add_right, Nat.max_le, shallow,
      true_and]
  elements := part.hasElements_fill fun there =>
    PagePart.member?_elements (other there) front back value
  read := part.read_fill same

theorem take_of_restated {value other : Json} (restated : Restated value other) :
    take value = take other := by
  cases restated with
  | reordered reordered => exact (alike_of_reordered reordered).take_eq
  | extra part front back name value unknown readable shallow =>
    have apart : "elements" ∈ part.fields → name ≠ "elements" := by
      intro there same
      exact unknown (same ▸ there)
    have same := part.same_extra unknown front back value
    exact (alike_of_member part readable shallow apart same).take_eq.symm
  | unset part front back name nullable covered =>
    have shallow : Json.null.depth + part.level ≤ maxDepth := by
      cases part <;> simp [depth, PagePart.level, maxDepth]
    have same := part.same_unset nullable covered
    exact (alike_of_member part rfl shallow (part.ne_of_nullable nullable) same).take_eq

/-- All forms of a page are taken alike, by induction on the changes between them. -/
theorem take_of_forms {value other : Json} (forms : Relation.EqvGen Restated value other) :
    take value = take other := by
  induction forms with
  | rel _ _ step => exact take_of_restated step
  | refl _ => rfl
  | symm _ _ _ ih => exact ih.symm
  | trans _ _ _ _ _ first second => exact first.trans second

end Payload

namespace Document

theorem importText_eq_take (current : Document) {text : String} {value : Json}
    (given : ofText? text = some value) :
    current.importText text = (Payload.take value).map (·.applyTo current) := by
  rw [importText, Payload.parse_eq_take given]

/-- **Import reads all forms of a page alike.** If the value of one text is reached from that of
another one by changing the order of members where no name is repeated, by putting in or removing
members that are not read, and by removing or putting in members that are `null` and cover no other
value, then both texts are imported with the same outcome over every document. -/
theorem importText_of_restated (current : Document) {text text' : String} {value value' : Json}
    (given : ofText? text = some value) (given' : ofText? text' = some value')
    (forms : Relation.EqvGen Restated value value') :
    current.importText text = current.importText text' := by
  calc
    current.importText text
        = (Payload.take value).map (·.applyTo current) := importText_eq_take current given
    _ = (Payload.take value').map (·.applyTo current) := by rw [Payload.take_of_forms forms]
    _ = current.importText text' := (importText_eq_take current given').symm

/-- Two forms of a page. The members of its element stand in another order, its properties have a
member that is not read, and a theme that is `null` is gone. -/
theorem importText_of_two_forms :
    let props : Json := object [("color", .string "red")]
    let more : Json := object [("color", .string "red"), ("x", array [null])]
    let element : Json := object [("id", .string "a"), ("type", .string "text"), ("props", props)]
    let swapped : Json := object [("type", .string "text"), ("id", .string "a"), ("props", more)]
    let page : Json := object [("elements", array [element]), ("theme", null)]
    let page' : Json := object [("elements", array [swapped])]
    ofText? page.pretty = some page ∧ ofText? page'.pretty = some page' ∧
      Relation.EqvGen Restated page page' ∧
      (({} : Document).importText page.pretty).isOk = true ∧
      ({} : Document).importText page.pretty = ({} : Document).importText page'.pretty := by
  intro props more element swapped page page'
  have given : ofText? page.pretty = some page := ofText?_pretty (by trivial)
  have given' : ofText? page'.pretty = some page' := ofText?_pretty (by trivial)
  let kind : String × Json := ("type", .string "text")
  let id : String × Json := ("id", .string "a")
  let row : Row := { back := [("theme", null)] }
  have order : Restated page
      ((PagePart.props row [kind, id] []).fill ([("color", .string "red")] ++ [])) :=
    .reordered (.member "elements" [] [("theme", null)]
      (.item [] [] (.members (List.Perm.swap kind id [("props", props)]) (by decide))))
  have extra := Restated.extra (.props row [kind, id] []) [("color", .string "red")] [] "x"
    (array [null]) (by decide) rfl (by decide)
  have unset := Restated.unset .page [("elements", array [swapped])] [] "theme" (by decide)
    (by simp [Uncovers, member?])
  have restated : Relation.EqvGen Restated page page' :=
    .trans _ _ _ (.rel _ _ order) (.trans _ _ _ (.rel _ _ extra) (.rel _ _ unset))
  have done : (({} : Document).importText page.pretty).isOk = true := by
    rw [importText_eq_take {} given]
    decide +kernel
  exact ⟨given, given', restated, done, importText_of_restated {} given given' restated⟩

/-- A theme that is `null` stands behind another one. The theme of the current document is kept, and
without the `null` the other one is read. -/
theorem importText_of_uncovered :
    let page : Json := object [("elements", array []), ("theme", .string "ocean"), ("theme", null)]
    let page' : Json := object [("elements", array []), ("theme", .string "ocean")]
    let imported := ({} : Document).importText page.pretty
    let imported' := ({} : Document).importText page'.pretty
    ofText? page.pretty = some page ∧ ofText? page'.pretty = some page' ∧
      imported.toOption.map (·.theme) = some .dark ∧
      imported'.toOption.map (·.theme) = some .ocean ∧ imported ≠ imported' := by
  intro page page' imported imported'
  have given : ofText? page.pretty = some page := ofText?_pretty (by trivial)
  have given' : ofText? page'.pretty = some page' := ofText?_pretty (by trivial)
  have kept : imported.toOption.map (·.theme) = some .dark := by
    simp only [imported, importText_eq_take {} given]
    decide +kernel
  have read : imported'.toOption.map (·.theme) = some .ocean := by
    simp only [imported', importText_eq_take {} given']
    decide +kernel
  refine ⟨given, given', kept, read, ?_⟩
  intro same
  rw [same, read] at kept
  cases kept

end Document

end PageBuilder
