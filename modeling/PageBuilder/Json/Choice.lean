import PageBuilder.Json.Fault

/-!
# Choices

Closed sets of values with names. A choice is found by its name, and it is written as its name; it
is also read from an object with its name as the single member and the value `null`.
-/

namespace PageBuilder

/-- A closed set of values, in the order they are offered, with distinct names. -/
class Choice (α : Type) where
  all : List α
  name : α → String
  mem_all : ∀ a, a ∈ all
  names_nodup : (all.map name).Nodup

namespace Choice

variable {α : Type} [Choice α]

def ofName? (name : String) : Option α := (all (α := α)).find? (Choice.name · == name)

/-- The names of all choices, in order. -/
def names (α : Type) [Choice α] : List String := (all (α := α)).map name

theorem name_injective {a b : α} (h : name a = name b) : a = b := by
  have nodup := names_nodup (α := α)
  have inj : ∀ l : List α, (l.map name).Nodup → a ∈ l → b ∈ l → a = b := by
    intro l
    induction l with
    | nil => simp
    | cons c rest ih =>
      intro distinct ha hb
      simp only [List.map_cons, List.nodup_cons, List.mem_map] at distinct
      rcases List.mem_cons.1 ha with here | later
      · rcases List.mem_cons.1 hb with there | after
        · rw [here, there]
        · exact absurd ⟨b, after, by rw [← h, here]⟩ distinct.1
      · rcases List.mem_cons.1 hb with there | after
        · exact absurd ⟨a, later, by rw [h, there]⟩ distinct.1
        · exact ih distinct.2 later after
  exact inj all nodup (mem_all a) (mem_all b)

theorem ofName?_name (a : α) : ofName? (name a) = some a := by
  unfold ofName?
  cases found : (all (α := α)).find? (name · == name a) with
  | none => exact absurd (List.find?_eq_none.1 found a (mem_all a)) (by simp)
  | some b =>
    have same := List.find?_some found
    simp only [beq_iff_eq] at same
    rw [name_injective same]

def named (name : String) : Except Json.Fault α :=
  match ofName? name with
  | some a => .ok a
  | none => .error (.unknownChoice name (names α))

/-- Reads a choice: its name, or an object with its name beside `null`. -/
def read : Json → Except Json.Fault α
  | .string name => named name
  | .object [(name, value)] => do
    let a ← named name
    match value with
    | .null => .ok a
    | value => .error (.wrongType value .unit)
  | .object _ => .error .severalMembers
  | .unreadable => .error .unreadable
  | value => .error (.wrongType value .choice)

/-- The written form of a choice. -/
def write (a : α) : Json := .string (name a)

theorem read_write (a : α) : read (write a) = .ok a := by
  simp [read, write, named, ofName?_name]

end Choice

end PageBuilder
