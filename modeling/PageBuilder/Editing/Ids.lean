import PageBuilder.Page.Document

/-!
# Ids of new elements

Every way of creating elements draws its ids from one counter, so no id is given out twice in a
session; the way only shows in how the id starts.
-/

namespace PageBuilder

/-- The way an element is created. -/
inductive Scope
  /-- Added or duplicated by hand. -/
  | node
  /-- Part of a template or a premade page. -/
  | template
  /-- Synthesized from a prompt. -/
  | synthesis
  deriving DecidableEq, Repr

def Scope.tag : Scope → String
  | node => "node"
  | template => "tpl"
  | synthesis => "ai"

/-- Where ids come from: the tag of the session, and how many have been given out. -/
structure IdSource where
  session : String
  issued : Nat := 0
  deriving DecidableEq, Repr

namespace IdSource

/-- The id with the given number. -/
def idOf (session : String) (scope : Scope) (number : Nat) : ElementId :=
  s!"{scope.tag}-{session}-{number}"

def next (source : IdSource) (scope : Scope) : ElementId × IdSource :=
  (idOf source.session scope (source.issued + 1), { source with issued := source.issued + 1 })

/-- Gives out ids, one for each of the scopes. -/
def take (source : IdSource) : List Scope → List ElementId × IdSource
  | [] => ([], source)
  | scope :: rest =>
    let (id, source) := source.next scope
    let (ids, source) := source.take rest
    (id :: ids, source)

end IdSource

end PageBuilder
