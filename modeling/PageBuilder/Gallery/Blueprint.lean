import PageBuilder.Editing.Ids

/-!
# Blueprints

A blueprint is an element without an id: a kind, a label, and a patch over what every new element
starts with. Blueprints get their ids when they are built.
-/

namespace PageBuilder

/-- An element that waits for an id. -/
structure Blueprint where
  kind : Kind
  label : String
  patch : Props := {}
  deriving DecidableEq

namespace Blueprint

def element (b : Blueprint) (id : ElementId) : Element :=
  ⟨id, b.kind, b.label, Props.editorDefaults.merge b.patch⟩

/-- Builds the elements of blueprints, drawing ids in order. -/
def build (source : IdSource) (scope : Scope) : List Blueprint → List Element × IdSource
  | [] => ([], source)
  | b :: rest =>
    let (id, source) := source.next scope
    let (elements, source) := build source scope rest
    (b.element id :: elements, source)

end Blueprint

end PageBuilder
