import PageBuilder.Page.Wire

/-!
# Saved projects

Snapshots of documents by name, in the order they were saved last.
-/

namespace PageBuilder

open Json

/-- What a newly saved project is marked with: an id of its own and the time, in milliseconds. -/
structure Stamp where
  id : String
  time : UInt64
  deriving DecidableEq

/-- A snapshot of a document under a name. -/
structure Project where
  id : String
  name : String
  document : Document
  savedAt : UInt64
  deriving DecidableEq

deriving instance BEq for Project

/-- The saved projects, the one saved longest ago first. -/
structure Catalog where
  projects : List Project := []
  deriving DecidableEq

deriving instance BEq for Catalog

namespace Catalog

instance : Inhabited Catalog := ⟨{}⟩

def without (c : Catalog) (name : String) : Catalog := ⟨c.projects.filter (·.name ≠ name)⟩

/-- Saves a document under a name, in place of any project of that name, as the latest. -/
def save (c : Catalog) (name : String) (document : Document) (stamp : Stamp) : Catalog :=
  ⟨(c.without name).projects ++ [⟨stamp.id, name, document, stamp.time⟩]⟩

def get? (c : Catalog) (name : String) : Option Project := c.projects.find? (·.name == name)

/-- Takes out the projects of a name, if there are any. -/
def remove? (c : Catalog) (name : String) : Option Catalog :=
  if c.projects.any (·.name == name) then some (c.without name) else none

/-- The names of the projects, in order. -/
def names (c : Catalog) : List String := c.projects.map (·.name)

end Catalog

namespace Project

/-- A project while it is read. -/
structure Draft where
  id : Option String := none
  name : Option String := none
  document : Option Document := none
  savedAt : Option UInt64 := none

def shape : Shape Draft Project where
  name := "Project"
  fields := [
    ⟨"id", fun d v => (asString v).map fun x => { d with id := some x }⟩,
    ⟨"name", fun d v => (asString v).map fun x => { d with name := some x }⟩,
    ⟨"state", fun d v => (Document.read v).map fun x => { d with document := some x }⟩,
    ⟨"savedAt", fun d v => (asUInt64 v).map fun x => { d with savedAt := some x }⟩]
  blank := {}
  finish d :=
    match d.id, d.name, d.document, d.savedAt with
    | some id, some name, some document, some savedAt => .ok ⟨id, name, document, savedAt⟩
    | none, _, _, _ => .error "id"
    | _, none, _, _ => .error "name"
    | _, _, none, _ => .error "state"
    | _, _, _, none => .error "savedAt"

def read (value : Json) : Except Fault Project := shape.read value

def write (p : Project) : Json :=
  object [
    ("id", .string p.id), ("name", .string p.name), ("state", p.document.write),
    ("savedAt", number (Literal.ofNat p.savedAt.toNat))]

end Project

namespace Catalog

def read (value : Json) : Except Fault Catalog := (asList Project.read value).map Catalog.mk

def write (c : Catalog) : Json := .array (c.projects.map Project.write)

end Catalog

end PageBuilder
