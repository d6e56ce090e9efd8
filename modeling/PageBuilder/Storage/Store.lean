import PageBuilder.Storage.Disk
import PageBuilder.Storage.Catalog
import PageBuilder.Json.Reader
import PageBuilder.Json.Printer

/-!
# The store

Where the current document and the saved projects are kept between sessions: two files in a data
directory, or nowhere. Writing is best effort; a file that cannot be loaded can be set aside, so
that later writes leave it alone.
-/

namespace PageBuilder

/-- The file of the current document. -/
def stateFile : String := "state.json"

def projectsFile : String := "projects.json"

/-- What is put behind the name of a file that is set aside. -/
def asideSuffix : String := "corrupt"

/-- The name that a file has once it is set aside. -/
def asideName (file : String) : String := file ++ "." ++ asideSuffix

/-- Why a file could not be loaded. -/
inductive StoreFault
  /-- It is there but cannot be read as text. -/
  | unreadable
  /-- Its text is not what it should hold. -/
  | malformed
  deriving DecidableEq, Repr

/-- A disk, and the data directory on it if there is one. -/
structure Store where
  disk : Disk := {}
  home : Option String := none
  deriving DecidableEq

namespace Store

instance : Inhabited Store := ⟨{}⟩

/-- A store with the given data directory, which is made if it is missing. If it cannot be made the
disk is given as it is then. -/
def inDirectory (disk : Disk) (directory : String) : Except Disk Store :=
  match disk.makeDirectory directory with
  | (true, disk) => .ok ⟨disk, some directory⟩
  | (false, disk) => .error disk

def path? (s : Store) (file : String) : Option String := s.home.map (Path.join · file)

/-- Writes a data file, if that is possible. -/
def persist (s : Store) (file : String) (value : Json) : Store :=
  match s.path? file with
  | none => s
  | some path =>
    match s.disk.write? path value.pretty.toUTF8 with
    | some disk => { s with disk }
    | none => s

/-- Loads a data file, if it is there. The reader sees the members of objects as they are written.
-/
def load {α : Type} (s : Store) (file : String) (read : Json → Except Json.Fault α) :
    Except StoreFault (Option α) :=
  match s.path? file with
  | none => .ok none
  | some path =>
    -- A directory in place of the file is there, but cannot be read.
    if s.disk.pathExists path then
      match s.disk.readText? path with
      | none => .error .unreadable
      | some text =>
        match Json.ofText? text with
        | none => .error .malformed
        | some value =>
          match read value with
          | .ok loaded => .ok (some loaded)
          | .error _ => .error .malformed
    else .ok none

def persistDocument (s : Store) (d : Document) : Store := s.persist stateFile d.write

def persistCatalog (s : Store) (c : Catalog) : Store := s.persist projectsFile c.write

def loadDocument (s : Store) : Except StoreFault (Option Document) := s.load stateFile Document.read

/-- Loads the saved projects; there are none if their file is missing. -/
def loadCatalog (s : Store) : Except StoreFault Catalog :=
  (s.load projectsFile Catalog.read).map (·.getD {})

/-- Renames a data file that cannot be loaded. Gives its new path, unless it is missing or cannot be
renamed. -/
def setAside (s : Store) (file : String) : Option String × Store :=
  match s.home with
  | none => (none, s)
  | some home =>
    let target := Path.join home (asideName file)
    match s.disk.rename? (Path.join home file) target with
    | some disk => (some target, { s with disk })
    | none => (none, s)

end Store

end PageBuilder
