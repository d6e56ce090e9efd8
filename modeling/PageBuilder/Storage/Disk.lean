import PageBuilder.Storage.Path

/-!
# Files

The part of a file system the program works in: a tree of directories and files, addressed from one
working directory. A path leads through directories only, so `a/../b` leads nowhere unless there is
a directory `a`.
-/

namespace PageBuilder

/-- What stands at a place of the tree. -/
inductive Entry
  | directory
  | file (contents : ByteArray)

instance : DecidableEq Entry
  | .directory, .directory => isTrue rfl
  | .directory, .file _ => isFalse nofun
  | .file _, .directory => isFalse nofun
  | .file a, .file b =>
    match ByteArray.instDecidableEq a b with
    | isTrue same => isTrue (congrArg Entry.file same)
    | isFalse different => isFalse fun h => different (Entry.file.inj h)

/-- A tree of files. The working directory, those around it and the root are always there. -/
structure Disk where
  entries : List (Place × Entry) := []
  deriving DecidableEq

namespace Disk

instance : Inhabited Disk := ⟨{}⟩

def entryAt? (d : Disk) (place : Place) : Option Entry :=
  if place.isAnchor then some .directory else d.entries.lookup place

/-- The tree with an entry put at a place, instead of one that was there. -/
def put (d : Disk) (place : Place) (entry : Entry) : Disk :=
  ⟨(place, entry) :: d.entries.filter (·.1 ≠ place)⟩

/-! ## Ways -/

/-- The directory that a name leads to. -/
def enter? (d : Disk) (here : Place) (name : String) : Option Place :=
  match d.entryAt? (here.step name) with
  | some .directory => some (here.step name)
  | _ => none

/-- The directory that names lead to, through directories. -/
def walk? (d : Disk) (here : Place) : List String → Option Place
  | [] => some here
  | name :: rest =>
    match d.enter? here name with
    | some next => d.walk? next rest
    | none => none

/-- The place that a path leads to; nothing need stand there, but all before it are directories. -/
def target? (d : Disk) (path : String) : Option Place :=
  if Path.isUsable path then
    let names := Path.names path
    (d.walk? (Path.start path) names.dropLast).map (·.step (names.getLastD ""))
  else none

def entry? (d : Disk) (path : String) : Option Entry := (d.target? path).bind d.entryAt?

def pathExists (d : Disk) (path : String) : Bool := (d.entry? path).isSome

/-! ## Reading and writing -/

def read? (d : Disk) (path : String) : Option ByteArray :=
  match d.entry? path with
  | some (.file contents) => some contents
  | _ => none

/-- The contents of a file as text, if they are text. -/
def readText? (d : Disk) (path : String) : Option String := do
  let contents ← d.read? path
  String.fromUTF8? contents

/-- Writes a file. No directory may stand in its place. -/
def write? (d : Disk) (path : String) (contents : ByteArray) : Option Disk :=
  match d.target? path with
  | none => none
  | some target =>
    match d.entryAt? target with
    | some .directory => none
    | some (.file _) => some (d.put target (.file contents))
    | none => if target.all Path.isName then some (d.put target (.file contents)) else none

/-! ## Directories -/

/-- Makes the directories that names lead through, as far as they are missing. Tells whether all are
there; what was made before one could not be made stays. -/
def makeWay (d : Disk) (here : Place) : List String → Bool × Disk
  | [] => (true, d)
  | name :: rest =>
    let next := here.step name
    match d.entryAt? next with
    | some .directory => d.makeWay next rest
    | some (.file _) => (false, d)
    | none =>
      if Path.isName name then (d.put next .directory).makeWay next rest else (false, d)

/-- Makes a directory and those on the way to it, as far as they are missing. Tells whether it is
there. The empty path stands for the working directory. -/
def makeDirectory (d : Disk) (path : String) : Bool × Disk :=
  if path.isEmpty then (true, d)
  else if Path.isUsable path then
    let (made, d) := d.makeWay (Path.start path) (Path.requested path)
    (made && (d.walk? (Path.start path) (Path.names path)).isSome, d)
  else (false, d)

/-! ## Moving -/

/-- The tree with what stands at or below one place carried to another one, where nothing stays. -/
def carry (d : Disk) (source target : Place) : Disk :=
  ⟨(d.entries.filter (·.1 ≠ target)).map fun (place, entry) =>
    (if source.isWithin place then Place.carried source target place else place, entry)⟩

/-- Moves what stands at one place to another. Only a file can take the place of a file, and only a
directory that of a directory, which must be empty; nothing can move into itself. -/
def moveEntry? (d : Disk) (source target : Place) : Option Disk :=
  if source.isAnchor || target.isAnchor || !target.all Path.isName then none
  else if source = target then some d
  else if source.isWithin target then none
  else
    match d.entryAt? source, d.entryAt? target with
    | some _, none => some (d.carry source target)
    | some (.file _), some (.file _) => some (d.carry source target)
    | some .directory, some .directory =>
      if d.entries.any fun e => target.isWithin e.1 && e.1 ≠ target then none
      else some (d.carry source target)
    | _, _ => none

def rename? (d : Disk) (source target : String) : Option Disk :=
  match d.target? source, d.target? target with
  | some source, some target => d.moveEntry? source target
  | _, _ => none

/-! ## Listing -/

/-- The listed form of a place: its path, with a slash behind a directory. -/
def listed : Place × Entry → String
  | (place, .directory) => "/".intercalate place.reverse ++ "/"
  | (place, .file _) => "/".intercalate place.reverse

/-- Everything in the working directory, sorted. -/
def listing (d : Disk) : List String :=
  ((d.entries.filter (·.1.isInside)).map listed).mergeSort (decide <| · ≤ ·)

end Disk

end PageBuilder
