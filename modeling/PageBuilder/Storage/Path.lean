/-!
# Paths

How the text of a path is taken apart. A path is a row of names with slashes between them; the empty
name and `.` stay in place, `..` goes one place back, and any other name leads one place further in.
What stands at those places is not asked here.
-/

namespace PageBuilder

/-- A place in a tree of files: the names that lead to it, the last one first, from the working
directory or from the root. The places around the working directory have `..` for their names, and
the root has the name `/`. -/
abbrev Place := List String

namespace Place

/-- The working directory. -/
def working : Place := []

def root : Place := ["/"]

/-- Whether a place is the working directory, one around it, or the root. -/
def isAnchor (place : Place) : Bool := place == root || place.all (· == "..")

/-- Whether a place lies in the working directory. -/
def isInside (place : Place) : Bool :=
  match place.getLast? with
  | none => false
  | some outermost => outermost != ".." && outermost != "/"

/-- The place around a place. -/
def outer : Place → Place
  | [] => [".."]
  | last :: rest => if last = ".." then ".." :: last :: rest else if last = "/" then root else rest

/-- Whether a name leads nowhere else. -/
def stays (name : String) : Bool := name == "" || name == "."

/-- The place a name leads to. -/
def step (place : Place) (name : String) : Place :=
  if stays name then place else if name = ".." then place.outer else name :: place

/-- Whether one place is another one or lies below it. -/
def isWithin (around place : Place) : Bool := around.isSuffixOf place

/-- The place that corresponds to a place below `source` once that has become `target`. -/
def carried (source target place : Place) : Place :=
  place.take (place.length - source.length) ++ target

end Place

namespace Path

/-- The names between the slashes of a text. -/
def segments : List Char → List (List Char)
  | [] => [[]]
  | c :: rest =>
    match segments rest with
    | [] => [[c]]
    | name :: names => if c = '/' then [] :: name :: names else (c :: name) :: names

/-- The names of a path; a slash at its end is followed by the empty one. -/
def names (path : String) : List String := (segments path.toList).map String.ofList

/-- The place a path starts from. -/
def start (path : String) : Place :=
  if path.toList.head? = some '/' then Place.root else Place.working

/-- How long a path must not be, in bytes. -/
def sizeLimit : Nat := 4096

/-- Whether a path can lead anywhere: it is not empty, not too long, and without a null character.
-/
def isUsable (path : String) : Bool :=
  path ≠ "" && path.utf8ByteSize < sizeLimit && !path.toList.contains '\x00'

/-- The greatest length of a name, in bytes. -/
def nameLimit : Nat := 255

/-- Whether a file or directory can have a name. -/
def isName (name : String) : Bool := name.utf8ByteSize ≤ nameLimit

/-- The names of the directories that a path asks for. A path that ends in `.` does not ask for the
directory before it, which has to be there. -/
def requested (path : String) : List String :=
  match (names path).reverse.dropWhile (·.isEmpty) with
  | "." :: rest => ((rest.dropWhile Place.stays).drop 1).reverse
  | named => named.reverse

/-- Puts a path behind another one; an absolute path stands for itself. -/
def join (path other : String) : String :=
  if path.isEmpty || other.toList.head? == some '/' then other
  else if path.toList.getLast? == some '/' then path ++ other
  else path ++ "/" ++ other

end Path

end PageBuilder
