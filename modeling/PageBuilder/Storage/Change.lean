import PageBuilder.Storage.Disk

/-!
# Changes of a disk

What has to be done to one tree of files so that it becomes another one.
-/

namespace PageBuilder

/-- A step that changes a tree of files. -/
inductive Change
  | makeDirectory (path : String)
  | write (path : String) (contents : ByteArray)
  | move (source target : String)

namespace Disk

/-- The path of a place. -/
def pathOf (place : Place) : String :=
  match place.reverse with
  | "/" :: names => "/" ++ "/".intercalate names
  | names => "/".intercalate names

/-- The places that names lead through. -/
def placesOn (here : Place) : List String → List Place
  | [] => []
  | name :: rest => here.step name :: placesOn (here.step name) rest

/-- The places on the way to what a path means, the outermost first. -/
def way (path : String) : List Place :=
  if Path.isUsable path then placesOn (Path.start path) (Path.names path) else []

/-- The step that makes an entry. -/
def making : Place × Entry → Change
  | (place, .directory) => .makeDirectory (pathOf place)
  | (place, .file contents) => .write (pathOf place) contents

/-- The steps from one tree to another. What is gone has been moved to a place with the same entry.
-/
def changes (before after : Disk) : List Change :=
  -- Moves come first, so that nothing is written over what still has to be moved.
  let gone := before.entries.filter fun e => (after.entries.lookup e.1).isNone
  let made := (after.entries.filter fun e => before.entries.lookup e.1 ≠ some e.2).reverse
  let moves := gone.filterMap fun (place, entry) =>
    (made.find? (·.2 = entry)).map fun target => (place, target.1)
  let rest := made.filter fun e => moves.all (·.2 ≠ e.1)
  moves.map (fun (source, target) => .move (pathOf source) (pathOf target)) ++ rest.map making

end Disk

end PageBuilder
