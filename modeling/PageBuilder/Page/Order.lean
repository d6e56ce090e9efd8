/-!
# Order of items

Insertion, removal and reordering in a list, by index. Swapping with a neighbour moves an item by
one place; moving takes it out and puts it back in anywhere.
-/

namespace PageBuilder

/-- The direction of a move by one place. -/
inductive Direction
  | up | down
  deriving DecidableEq, Repr

/-- The result of a move by one place. -/
inductive Moved (α : Type)
  | moved (items : List α)
  /-- There is no neighbour on that side. -/
  | atEnd
  | noSuchIndex
  deriving DecidableEq

namespace Order

variable {α : Type}

/-- The list with the item at an index replaced. -/
def replaceAt? (items : List α) (index : Nat) (item : α) : Option (List α) :=
  if index < items.length then some (items.set index item) else none

/-- The list with an item put in behind the one at an index. -/
def insertAfter? (items : List α) (index : Nat) (item : α) : Option (List α) :=
  if index < items.length then some (items.insertIdx (index + 1) item) else none

/-- The list without the item at an index. -/
def removeAt? (items : List α) (index : Nat) : Option (List α) :=
  if index < items.length then some (items.eraseIdx index) else none

/-- Exchanges the item at `index` with the one behind it. -/
def swapWithNext : List α → Nat → List α
  | a :: b :: rest, 0 => b :: a :: rest
  | a :: rest, index + 1 => a :: swapWithNext rest index
  | items, _ => items

/-- Exchanges the item at an index with its neighbour. The first item has none above, and nothing at
or behind the last place has one below. -/
def swapNeighbor (items : List α) (index : Nat) : Direction → Moved α
  | .up =>
    match index with
    | 0 => .atEnd
    | above + 1 =>
      if above + 1 < items.length then .moved (swapWithNext items above) else .noSuchIndex
  | .down => if index + 1 < items.length then .moved (swapWithNext items index) else .atEnd

/-- Takes out the item at `source` and puts it back in so that it stands at `target`. -/
def moveTo? (items : List α) (source target : Nat) : Option (List α) :=
  match items[source]? with
  | some item =>
    if target < items.length then some ((items.eraseIdx source).insertIdx target item) else none
  | none => none

end Order

end PageBuilder
