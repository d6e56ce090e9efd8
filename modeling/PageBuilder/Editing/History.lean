/-!
# Undo and redo

The states before and after the current one. A commit records the state it replaced and forgets what
was undone; undo and redo move the current state between the two sides. At most `limit` states are
kept behind, the oldest being dropped.
-/

namespace PageBuilder

/-- How many steps back are kept unless said otherwise. -/
def historyLimit : Nat := 50

/-- The states around the current one. -/
structure History (α : Type) where
  /-- The states before the current one, the latest first. -/
  past : List α := []
  /-- The undone states, the next to redo first. -/
  future : List α := []
  limit : Nat := historyLimit
  deriving DecidableEq, Repr

namespace History

variable {α : Type}

/-- The empty history that keeps at most `limit` states behind, and at least one. -/
def withLimit (limit : Nat) : History α := { limit := max limit 1 }

/-- The latest `limit` states behind, with the given one as the latest. -/
def pushed (h : History α) (state : α) : List α := (state :: h.past).take h.limit

/-- Records the state that a change replaced. -/
def commit (h : History α) (replaced : α) : History α :=
  { h with past := h.pushed replaced, future := [] }

/-- Steps back from the current state: the state before it, and the history around that one. -/
def undo? (h : History α) (current : α) : Option (α × History α) :=
  match h.past with
  | [] => none
  | previous :: past => some (previous, { h with past, future := current :: h.future })

/-- Steps forward from the current state: the state undone last, and the history around it. -/
def redo? (h : History α) (current : α) : Option (α × History α) :=
  match h.future with
  | [] => none
  -- The limit holds for redone steps as well.
  | next :: future => some (next, { h with past := h.pushed current, future })

/-- The number of steps back that can be made. -/
def undoLevels (h : History α) : Nat := h.past.length

/-- The number of steps forward that can be made. -/
def redoLevels (h : History α) : Nat := h.future.length

def clear (h : History α) : History α := { h with past := [], future := [] }

end History

end PageBuilder
