import TilePanel.Settings.User

/-!
The notifications that reach the panel, and the queue on which they wait. A queue that is gone takes
nothing in.
-/

namespace TilePanel

inductive Event
  /-- A watched brightness setting was written for a user. -/
  | settingChanged (key : String) (user : UserId)
  /-- Another user came to the foreground. -/
  | userSwitched (user : UserId)
deriving DecidableEq, Repr

/-- The events that wait, first in first out, and whether anyone can still take them. -/
structure EventQueue where
  pending : List Event := []
  isOpen : Bool := true
deriving DecidableEq, Repr

namespace EventQueue

/-- Appends an event, unless the queue is gone. -/
def post (q : EventQueue) (e : Event) : EventQueue :=
  if q.isOpen then { q with pending := q.pending ++ [e] } else q

/-- The queue when nobody can take events any more. -/
def close (_ : EventQueue) : EventQueue :=
  { pending := [], isOpen := false }

end EventQueue

end TilePanel
