import TilePanel.Settings.User

/-!
The registrations of listeners. Each watches a list of keys for one user, or for every user, and has
a number that no other registration ever gets. Registrations stay in the order in which they came.
-/

namespace TilePanel

/-- Who is told of a write. -/
inductive Listener
  /-- Posts an event on the queue of the panel. -/
  | poster
  /-- Notes the write and may react to it. -/
  | watcher (name : String)
deriving DecidableEq, Repr

structure Registration where
  id : Nat
  keys : List String
  scope : UserId
  listener : Listener
deriving DecidableEq, Repr

namespace Registration

def hears (r : Registration) (key : String) (user : UserId) : Bool :=
  r.scope.covers user && r.keys.contains key

end Registration

structure Registry where
  entries : List Registration := []
  nextId : Nat := 1
deriving DecidableEq, Repr

namespace Registry

/-- Appends a registration under the next number. -/
def register (r : Registry) (keys : List String) (scope : UserId) (listener : Listener) :
    Registry where
  entries := r.entries ++ [⟨r.nextId, keys, scope, listener⟩]
  nextId := r.nextId + 1

def contains (r : Registry) (id : Nat) : Bool :=
  r.entries.any fun e => e.id == id

def unregister (r : Registry) (id : Nat) : Registry :=
  { r with entries := r.entries.filter fun e => e.id != id }

def hearing (r : Registry) (key : String) (user : UserId) : List Registration :=
  r.entries.filter fun e => e.hears key user

def hasPoster (r : Registry) : Bool :=
  r.entries.any fun e => e.listener == .poster

end Registry

end TilePanel
