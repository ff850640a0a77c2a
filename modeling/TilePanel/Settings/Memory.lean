import TilePanel.Settings.User
import TilePanel.Text.ByteOrder

/-!
Settings kept in memory: one entry for each user and key that was ever written, in the order of the
first writes. Listing collects the entries of one user and sorts them.
-/

namespace TilePanel

/-- The entry of a key and a user, with the text stored for them. -/
structure MemoryEntry where
  user : UserId
  key : String
  value : String
deriving DecidableEq, Repr

namespace MemoryEntry

def isFor (entry : MemoryEntry) (key : String) (user : UserId) : Bool :=
  entry.user == user && entry.key == key

end MemoryEntry

structure MemoryStore where
  entries : List MemoryEntry := []
deriving DecidableEq, Repr

namespace MemoryStore

def read (s : MemoryStore) (key : String) (user : UserId) : Option String :=
  (s.entries.find? fun e => e.isFor key user).map MemoryEntry.value

def upsert (key value : String) (user : UserId) : List MemoryEntry → List MemoryEntry
  | [] => [⟨user, key, value⟩]
  | e :: es => if e.isFor key user then ⟨user, key, value⟩ :: es else e :: upsert key value user es

def write (s : MemoryStore) (key value : String) (user : UserId) : MemoryStore :=
  ⟨upsert key value user s.entries⟩

def list (s : MemoryStore) (user : UserId) : List (String × String) :=
  Text.sortByKey ((s.entries.filter fun e => e.user == user).map fun e => (e.key, e.value))

end MemoryStore

end TilePanel
