import TilePanel.Error
import TilePanel.Settings.User
import TilePanel.Text.ByteOrder

/-!
Settings kept in a database table with the primary key (user, name). Rows stay in the order of that
key, and a value may be missing or binary, since other programs write to the table as well.
-/

namespace TilePanel

inductive Cell
  | null
  | text (value : String)
  | binary
deriving DecidableEq, Repr

namespace Cell

def asText (column : Nat) : Cell → Except Error (Option String)
  | null => .ok none
  | text value => .ok (some value)
  | binary => .error (.database (.valueNotText column))

end Cell

structure Row where
  user : UserId
  name : String
  cell : Cell
deriving DecidableEq, Repr

namespace Row

/-- Whether the primary key of a row comes before a name and a user. -/
def isBefore (row : Row) (name : String) (user : UserId) : Bool :=
  decide (row.user.id < user.id) || (row.user == user && Text.precedes row.name name)

def isFor (row : Row) (name : String) (user : UserId) : Bool :=
  row.user == user && row.name == name

end Row

structure SettingsTable where
  rows : List Row := []
deriving DecidableEq, Repr

namespace SettingsTable

/-- Puts a row at its place, instead of the row with the same primary key if there is one. -/
def place (row : Row) : List Row → List Row
  | [] => [row]
  | r :: rs =>
    if r.isFor row.name row.user then row :: rs
    else if r.isBefore row.name row.user then r :: place row rs
    else row :: r :: rs

/-- Inserts a row, or replaces the one with its primary key. -/
def replace (t : SettingsTable) (row : Row) : SettingsTable :=
  ⟨place row t.rows⟩

def read (t : SettingsTable) (key : String) (user : UserId) : Except Error (Option String) :=
  match t.rows.find? fun r => r.isFor key user with
  | none => .ok none
  | some r => r.cell.asText 0

def write (t : SettingsTable) (key value : String) (user : UserId) : SettingsTable :=
  t.replace ⟨user, key, .text value⟩

def entry (row : Row) : Except Error (String × String) :=
  (row.cell.asText 1).map fun value => (row.name, value.getD "")

/-- The names and texts of a user in table order; the first binary value is an error. -/
def list (t : SettingsTable) (user : UserId) : Except Error (List (String × String)) :=
  (t.rows.filter fun r => r.user == user).mapM entry

end SettingsTable

end TilePanel
