import TilePanel.Notice
import TilePanel.Settings.Memory
import TilePanel.Settings.Table
import TilePanel.Text.Blank

/-!
The settings store behind a panel: in memory, in a database table, in one that can only be read, or
one whose every access fails.
Integer settings are decimal texts; what cannot be read as one gives the caller's fallback.
-/

namespace TilePanel

open TilePanel.Text

inductive SettingsStore
  | memory (store : MemoryStore)
  /-- A table; `none` once it was dropped. -/
  | database (table : Option SettingsTable)
  | readOnly (table : SettingsTable)
  /-- A store that answers every read, write and listing with one failure. -/
  | failing (fault : Error)
deriving DecidableEq, Repr

namespace SettingsStore

def read (s : SettingsStore) (key : String) (user : UserId) : Except Error (Option String) :=
  match s with
  | memory m => .ok (m.read key user)
  | database (some t) | readOnly t => t.read key user
  | database none => .error (.database .tableMissing)
  | failing fault => .error fault

def write (s : SettingsStore) (key value : String) (user : UserId) : Except Error SettingsStore :=
  match s with
  | memory m => .ok (memory (m.write key value user))
  | database (some t) => .ok (database (some (t.write key value user)))
  | database none => .error (.database .tableMissing)
  | readOnly _ => .error (.database .readOnly)
  | failing fault => .error fault

def list (s : SettingsStore) (user : UserId) : Except Error (List (String × String)) :=
  match s with
  | memory m => .ok (m.list user)
  | database (some t) | readOnly t => t.list user
  | database none => .error (.database .tableMissing)
  | failing fault => .error fault

/-- What a successful write reports: a table reports every write, memory none. -/
def writeNotices (s : SettingsStore) (key value : String) (user : UserId) : List Notice :=
  match s with
  | database _ => [.settingStored key value user]
  | _ => []

def parseInt? (raw : String) : Option Int32 :=
  Decimal.readInt32? (trim raw.toList)

/-- Reads an integer setting. A missing, malformed or unreadable one gives the fallback. -/
def readInt (s : SettingsStore) (key : String) (fallback : Int32) (user : UserId) : Int32 :=
  match s.read key user with
  | .ok (some raw) => (parseInt? raw).getD fallback
  | .ok none => fallback
  | .error _ => fallback

/-- What reading an integer setting reports: texts that are no integers, and failures. -/
def readIntNotices (s : SettingsStore) (key : String) (fallback : Int32) (user : UserId) :
    List Notice :=
  match s.read key user with
  | .ok (some raw) =>
    match parseInt? raw with
    | some _ => []
    | none => [.settingMalformed key user raw fallback]
  | .ok none => []
  | .error cause => [.settingUnreadable key user cause]

end SettingsStore

def settingText (value : Int32) : String :=
  showInt value.toInt

end TilePanel
