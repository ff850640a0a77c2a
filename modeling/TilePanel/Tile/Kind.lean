/-!
The six tiles of the panel, their names, and tables with one entry for each of them.
-/

namespace TilePanel

inductive TileKind
  | user
  | time
  | battery
  | brightness
  | settings
  | certificate
deriving DecidableEq, Repr

namespace TileKind

def all : List TileKind :=
  [user, time, battery, brightness, settings, certificate]

/-- The place of a tile in the panel, counted from zero. -/
def index : TileKind → Nat
  | user => 0
  | time => 1
  | battery => 2
  | brightness => 3
  | settings => 4
  | certificate => 5

def name : TileKind → String
  | user => "user"
  | time => "time"
  | battery => "battery"
  | brightness => "brightness"
  | settings => "settings"
  | certificate => "ssl-ca-cert-warning"

def tag : TileKind → String
  | certificate => "ssl_ca_cert_warning"
  | kind => kind.name

def ofName? (name : String) : Option TileKind :=
  all.find? fun kind => kind.name == name

theorem mem_all (kind : TileKind) : kind ∈ all := by
  cases kind <;> decide

end TileKind

/-- One entry for each tile. -/
structure PerTile (α : Type) where
  user : α
  time : α
  battery : α
  brightness : α
  settings : α
  certificate : α
deriving Repr, DecidableEq

namespace PerTile

variable {α β : Type}

def ofFn (f : TileKind → α) : PerTile α where
  user := f .user
  time := f .time
  battery := f .battery
  brightness := f .brightness
  settings := f .settings
  certificate := f .certificate

def get (table : PerTile α) : TileKind → α
  | .user => table.user
  | .time => table.time
  | .battery => table.battery
  | .brightness => table.brightness
  | .settings => table.settings
  | .certificate => table.certificate

def set (table : PerTile α) (kind : TileKind) (entry : α) : PerTile α :=
  match kind with
  | .user => { table with user := entry }
  | .time => { table with time := entry }
  | .battery => { table with battery := entry }
  | .brightness => { table with brightness := entry }
  | .settings => { table with settings := entry }
  | .certificate => { table with certificate := entry }

@[simp]
theorem get_ofFn (f : TileKind → α) (kind : TileKind) : (ofFn f).get kind = f kind := by
  cases kind <;> rfl

@[simp]
theorem get_set_self (table : PerTile α) (kind : TileKind) (entry : α) :
    (table.set kind entry).get kind = entry := by
  cases kind <;> rfl

theorem get_set (table : PerTile α) (kind other : TileKind) (entry : α) :
    (table.set kind entry).get other = if other = kind then entry else table.get other := by
  cases kind <;> cases other <;> rfl

theorem get_set_of_ne (table : PerTile α) {kind other : TileKind} (h : other ≠ kind) (entry : α) :
    (table.set kind entry).get other = table.get other := by
  rw [get_set, if_neg h]

theorem ext_get {a b : PerTile α} (h : ∀ kind, a.get kind = b.get kind) : a = b := by
  cases a
  cases b
  simp only [mk.injEq]
  exact ⟨h .user, h .time, h .battery, h .brightness, h .settings, h .certificate⟩

end PerTile

end TilePanel
