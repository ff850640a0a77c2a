import TilePanel.Catalog
import TilePanel.Hub.Notify
import TilePanel.Hub.Watch

/-!
The panel: one slot for each tile, with its record and, once the tile is bound, its binding; the
current user, the texts, and the watch on the brightness settings. Every change of a record goes
through `update`, which hands the new record to the binding of the tile, or fails if there is none.
-/

namespace TilePanel

structure Slot where
  record : TileRecord
  binding : Option Binding := none
deriving DecidableEq, Repr

structure Panel where
  hub : Hub
  user : UserId
  catalog : Catalog
  slots : PerTile Slot
  watch : BrightnessWatch

namespace Panel

/-- A panel without bindings that watches the brightness settings of its user. -/
def new (hub : Hub) (user : UserId) (catalog : Catalog) : Outcome Panel Unit :=
  let o := BrightnessWatch.idle.start hub user
  ⟨{ hub := o.state, user, catalog, watch := o.answer
     slots := .ofFn fun kind => { record := .initial kind } }, (), o.journal⟩

def record (p : Panel) (kind : TileKind) : TileRecord :=
  (p.slots.get kind).record

def binding? (p : Panel) (kind : TileKind) : Option Binding :=
  (p.slots.get kind).binding

def isBound (p : Panel) (kind : TileKind) : Bool :=
  (p.binding? kind).isSome

/-- The user whose brightness settings are watched. -/
def observedUser (p : Panel) : Option UserId :=
  p.watch.user?

/-- Replaces the record of a tile without telling anyone. -/
def setRecord (p : Panel) (kind : TileKind) (record : TileRecord) : Panel :=
  { p with slots := p.slots.set kind { p.slots.get kind with record } }

/-- Hands the record of a tile to its binding. -/
def push (p : Panel) (kind : TileKind) : Outcome Panel (Except Error Unit) :=
  match p.binding? kind with
  | none => ⟨p, .error (.tileNotBound kind), []⟩
  | some binding =>
    ⟨p, .ok (),
      [.notice (.tileRefreshing kind (p.record kind)), .pushed kind binding (p.record kind)]⟩

/-- Changes the record of a tile and pushes it. The change stays even if the tile is not bound. -/
def update (p : Panel) (kind : TileKind) (change : TileRecord → TileRecord) :
    Outcome Panel (Except Error Unit) :=
  (p.setRecord kind (change (p.record kind))).push kind

/-- Binds a tile, instead of the binding it had before. -/
def bind (p : Panel) (kind : TileKind) (binding : Binding) : Outcome Panel Unit where
  state := { p with slots := p.slots.set kind { p.slots.get kind with binding := some binding } }
  answer := ()
  journal := report ((if p.isBound kind then [.tileRebinding kind] else []) ++ [.tileBound kind])

@[simp]
theorem state_push (p : Panel) (kind : TileKind) : (p.push kind).state = p := by
  unfold push
  split <;> rfl

@[simp]
theorem state_update (p : Panel) (kind : TileKind) (change : TileRecord → TileRecord) :
    (p.update kind change).state = p.setRecord kind (change (p.record kind)) :=
  state_push _ kind

@[simp]
theorem record_setRecord_self (p : Panel) (kind : TileKind) (record : TileRecord) :
    (p.setRecord kind record).record kind = record := by
  simp [Panel.record, setRecord]

theorem slots_setRecord_of_ne (p : Panel) {kind other : TileKind} (h : other ≠ kind)
    (record : TileRecord) :
    (p.setRecord kind record).slots.get other = p.slots.get other :=
  PerTile.get_set_of_ne p.slots h _

theorem record_setRecord_of_ne (p : Panel) {kind other : TileKind} (h : other ≠ kind)
    (record : TileRecord) : (p.setRecord kind record).record other = p.record other :=
  congrArg Slot.record (p.slots_setRecord_of_ne h record)

@[simp]
theorem binding?_setRecord (p : Panel) (kind other : TileKind) (record : TileRecord) :
    (p.setRecord kind record).binding? other = p.binding? other := by
  unfold binding? setRecord
  rw [PerTile.get_set]
  split
  · next h => rw [h]
  · rfl

theorem setRecord_record (p : Panel) (kind : TileKind) : p.setRecord kind (p.record kind) = p := by
  have hslots : p.slots.set kind { p.slots.get kind with record := p.record kind } = p.slots := by
    apply PerTile.ext_get
    intro other
    rw [PerTile.get_set]
    split
    · next h => rw [h]; rfl
    · rfl
  rw [setRecord, hslots]

@[simp]
theorem record_bind (p : Panel) (kind other : TileKind) (binding : Binding) :
    (p.bind kind binding).state.record other = p.record other := by
  unfold Panel.record bind
  rw [PerTile.get_set]
  split
  · next h => rw [h]
  · rfl

@[simp]
theorem binding?_bind_self (p : Panel) (kind : TileKind) (binding : Binding) :
    (p.bind kind binding).state.binding? kind = some binding := by
  simp [binding?, bind]

theorem slots_bind_of_ne (p : Panel) {kind other : TileKind} (h : other ≠ kind)
    (binding : Binding) : (p.bind kind binding).state.slots.get other = p.slots.get other :=
  PerTile.get_set_of_ne p.slots h _

end Panel

end TilePanel
