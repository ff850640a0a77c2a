import TilePanel.Panel.Events

/-!
A panel together with everything around it that may come and go: the panel's own model of the tiles,
the tracker of the current user, a sender of events, and brightness watches that stand alone. The
database may be opened again, after which those who opened it before keep their old registrations,
which no write reaches any more.
-/

namespace TilePanel

/-- A brightness watch of its own, with a name. -/
structure LoneWatch where
  name : String
  watch : BrightnessWatch := .idle
  /-- Whether it belongs to a store that was opened again since. -/
  isDetached : Bool := false
deriving DecidableEq, Repr

structure World where
  panel : Panel
  hasModel : Bool := true
  hasTracker : Bool := true
  hasSender : Bool := true
  /-- Whether the model belongs to a store that was opened again since. -/
  isDetached : Bool := false
  loneWatches : List LoneWatch := []
  /-- The registrations that belong to earlier openings of the store. -/
  attic : List Registration := []

namespace World

/-- What opening a store reports. -/
def openingNotices : Option String → List Notice
  | some path => [.databaseOpened path]
  | none => []

/-- A world over a store, for a user and a table of texts, with or without a model. `path` is the
file of the store, if it has one. -/
def new (store : SettingsStore) (path : Option String) (user : UserId)
    (texts : List (String × String)) (hasModel : Bool) : Outcome World Unit :=
  let (catalog, unknown) := Catalog.ofTable texts
  let notices := report (openingNotices path ++ unknown.map Notice.stringUnknown)
  if hasModel then
    ((Panel.new { store } user catalog).mapState fun panel => { panel }).after notices
  else
    let slots : PerTile Slot := .ofFn fun kind => { record := .initial kind }
    ⟨{ panel := { hub := { store }, user, catalog, slots, watch := .idle }, hasModel := false }, (),
      notices⟩

/-- Runs something on a hub whose registry is the attic, and puts both registries back. -/
def swapRegistry (attic : List Registration) (h : Hub) : List Registration × Hub :=
  (h.registry.entries, { h with registry := { h.registry with entries := attic } })

/-- Runs an operation of the model, on the registrations of the store that it belongs to. -/
def onModel {α : Type} (w : World) (f : Panel → Outcome Panel α) : Outcome World α :=
  if w.isDetached then
    let (entries, hub) := swapRegistry w.attic w.panel.hub
    let o := f { w.panel with hub }
    let (attic, hub) := swapRegistry entries o.state.hub
    ⟨{ w with panel := { o.state with hub }, attic }, o.answer, o.journal⟩
  else (f w.panel).mapState fun panel => { w with panel }

/-- Runs something on the hub, on the registrations of the store that its owner belongs to. -/
def onHub {α : Type} (w : World) (isDetached : Bool) (f : Hub → Outcome Hub α) : Outcome World α :=
  if isDetached then
    let (entries, hub) := swapRegistry w.attic w.panel.hub
    let o := f hub
    let (attic, hub) := swapRegistry entries o.state
    ⟨{ w with panel := { w.panel with hub }, attic }, o.answer, o.journal⟩
  else (f w.panel.hub).mapState fun hub => { w with panel := { w.panel with hub } }

def releaseWatch (w : World) (watch : BrightnessWatch) (isDetached : Bool) : World :=
  (w.onHub isDetached fun h => ⟨watch.release h, (), []⟩).state

def dropModel (w : World) : World :=
  let w := w.releaseWatch w.panel.watch w.isDetached
  { w with panel := { w.panel with watch := .idle }, hasModel := false }

def dropLoneWatches (w : World) (name : String) : World :=
  let w := (w.loneWatches.filter fun l => l.name == name).foldl
    (fun w l => w.releaseWatch l.watch l.isDetached) w
  { w with loneWatches := w.loneWatches.filter fun l => l.name != name }

def dropAllLoneWatches (w : World) : World :=
  let w := w.loneWatches.foldl (fun w l => w.releaseWatch l.watch l.isDetached) w
  { w with loneWatches := [] }

/-- Ends the model, the tracker, the sender and all lone watches. -/
def close (w : World) : World :=
  { w.dropModel.dropAllLoneWatches with hasTracker := false, hasSender := false }

/-- Whether someone is left who could post an event. -/
def hasPoster (w : World) : Bool :=
  w.hasModel || w.hasTracker || w.hasSender || !w.loneWatches.isEmpty ||
    w.panel.hub.registry.hasPoster || w.attic.any fun r => r.listener == .poster

/-- Opens the database again. Registrations and watches so far belong to the earlier opening; a
table that was dropped is created anew. -/
def reopen (w : World) : World :=
  let h := w.panel.hub
  let store := match h.store with
    | .database none => .database (some {})
    | store => store
  { w with
    panel := { w.panel with
      hub := { h with store, registry := { h.registry with entries := [] } } }
    attic := w.attic ++ h.registry.entries
    isDetached := true
    loneWatches := w.loneWatches.map fun l => { l with isDetached := true } }

def withStore (w : World) (store : SettingsStore) : World :=
  { w with panel := { w.panel with hub := { w.panel.hub with store } } }

/-- Changes the database behind the back of everyone here. -/
def changeTable (w : World) (f : SettingsTable → SettingsTable) : World × Except Error Unit :=
  match w.panel.hub.store with
  | .database (some t) =>
    (w.withStore (.database (some (f t))), .ok ())
  | _ => (w, .error (.database .tableMissing))

/-- Drops the table of the database behind the back of everyone here. -/
def dropTable (w : World) : World × Except Error Unit :=
  match w.panel.hub.store with
  | .database (some _) =>
    (w.withStore (.database none), .ok ())
  | _ => (w, .error (.database .tableMissing))

end World

end TilePanel
