import TilePanel.Config.Basic
import TilePanel.Panel.Events
import TilePanel.Shell.Failure
import TilePanel.Shell.Request
import TilePanel.View.TextView

/-!
A live panel whose tiles are bound to text views. Every push is painted on the views at once, and
every command ends by delivering the events that it caused.
-/

namespace TilePanel.Shell

structure Session where
  panel : Panel
  views : PerTile TextView

namespace Session

/-- The binding of a tile in a session. The view of a tile has the name of the tile. -/
def bindingOf (hidesWarning : Bool) (kind : TileKind) : Binding where
  view := kind.name
  binder := match kind with
    | .user => .userLine
    | .time => .clock
    | .battery => .batteryLine
    | .brightness | .settings => .basic kind.name false
    | .certificate => .basic kind.name hidesWarning

def viewCalls (journal : List Activity) : List ViewCall :=
  journal.flatMap fun
    | .pushed _ binding record => binding.paint record
    | _ => []

def paint (clock : String) (journal : List Activity) (views : PerTile TextView) :
    PerTile TextView :=
  .ofFn fun kind => (views.get kind).applyAll kind.name clock (viewCalls journal)

/-- Runs an operation on the panel and paints what it pushes. -/
def onPanel {α : Type} (s : Session) (clock : String) (f : Panel → Outcome Panel α) :
    Outcome Session α :=
  let o := f s.panel
  ⟨⟨o.state, paint clock o.journal s.views⟩, o.answer, o.journal⟩

def addAll (hidesWarning : Bool) : List TileKind → Panel → Outcome Panel Unit
  | [], p => ⟨p, (), []⟩
  | kind :: rest, p =>
    (p.add kind (bindingOf hidesWarning kind)).andThen fun _ p => addAll hidesWarning rest p

/-- A session over a store, as a configuration asks for it. -/
def new (c : Config) (store : SettingsStore) (clock : String) : Outcome Session Unit :=
  let (catalog, unknown) := Catalog.ofTable c.strings.entries
  let made := (Panel.new { store } c.panel.initialUser catalog).after
    (report (unknown.map Notice.stringUnknown))
  let blank : PerTile TextView := .ofFn fun _ => {}
  made.andThen fun _ p =>
    (Session.mk p blank).onPanel clock (addAll c.panel.hidesWarning TileKind.all)

/-- Delivers the events that wait; answers how many there were. -/
def pump (s : Session) (clock : String) : Outcome Session Nat :=
  s.onPanel clock Panel.drain

/-- Runs an operation of the panel that may fail. -/
def operate (s : Session) (clock : String) (op : Operation) :
    Outcome Session (Except Failure Unit) :=
  (s.onPanel clock op.run).mapAnswer fun answer => answer.mapError Failure.library

/-- Runs operations in order, up to the first that fails. -/
def operateAll (clock : String) : List Operation → Session → Outcome Session (Except Failure Unit)
  | [], s => ⟨s, .ok (), []⟩
  | op :: rest, s =>
    (s.operate clock op).andThen fun answer s =>
      match answer with
      | .error failure => ⟨s, .error failure, []⟩
      | .ok _ => operateAll clock rest s

def putInt (s : Session) (clock key : String) (value : Int32) :
    Outcome Session (Except Failure Unit) :=
  let stored := s.onPanel clock fun p =>
    (p.hub.putInt key value p.user).mapState fun hub => { p with hub }
  stored.mapAnswer fun answer => answer.mapError Failure.library

def refreshing : RefreshTarget → List Operation
  | .user => [.refreshUser]
  | .time => [.refreshTime]
  | .battery => [.refreshBattery]
  | .brightness => [.refreshBrightness]
  | .settings => [.refreshSettings]
  | .all => [.refreshUser, .refreshTime, .updateResources]

/-- The session with a text of its own under an identifier. -/
def withText (s : Session) (id : StringId) (text : String) : Session :=
  { s with panel := { s.panel with catalog := s.panel.catalog.set id text } }

/-- Carries out an action, without delivering the events that it causes. -/
def act (s : Session) (clock : String) : PanelAction → Outcome Session (Except Failure Unit)
  | .display => ⟨s, .ok (), []⟩
  | .battery level pluggedIn => s.operate clock (.battery level pluggedIn)
  | .user name avatar => s.operate clock (.user name (avatar.map Avatar.mk))
  | .certificate hasCertificate isUnmanaged =>
    s.operate clock (.certificate hasCertificate !isUnmanaged)
  | .brightnessMode mode => s.putInt clock Setting.mode mode.setting
  | .brightness value =>
    if 0 ≤ value ∧ value ≤ 255 then s.putInt clock Setting.level value
    else ⟨s, .error (.brightnessOutOfRange value), []⟩
  | .switchUser user =>
    (s.onPanel clock fun p => p.switchUser user).mapAnswer fun _ => .ok ()
  | .refresh target => operateAll clock (refreshing target) s
  | .resources => s.operate clock .updateResources
  | .string key text =>
    match StringId.ofKey? key with
    | none => ⟨s, .error (.stringUnknown key), []⟩
    | some id => (s.withText id text).operate clock .updateResources

/-- Carries out an action and delivers the events that it causes; a failed one delivers nothing. -/
def apply (s : Session) (clock : String) (action : PanelAction) :
    Outcome Session (Except Failure Unit) :=
  (s.act clock action).andThen fun answer s =>
    match answer with
    | .error failure => ⟨s, .error failure, []⟩
    | .ok _ => (s.pump clock).mapAnswer fun _ => .ok ()

end Session

end TilePanel.Shell
