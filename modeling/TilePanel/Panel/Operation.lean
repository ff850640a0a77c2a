import TilePanel.Panel.Basic

/-!
The operations of the panel. Each concerns one tile, except `updateResources`, which concerns three,
and pushes the record of every tile it concerns exactly once.
-/

namespace TilePanel

def firstError : List (Except Error Unit) → Except Error Unit
  | [] => .ok ()
  | .error cause :: _ => .error cause
  | .ok _ :: rest => firstError rest

namespace Panel

def refreshSettings (p : Panel) : Outcome Panel (Except Error Unit) :=
  let label := p.catalog.text .settingsLabel
  p.update .settings fun r => r.mapBase fun b => { b with label := some label }

def setUser (p : Panel) (name : String) (avatar : Option Avatar) :
    Outcome Panel (Except Error Unit) :=
  p.update .user fun r => r.mapUser fun u =>
    { base := { u.base with label := some name }, avatar }

def refreshUser (p : Panel) : Outcome Panel (Except Error Unit) :=
  p.push .user

/-- Repaints the time. Its record never changes; the view shows the clock. -/
def refreshTime (p : Panel) : Outcome Panel (Except Error Unit) :=
  p.push .time

/-- Takes a battery report. A level above 100 counts as 100. -/
def setBattery (p : Panel) (level : UInt8) (pluggedIn : Bool) :
    Outcome Panel (Except Error Unit) :=
  (p.update .battery fun r => r.mapBattery fun b =>
    { b with level := if 100 < level then 100 else level, pluggedIn }).after
      (report (if 100 < level then [.levelClamped level] else []))

def refreshBattery (p : Panel) : Outcome Panel (Except Error Unit) :=
  p.push .battery

/-- The brightness mode of the current user; what cannot be read counts as manual. -/
def brightnessMode (p : Panel) : BrightnessMode :=
  .ofSetting (p.hub.store.readInt Setting.mode BrightnessMode.manual.setting p.user)

/-- The record of the brightness tile for a mode and a label. -/
def showBrightness (mode : BrightnessMode) (label : String) (b : BrightnessRecord) :
    BrightnessRecord where
  base := { b.base with
    icon := some (if mode = .automatic then .brightnessAutoOn else .brightnessAutoOff)
    label := some label }
  automatic := mode = .automatic

/-- What reading the brightness settings reports. The level is read for the report only. -/
def brightnessNotices (p : Panel) : List Notice :=
  p.hub.store.readIntNotices Setting.mode BrightnessMode.manual.setting p.user ++
    p.hub.store.readIntNotices Setting.level Setting.defaultLevel p.user ++
    [.brightnessRead p.user p.brightnessMode
      (p.hub.store.readInt Setting.level Setting.defaultLevel p.user)]

/-- Reads the brightness settings of the current user again and repaints. -/
def refreshBrightness (p : Panel) : Outcome Panel (Except Error Unit) :=
  let mode := p.brightnessMode
  let label := p.catalog.text .brightnessLabel
  (p.update .brightness fun r => r.mapBrightness (showBrightness mode label)).after
    (report p.brightnessNotices)

/-- Takes the facts about installed certificates: whether there is one, and whether the device is
managed. -/
def setCertificate (p : Panel) (hasCertificate isManaged : Bool) :
    Outcome Panel (Except Error Unit) :=
  let label := p.catalog.text .certificateWarning
  p.update .certificate fun r => r.mapBase fun _ =>
    { enabled := hasCertificate
      icon := some (if isManaged then .certificateInfo else .notifyError)
      label := some label }

/-- Binds a tile and paints it once, with whatever its record holds. The certificate tile starts
without a certificate, on a managed device. -/
def add (p : Panel) (kind : TileKind) (binding : Binding) : Outcome Panel (Except Error Unit) :=
  (p.bind kind binding).andThen fun _ p =>
    match kind with
    | .user | .time | .battery => p.push kind
    | .brightness => p.refreshBrightness
    | .settings => p.refreshSettings
    | .certificate => p.setCertificate false true

/-- Repaints the tiles after a change of the texts. All three run, even if one is not bound. -/
def updateResources (p : Panel) : Outcome Panel (Except Error Unit) :=
  p.refreshSettings.andThen fun settings p =>
    p.refreshBattery.andThen fun battery p =>
      p.refreshBrightness.mapAnswer fun brightness => firstError [settings, battery, brightness]

/-- Moves the brightness watch to the current user and reads the settings again. The user that the
announcement names is only reported if it is another one. -/
def onUserSwitched (p : Panel) (announced : UserId) : Outcome Panel (Except Error Unit) :=
  let started := p.watch.start p.hub p.user
  let moved := { p with hub := started.state, watch := started.answer }
  moved.refreshBrightness.after
    (report ((if p.user = announced then [] else [.switchStale announced p.user]) ++
      [.panelSwitching p.user]) ++ started.journal)

/-- Deals with an event. Whatever it says, the current user and the stored settings count. -/
def handle (p : Panel) : Event → Outcome Panel (Except Error Unit)
  | .settingChanged key user => p.refreshBrightness.after [.notice (.settingHandled key user)]
  | .userSwitched user => p.onUserSwitched user

end Panel

/-- An operation of the panel, as data. -/
inductive Operation
  | add (kind : TileKind) (binding : Binding)
  | battery (level : UInt8) (pluggedIn : Bool)
  | user (name : String) (avatar : Option Avatar)
  | certificate (hasCertificate isManaged : Bool)
  | refreshUser
  | refreshTime
  | refreshBattery
  | refreshSettings
  | refreshBrightness
  | updateResources
  | userSwitched (announced : UserId)
  | handle (event : Event)
deriving DecidableEq, Repr

namespace Operation

def run (op : Operation) (p : Panel) : Outcome Panel (Except Error Unit) :=
  match op with
  | add kind binding => p.add kind binding
  | battery level pluggedIn => p.setBattery level pluggedIn
  | user name avatar => p.setUser name avatar
  | certificate hasCertificate isManaged => p.setCertificate hasCertificate isManaged
  | refreshUser => p.refreshUser
  | refreshTime => p.refreshTime
  | refreshBattery => p.refreshBattery
  | refreshSettings => p.refreshSettings
  | refreshBrightness => p.refreshBrightness
  | updateResources => p.updateResources
  | userSwitched announced => p.onUserSwitched announced
  | handle event => p.handle event

/-- The tiles that an operation concerns, in the order in which it pushes them. -/
def concerned : Operation → List TileKind
  | add kind _ => [kind]
  | battery .. | refreshBattery => [.battery]
  | user .. | refreshUser => [.user]
  | certificate .. => [.certificate]
  | refreshTime => [.time]
  | refreshSettings => [.settings]
  | refreshBrightness | userSwitched _ | handle _ => [.brightness]
  | updateResources => [.settings, .battery, .brightness]

end Operation

end TilePanel
