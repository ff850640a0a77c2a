import TilePanel.Tile.Kind

/-!
The records that tiles show. Every record has the base attributes (icon, label, enabled) and the
special ones add fields of their own; links share the activity indicators.
-/

namespace TilePanel

def truthWord (b : Bool) : String :=
  if b then "true" else "false"

inductive Icon
  | brightnessAutoOn
  | brightnessAutoOff
  | certificateInfo
  | notifyError
deriving DecidableEq, Repr

namespace Icon

def all : List Icon :=
  [brightnessAutoOn, brightnessAutoOff, certificateInfo, notifyError]

/-- The name of the drawable that an icon refers to. -/
def resourceName : Icon → String
  | brightnessAutoOn => "ic_qs_brightness_auto_on"
  | brightnessAutoOff => "ic_qs_brightness_auto_off"
  | certificateInfo => "ic_qs_certificate_info"
  | notifyError => "stat_notify_error"

def tag : Icon → String
  | brightnessAutoOn => "brightness_auto_on"
  | brightnessAutoOff => "brightness_auto_off"
  | certificateInfo => "certificate_info"
  | notifyError => "notify_error"

end Icon

/-- Where the image of a user comes from: a path, an address or a theme name. -/
structure Avatar where
  source : String
deriving DecidableEq, Repr

/-- The attributes that every tile has. A view keeps what it shows where icon or label is absent. -/
structure BaseRecord where
  icon : Option Icon := none
  label : Option String := none
  enabled : Bool := false
deriving DecidableEq, Repr

structure BatteryRecord where
  base : BaseRecord := {}
  level : UInt8 := 0
  pluggedIn : Bool := false
deriving DecidableEq, Repr

/-- The name of the user is the label of the base. -/
structure UserRecord where
  base : BaseRecord := {}
  avatar : Option Avatar := none
deriving DecidableEq, Repr

structure BrightnessRecord where
  base : BaseRecord := {}
  automatic : Bool := false
deriving DecidableEq, Repr

/-- Traffic indicators of a link. -/
structure ActivityRecord where
  base : BaseRecord := {}
  incoming : Bool := false
  outgoing : Bool := false
deriving DecidableEq, Repr

structure RssiRecord where
  activity : ActivityRecord := {}
  signalIcon : Option Icon := none
  signalDescription : Option String := none
  dataTypeIcon : Option Icon := none
  dataDescription : Option String := none
deriving DecidableEq, Repr

structure WifiRecord where
  activity : ActivityRecord := {}
  signalDescription : Option String := none
  connected : Bool := false
deriving DecidableEq, Repr

structure BluetoothRecord where
  base : BaseRecord := {}
  connected : Bool := false
  stateDescription : Option String := none
deriving DecidableEq, Repr

inductive TileRecord
  | basic (record : BaseRecord)
  | battery (record : BatteryRecord)
  | user (record : UserRecord)
  | brightness (record : BrightnessRecord)
  | rssi (record : RssiRecord)
  | wifi (record : WifiRecord)
  | bluetooth (record : BluetoothRecord)
deriving DecidableEq, Repr

namespace TileRecord

def initial : TileKind → TileRecord
  | .user => user {}
  | .battery => battery {}
  | .brightness => brightness {}
  | .time | .settings | .certificate => basic {}

def base : TileRecord → BaseRecord
  | basic r => r
  | battery r => r.base
  | user r => r.base
  | brightness r => r.base
  | rssi r => r.activity.base
  | wifi r => r.activity.base
  | bluetooth r => r.base

def mapBase (f : BaseRecord → BaseRecord) : TileRecord → TileRecord
  | basic r => basic (f r)
  | battery r => battery { r with base := f r.base }
  | user r => user { r with base := f r.base }
  | brightness r => brightness { r with base := f r.base }
  | rssi r => rssi { r with activity := { r.activity with base := f r.activity.base } }
  | wifi r => wifi { r with activity := { r.activity with base := f r.activity.base } }
  | bluetooth r => bluetooth { r with base := f r.base }

def battery? : TileRecord → Option BatteryRecord
  | battery r => some r
  | _ => none

def user? : TileRecord → Option UserRecord
  | user r => some r
  | _ => none

def brightness? : TileRecord → Option BrightnessRecord
  | brightness r => some r
  | _ => none

def mapBattery (f : BatteryRecord → BatteryRecord) : TileRecord → TileRecord
  | battery r => battery (f r)
  | r => r

def mapUser (f : UserRecord → UserRecord) : TileRecord → TileRecord
  | user r => user (f r)
  | r => r

def mapBrightness (f : BrightnessRecord → BrightnessRecord) : TileRecord → TileRecord
  | brightness r => brightness (f r)
  | r => r

/-- The traffic indicators, of the links that carry them. -/
def activity? : TileRecord → Option ActivityRecord
  | rssi r => some r.activity
  | wifi r => some r.activity
  | _ => none

@[simp]
theorem base_mapBase (f : BaseRecord → BaseRecord) (r : TileRecord) :
    (r.mapBase f).base = f r.base := by
  cases r <;> rfl

end TileRecord

end TilePanel
