import TilePanel.Tile.Record
import TilePanel.Text.Json
import TilePanel.Text.Quoted

/-!
The two texts of a record: its JSON form, with the fields in a fixed order and the variant first,
and the one-line description that the refresh notice shows.
-/

namespace TilePanel

open TilePanel.Text

def Icon.json? : Option Icon → Json
  | none => .null
  | some icon => .string icon.tag

def BaseRecord.members (r : BaseRecord) : List (String × Json) :=
  [("icon", Icon.json? r.icon), ("label", .ofText? r.label), ("enabled", .bool r.enabled)]

def BaseRecord.json (r : BaseRecord) : Json :=
  .object r.members

def ActivityRecord.json (r : ActivityRecord) : Json :=
  .object [("base", r.base.json), ("activity_in", .bool r.incoming),
    ("activity_out", .bool r.outgoing)]

namespace TileRecord

def variant : TileRecord → String
  | basic _ => "basic"
  | battery _ => "battery"
  | user _ => "user"
  | brightness _ => "brightness"
  | rssi _ => "rssi"
  | wifi _ => "wifi"
  | bluetooth _ => "bluetooth"

def members : TileRecord → List (String × Json)
  | basic r => r.members
  | battery r =>
    [("base", r.base.json), ("battery_level", .number r.level.toNat),
      ("plugged_in", .bool r.pluggedIn)]
  | user r => [("base", r.base.json), ("avatar", .ofText? (r.avatar.map Avatar.source))]
  | brightness r => [("base", r.base.json), ("auto_brightness", .bool r.automatic)]
  | rssi r =>
    [("activity", r.activity.json), ("signal_icon", Icon.json? r.signalIcon),
      ("signal_content_description", .ofText? r.signalDescription),
      ("data_type_icon", Icon.json? r.dataTypeIcon),
      ("data_content_description", .ofText? r.dataDescription)]
  | wifi r =>
    [("activity", r.activity.json), ("signal_content_description", .ofText? r.signalDescription),
      ("connected", .bool r.connected)]
  | bluetooth r =>
    [("base", r.base.json), ("connected", .bool r.connected),
      ("state_content_description", .ofText? r.stateDescription)]

def json (r : TileRecord) : Json :=
  .object (("type", .string r.variant) :: r.members)

end TileRecord

/-- The form of a structure: its name, then its fields in braces. -/
def describeFields (name : String) (fields : List (String × String)) : String :=
  name ++ " \x7b " ++ String.intercalate ", " (fields.map fun f => f.1 ++ ": " ++ f.2) ++ " \x7d"

def describeOption {α : Type} (f : α → String) : Option α → String
  | none => "None"
  | some a => "Some(" ++ f a ++ ")"

def Icon.describe : Icon → String
  | brightnessAutoOn => "BrightnessAutoOn"
  | brightnessAutoOff => "BrightnessAutoOff"
  | certificateInfo => "CertificateInfo"
  | notifyError => "NotifyError"

def Avatar.describe (a : Avatar) : String :=
  "Avatar(" ++ quoted a.source ++ ")"

def BaseRecord.describe (r : BaseRecord) : String :=
  describeFields "State" [("icon", describeOption Icon.describe r.icon),
    ("label", describeOption quoted r.label), ("enabled", truthWord r.enabled)]

def ActivityRecord.describe (r : ActivityRecord) : String :=
  describeFields "ActivityState" [("base", r.base.describe),
    ("activity_in", truthWord r.incoming), ("activity_out", truthWord r.outgoing)]

/-- The description in the refresh notice. -/
def TileRecord.describe : TileRecord → String
  | basic r => "Basic(" ++ r.describe ++ ")"
  | battery r =>
    "Battery(" ++ describeFields "BatteryState" [("base", r.base.describe),
      ("battery_level", showNat r.level.toNat), ("plugged_in", truthWord r.pluggedIn)] ++ ")"
  | user r =>
    "User(" ++ describeFields "UserState" [("base", r.base.describe),
      ("avatar", describeOption Avatar.describe r.avatar)] ++ ")"
  | brightness r =>
    "Brightness(" ++ describeFields "BrightnessState" [("base", r.base.describe),
      ("auto_brightness", truthWord r.automatic)] ++ ")"
  | rssi r =>
    "Rssi(" ++ describeFields "RssiState" [("activity", r.activity.describe),
      ("signal_icon", describeOption Icon.describe r.signalIcon),
      ("signal_content_description", describeOption quoted r.signalDescription),
      ("data_type_icon", describeOption Icon.describe r.dataTypeIcon),
      ("data_content_description", describeOption quoted r.dataDescription)] ++ ")"
  | wifi r =>
    "Wifi(" ++ describeFields "WifiState" [("activity", r.activity.describe),
      ("signal_content_description", describeOption quoted r.signalDescription),
      ("connected", truthWord r.connected)] ++ ")"
  | bluetooth r =>
    "Bluetooth(" ++ describeFields "BluetoothState" [("base", r.base.describe),
      ("connected", truthWord r.connected),
      ("state_content_description", describeOption quoted r.stateDescription)] ++ ")"

end TilePanel
