import TilePanel.Error
import TilePanel.Settings.User
import TilePanel.Tile.Written

/-!
What the panel reports while it works, by cause; each notice has a level and a text.
-/

namespace TilePanel

open TilePanel.Text

/-- How much a notice matters; a reader asks for a level and gets the graver ones too. -/
inductive NoticeLevel
  | warn
  | info
  | debug
deriving DecidableEq, Repr

namespace NoticeLevel

def name : NoticeLevel → String
  | warn => "WARN"
  | info => "INFO"
  | debug => "DEBUG"

/-- Whether a reader who asked for this level sees notices of another. -/
def shows : NoticeLevel → NoticeLevel → Bool
  | debug, _ => true
  | info, debug => false
  | info, _ => true
  | warn, warn => true
  | warn, _ => false

end NoticeLevel

inductive Notice
  | settingMalformed (key : String) (user : UserId) (raw : String) (fallback : Int32)
  | settingUnreadable (key : String) (user : UserId) (cause : Error)
  | levelClamped (level : UInt8)
  | eventFailed (cause : Error)
  | stringUnknown (key : String)
  | configIgnored (cause : Error)
  | tileBound (kind : TileKind)
  | panelSwitching (user : UserId)
  | userSwitched (previous user : UserId)
  | databaseOpened (path : String)
  | configLoaded (path : String)
  | configMissing
  | configSaved (path : String)
  | tileRebinding (kind : TileKind)
  | tileRefreshing (kind : TileKind) (record : TileRecord)
  | settingHandled (key : String) (user : UserId)
  | switchStale (announced current : UserId)
  | brightnessRead (user : UserId) (mode : BrightnessMode) (level : Int32)
  | settingStored (key value : String) (user : UserId)
  | watchStarted (user : UserId)
  | changeUnreceived (user : UserId)
  | userUnchanged (user : UserId)
  | switchUnreceived
deriving DecidableEq, Repr

namespace Notice

def level : Notice → NoticeLevel
  | settingMalformed .. | settingUnreadable .. | levelClamped _ | eventFailed _
  | stringUnknown _ | configIgnored _ => .warn
  | tileBound _ | panelSwitching _ | userSwitched .. | databaseOpened _ | configLoaded _
  | configMissing | configSaved _ => .info
  | tileRebinding _ | tileRefreshing .. | settingHandled .. | switchStale .. | brightnessRead ..
  | settingStored .. | watchStarted _ | changeUnreceived _ | userUnchanged _
  | switchUnreceived => .debug

def text : Notice → String
  | settingMalformed key user raw fallback =>
    "Setting " ++ key ++ " for user " ++ user.text ++ " is not an integer (" ++ quoted raw ++
      "), using " ++ showInt fallback.toInt
  | settingUnreadable key user cause =>
    "Failed to read setting " ++ key ++ " for user " ++ user.text ++ ": " ++ cause.message
  | levelClamped level =>
    "Battery level " ++ showNat level.toNat ++ " out of range, clamping to 100"
  | eventFailed cause => "Dropped model event: " ++ cause.message
  | stringUnknown key => "Ignoring unknown string resource " ++ quoted key
  | configIgnored cause =>
    "Failed to load configuration, using defaults: " ++ cause.message
  | tileBound kind => "Bound " ++ kind.name ++ " tile"
  | panelSwitching user => "Switching panel to user " ++ user.text
  | userSwitched previous user => "User switched from " ++ previous.text ++ " to " ++ user.text
  | databaseOpened path => "Opened settings database at " ++ quoted path
  | configLoaded path => "Loaded configuration from " ++ quoted path
  | configMissing => "No configuration file found, using defaults"
  | configSaved path => "Saved configuration to " ++ quoted path
  | tileRebinding kind => "Rebinding " ++ kind.name ++ " tile"
  | tileRefreshing kind record => "Refreshing " ++ kind.name ++ " tile: " ++ record.describe
  | settingHandled key user => "Brightness setting " ++ key ++ " changed for user " ++ user.text
  | switchStale announced current =>
    "Switch notification for user " ++ announced.text ++ " but current user is " ++ current.text
  | brightnessRead user mode level =>
    "Brightness for user " ++ user.text ++ ": " ++ mode.describe ++ " at " ++ showInt level.toInt
  | settingStored key value user =>
    "Stored " ++ key ++ "=" ++ value ++ " for user " ++ user.text
  | watchStarted user => "Observing brightness settings for user " ++ user.text
  | changeUnreceived user => "Brightness change for user " ++ user.text ++ " has no receiver"
  | userUnchanged user => "Already on user " ++ user.text
  | switchUnreceived => "No model listening for user switch"

def line (n : Notice) : String :=
  n.level.name ++ " " ++ n.text

end Notice

end TilePanel
