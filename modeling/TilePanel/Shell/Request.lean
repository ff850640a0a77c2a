import TilePanel.Settings.User

/-!
What a command line asks for.
-/

namespace TilePanel.Shell

inductive RefreshTarget
  | user
  | time
  | battery
  | brightness
  | settings
  | all
deriving DecidableEq, Repr

namespace RefreshTarget

def name : RefreshTarget → String
  | user => "user"
  | time => "time"
  | battery => "battery"
  | brightness => "brightness"
  | settings => "settings"
  | all => "all"

def every : List RefreshTarget :=
  [user, time, battery, brightness, settings, all]

def ofName? (name : String) : Option RefreshTarget :=
  every.find? fun t => t.name == name

end RefreshTarget

inductive PanelAction
  | display
  | battery (level : UInt8) (pluggedIn : Bool)
  | user (name : String) (avatar : Option String)
  | certificate (hasCertificate isUnmanaged : Bool)
  | brightnessMode (mode : BrightnessMode)
  | brightness (value : Int32)
  | switchUser (user : UserId)
  | refresh (target : RefreshTarget)
  | resources
  | string (key text : String)
deriving DecidableEq, Repr

inductive SettingsAction
  | get (key : String) (user : UserId)
  | put (key value : String) (user : UserId)
  | list (user : UserId)
deriving DecidableEq, Repr

inductive ConfigAction
  | display
  | path
  | init
deriving DecidableEq, Repr

inductive Command
  | panel (action : PanelAction)
  | settings (action : SettingsAction)
  | config (action : ConfigAction)
  | shell
deriving DecidableEq, Repr

/-- A command with the options that every command takes. -/
structure Request where
  json : Bool := false
  quiet : Bool := false
  verbose : Bool := false
  /-- The configuration file, instead of the usual one. -/
  configFile : Option String := none
  command : Command
deriving DecidableEq, Repr

end TilePanel.Shell
