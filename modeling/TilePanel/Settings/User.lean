import TilePanel.Text.Decimal

/-!
User profiles, the scopes of listeners, and the two settings that the panel reads.
-/

namespace TilePanel

/-- A user profile. Settings are kept apart by user. -/
structure UserId where
  id : Int32
deriving DecidableEq, Repr

namespace UserId

def owner : UserId := ⟨0⟩

/-- The scope of every user. -/
def everyone : UserId := ⟨-1⟩

/-- Two scopes match if they are equal or one of them is every user. -/
def covers (a b : UserId) : Bool :=
  a == everyone || b == everyone || a == b

def text (u : UserId) : String :=
  Text.showInt u.id.toInt

theorem covers_comm (a b : UserId) : a.covers b = b.covers a := by
  simp only [covers, Bool.beq_comm (a := a) (b := b)]
  cases a == everyone <;> cases b == everyone <;> rfl

end UserId

namespace Setting

def mode : String := "screen_brightness_mode"

def level : String := "screen_brightness"

/-- The level that counts when none is stored. -/
def defaultLevel : Int32 := 102

/-- The settings that the brightness watch listens to. -/
def watched : List String := [mode, level]

end Setting

/-- How the display finds its brightness. -/
inductive BrightnessMode
  | manual
  | automatic
deriving DecidableEq, Repr

namespace BrightnessMode

def setting : BrightnessMode → Int32
  | manual => 0
  | automatic => 1

/-- Every number but that of the automatic mode stands for the manual one. -/
def ofSetting (n : Int32) : BrightnessMode :=
  if n = setting automatic then automatic else manual

def tag : BrightnessMode → String
  | manual => "manual"
  | automatic => "automatic"

def describe : BrightnessMode → String
  | manual => "Manual"
  | automatic => "Automatic"

theorem ofSetting_setting (m : BrightnessMode) : ofSetting m.setting = m := by
  cases m <;> decide

end BrightnessMode

end TilePanel
