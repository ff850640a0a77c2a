import TilePanel.Error
import TilePanel.Text.Decimal

/-!
Why a command fails. `Failure.messages` begins with the sentence that the shell shows and goes on
with those of the deeper causes; a single command shows all of them on one line.
-/

namespace TilePanel.Shell

open TilePanel.Text

inductive Failure
  | library (cause : Error)
  /-- The settings database, in a file that the configuration may name, could not be opened. -/
  | databaseClosed (path : Option String) (cause : Error)
  | brightnessOutOfRange (value : Int32)
  | stringUnknown (key : String)
  | configExists (path : String)
deriving DecidableEq, Repr

namespace Failure

def message : Failure → String
  | library cause => cause.message
  | databaseClosed (some path) _ => "Failed to open settings database " ++ path
  | databaseClosed none _ => "Failed to open settings database"
  | brightnessOutOfRange value =>
    "Brightness must be between 0 and 255, got " ++ showInt value.toInt
  | stringUnknown key => "Unknown string resource: " ++ key
  | configExists path => "Config file already exists at " ++ path

def causes : Failure → List String
  | library cause => cause.causes.tail
  | databaseClosed _ cause => cause.causes
  | _ => []

/-- Whether the program ends at once, without a word. -/
def isFatal : Failure → Bool
  | library .configUnwritable => true
  | _ => false

def line (f : Failure) : String :=
  String.intercalate ": " (f.message :: f.causes)

end Failure

end TilePanel.Shell
