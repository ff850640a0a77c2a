import TilePanel.Notice
import TilePanel.Text.Pieces

/-!
Which notices the program shows. A filter is a list of directives between commas: the name of a
level, alone or after the name of the program and an equals sign. Directives for the program count
more than those for everything, and later ones more than earlier ones.
-/

namespace TilePanel.Shell

open TilePanel.Text

/-- The last level that is shown; none if no notice is. -/
abbrev Verbosity := Option NoticeLevel

namespace Verbosity

/-- The verbosity with a name, in any case, or with a number. -/
def ofName? (name : String) : Option Verbosity :=
  let lower := name.toLower
  if ["off", "error", "0", "1"].contains lower then some none
  else if ["warn", "2"].contains lower then some (some .warn)
  else if ["info", "3"].contains lower then some (some .info)
  else if ["debug", "trace", "4", "5"].contains lower then some (some .debug)
  else none

def programName : String := "quicktiles"

def directives (filter : String) : List String :=
  (words (fun c => c = ',') filter.toList).map String.ofList

/-- What a directive says about the program alone. -/
def ofProgram? (directive : String) : Option Verbosity :=
  if directive = programName then some (some .debug)
  else if directive.startsWith (programName ++ "=") then
    ofName? (String.ofList (directive.toList.drop (programName.length + 1)))
  else none

def ofFilter (filter : String) : Verbosity :=
  let last (read? : String → Option Verbosity) := ((directives filter).filterMap read?).getLast?
  ((last ofProgram?).or (last ofName?)).getD none

def shows (v : Verbosity) (n : Notice) : Bool :=
  v.any fun level => level.shows n.level

end Verbosity

end TilePanel.Shell
