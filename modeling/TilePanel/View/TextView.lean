import TilePanel.View.Binder

/-!
Views that keep what they were told to show. Texts are kept on one line: a line break becomes a
space.
-/

namespace TilePanel

structure TextView where
  icon : Option Icon := none
  text : String := ""
  visible : Bool := true
deriving DecidableEq, Repr

namespace TextView

/-- The text with every line break replaced by a space. -/
def oneLine (s : String) : String :=
  String.ofList (s.toList.map fun c => if c = '\n' then ' ' else c)

/-- Carries out a call on the view of a given name; calls on other views change nothing. The text of
the clock is given. -/
def apply (name clock : String) (v : TextView) : ViewCall → TextView
  | .icon view icon => if view = name then { v with icon := some icon } else v
  | .text view text => if view = name then { v with text := oneLine text } else v
  | .visible view shown => if view = name then { v with visible := shown } else v
  | .clock view => if view = name then { v with text := oneLine clock } else v
  | .record _ _ => v

def applyAll (name clock : String) (v : TextView) (calls : List ViewCall) : TextView :=
  calls.foldl (apply name clock) v

end TextView

end TilePanel
