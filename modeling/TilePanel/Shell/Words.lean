import TilePanel.Text.Blank

/-!
Cutting a command line into arguments. Blanks separate arguments, except inside single or double
quotes; the quotes themselves vanish, and so do empty arguments. A quote that is never closed runs
to the end of the line.
-/

namespace TilePanel.Shell

open TilePanel.Text

/-- The state of the cut: the quote that is open, and the argument so far, last character first. -/
structure Cut where
  quote : Option Char := none
  current : List Char := []
deriving DecidableEq, Repr

namespace Cut

/-- The argument that ends here, unless it is empty. -/
def finish (c : Cut) : List (List Char) :=
  if c.current.isEmpty then [] else [c.current.reverse]

/-- Reads one character: the state after it, and the argument that it ends, if any. -/
def step (s : Cut) (c : Char) : Cut × List (List Char) :=
  match s.quote with
  | some q =>
    if c = q then ({ s with quote := none }, []) else ({ s with current := c :: s.current }, [])
  | none =>
    if c = '"' ∨ c = '\x27' then ({ s with quote := some c }, [])
    else if isBlank c then ({}, s.finish)
    else ({ s with current := c :: s.current }, [])

/-- The arguments that end from a state on. -/
def run : Cut → List Char → List (List Char)
  | s, [] => s.finish
  | s, c :: cs => (s.step c).2 ++ run (s.step c).1 cs

end Cut

def arguments (line : String) : List String :=
  (Cut.run {} line.toList).map String.ofList

end TilePanel.Shell
