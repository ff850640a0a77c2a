import TilePanel.Config.Basic
import TilePanel.Disk.Basic
import TilePanel.Notice

/-!
Loading the configuration from a file and saving it. A file that does not exist stands for the
defaults.
-/

namespace TilePanel

open TilePanel.Toml

namespace Config

/-- The configuration in a file, and what loading it reports. -/
def loadFrom (d : Disk) (path : String) : Except Error (Config × List Notice) :=
  if d.hasPath path then
    match d.readText path with
    | .error fault => .error (.io fault)
    | .ok text =>
      match ofText? text with
      | none => .error .configUnreadable
      | some c => .ok (c, [.configLoaded path])
  else .ok ({}, [.configMissing])

/-- The disk with a configuration in a file, as a writer of texts writes it. -/
def saveBy (write : TextWriter) (c : Config) (d : Disk) (path : String) :
    Except Error (Disk × List Notice) :=
  match c.textBy write with
  | none => .error .configUnwritable
  | some text =>
    match d.writeText path text with
    | .error fault => .error (.io fault)
    | .ok d => .ok (d, [.configSaved path])

def saveTo (c : Config) (d : Disk) (path : String) : Except Error (Disk × List Notice) :=
  c.saveBy countingWriter d path

/-- The configuration in the file at the usual place. -/
def load (d : Disk) : Except Error (Config × List Notice) × Disk :=
  match d.configPath with
  | .error fault => (.error (.io fault), d)
  | .ok (path, d) => (loadFrom d path, d)

end Config

end TilePanel
