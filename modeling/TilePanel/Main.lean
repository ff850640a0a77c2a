import Std.Time
import TilePanel.Disk.Image
import TilePanel.Shell.Invocation

/-!
The command line. Files are looked up before a command runs and written back after it; everything
else is decided by the command itself.
-/

namespace TilePanel.Shell

open TilePanel.Text

def twoDigits (n : Nat) : String :=
  if n < 10 then "0" ++ showNat n else showNat n

def clockText : IO String := do
  let now ← Std.Time.PlainDateTime.now
  return twoDigits now.time.hour.val.toNat ++ ":" ++ twoDigits now.time.minute.val.toNat

def entryOf (content : ByteArray) : Entry :=
  match String.fromUTF8? content with
  | none => .binary
  | some text =>
    match SettingsTable.ofImage? text with
    | some table => .database (some table)
    | none => .text text

/-- The disk with what stands at a place. -/
def lookAt (d : Disk) (l : Location) : IO Disk := do
  let place := (← IO.currentDir) / Disk.pathOf l
  if ← place.isDir then return d.put l .directory
  else if ← place.pathExists then return d.put l (entryOf (← IO.FS.readBinFile place))
  else return d

/-- The disk with what stands along the path of a file that a command may use. -/
def look (d : Disk) (path : String) : IO Disk :=
  (Disk.steps (d.origin path) (pathNames path)).foldlM lookAt d

/-- The disk with what stands along the path of a database. -/
def lookForDatabase (d : Disk) (path : String) : IO Disk :=
  match DatabaseName.ofPath path with
  | .ok name => look d name.path
  | .error _ => return d

/-- Writes back what a command changed. -/
def writeBack (before after : Disk) : IO Unit := do
  for (l, e) in before.entries do
    if e != .directory && after.entry? l == none then IO.FS.removeFile (Disk.pathOf l)
  for (l, e) in after.entries.reverse do
    if before.entry? l != some e then
      match e with
      | .directory => IO.FS.createDirAll (Disk.pathOf l)
      | .text content => IO.FS.writeFile (Disk.pathOf l) content
      | .database (some table) => IO.FS.writeFile (Disk.pathOf l) table.image
      | _ => pure ()

def printShown : Shown → IO Unit
  | .text text => IO.print text
  | .refused refusal => IO.println refusal.message

def printFinished (f : Finished) : IO UInt32 := do
  f.output.forM printShown
  f.errors.forM IO.eprintln
  return f.code.toUInt32

/-- The disk with the files of a line of a shell. -/
def lookForLine (d : Disk) (line : String) : IO Disk :=
  match Request.parse (arguments (String.ofList ((eraseBack? line.toList).getD []))) with
  | .ok { configFile := some path, .. } => look d path
  | _ => return d

/-- Reads and runs lines until one of them ends the shell, or none is left. -/
partial def serve (e : Surroundings) (before : Disk) (s : LiveShell) : IO UInt32 := do
  IO.print s.prompt
  (← IO.getStdout).flush
  let line ← (← IO.getStdin).getLine
  if line.isEmpty then
    IO.println "exit"
    writeBack before s.stop
    return 0
  let disk ← lookForLine s.disk line
  let response := { s with disk }.react { e with clock := ← clockText } line
  printShown response.shown
  response.errors.forM IO.eprintln
  let saved := response.shell.saved
  match response.sequel with
  | .nextLine =>
    writeBack disk saved
    serve e saved { response.shell with disk := saved }
  | .stop =>
    writeBack disk response.shell.stop
    return 0
  | .abort =>
    writeBack disk saved
    return abortCode.toUInt32

/-- The disk before anything is known of it. -/
def blankDisk : IO Disk := do
  let here := pathNames (← IO.currentDir).toString
  let home := ((← IO.getEnv "HOME").map pathNames).getD here
  return { home, here }

def perform (r : Request) : IO UInt32 := do
  let blank ← blankDisk
  let configPath := Disk.pathOf (blank.home ++ Disk.configDirectory ++ ["config.toml"])
  let databasePath := Disk.pathOf (blank.home ++ Disk.dataDirectory ++ ["settings.db"])
  let before ← look (← look (← look blank (r.configFile.getD configPath)) databasePath)
    (LiveShell.historyPath blank)
  let (config, notices, d) := configFor before r
  let d ← match config.settings.database with
    | some path => lookForDatabase d path
    | none => pure d
  let e := surroundingsFor config r (← clockText)
  (noticeLines e notices).forM IO.eprintln
  match r.command with
  | .shell =>
    match LiveShell.start e d with
    | (.error failure, d) =>
      writeBack before d
      printFinished (failed e d failure [])
    | (.ok response, _) =>
      printShown response.shown
      response.errors.forM IO.eprintln
      serve e before response.shell
  | _ =>
    let f := runOnce e d r
    writeBack before f.disk
    printFinished f

def runMain (words : List String) : IO UInt32 :=
  match Request.parse words with
  | .error refusal => do printFinished (refused (← blankDisk) refusal)
  | .ok r => perform r

end TilePanel.Shell

def main (args : List String) : IO UInt32 :=
  TilePanel.Shell.runMain args
