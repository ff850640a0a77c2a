import TilePanel.Config.File
import TilePanel.Disk.Database
import TilePanel.Shell.Grammar
import TilePanel.Shell.Snapshot
import TilePanel.Shell.Verbosity

/-!
The commands: what each of them prints and changes. The shell runs all of them on one live session.
-/

namespace TilePanel.Shell

open TilePanel.Text

/-- A value in JSON, or as text for people, on lines of its own. -/
def formatted (json : Bool) (value : Json) (text : String) : String :=
  (if json then value.pretty else text) ++ "\n"

/-- A message that quiet commands leave out. -/
def unlessQuiet (quiet : Bool) (message : String) : String :=
  if quiet then "" else message ++ "\n"

/-- Carries out an action on the settings store; answers what is printed. -/
def runSettings (h : Hub) (json quiet : Bool) : SettingsAction → Outcome Hub (Except Failure String)
  | .get key user =>
    match h.store.read key user with
    | .error cause => ⟨h, .error (.library cause), []⟩
    | .ok value =>
      let result := Json.object [("key", .string key), ("user", .number user.id.toInt),
        ("value", .ofText? value)]
      ⟨h, .ok (formatted json result (value.getD "<not set>")), []⟩
  | .put key value user =>
    (h.put key value user).mapAnswer fun
      | .error cause => .error (.library cause)
      | .ok _ =>
        .ok (unlessQuiet quiet ("Set " ++ key ++ " = " ++ value ++ " for user " ++ user.text))
  | .list user =>
    match h.store.list user with
    | .error cause => ⟨h, .error (.library cause), []⟩
    | .ok entries =>
      let result := Json.object [("user", .number user.id.toInt),
        ("settings", .array (entries.map fun e =>
          .object [("key", .string e.1), ("value", .string e.2)]))]
      let text :=
        if entries.isEmpty then "No settings stored for user " ++ user.text
        else String.intercalate "\n" (entries.map fun e => e.1 ++ " = " ++ e.2)
      ⟨h, .ok (formatted json result text), []⟩

/-- The path of the configuration file that a command is about. -/
def resolvePath (d : Disk) (file : Option String) : Except Failure (String × Disk) :=
  match file with
  | some path => .ok (path, d)
  | none => d.configPath.mapError fun fault => .library (.io fault)

/-- What a command about the configuration leaves behind. -/
structure ConfigRun where
  disk : Disk
  answer : Except Failure String
  notices : List Notice := []

/-- Carries out an action on the configuration file; answers what is printed. -/
def runConfig (c : Config) (d : Disk) (file : Option String) (json quiet : Bool)
    (action : ConfigAction) : ConfigRun :=
  match action with
  | .display =>
    if json || c.isWritable then ⟨d, .ok (formatted json c.json c.text), []⟩
    else ⟨d, .error (.library .configUnwritable), []⟩
  | .path =>
    match resolvePath d file with
    | .error failure => ⟨d, .error failure, []⟩
    | .ok (path, d) =>
      let isThere := d.hasPath path
      let result := Json.object [("path", .string path), ("exists", .bool isThere)]
      ⟨d, .ok (formatted json result (path ++ if isThere then "" else " (not found)")), []⟩
  | .init =>
    match resolvePath d file with
    | .error failure => ⟨d, .error failure, []⟩
    | .ok (path, d) =>
      if d.hasPath path then ⟨d, .error (.configExists path), []⟩
      else
        match c.saveTo d path with
        | .error cause => ⟨d, .error (.library cause), []⟩
        | .ok (d, notices) => ⟨d, .ok (unlessQuiet quiet ("Wrote " ++ path)), notices⟩

def helpLines : List String := [
    "Quicktiles Interactive Shell",
    "",
    "Commands:",
    "  panel show                      Show every tile",
    "  panel battery <level> [--plugged]",
    "                                  Report a battery level",
    "  panel user <name> [--avatar <src>]",
    "                                  Set the user tile",
    "  panel cert [--has-cert] [--unmanaged]",
    "                                  Report the CA certificate status",
    "  panel brightness-mode <auto|manual>",
    "                                  Write the current user\x27s brightness mode",
    "  panel brightness <0-255>        Write the current user\x27s brightness",
    "  panel switch-user <id>          Switch the foreground user",
    "  panel refresh <tile|all>        Repaint a tile",
    "  panel resources                 Re-localize the panel",
    "  panel string <key> <text>       Override a localized string",
    "",
    "  settings get <key> [--user N]   Read a raw setting",
    "  settings put <key> <value> [--user N]",
    "                                  Write a raw setting",
    "  settings list [--user N]        List a user\x27s settings",
    "",
    "  config show                     Show the configuration in effect",
    "  config path                     Show config file path",
    "  config init                     Write the configuration file",
    "",
    "  help                            Show this help",
    "  exit, quit                      Exit the shell",
    "",
    "Flags (can be added to any command):",
    "  --json                          Output in JSON format",
    "  --quiet, -q                     Suppress non-essential output"]

def helpText : String :=
  String.join (helpLines.map fun line => line ++ "\n")

inductive Shown
  | text (text : String)
  /-- The command was refused; why is shown in the words of whoever prints it. -/
  | refused (refusal : Refusal)
deriving DecidableEq, Repr

/-- What stays the same while a shell runs: the configuration, the file that it was told to read it
from, the time of day, and which notices are shown. -/
structure Surroundings where
  config : Config
  configFile : Option String := none
  clock : String
  verbosity : Verbosity := some .warn

/-- What one command of a shell leaves behind; the answer tells whether the shell goes on. -/
structure Turn where
  session : Session
  disk : Disk
  shown : Shown
  answer : Except Failure Bool
  journal : List Activity := []

def deliveredMessage (quiet : Bool) (count : Nat) : String :=
  if count = 0 then ""
  else unlessQuiet quiet ("(" ++ showNat count ++ " tile update(s) delivered)")

namespace Session

/-- Runs a settings action on the live store and delivers the events that it causes. -/
def runSettings (s : Session) (clock : String) (json quiet : Bool) (action : SettingsAction) :
    Outcome Session (Except Failure String) :=
  let ran := s.onPanel clock fun p =>
    (Shell.runSettings p.hub json quiet action).mapState fun hub => { p with hub }
  ran.andThen fun answer s =>
    match answer with
    | .error failure => ⟨s, .error failure, []⟩
    | .ok text => (s.pump clock).mapAnswer fun count => .ok (text ++ deliveredMessage quiet count)

def runPanel (s : Session) (clock : String) (json : Bool) (action : PanelAction) :
    Outcome Session (Except Failure String) :=
  let o := s.apply clock action
  o.mapAnswer fun answer =>
    answer.map fun _ => formatted json o.state.displayJson o.state.displayText

def shownOf : Except Failure String → Shown
  | .ok text => .text text
  | .error _ => .text ""

def turn (d : Disk) (o : Outcome Session (Except Failure String)) : Turn :=
  ⟨o.state, d, shownOf o.answer, o.answer.map fun _ => true, o.journal⟩

def runRequest (s : Session) (e : Surroundings) (d : Disk) (r : Request) : Turn :=
  match r.command with
  | .panel action => turn d (s.runPanel e.clock r.json action)
  | .settings action => turn d (s.runSettings e.clock r.json r.quiet action)
  | .config action =>
    let ran := runConfig e.config d (r.configFile.or e.configFile) r.json r.quiet action
    ⟨s, ran.disk, shownOf ran.answer, ran.answer.map fun _ => true, report ran.notices⟩
  | .shell => ⟨s, d, .text "Already in shell mode.\n", .ok true, []⟩

def runArguments (s : Session) (e : Surroundings) (d : Disk) (words : List String) : Turn :=
  match words with
  | [] => ⟨s, d, .text "", .ok true, []⟩
  | first :: _ =>
    if first = "help" then ⟨s, d, .text (helpText ++ "\n"), .ok true, []⟩
    else if first = "exit" ∨ first = "quit" then ⟨s, d, .text "", .ok false, []⟩
    else
      match Request.parse words with
      | .error refusal => ⟨s, d, .refused refusal, .ok true, []⟩
      | .ok r => s.runRequest e d r

end Session

/-- A store that was opened, and the place of its file, if it has one. -/
structure OpenStore where
  store : SettingsStore
  file : Option Location := none
  notices : List Notice := []

def storeOf (path : String) (o : OpenDatabase) : OpenStore where
  store := if o.isReadOnly then .readOnly o.table else .database (some o.table)
  file := o.place
  notices := [.databaseOpened path]

/-- Opens a database; `named` is its path if the configuration gives one. -/
def openFile (d : Disk) (named : Option String) (path : String) : Except Failure OpenStore × Disk :=
  let (opened, d) := d.openDatabase path
  ((opened.mapError fun fault => .databaseClosed named (.database fault)).map (storeOf path), d)

/-- Opens the store that a configuration asks for. -/
def openStore (c : Config) (d : Disk) : Except Failure OpenStore × Disk :=
  match c.settings.backend, c.settings.database with
  | .memory, _ => (.ok { store := .memory {} }, d)
  | .database, some path => openFile d (some path) path
  | .database, none =>
    match d.databasePath with
    | .error fault => (.error (.databaseClosed none (.io fault)), d)
    | .ok (path, d) => openFile d none path

/-- The disk with the table of a store in its file. -/
def saveStore (d : Disk) (file : Option Location) (store : SettingsStore) : Disk :=
  match file, store with
  | some l, .database table => d.put l (.database table)
  | _, _ => d

end TilePanel.Shell
