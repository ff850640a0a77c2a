import TilePanel.Shell.Backspace
import TilePanel.Shell.Command
import TilePanel.Shell.History
import TilePanel.Shell.Words

/-!
The program as a whole: it reads its arguments and its configuration and then runs one command, or a
shell that reads command lines until it is told to stop.
-/

namespace TilePanel.Shell

open TilePanel.Text

structure Finished where
  disk : Disk
  code : Nat := 0
  output : List Shown := []
  /-- What it wrote to standard error: notices and errors, in order. -/
  errors : List String := []

def noticesOf (journal : List Activity) : List Notice :=
  journal.filterMap Activity.notice?

def versionText : String := "quicktiles 0.1.0\n"

/-- The configuration for a request, and why it could not be read; it counts as absent then. -/
def configFor (d : Disk) (r : Request) : Config × List Notice × Disk :=
  let (loaded, d) := match r.configFile with
    | some path => (Config.loadFrom d path, d)
    | none => Config.load d
  match loaded with
  | .ok (c, _) => (c, [], d)
  | .error cause => ({}, [.configIgnored cause], d)

def verbosityFor (c : Config) (r : Request) : Verbosity :=
  if r.verbose then some .debug else (c.logging.filter.map .ofFilter).getD (some .warn)

def noticeLines (e : Surroundings) (notices : List Notice) : List String :=
  (notices.filter e.verbosity.shows).map Notice.line

def errorLine (text : String) : String :=
  "Error: " ++ text

/-- The code of a program that ended in the middle of its work. -/
def abortCode : Nat := 101

def failed (e : Surroundings) (d : Disk) (failure : Failure) (notices : List Notice) : Finished :=
  let lines := noticeLines e notices
  if failure.isFatal then { disk := d, code := abortCode, errors := lines }
  else { disk := d, code := 1, errors := lines ++ [errorLine failure.line] }

def finished (e : Surroundings) (d : Disk) (answer : Except Failure String)
    (notices : List Notice) : Finished :=
  match answer with
  | .error failure => failed e d failure notices
  | .ok text => { disk := d, output := [.text text], errors := noticeLines e notices }

structure LiveShell where
  session : Session
  /-- The place of the file of the settings store, if it has one. -/
  file : Option Location
  disk : Disk
  history : History

inductive Sequel
  | nextLine
  | stop
  | abort
deriving DecidableEq, Repr

structure Response where
  shell : LiveShell
  shown : Shown := .text ""
  errors : List String := []
  sequel : Sequel := .nextLine

namespace LiveShell

def historyPath (d : Disk) : String :=
  Disk.pathOf (d.home ++ Disk.dataDirectory ++ ["shell_history"])

def greeting (s : LiveShell) : String :=
  "Quicktiles Interactive Shell v0.1.0\n" ++
    "Type \x27help\x27 for available commands, \x27exit\x27 to quit.\n\n" ++
    s.session.displayText ++ "\n"

def prompt (s : LiveShell) : String :=
  "quicktiles[" ++ s.session.panel.user.text ++ "]> "

def ofStore (e : Surroundings) (d : Disk) (opened : OpenStore) : Response :=
  let made := Session.new e.config opened.store e.clock
  let history := match d.readText (historyPath d) with
    | .ok text => History.ofFileText text
    | .error _ => {}
  let shell : LiveShell := ⟨made.state, opened.file, d, history⟩
  { shell, shown := .text shell.greeting,
    errors := noticeLines e (opened.notices ++ noticesOf made.journal) }

def start (e : Surroundings) (d : Disk) : Except Failure Response × Disk :=
  let (opened, d) := openStore e.config d
  (opened.map (ofStore e d), d)

def obey (s : LiveShell) (e : Surroundings) (line : String) : Response :=
  let turn := s.session.runArguments e s.disk (arguments line)
  let shell := { s with
    session := turn.session
    disk := turn.disk
    history := s.history.add line }
  let lines := noticeLines e (noticesOf turn.journal)
  let response : Response := { shell, shown := turn.shown, errors := lines }
  match turn.answer with
  | .ok goesOn => { response with sequel := if goesOn then .nextLine else .stop }
  | .error failure =>
    if failure.isFatal then { response with sequel := .abort }
    else { response with errors := lines ++ [errorLine failure.message] }

def react (s : LiveShell) (e : Surroundings) (line : String) : Response :=
  match eraseBack? line.toList with
  | none => { shell := s, sequel := .abort }
  | some typed =>
    let trimmed := String.ofList (trim typed)
    if trimmed = "" then { shell := s } else s.obey e trimmed

def saved (s : LiveShell) : Disk :=
  saveStore s.disk s.file s.session.panel.hub.store

/-- The disk after the shell has stopped: the lines are kept if there are new ones. -/
def stop (s : LiveShell) : Disk :=
  let d := s.saved
  let ready := match d.makeDirectories d.home Disk.dataDirectory with
    | .ok d => d
    | .error _ => d
  if s.history.added = 0 then ready
  else
    match ready.writeText (historyPath ready) s.history.fileText with
    | .ok d => d
    | .error _ => ready

/-- Runs lines until one of them ends the shell, or none is left. -/
def run (e : Surroundings) : LiveShell → List String → Finished
  | s, [] => { disk := s.stop, output := [.text (s.prompt ++ "exit\n")] }
  | s, line :: rest =>
    let r := s.react e line
    let shown := [.text s.prompt, r.shown]
    match r.sequel with
    | .nextLine =>
      let f := run e r.shell rest
      { f with output := shown ++ f.output, errors := r.errors ++ f.errors }
    | .stop => { disk := r.shell.stop, output := shown, errors := r.errors }
    | .abort => { disk := r.shell.saved, code := abortCode, output := shown, errors := r.errors }

end LiveShell

def runShell (e : Surroundings) (d : Disk) (input : String) : Finished :=
  match LiveShell.start e d with
  | (.error failure, d) => failed e d failure []
  | (.ok r, _) =>
    let f := r.shell.run e (History.linesOf input)
    { f with output := r.shown :: f.output, errors := r.errors ++ f.errors }

def runPanelOnce (e : Surroundings) (d : Disk) (json : Bool) (action : PanelAction) : Finished :=
  match openStore e.config d with
  | (.error failure, d) => failed e d failure []
  | (.ok opened, d) =>
    let made := Session.new e.config opened.store e.clock
    let o := made.state.runPanel e.clock json action
    finished e (saveStore d opened.file o.state.panel.hub.store) o.answer
      (opened.notices ++ noticesOf (made.journal ++ o.journal))

def runSettingsOnce (e : Surroundings) (d : Disk) (json quiet : Bool) (action : SettingsAction) :
    Finished :=
  match openStore e.config d with
  | (.error failure, d) => failed e d failure []
  | (.ok opened, d) =>
    let o := runSettings { store := opened.store } json quiet action
    finished e (saveStore d opened.file o.state.store) o.answer
      (opened.notices ++ noticesOf o.journal)

def runOnce (e : Surroundings) (d : Disk) (r : Request) : Finished :=
  match r.command with
  | .panel action => runPanelOnce e d r.json action
  | .settings action => runSettingsOnce e d r.json r.quiet action
  | .config action =>
    let ran := runConfig e.config d e.configFile r.json r.quiet action
    finished e ran.disk ran.answer ran.notices
  | .shell => { disk := d }

def refused (d : Disk) : Refusal → Finished
  | .version => { disk := d, output := [.text versionText] }
  | .help => { disk := d, output := [.refused .help] }
  | refusal => { disk := d, code := 2, output := [.refused refusal] }

def surroundingsFor (c : Config) (r : Request) (clock : String) : Surroundings :=
  { config := c, configFile := r.configFile, clock, verbosity := verbosityFor c r }

/-- Runs the program on its arguments, its input and the time of day. -/
def runProgram (d : Disk) (clock : String) (words : List String) (input : String) : Finished :=
  match Request.parse words with
  | .error refusal => refused d refusal
  | .ok r =>
    let (config, notices, d) := configFor d r
    let e := surroundingsFor config r clock
    let f := match r.command with
      | .shell => runShell e d input
      | _ => runOnce e d r
    { f with errors := noticeLines e notices ++ f.errors }

end TilePanel.Shell
