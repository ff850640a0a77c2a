import TilePanel.Shell.Request
import TilePanel.Text.Decimal

/-!
The grammar of command lines: commands with subcommands, options, flags and positional arguments,
and how a list of arguments is read by it. Arguments are read from left to right, one level of
commands after the other, and the first thing that does not fit refuses the line. A positional
argument or the separate value of an option is checked only when the next thing of its level has
been read, so that a fault of that one wins where it does not look at what came before.
-/

namespace TilePanel.Shell

open TilePanel.Text

/-- Why a list of arguments is refused. Requests for help and for the version count as refusals. -/
inductive Refusal
  | invalidSubcommand
  | missingSubcommand
  | helpInsteadOfCommand
  | missingArgument
  | unknownArgument
  | malformedValue
  | invalidValue
  | tooManyValues
  | conflict
  | help
  | version
deriving DecidableEq, Repr

def Refusal.message : Refusal → String
  | invalidSubcommand => "error: unrecognized subcommand"
  | missingSubcommand => "error: a subcommand is required"
  | helpInsteadOfCommand => "error: a subcommand is required"
  | missingArgument => "error: a required argument is missing"
  | unknownArgument => "error: unexpected argument"
  | malformedValue => "error: a value is not a number in its range"
  | invalidValue => "error: a value is missing or none of the allowed ones"
  | tooManyValues => "error: a flag takes no value"
  | conflict => "error: an argument is given twice"
  | help => "Commands: panel, settings, config, shell, help"
  | version => "quicktiles 0.1.0"

/-- What a value may be. -/
inductive ValueKind
  | text
  | path
  | number (least greatest : Int)
  | word (words : List String)
deriving DecidableEq, Repr

namespace ValueKind

def int32 : ValueKind := number (-2147483648) 2147483647

def byte : ValueKind := number 0 255

def check : ValueKind → String → Except Refusal Unit
  | text, _ => .ok ()
  | path, v => if v.isEmpty then .error .invalidValue else .ok ()
  | number least greatest, v =>
    match Decimal.readInt? v.toList with
    | some n => if least ≤ n ∧ n ≤ greatest then .ok () else .error .malformedValue
    | none => .error .malformedValue
  | word words, v => if words.contains v then .ok () else .error .invalidValue

end ValueKind

/-- What an option does. -/
inductive Effect
  | flag
  | value (kind : ValueKind)
  | help
  | version
deriving DecidableEq, Repr

structure OptionSpec where
  name : String
  letter : Option Char := none
  effect : Effect := .flag
deriving DecidableEq, Repr

/-- A command at some level: its options, its positional arguments and its subcommands. -/
inductive Level
  | mk (options : List OptionSpec) (positionals : List (String × ValueKind))
    (subcommands : List (String × Level))

namespace Level

def options : Level → List OptionSpec
  | mk options _ _ => options

def positionals : Level → List (String × ValueKind)
  | mk _ positionals _ => positionals

def subcommands : Level → List (String × Level)
  | mk _ _ subcommands => subcommands

def subcommand? (level : Level) (name : String) : Option Level :=
  (level.subcommands.find? fun s => s.1 == name).map Prod.snd

def byName? (level : Level) (name : String) : Option OptionSpec :=
  level.options.find? fun o => o.name == name

def byLetter? (level : Level) (letter : Char) : Option OptionSpec :=
  level.options.find? fun o => o.letter == some letter

/-- Whether the words after `help` lead from command to subcommand. -/
def leadsTo : Level → List String → Bool
  | _, [] => true
  | level, word :: words =>
    match level.subcommand? word with
    | some sub => sub.leadsTo words
    | none => false

end Level

/-- A value that waits to be checked; none if the option still has none. -/
structure Pending where
  name : String
  kind : ValueKind
  value : Option String
deriving DecidableEq, Repr

/-- How far a level has been read. -/
structure Scan where
  given : List (String × String) := []
  pending : Option Pending := none
  /-- Whether the next argument may be the value of the pending option. -/
  awaitsValue : Bool := false
  place : Nat := 0
  /-- Whether only positional arguments follow. -/
  isTrailing : Bool := false
deriving DecidableEq, Repr

namespace Scan

/-- Gives an argument a text; nothing may be given twice. -/
def give (s : Scan) (name text : String) : Except Refusal Scan :=
  if s.given.any fun g => g.1 == name then .error .conflict
  else .ok { s with given := s.given ++ [(name, text)] }

def settle (s : Scan) : Except Refusal Scan :=
  match s.pending with
  | none => .ok s
  | some ⟨_, _, none⟩ => .error .invalidValue
  | some ⟨name, kind, some value⟩ =>
    match { s with pending := none }.give name value with
    | .error refusal => .error refusal
    | .ok s =>
      match kind.check value with
      | .error refusal => .error refusal
      | .ok _ => .ok s

def takeFlag (s : Scan) (o : OptionSpec) : Except Refusal Scan :=
  match s.settle with
  | .error refusal => .error refusal
  | .ok s =>
    match o.effect with
    | .help => .error .help
    | .version => .error .version
    | _ => { s with awaitsValue := false }.give o.name ""

def takeAttached (s : Scan) (o : OptionSpec) (kind : ValueKind) (value : String) :
    Except Refusal Scan :=
  match s.settle with
  | .error refusal => .error refusal
  | .ok s => { s with pending := some ⟨o.name, kind, some value⟩, awaitsValue := false }.settle

def takeOpen (s : Scan) (o : OptionSpec) (kind : ValueKind) : Except Refusal Scan :=
  match s.settle with
  | .error refusal => .error refusal
  | .ok s => .ok { s with pending := some ⟨o.name, kind, none⟩, awaitsValue := true }

def takeLong (s : Scan) (level : Level) (name : String) (attached : Option String) :
    Except Refusal Scan :=
  match level.byName? name with
  | none => .error .unknownArgument
  | some o =>
    match o.effect, attached with
    | .value kind, some value => s.takeAttached o kind value
    | .value kind, none => s.takeOpen o kind
    | _, some _ => .error .tooManyValues
    | _, none => s.takeFlag o

def takeLetters (level : Level) : Scan → List Char → Except Refusal Scan
  | s, [] => .ok s
  | s, c :: cs =>
    match level.byLetter? c with
    | none => .error .unknownArgument
    | some o =>
      match s.takeFlag o with
      | .error refusal => .error refusal
      | .ok s => takeLetters level s cs

def takePlace (s : Scan) (level : Level) (word : String) : Except Refusal Scan :=
  match level.positionals[s.place]? with
  | some (name, kind) =>
    match s.settle with
    | .error refusal => .error refusal
    | .ok s => .ok { s with pending := some ⟨name, kind, some word⟩, place := s.place + 1 }
  | none =>
    .error (if level.subcommands.isEmpty || s.isTrailing && (level.subcommand? word).isSome then
      .unknownArgument else .invalidSubcommand)

/-- Takes an argument that is no subcommand. -/
def take (s : Scan) (level : Level) (word : String) : Except Refusal Scan :=
  if s.isTrailing then s.takePlace level word
  else
    match word.toList with
    | ['-', '-'] => .ok { s with isTrailing := true }
    | '-' :: '-' :: rest =>
      let name := rest.takeWhile fun c => c ≠ '='
      let attached := match rest.dropWhile fun c => c ≠ '=' with
        | [] => none
        | _ :: value => some (String.ofList value)
      s.takeLong level (String.ofList name) attached
    | '-' :: c :: cs => takeLetters level s (c :: cs)
    | _ =>
      match s.awaitsValue, s.pending with
      | true, some pending =>
        .ok { s with pending := some { pending with value := some word }, awaitsValue := false }
      | _, _ => s.takePlace level word

/-- What is left to check at the end of a level on which no subcommand follows. -/
def finish (s : Scan) (level : Level) : Except Refusal (List (String × String)) :=
  match s.settle with
  | .error refusal => .error refusal
  | .ok s =>
    if !level.subcommands.isEmpty then
      .error (if s.given.isEmpty then .helpInsteadOfCommand else .missingSubcommand)
    else if s.place < level.positionals.length then .error .missingArgument
    else .ok s.given

end Scan

/-- The subcommands that lead to a command, and what was given, deepest level first. -/
structure Parsed where
  path : List String
  given : List (String × String)
deriving DecidableEq, Repr

/-- Reads arguments at a level. A subcommand is read to its end before the value that waits in front
of it is checked. -/
def scan (level : Level) (s : Scan) : List String → Except Refusal Parsed
  | [] => (s.finish level).map fun given => ⟨[], given⟩
  | word :: words =>
    let sub := if s.isTrailing || s.awaitsValue then none else level.subcommand? word
    match sub with
    | some below =>
      if word = "help" then .error (if level.leadsTo words then .help else .invalidSubcommand)
      else
        match scan below {} words with
        | .error refusal => .error refusal
        | .ok parsed =>
          match s.settle with
          | .error refusal => .error refusal
          | .ok s => .ok ⟨word :: parsed.path, parsed.given ++ s.given⟩
    | none =>
      match s.take level word with
      | .error refusal => .error refusal
      | .ok s => scan level s words

/-! The commands of the program. -/

def commonOptions : List OptionSpec := [
  { name := "json" },
  { name := "quiet", letter := some 'q' },
  { name := "verbose", letter := some 'v' },
  { name := "config", effect := .value .path },
  { name := "help", letter := some 'h', effect := .help }]

def leaf (name : String) (positionals : List (String × ValueKind)) (options : List OptionSpec) :
    String × Level :=
  (name, .mk (options ++ commonOptions) positionals [])

/-- The `help` subcommand that every command with subcommands has. -/
def helpLevel : String × Level :=
  ("help", .mk [] [] [])

def branch (name : String) (subcommands : List (String × Level)) : String × Level :=
  (name, .mk commonOptions [] (subcommands ++ [helpLevel]))

def userOption : OptionSpec := { name := "user", effect := .value .int32 }

def panelLevel : String × Level := branch "panel" [
  leaf "show" [] [],
  leaf "battery" [("level", .byte)] [{ name := "plugged" }],
  leaf "user" [("name", .text)] [{ name := "avatar", effect := .value .text }],
  leaf "cert" [] [{ name := "has-cert" }, { name := "unmanaged" }],
  leaf "brightness-mode" [("mode", .word ["auto", "manual"])] [],
  leaf "brightness" [("value", .int32)] [],
  leaf "switch-user" [("user", .int32)] [],
  leaf "refresh" [("tile", .word (RefreshTarget.every.map RefreshTarget.name))] [],
  leaf "resources" [] [],
  leaf "string" [("id", .text), ("text", .text)] []]

def settingsLevel : String × Level := branch "settings" [
  leaf "get" [("key", .text)] [userOption],
  leaf "put" [("key", .text), ("value", .text)] [userOption],
  leaf "list" [] [userOption]]

def configLevel : String × Level := branch "config" [
  leaf "show" [] [],
  leaf "path" [] [],
  leaf "init" [] []]

def rootLevel : Level :=
  .mk (commonOptions ++ [{ name := "version", letter := some 'V', effect := .version }]) []
    [panelLevel, settingsLevel, configLevel, leaf "shell" [] [], helpLevel]

namespace Parsed

def text? (p : Parsed) (name : String) : Option String :=
  (p.given.find? fun g => g.1 == name).map Prod.snd

def flag (p : Parsed) (name : String) : Bool :=
  (p.text? name).isSome

def int32? (p : Parsed) (name : String) : Option Int32 :=
  (p.text? name).bind fun s => Decimal.readInt32? s.toList

/-- The user that `--user` names; the owner if it is not given. -/
def user (p : Parsed) : UserId :=
  ((p.int32? "user").map UserId.mk).getD .owner

def panelAction? (p : Parsed) : List String → Option PanelAction
  | ["show"] => some .display
  | ["battery"] =>
    (p.int32? "level").map fun n => .battery (UInt8.ofNat n.toInt.toNat) (p.flag "plugged")
  | ["user"] => (p.text? "name").map fun name => .user name (p.text? "avatar")
  | ["cert"] => some (.certificate (p.flag "has-cert") (p.flag "unmanaged"))
  | ["brightness-mode"] =>
    (p.text? "mode").map fun mode => .brightnessMode (if mode = "auto" then .automatic else .manual)
  | ["brightness"] => (p.int32? "value").map .brightness
  | ["switch-user"] => (p.int32? "user").map fun n => .switchUser ⟨n⟩
  | ["refresh"] => ((p.text? "tile").bind RefreshTarget.ofName?).map .refresh
  | ["resources"] => some .resources
  | ["string"] =>
    match p.text? "id", p.text? "text" with
    | some key, some text => some (.string key text)
    | _, _ => none
  | _ => none

def settingsAction? (p : Parsed) : List String → Option SettingsAction
  | ["get"] => (p.text? "key").map fun key => .get key p.user
  | ["put"] =>
    match p.text? "key", p.text? "value" with
    | some key, some value => some (.put key value p.user)
    | _, _ => none
  | ["list"] => some (.list p.user)
  | _ => none

def configAction? : List String → Option ConfigAction
  | ["show"] => some .display
  | ["path"] => some .path
  | ["init"] => some .init
  | _ => none

def command? (p : Parsed) : Option Command :=
  match p.path with
  | "panel" :: path => (p.panelAction? path).map .panel
  | "settings" :: path => (p.settingsAction? path).map .settings
  | "config" :: path => (configAction? path).map .config
  | ["shell"] => some .shell
  | _ => none

def request? (p : Parsed) : Option Request :=
  p.command?.map fun command => {
    json := p.flag "json"
    quiet := p.flag "quiet"
    verbose := p.flag "verbose"
    configFile := p.text? "config"
    command }

end Parsed

def Request.parse (words : List String) : Except Refusal Request :=
  match scan rootLevel {} words with
  | .error refusal => .error refusal
  | .ok parsed =>
    match parsed.request? with
    | some request => .ok request
    | none => .error .missingArgument

end TilePanel.Shell
