import TilePanel.Settings.User
import TilePanel.Text.Json
import TilePanel.Text.Table
import TilePanel.Toml.Document
import TilePanel.Toml.Writer

/-!
The configuration: its four sections with their defaults, how they are read from the entries of a
document, and the document and the JSON form in which they are written.
-/

namespace TilePanel

open TilePanel.Text TilePanel.Toml

structure PanelSection where
  /-- The user with which the panel starts. -/
  initialUser : UserId := .owner
  /-- Whether the certificate tile is hidden while there is nothing to warn of. -/
  hidesWarning : Bool := true
deriving DecidableEq, Repr

/-- Where settings are kept. -/
inductive Backend
  | database
  | memory
deriving DecidableEq, Repr

def Backend.name : Backend → String
  | database => "sqlite"
  | memory => "memory"

structure SettingsSection where
  backend : Backend := .database
  /-- The path of the database, instead of the usual one. -/
  database : Option String := none
deriving DecidableEq, Repr

structure LoggingSection where
  /-- Which notices are shown. -/
  filter : Option String := none
deriving DecidableEq, Repr

structure Config where
  panel : PanelSection := {}
  settings : SettingsSection := {}
  logging : LoggingSection := {}
  /-- The texts of tiles, by their keys. -/
  strings : TextTable := .empty
deriving DecidableEq

/-! Reading. A section is a table, an array of its fields in order, or a date, which stands for a
table with its text under one key that no section knows. What a section does not give has its
default; what it does not know is ignored. -/

def dateKey : String := "$__toml_private_datetime"

/-- The entries of a value that stands for a table. -/
def entriesOf? : Value → Option (List (String × Value))
  | .table entries => some entries
  | .dateTime text => some [(dateKey, .string text)]
  | _ => none

/-- The fields of a section, whose names are given in order. -/
def fieldsOf? (names : List String) : Value → Option (List (String × Value))
  | .array items => some (names.zip items)
  | v => entriesOf? v

/-- A field that may be absent. -/
def readField {α : Type} (read? : Value → Option α) (fallback : α) (name : String)
    (fields : List (String × Value)) : Option α :=
  match lookup name fields with
  | none => some fallback
  | some v => read? v

def readText? : Value → Option String
  | .string text => some text
  | _ => none

def readFlag? : Value → Option Bool
  | .boolean b => some b
  | _ => none

def readUser? : Value → Option UserId
  | .integer n => (Decimal.narrow? n).map UserId.mk
  | _ => none

def Backend.ofName? (name : String) : Option Backend :=
  [database, memory].find? fun b => b.name == name

/-- A backend is given by its name, or by a table with nothing under its name. -/
def readBackend? : Value → Option Backend
  | .string name => Backend.ofName? name
  | .table [(name, .table [])] => Backend.ofName? name
  | .table [(name, .array [])] => Backend.ofName? name
  | _ => none

def PanelSection.ofValue? (v : Value) : Option PanelSection := do
  let fields ← fieldsOf? ["initial_user", "ssl_warning_show_when_enabled"] v
  let initialUser ← readField readUser? .owner "initial_user" fields
  let hidesWarning ← readField readFlag? true "ssl_warning_show_when_enabled" fields
  return { initialUser, hidesWarning }

def SettingsSection.ofValue? (v : Value) : Option SettingsSection := do
  let fields ← fieldsOf? ["backend", "database"] v
  let backend ← readField readBackend? .database "backend" fields
  let database ← readField (fun v => (readText? v).map some) none "database" fields
  return { backend, database }

def LoggingSection.ofValue? (v : Value) : Option LoggingSection := do
  let fields ← fieldsOf? ["filter"] v
  let filter ← readField (fun v => (readText? v).map some) none "filter" fields
  return { filter }

/-- The texts of tiles: every entry of the section has to be a text. -/
def readStrings? (v : Value) : Option TextTable := do
  let entries ← entriesOf? v
  let texts ← entries.mapM fun e => (readText? e.2).map fun text => (e.1, text)
  return .ofList texts

namespace Config

/-- The configuration that the entries of a document give. -/
def ofEntries? (entries : List (String × Value)) : Option Config := do
  let panel ← readField PanelSection.ofValue? {} "panel" entries
  let settings ← readField SettingsSection.ofValue? {} "settings" entries
  let logging ← readField LoggingSection.ofValue? {} "logging" entries
  let strings ← readField readStrings? .empty "strings" entries
  return { panel, settings, logging, strings }

def ofText? (text : String) : Option Config :=
  (Toml.entries? text.toList).bind ofEntries?

/-! Writing. All sections are written, and what is absent is left out. -/

/-- The line of a text that may be absent. -/
def optionalLine (name : String) (text : Option String) : List (String × List Char) :=
  (text.map fun s => (name, writeText s.toList)).toList

def sections (c : Config) : List Toml.Section := [
  ⟨"panel", [("initial_user", Decimal.ofInt c.panel.initialUser.id.toInt),
    ("ssl_warning_show_when_enabled", Json.truth c.panel.hidesWarning)]⟩,
  ⟨"settings", ("backend", writeText c.settings.backend.name.toList) ::
    optionalLine "database" c.settings.database⟩,
  ⟨"logging", optionalLine "filter" c.logging.filter⟩,
  ⟨"strings", c.strings.entries.map fun e => (e.1, writeText e.2.toList)⟩]

def text (c : Config) : String :=
  String.ofList (writeSections c.sections)

/-! The same by a given writer of texts, which may give up on one of them. -/

/-- The lines of texts by their names. -/
def linesBy (write : TextWriter) (fields : List (String × String)) :
    Option (List (String × List Char)) :=
  fields.mapM fun field => (write field.2.toList).map fun written => (field.1, written)

def sectionsBy (write : TextWriter) (c : Config) : Option (List Toml.Section) := do
  let backend ← linesBy write [("backend", c.settings.backend.name)]
  let database ← linesBy write (c.settings.database.toList.map fun s => ("database", s))
  let filter ← linesBy write (c.logging.filter.toList.map fun s => ("filter", s))
  let strings ← linesBy write c.strings.entries
  return [
    ⟨"panel", [("initial_user", Decimal.ofInt c.panel.initialUser.id.toInt),
      ("ssl_warning_show_when_enabled", Json.truth c.panel.hidesWarning)]⟩,
    ⟨"settings", backend ++ database⟩, ⟨"logging", filter⟩, ⟨"strings", strings⟩]

def textBy (write : TextWriter) (c : Config) : Option String :=
  (c.sectionsBy write).map fun sections => String.ofList (writeSections sections)

/-- The texts that are written as values. -/
def texts (c : Config) : List String :=
  c.settings.database.toList ++ c.logging.filter.toList ++ c.strings.entries.map Prod.snd

/-- Whether the configuration has a text form. -/
def isWritable (c : Config) : Bool :=
  c.texts.all fun s => canWrite s.toList

def json (c : Config) : Json :=
  .object [
    ("panel", .object [("initial_user", .number c.panel.initialUser.id.toInt),
      ("ssl_warning_show_when_enabled", .bool c.panel.hidesWarning)]),
    ("settings", .object [("backend", .string c.settings.backend.name),
      ("database", .ofText? c.settings.database)]),
    ("logging", .object [("filter", .ofText? c.logging.filter)]),
    ("strings", .object (c.strings.entries.map fun e => (e.1, .string e.2)))]

end Config

end TilePanel
