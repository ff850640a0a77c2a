/-!
The texts that tiles show: identifiers, the built-in English, and a catalog of overrides that may
change while a panel lives.
-/

namespace TilePanel

/-- A text that the panel puts on a tile. -/
inductive StringId
  | settingsLabel
  | brightnessLabel
  | certificateWarning
deriving DecidableEq, Repr

namespace StringId

def all : List StringId :=
  [settingsLabel, brightnessLabel, certificateWarning]

/-- The key of a text in configuration files and commands. -/
def key : StringId → String
  | settingsLabel => "quick_settings_settings_label"
  | brightnessLabel => "quick_settings_brightness_label"
  | certificateWarning => "ssl_ca_cert_warning"

/-- The built-in English text. -/
def english : StringId → String
  | settingsLabel => "Settings"
  | brightnessLabel => "Brightness"
  | certificateWarning => "Network may\nbe monitored"

def ofKey? (key : String) : Option StringId :=
  all.find? fun id => id.key == key

theorem ofKey?_key (id : StringId) : ofKey? id.key = some id := by
  cases id <;> decide

theorem key_of_ofKey? {key : String} {id : StringId} (h : ofKey? key = some id) : id.key = key := by
  have h' := List.find?_some h
  exact beq_iff_eq.mp h'

end StringId

/-- The overrides of the built-in texts. -/
structure Catalog where
  override : StringId → Option String := fun _ => none

namespace Catalog

/-- The text shown for an identifier: its override if there is one. -/
def text (c : Catalog) (id : StringId) : String :=
  (c.override id).getD id.english

def set (c : Catalog) (id : StringId) (text : String) : Catalog :=
  { override := fun other => if other = id then some text else c.override other }

def clear (c : Catalog) (id : StringId) : Catalog :=
  { override := fun other => if other = id then none else c.override other }

/-- Adds an entry of a table of overrides: the text if the key names one, else the key to the list
of unknown keys. -/
def addEntry (found : Catalog × List String) (entry : String × String) : Catalog × List String :=
  match StringId.ofKey? entry.1 with
  | some id => (found.1.set id entry.2, found.2)
  | none => (found.1, found.2 ++ [entry.1])

/-- The catalog of a table of keys and texts, and the keys that name no text, in order. -/
def ofTable (table : List (String × String)) : Catalog × List String :=
  table.foldl addEntry ({}, [])

@[simp]
theorem text_set_self (c : Catalog) (id : StringId) (text : String) :
    (c.set id text).text id = text := by
  simp [Catalog.text, set]

theorem text_set_of_ne (c : Catalog) {id other : StringId} (h : other ≠ id) (text : String) :
    (c.set id text).text other = c.text other := by
  simp [Catalog.text, set, h]

theorem text_clear_self (c : Catalog) (id : StringId) : (c.clear id).text id = id.english := by
  simp [Catalog.text, clear]

end Catalog

end TilePanel
