import Mathlib.Data.List.Forall2
import TilePanel.Config.File
import TilePanel.Proofs.Disk.Rereading
import TilePanel.Proofs.Toml.Sections

/-!
Saving the configuration and loading it again. What is written by the rules of quoting is always read
back as it was. The writer that counts quotes keeps to the rules, and fails exactly if a text holds
more equal quotes in a row than it can count.
-/

namespace TilePanel

open TilePanel.Text TilePanel.Toml

namespace Text.TextTable

/-- An entry behind all others goes to the end. -/
private theorem place_of_last {key text : String} {es : List (String × String)}
    (h : ∀ e ∈ es, precedes e.1 key = true) : place key text es = es ++ [(key, text)] := by
  induction es with
  | nil => rfl
  | cons e es ih =>
    have hfirst := h e List.mem_cons_self
    have hne : e.1 ≠ key := by
      intro hsame
      rw [hsame, precedes_irrefl] at hfirst
      cases hfirst
    rw [place, if_neg hne, if_pos hfirst, ih fun f hf => h f (List.mem_cons_of_mem e hf)]
    rfl

private theorem foldl_insert_of_sorted {t : TextTable} {es : List (String × String)}
    (h : Sorted (t.entries ++ es)) :
    (es.foldl (fun t e => t.insert e.1 e.2) t).entries = t.entries ++ es := by
  induction es generalizing t with
  | nil => rw [List.append_nil]; rfl
  | cons e es ih =>
    have hbefore : ∀ f ∈ t.entries, precedes f.1 e.1 = true :=
      fun f hf => (List.pairwise_append.mp h).2.2 f hf e List.mem_cons_self
    have hinserted : (t.insert e.1 e.2).entries = t.entries ++ [e] := place_of_last hbefore
    have hshift : t.entries ++ e :: es = (t.insert e.1 e.2).entries ++ es := by
      rw [hinserted, List.append_assoc]
      rfl
    rw [hshift] at h ⊢
    exact ih h

/-- A table is the table of its entries. -/
private theorem ofList_entries (t : TextTable) : ofList t.entries = t :=
  ext (foldl_insert_of_sorted (t := empty) t.sorted)

/-- The keys of a table are different. -/
private theorem nodup_keys (t : TextTable) : (t.entries.map Prod.fst).Nodup := by
  refine List.pairwise_map.mpr (t.sorted.imp ?_)
  intro e f hef hsame
  rw [hsame, precedes_irrefl] at hef
  cases hef

end Text.TextTable

namespace Config

def optionalField (name : String) (text : Option String) : List (String × Value) :=
  (text.map fun s => (name, .string s)).toList

/-- What the sections of a configuration say. -/
def sheets (c : Config) : List Sheet := [
  ("panel", [("initial_user", .integer c.panel.initialUser.id.toInt),
    ("ssl_warning_show_when_enabled", .boolean c.panel.hidesWarning)]),
  ("settings", ("backend", .string c.settings.backend.name) ::
    optionalField "database" c.settings.database),
  ("logging", optionalField "filter" c.logging.filter),
  ("strings", c.strings.entries.map fun e => (e.1, .string e.2))]

theorem reads_text (s : String) : Reads (writeText s.toList) (.string s) := by
  have h := reads_writeText s.toList
  rwa [String.ofList_toList] at h

private theorem reads_optional (name : String) (text : Option String) :
    List.Forall₂ (fun (line : String × List Char) (field : String × Value) =>
      line.1 = field.1 ∧ Reads line.2 field.2) (optionalLine name text)
      (optionalField name text) := by
  cases text with
  | none => exact .nil
  | some s => exact .cons ⟨rfl, reads_text s⟩ .nil

private theorem reads_user (u : UserId) :
    Reads (Decimal.ofInt u.id.toInt) (.integer u.id.toInt) := by
  have hlow := Int32.le_toInt u.id
  have hhigh := Int32.toInt_lt u.id
  exact reads_ofInt (by omega) (by omega)

/-- The lines of a section whose name is bare. -/
theorem shows_of_lines {name : String} {lines : List (String × List Char)}
    {fields : List (String × Value)}
    (hname : name.toList ≠ [] ∧ name.toList.all isBare = true)
    (hlines : List.Forall₂ (fun line field => line.1 = field.1 ∧ Reads line.2 field.2)
      lines fields) : Section.Shows ⟨name, lines⟩ (name, fields) :=
  ⟨rfl, hname.1, List.all_eq_true.mp hname.2, hlines⟩

private theorem shows_sections (c : Config) : List.Forall₂ Section.Shows c.sections c.sheets := by
  have hstrings : List.Forall₂ (fun (line : String × List Char) (field : String × Value) =>
      line.1 = field.1 ∧ Reads line.2 field.2)
      (c.strings.entries.map fun e => (e.1, writeText e.2.toList))
      (c.strings.entries.map fun e => (e.1, .string e.2)) := by
    rw [List.forall₂_map_left_iff, List.forall₂_map_right_iff]
    exact List.forall₂_same.mpr fun e _ => ⟨rfl, reads_text e.2⟩
  refine .cons (shows_of_lines (by decide) ?_) (.cons (shows_of_lines (by decide) ?_)
    (.cons (shows_of_lines (by decide) ?_) (.cons (shows_of_lines (by decide) hstrings) .nil)))
  · exact .cons ⟨rfl, reads_user _⟩ (.cons ⟨rfl, reads_truth _⟩ .nil)
  · exact .cons ⟨rfl, reads_text _⟩ (reads_optional _ _)
  · exact reads_optional _ _

private theorem nodup_sheets (c : Config) : ∀ sheet ∈ c.sheets, (sheet.2.map Prod.fst).Nodup := by
  intro sheet hsheet
  simp only [sheets, List.mem_cons, List.not_mem_nil, or_false] at hsheet
  rcases hsheet with rfl | rfl | rfl | rfl
  · simp
  · cases c.settings.database <;> simp [optionalField]
  · cases c.logging.filter <;> simp [optionalField]
  · have hkeys := c.strings.nodup_keys
    simpa [Function.comp_def] using hkeys

/-! What the entries of a written document give. -/

theorem readUser?_toInt (u : UserId) : readUser? (.integer u.id.toInt) = some u := by
  have hlow := Int32.le_toInt u.id
  have hhigh := Int32.toInt_lt u.id
  have hrange : -2147483648 ≤ u.id.toInt ∧ u.id.toInt ≤ 2147483647 := by omega
  simp [readUser?, Decimal.narrow?, hrange]

theorem readBackend?_name (b : Backend) : readBackend? (.string b.name) = some b := by
  cases b <;> rfl

private theorem panel_ofValue? (c : PanelSection) :
    PanelSection.ofValue? (.table [("initial_user", .integer c.initialUser.id.toInt),
      ("ssl_warning_show_when_enabled", .boolean c.hidesWarning)]) = some c := by
  simp [PanelSection.ofValue?, fieldsOf?, entriesOf?, readField, lookup, readUser?_toInt,
    readFlag?]

private theorem settings_ofValue? (c : SettingsSection) :
    SettingsSection.ofValue? (.table (("backend", .string c.backend.name) ::
      optionalField "database" c.database)) = some c := by
  obtain ⟨backend, database⟩ := c
  cases database <;>
    simp [SettingsSection.ofValue?, fieldsOf?, entriesOf?, readField, lookup, optionalField,
      readBackend?_name, readText?]

private theorem logging_ofValue? (c : LoggingSection) :
    LoggingSection.ofValue? (.table (optionalField "filter" c.filter)) = some c := by
  obtain ⟨filter⟩ := c
  cases filter <;>
    simp [LoggingSection.ofValue?, fieldsOf?, entriesOf?, readField, lookup, optionalField,
      readText?]

theorem readStrings?_entries (t : TextTable) :
    readStrings? (.table (t.entries.map fun e => (e.1, .string e.2))) = some t := by
  have htexts : (t.entries.map fun e => (e.1, Value.string e.2)).mapM
      (fun e => (readText? e.2).map fun text => (e.1, text)) = some t.entries := by
    induction t.entries with
    | nil => rfl
    | cons e es ih =>
      rw [List.map_cons, List.mapM_cons, ih]
      rfl
  simp only [readStrings?, entriesOf?, Option.bind_eq_bind, Option.bind_some]
  rw [htexts]
  exact congrArg some t.ofList_entries

/-- The sections of a configuration give that configuration. -/
theorem ofEntries?_sheets (c : Config) :
    ofEntries? (c.sheets.map fun s => (s.1, .table s.2)) = some c := by
  have hpanel := panel_ofValue? c.panel
  have hsettings := settings_ofValue? c.settings
  have hlogging := logging_ofValue? c.logging
  have hstrings := readStrings?_entries c.strings
  simp [ofEntries?, sheets, readField, lookup, hpanel, hsettings, hlogging, hstrings]

/-- The text of a configuration is read as that configuration. -/
theorem ofText?_text (c : Config) : ofText? c.text = some c := by
  have hnames : (c.sheets.map Prod.fst).Nodup := by
    simp [sheets]
  rw [ofText?, Config.text, String.toList_ofList,
    entries?_writeSections (shows_sections c) hnames (nodup_sheets c)]
  exact ofEntries?_sheets c

/-- A file with the text of a configuration gives that configuration. -/
theorem loadFrom_of_find {c : Config} {d : Disk} {path : String} {l : Location}
    (h : d.find path = .ok (l, .text c.text)) :
    loadFrom d path = .ok (c, [.configLoaded path]) := by
  have hpath : d.hasPath path = true := Disk.hasPath_iff.mpr ⟨_, h⟩
  have hread : d.readText path = .ok c.text := by
    unfold Disk.readText
    rw [h]
  rw [loadFrom, if_pos hpath, hread]
  dsimp only
  rw [ofText?_text]

/-- A text can be written unless a quote stands in it more often in a row than the writer counts. -/
theorem canWrite_iff (cs : List Char) :
    canWrite cs = true ↔ ∀ q ∈ ['\x27', '"'], ¬List.replicate (runLimit + 1) q <:+: cs := by
  simp only [canWrite, Bool.and_eq_true, decide_eq_true_eq, longestRun_le_iff_not_infix,
    List.forall_mem_cons, List.not_mem_nil, false_implies, implies_true, and_true]

/-- Which configurations can be written. -/
theorem isWritable_iff (c : Config) : c.isWritable = true ↔
    ∀ s ∈ c.texts, ∀ q ∈ ['\x27', '"'], ¬List.replicate 256 q <:+: s.toList := by
  rw [isWritable, List.all_eq_true]
  exact forall₂_congr fun s _ => canWrite_iff s.toList

/-! A writer that keeps to the rules of quoting for the texts that it can write. -/

section

variable {write : TextWriter} (can : List Char → Bool)

private theorem linesBy_eq (hwrite : ∀ cs, write cs = if can cs then some (writeText cs) else none)
    (fields : List (String × String)) :
    linesBy write fields = if fields.all fun field => can field.2.toList then
      some (fields.map fun field => (field.1, writeText field.2.toList)) else none := by
  induction fields with
  | nil => rfl
  | cons field rest ih =>
    rw [linesBy] at ih ⊢
    rw [List.mapM_cons, ih, hwrite, List.all_cons]
    cases can field.2.toList with
    | false => rfl
    | true => cases rest.all fun field => can field.2.toList <;> rfl

private theorem optionalLine_eq (name : String) (text : Option String) :
    optionalLine name text = text.toList.map fun s => (name, writeText s.toList) := by
  cases text <;> rfl

/-- Such a writer writes a configuration as the rules say if it can write its texts. -/
theorem textBy_eq (hwrite : ∀ cs, write cs = if can cs then some (writeText cs) else none)
    (hnames : ∀ b : Backend, can b.name.toList = true) (c : Config) :
    c.textBy write = if c.texts.all fun s => can s.toList then some c.text else none := by
  have htexts : (c.texts.all fun s => can s.toList) =
      ((c.settings.database.toList.all fun s => can s.toList) &&
        (c.logging.filter.toList.all fun s => can s.toList) &&
        c.strings.entries.all fun e => can e.2.toList) := by
    simp only [texts, List.all_append, List.all_map, Function.comp_def]
  rw [htexts, textBy, sectionsBy]
  simp only [linesBy_eq can hwrite, List.all_cons, List.all_nil, hnames, List.all_map,
    Function.comp_def, List.map_map]
  cases c.settings.database.toList.all fun s => can s.toList
  · rfl
  cases c.logging.filter.toList.all fun s => can s.toList
  · rfl
  cases c.strings.entries.all fun e => can e.2.toList
  · rfl
  simp only [text, sections, optionalLine_eq]
  rfl

end

theorem textBy_countingWriter (c : Config) :
    c.textBy countingWriter = if c.isWritable then some c.text else none :=
  textBy_eq canWrite (fun _ => rfl) (by intro b; cases b <;> decide) c

end Config

/-- Each text is written, in the form and with the escapes that the rules of quoting give. -/
def Toml.TextWriter.FollowsRules (write : TextWriter) : Prop :=
  ∀ cs, write cs = some (writeText cs)

namespace Config

theorem textBy_of_followsRules {write : TextWriter} (h : write.FollowsRules) (c : Config) :
    c.textBy write = some c.text := by
  have htext := textBy_eq (fun _ => true) h (fun _ => rfl) c
  rwa [if_pos (List.all_eq_true.mpr fun _ _ => rfl)] at htext

/-- Whatever a configuration says: saved to a place where files can be, by a writer that follows the
rules of quoting, it is loaded from there exactly as it was. -/
theorem reload_saved {write : TextWriter} (hrules : write.FollowsRules) {d : Disk} {path : String}
    {l : Location} (hplace : d.locateFile path = .ok l) (hfile : d.entry? l ≠ some .directory)
    (hkeeps : d.entry? l ≠ some .sink) (c : Config) :
    ∃ d', c.saveBy write d path = .ok (d', [.configSaved path]) ∧
      loadFrom d' path = .ok (c, [.configLoaded path]) := by
  obtain ⟨d', hwrite, hpath, hread⟩ := Disk.readText_writeText hplace hfile hkeeps c.text
  refine ⟨d', ?_, ?_⟩
  · rw [saveBy, textBy_of_followsRules hrules]
    dsimp only
    rw [hwrite]
  · rw [loadFrom, if_pos hpath, hread]
    dsimp only
    rw [ofText?_text]

/-- A configuration whose texts need every form, with an empty key and an empty text. -/
def allForms : Config where
  panel := { initialUser := ⟨-1⟩, hidesWarning := false }
  settings := { backend := .memory, database := some "c:\\new" }
  logging := { filter := some "\r\n\x1b" }
  strings := .ofList [("", "it\x27s"), ("a b", "\n\"\"\"\x27"), ("c", "\\\"\x27"), ("d", "")]

/-- A configuration with a text that the counting writer cannot count through. -/
def manyQuotes : Config :=
  { strings := .ofList [("v", String.ofList (List.replicate 256 '"'))] }

/-- In a home directory, where the writer that counts quotes writes the same. -/
theorem reload_saved_at_home :
    let d : Disk := { home := ["home"], here := ["home"] }
    let write : TextWriter := fun cs => some (writeText cs)
    allForms.saveTo d "out.toml" = allForms.saveBy write d "out.toml" ∧
      ∃ d', allForms.saveBy write d "out.toml" = .ok (d', [.configSaved "out.toml"]) ∧
        loadFrom d' "out.toml" = .ok (allForms, [.configLoaded "out.toml"]) := by
  intro d write
  have hplace : d.locateFile "out.toml" = .ok ["home", "out.toml"] := by rfl
  have hfile : d.entry? ["home", "out.toml"] ≠ some .directory := by decide
  have hkeeps : d.entry? ["home", "out.toml"] ≠ some .sink := by decide
  have hrules : write.FollowsRules := fun _ => rfl
  refine ⟨?_, reload_saved hrules hplace hfile hkeeps allForms⟩
  have hwritable : allForms.isWritable = true := by decide
  rw [saveTo, saveBy, saveBy, textBy_countingWriter, if_pos hwritable, textBy_of_followsRules hrules]

end Config

end TilePanel
