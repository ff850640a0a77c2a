import TilePanel.Proofs.Config.RoundTrip
import TilePanel.Proofs.Toml.Lookup
import TilePanel.Proofs.Toml.Tables

/-!
The fields of a configuration, read one by one. A field has its own default, and a section has one
as a whole; they agree, so that every field is that of the document, or else its default, whatever
else the document holds. Therefore what no field looks at changes nothing, and what is taken out of a
document puts the default in its place and changes nothing else.
-/

namespace TilePanel

open TilePanel.Text TilePanel.Toml

namespace Text.TextTable

/-- A text under a new key is one more entry. -/
private theorem place_perm {key : String} (text : String) {es : List (String × String)}
    (h : key ∉ es.map Prod.fst) : (place key text es).Perm ((key, text) :: es) := by
  induction es with
  | nil => exact .refl _
  | cons e es ih =>
    rw [List.map_cons, List.mem_cons, not_or] at h
    rw [place, if_neg (Ne.symm h.1)]
    split
    · exact ((ih h.2).cons e).trans (.swap ..)
    · exact .refl _

private theorem foldl_insert_perm {es : List (String × String)} {t : TextTable}
    (h : (es.map Prod.fst ++ t.entries.map Prod.fst).Nodup) :
    (es.foldl (fun t e => t.insert e.1 e.2) t).entries.Perm (es ++ t.entries) := by
  induction es generalizing t with
  | nil => exact .refl _
  | cons e es ih =>
    rw [List.map_cons, List.cons_append, List.nodup_cons, List.mem_append, not_or] at h
    obtain ⟨⟨hes, ht⟩, hrest⟩ := h
    have hplaced : (t.insert e.1 e.2).entries.Perm (e :: t.entries) := place_perm e.2 ht
    have hkeys : (es.map Prod.fst ++ (t.insert e.1 e.2).entries.map Prod.fst).Nodup := by
      have hmoved := (hplaced.map Prod.fst).append_left (es.map Prod.fst)
      rw [hmoved.nodup_iff, List.map_cons, List.perm_middle.nodup_iff, List.nodup_cons,
        List.mem_append, not_or]
      exact ⟨⟨hes, ht⟩, hrest⟩
    exact ((ih hkeys).trans (hplaced.append_left es)).trans List.perm_middle

/-- Entries with different keys are exactly those of their table. -/
private theorem ofList_perm {es : List (String × String)} (h : (es.map Prod.fst).Nodup) :
    (ofList es).entries.Perm es := by
  have hkeys : (es.map Prod.fst ++ empty.entries.map Prod.fst).Nodup := by
    rwa [empty, List.map_nil, List.append_nil]
  have hperm := foldl_insert_perm hkeys
  rwa [empty, List.append_nil] at hperm

end Text.TextTable

namespace Config

inductive Part
  | panel
  | settings
  | logging
  | strings
deriving DecidableEq, Repr

/-- The fields of a configuration; the texts of tiles have keys of their own instead. -/
inductive Field
  | initialUser
  | hidesWarning
  | backend
  | database
  | filter
deriving DecidableEq, Repr

namespace Part

def key : Part → String
  | panel => "panel"
  | settings => "settings"
  | logging => "logging"
  | strings => "strings"

theorem key_inj {s t : Part} (h : s.key = t.key) : s = t := by
  cases s <;> cases t <;> simp_all [key]

def reset (c : Config) : Part → Config
  | panel => { c with panel := ({} : Config).panel }
  | settings => { c with settings := ({} : Config).settings }
  | logging => { c with logging := ({} : Config).logging }
  | strings => { c with strings := ({} : Config).strings }

end Part

namespace Field

def part : Field → Part
  | initialUser | hidesWarning => .panel
  | backend | database => .settings
  | filter => .logging

def key : Field → String
  | initialUser => "initial_user"
  | hidesWarning => "ssl_warning_show_when_enabled"
  | backend => "backend"
  | database => "database"
  | filter => "filter"

theorem key_inj {f g : Field} (h : f.key = g.key) : f = g := by
  cases f <;> cases g <;> simp_all [key]

def reset (c : Config) : Field → Config
  | initialUser => { c with panel.initialUser := ({} : Config).panel.initialUser }
  | hidesWarning => { c with panel.hidesWarning := ({} : Config).panel.hidesWarning }
  | backend => { c with settings.backend := ({} : Config).settings.backend }
  | database => { c with settings.database := ({} : Config).settings.database }
  | filter => { c with logging.filter := ({} : Config).logging.filter }

def given? (doc : List (String × Value)) (f : Field) : Option Value :=
  (lookup f.part.key doc).bind fun v => (entriesOf? v).bind (lookup f.key)

end Field

def readGiven {α : Type} (read? : Value → Option α) (fallback : α) : Option Value → Option α
  | none => some fallback
  | some v => read? v

private theorem readField_eq {α : Type} (read? : Value → Option α) (fallback : α) (name : String)
    (es : List (String × Value)) :
    readField read? fallback name es = readGiven read? fallback (lookup name es) := by
  unfold readField readGiven
  cases lookup name es <;> rfl

/-- Whether a configuration has in a field what a given value says, or the default of the field. -/
def Field.Shows (given : Option Value) (c : Config) : Field → Prop
  | initialUser => readGiven readUser? .owner given = some c.panel.initialUser
  | hidesWarning => readGiven readFlag? true given = some c.panel.hidesWarning
  | backend => readGiven readBackend? .database given = some c.settings.backend
  | database => readGiven (fun v => (readText? v).map some) none given = some c.settings.database
  | filter => readGiven (fun v => (readText? v).map some) none given = some c.logging.filter

/-- Whether the sections that a document has are tables. -/
def Tabular (doc : List (String × Value)) : Prop :=
  ∀ (s : Part) v, lookup s.key doc = some v → ∃ es, v = .table es

theorem ofEntries?_eq_some_iff {doc : List (String × Value)} {c : Config} :
    ofEntries? doc = some c ↔
      readField PanelSection.ofValue? {} "panel" doc = some c.panel ∧
      readField SettingsSection.ofValue? {} "settings" doc = some c.settings ∧
      readField LoggingSection.ofValue? {} "logging" doc = some c.logging ∧
      readField readStrings? .empty "strings" doc = some c.strings := by
  obtain ⟨panel, settings, logging, strings⟩ := c
  simp [ofEntries?, Option.bind_eq_some_iff]

/-! A section that is absent or a table: it is read field by field, since the default of the section
is made of the defaults of its fields. -/

private theorem lookup_entries (key : String) (given : Option Value) :
    lookup key ((given.bind entriesOf?).getD []) =
      given.bind fun v => (entriesOf? v).bind (lookup key) := by
  cases given with
  | none => rfl
  | some v =>
    rw [Option.bind_some, Option.bind_some]
    cases entriesOf? v <;> rfl

section

variable {given : Option Value} (hgiven : ∀ v, given = some v → ∃ es, v = .table es)
include hgiven

/-- An absent section is read as an empty table, if that is read as the default of the section. -/
private theorem readGiven_section {α : Type} {names : List String} {fallback : α}
    {read? : List (String × Value) → Option α} (hdefault : read? [] = some fallback) :
    readGiven (fun v => (fieldsOf? names v).bind read?) fallback given =
      read? ((given.bind entriesOf?).getD []) := by
  cases given with
  | none => exact hdefault.symm
  | some v =>
    obtain ⟨es, rfl⟩ := hgiven v rfl
    rfl

private theorem panel_shown_iff (p : PanelSection) :
    readGiven PanelSection.ofValue? {} given = some p ↔
      readGiven readUser? .owner
          (given.bind fun v => (entriesOf? v).bind (lookup "initial_user")) =
        some p.initialUser ∧
      readGiven readFlag? true
          (given.bind fun v => (entriesOf? v).bind (lookup "ssl_warning_show_when_enabled")) =
        some p.hidesWarning := by
  have hread : readGiven PanelSection.ofValue? {} given = _ := readGiven_section hgiven rfl
  obtain ⟨initialUser, hidesWarning⟩ := p
  simp [hread, readField_eq, lookup_entries, Option.bind_eq_some_iff]

private theorem settings_shown_iff (p : SettingsSection) :
    readGiven SettingsSection.ofValue? {} given = some p ↔
      readGiven readBackend? .database
          (given.bind fun v => (entriesOf? v).bind (lookup "backend")) = some p.backend ∧
      readGiven (fun v => (readText? v).map some) none
          (given.bind fun v => (entriesOf? v).bind (lookup "database")) = some p.database := by
  have hread : readGiven SettingsSection.ofValue? {} given = _ := readGiven_section hgiven rfl
  obtain ⟨backend, database⟩ := p
  simp [hread, readField_eq, lookup_entries, Option.bind_eq_some_iff]

private theorem logging_shown_iff (p : LoggingSection) :
    readGiven LoggingSection.ofValue? {} given = some p ↔
      readGiven (fun v => (readText? v).map some) none
          (given.bind fun v => (entriesOf? v).bind (lookup "filter")) = some p.filter := by
  have hread : readGiven LoggingSection.ofValue? {} given = _ := readGiven_section hgiven rfl
  obtain ⟨filter⟩ := p
  simp [hread, readField_eq, lookup_entries, Option.bind_eq_some_iff]

end

variable {doc doc' : List (String × Value)} {c c' : Config}

/-- A configuration is loaded from a document exactly if each of its fields is what the document
gives for it, or the default of the field, and its texts are those of the document. -/
theorem ofEntries?_iff_shows (h : Tabular doc) :
    ofEntries? doc = some c ↔
      (∀ f : Field, f.Shows (f.given? doc) c) ∧
        readGiven readStrings? .empty (lookup "strings" doc) = some c.strings := by
  rw [ofEntries?_eq_some_iff]
  simp only [readField_eq]
  refine Iff.trans (and_congr (panel_shown_iff (h .panel) _) (and_congr
    (settings_shown_iff (h .settings) _) (and_congr_left' (logging_shown_iff (h .logging) _)))) ?_
  constructor
  · rintro ⟨⟨huser, hhides⟩, ⟨hbackend, hdatabase⟩, hfilter, hstrings⟩
    refine ⟨fun f => ?_, hstrings⟩
    cases f with
    | initialUser => exact huser
    | hidesWarning => exact hhides
    | backend => exact hbackend
    | database => exact hdatabase
    | filter => exact hfilter
  · rintro ⟨hfields, hstrings⟩
    exact ⟨⟨hfields .initialUser, hfields .hidesWarning⟩, ⟨hfields .backend, hfields .database⟩,
      hfields .filter, hstrings⟩

/-- What an edit of a document does to each field, and to the texts, it does to the whole. -/
theorem ofEntries?_of_edit (h : Tabular doc) (hloads : ofEntries? doc = some c)
    (h' : Tabular doc')
    (hfields : ∀ f : Field, f.Shows (f.given? doc) c → f.Shows (f.given? doc') c')
    (hstrings : readGiven readStrings? .empty (lookup "strings" doc) = some c.strings →
      readGiven readStrings? .empty (lookup "strings" doc') = some c'.strings) :
    ofEntries? doc' = some c' := by
  obtain ⟨hshown, htexts⟩ := (ofEntries?_iff_shows h).mp hloads
  exact (ofEntries?_iff_shows h').mpr ⟨fun f => hfields f (hshown f), hstrings htexts⟩

/-- An edit that no field and no text notices changes nothing. -/
theorem ofEntries?_of_unnoticed (h : Tabular doc) (hloads : ofEntries? doc = some c)
    (h' : Tabular doc') (hfields : ∀ f : Field, f.given? doc' = f.given? doc)
    (hstrings : lookup "strings" doc' = lookup "strings" doc) : ofEntries? doc' = some c := by
  refine ofEntries?_of_edit h hloads h' (fun f hf => ?_) fun htexts => ?_
  · rwa [hfields f]
  · rwa [hstrings]

/-! The defaults. -/

theorem Field.shows_reset (f : Field) (c : Config) : f.Shows none (f.reset c) := by
  cases f <;> rfl

theorem Field.shows_reset_of_ne {f g : Field} (h : g ≠ f) {given : Option Value}
    (hshows : g.Shows given c) : g.Shows given (f.reset c) := by
  cases f <;> cases g <;> first | exact hshows | exact absurd rfl h

theorem Part.shows_reset {f : Field} {s : Part} (h : f.part = s) (c : Config) :
    f.Shows none (s.reset c) := by
  subst h
  cases f <;> rfl

theorem Part.shows_reset_of_ne {f : Field} {s : Part} (h : f.part ≠ s) {given : Option Value}
    (hshows : f.Shows given c) : f.Shows given (s.reset c) := by
  cases s <;> cases f <;> first | exact hshows | exact absurd rfl h

/-! Edits of a document. -/

private theorem given?_congr {f : Field} (h : lookup f.part.key doc' = lookup f.part.key doc) :
    f.given? doc' = f.given? doc := by
  rw [Field.given?, h]
  rfl

/-- A change inside a section that keeps what stands under the key of a field, if the field belongs
to that section. -/
private theorem given?_within {s : Part} {change : List (String × Value) → List (String × Value)}
    {f : Field} (h : f.part = s → ∀ es, lookup f.key (change es) = lookup f.key es) :
    f.given? (within s.key change doc) = f.given? doc := by
  unfold Field.given?
  rw [lookup_within]
  split
  · next hkey =>
    have hsame := h (Part.key_inj hkey)
    cases lookup f.part.key doc with
    | none => rfl
    | some v =>
      cases v with
      | table es => exact hsame es
      | string | integer | float | boolean | dateTime | array => rfl
  · rfl

private theorem given?_without_self (h : Tabular doc) (f : Field) :
    f.given? (within f.part.key (without f.key) doc) = none := by
  unfold Field.given?
  rw [lookup_within, if_pos rfl]
  cases hsection : lookup f.part.key doc with
  | none => rfl
  | some v =>
    obtain ⟨es, rfl⟩ := h f.part v hsection
    exact lookup_without_self f.key es

private theorem given?_of_no_section {f : Field} (h : lookup f.part.key doc = none) :
    f.given? doc = none := by
  rw [Field.given?, h]
  rfl

/-- Sections that are left out, kept or replaced by tables leave tables. -/
theorem Tabular.of_lookup (h : Tabular doc)
    (hsame : ∀ s : Part, lookup s.key doc' = none ∨ lookup s.key doc' = lookup s.key doc ∨
      ∃ es, lookup s.key doc' = some (.table es)) : Tabular doc' := by
  intro s v hv
  rcases hsame s with hnone | hsame | ⟨es, htable⟩
  · rw [hnone] at hv
    cases hv
  · exact h s v (hsame ▸ hv)
  · rw [htable] at hv
    exact ⟨es, (Option.some.inj hv).symm⟩

theorem Tabular.within (h : Tabular doc) (key : String)
    (change : List (String × Value) → List (String × Value)) :
    Tabular (within key change doc) := by
  refine h.of_lookup fun s => ?_
  rw [lookup_within]
  split
  · cases hsection : lookup s.key doc with
    | none => exact .inl rfl
    | some v =>
      obtain ⟨es, rfl⟩ := h s v hsection
      exact .inr (.inr ⟨change es, rfl⟩)
  · exact .inr (.inl rfl)

/-- A new key at the root that is the key of no section. -/
theorem ofEntries?_insertIdx (h : Tabular doc) (hloads : ofEntries? doc = some c) {key : String}
    (hkey : ∀ s : Part, s.key ≠ key) (n : Nat) (v : Value) :
    ofEntries? (doc.insertIdx n (key, v)) = some c := by
  have hsame : ∀ s : Part, lookup s.key (doc.insertIdx n (key, v)) = lookup s.key doc :=
    fun s => lookup_insertIdx_of_ne (Ne.symm (hkey s)) n doc
  exact ofEntries?_of_unnoticed h hloads (h.of_lookup fun s => .inr (.inl (hsame s)))
    (fun f => given?_congr (hsame f.part)) (hsame .strings)

/-- A new key inside a section that is the key of none of its fields. -/
theorem ofEntries?_within_insertIdx (h : Tabular doc) (hloads : ofEntries? doc = some c) {s : Part}
    (hs : s ≠ .strings) {key : String} (hkey : ∀ f : Field, f.part = s → f.key ≠ key) (n : Nat)
    (v : Value) :
    ofEntries? (within s.key (fun es => es.insertIdx n (key, v)) doc) = some c := by
  refine ofEntries?_of_unnoticed h hloads (h.within _ _) (fun f => given?_within fun hf es => ?_) ?_
  · exact lookup_insertIdx_of_ne (Ne.symm (hkey f hf)) n es
  · have hother : Part.strings.key ≠ s.key := fun hsame => hs (Part.key_inj hsame).symm
    exact (lookup_within ..).trans (if_neg hother)

/-- A new section without any of its fields, where it was absent. -/
theorem ofEntries?_insertIdx_section (h : Tabular doc) (hloads : ofEntries? doc = some c) {s : Part}
    (hs : s ≠ .strings) (habsent : lookup s.key doc = none) {es : List (String × Value)}
    (hkeys : ∀ f : Field, f.part = s → f.key ∉ es.map Prod.fst) (n : Nat) :
    ofEntries? (doc.insertIdx n (s.key, .table es)) = some c := by
  have hother : ∀ t : Part, t ≠ s →
      lookup t.key (doc.insertIdx n (s.key, .table es)) = lookup t.key doc := by
    intro t ht
    exact lookup_insertIdx_of_ne (fun hsame => ht (Part.key_inj hsame).symm) n doc
  have hself := lookup_insertIdx_self s.key (.table es) n doc
  have htabular : Tabular (doc.insertIdx n (s.key, .table es)) := by
    refine h.of_lookup fun t => ?_
    by_cases ht : t = s
    · rw [ht]
      rcases hself with hput | hsame
      · exact .inr (.inr ⟨es, hput⟩)
      · exact .inr (.inl hsame)
    · exact .inr (.inl (hother t ht))
  refine ofEntries?_of_unnoticed h hloads htabular (fun f => ?_) (hother .strings (Ne.symm hs))
  by_cases hf : f.part = s
  · have hold : f.given? doc = none := given?_of_no_section (by rw [hf]; exact habsent)
    rw [hold]
    rcases hself with hput | hsame
    · rw [Field.given?, hf, hput]
      exact lookup_eq_none_iff.mpr (hkeys f hf)
    · exact given?_of_no_section (by rw [hf, hsame, habsent])
  · exact given?_congr (hother f.part hf)

/-- A field that is taken out of its section. -/
theorem ofEntries?_without_field (h : Tabular doc) (hloads : ofEntries? doc = some c) (f : Field) :
    ofEntries? (within f.part.key (without f.key) doc) = some (f.reset c) := by
  refine ofEntries?_of_edit h hloads (h.within _ _) (fun g hg => ?_) fun htexts => ?_
  · by_cases hsame : g = f
    · rw [hsame, given?_without_self h]
      exact f.shows_reset c
    · have hgiven : g.given? (within f.part.key (without f.key) doc) = g.given? doc :=
        given?_within fun _ es => lookup_without_of_ne (fun hkey => hsame (Field.key_inj hkey)) es
      rw [hgiven]
      exact Field.shows_reset_of_ne hsame hg
  · have hkey : "strings" ≠ f.part.key := by cases f <;> decide
    rw [lookup_within, if_neg hkey, htexts]
    cases f <;> rfl

/-- A section that is taken out of the document. -/
theorem ofEntries?_without_section (h : Tabular doc) (hloads : ofEntries? doc = some c) (s : Part) :
    ofEntries? (without s.key doc) = some (s.reset c) := by
  have hother : ∀ t : Part, t ≠ s → lookup t.key (without s.key doc) = lookup t.key doc :=
    fun t ht => lookup_without_of_ne (fun hsame => ht (Part.key_inj hsame)) doc
  have htabular : Tabular (without s.key doc) := by
    refine h.of_lookup fun t => ?_
    by_cases ht : t = s
    · exact .inl (ht ▸ lookup_without_self s.key doc)
    · exact .inr (.inl (hother t ht))
  refine ofEntries?_of_edit h hloads htabular (fun f hf => ?_) fun htexts => ?_
  · by_cases hpart : f.part = s
    · rw [given?_of_no_section (hpart ▸ lookup_without_self s.key doc)]
      exact Part.shows_reset hpart c
    · rw [given?_congr (hother f.part hpart)]
      exact Part.shows_reset_of_ne hpart hf
  · by_cases hs : s = .strings
    · subst hs
      have hnone : lookup "strings" (without Part.strings.key doc) = none :=
        lookup_without_self Part.strings.key doc
      rw [hnone]
      rfl
    · have hkept : lookup "strings" (without s.key doc) = lookup "strings" doc :=
        hother .strings (Ne.symm hs)
      rw [hkept, htexts]
      cases s <;> first | rfl | exact absurd rfl hs

/-! The texts. -/

private theorem readText?_eq_some_iff {v : Value} {text : String} :
    readText? v = some text ↔ v = .string text := by
  cases v <;> simp [readText?]

/-- A section that is read as texts has nothing but them. -/
private theorem eq_map_of_mapM_readText? {es : List (String × Value)}
    {texts : List (String × String)}
    (h : es.mapM (fun e => (readText? e.2).map fun text => (e.1, text)) = some texts) :
    es = texts.map fun e => (e.1, .string e.2) := by
  induction es generalizing texts with
  | nil =>
    obtain rfl := Option.some.inj h
    rfl
  | cons e es ih =>
    rw [List.mapM_cons, Option.bind_eq_bind, Option.bind_eq_some_iff] at h
    obtain ⟨first, hfirst, h⟩ := h
    rw [Option.bind_eq_bind, Option.bind_eq_some_iff] at h
    obtain ⟨rest, hrest, h⟩ := h
    obtain ⟨text, htext, rfl⟩ := Option.map_eq_some_iff.mp hfirst
    obtain rfl := Option.some.inj h
    rw [List.map_cons, ← ih hrest, ← readText?_eq_some_iff.mp htext]

/-- The texts of a section with different keys are exactly its entries. -/
private theorem readStrings?_perm {es : List (String × Value)} (hkeys : (es.map Prod.fst).Nodup)
    {t : TextTable} (h : readStrings? (.table es) = some t) :
    es.Perm (t.entries.map fun e => (e.1, .string e.2)) := by
  unfold readStrings? entriesOf? at h
  simp only [Option.bind_eq_bind, Option.bind_some] at h
  obtain ⟨texts, htexts, ht⟩ := Option.bind_eq_some_iff.mp h
  obtain rfl := Option.some.inj ht
  obtain rfl := eq_map_of_mapM_readText? htexts
  have hdistinct : (texts.map Prod.fst).Nodup := by
    rwa [List.map_map] at hkeys
  exact ((TextTable.ofList_perm hdistinct).map _).symm

/-! A document that is loaded. -/

/-- Every field is loaded on its own. Of a document that is loaded, with tables for its sections: a
key that no field has may be added at the root, in a section or in a new section, and changes
nothing; a field or a section that is taken out gets its default, which is that of an absent file,
and nothing else changes; and the texts are exactly the entries of their section. -/
theorem fields_load_independently {text : String} {doc : List (String × Value)} {c : Config}
    (hparsed : Toml.entries? text.toList = some doc) (hloads : ofText? text = some c)
    (htabular : Tabular doc) :
    (∀ (key : String) (n : Nat) (v : Value), (∀ s : Part, s.key ≠ key) →
        ofEntries? (doc.insertIdx n (key, v)) = some c) ∧
      (∀ s : Part, s ≠ .strings →
        (∀ (key : String) (n : Nat) (v : Value), (∀ f : Field, f.part = s → f.key ≠ key) →
          ofEntries? (within s.key (fun es => es.insertIdx n (key, v)) doc) = some c) ∧
        ∀ (es : List (String × Value)) (n : Nat), lookup s.key doc = none →
          (∀ f : Field, f.part = s → f.key ∉ es.map Prod.fst) →
          ofEntries? (doc.insertIdx n (s.key, .table es)) = some c) ∧
      (∀ f : Field, ofEntries? (within f.part.key (without f.key) doc) = some (f.reset c)) ∧
      (∀ s : Part, ofEntries? (without s.key doc) = some (s.reset c)) ∧
      (∀ es, lookup "strings" doc = some (.table es) →
        es.Perm (c.strings.entries.map fun e => (e.1, .string e.2))) ∧
      (lookup "strings" doc = none → c.strings = ({} : Config).strings) ∧
      ∀ (d : Disk) (path : String), d.hasPath path = false →
        loadFrom d path = .ok ({}, [.configMissing]) := by
  have hentries : ofEntries? doc = some c := by
    rwa [ofText?, hparsed, Option.bind_some] at hloads
  have htexts := ((ofEntries?_iff_shows htabular).mp hentries).2
  refine ⟨fun key n v hkey => ofEntries?_insertIdx htabular hentries hkey n v,
    fun s hs => ⟨fun key n v hkey => ofEntries?_within_insertIdx htabular hentries hs hkey n v,
      fun es n habsent hkeys => ofEntries?_insertIdx_section htabular hentries hs habsent hkeys n⟩,
    ofEntries?_without_field htabular hentries, ofEntries?_without_section htabular hentries,
    fun es hsection => ?_, fun hnone => ?_, fun d path habsent => ?_⟩
  · rw [hsection] at htexts
    have hkeys : (es.map Prod.fst).Nodup := by
      cases distinct_of_entries? hparsed with
      | table _ hvalues =>
        cases hvalues _ (mem_of_lookup hsection) with
        | table hkeys _ => exact hkeys
    exact readStrings?_perm hkeys htexts
  · rw [hnone] at htexts
    exact (Option.some.inj htexts).symm
  · rw [loadFrom, habsent]
    rfl

/-- Two fields, a key that none has, and a text. -/
def sampleText : String :=
  "[panel]\ninitial_user = 10\nx = 1\n\n[logging]\nfilter = \"debug\"\n\n[strings]\nq = \"Z\"\n"

def sampleEntries : List (String × Value) := [
  ("panel", .table [("initial_user", .integer 10), ("x", .integer 1)]),
  ("logging", .table [("filter", .string "debug")]),
  ("strings", .table [("q", .string "Z")])]

def sampleConfig : Config where
  panel := { initialUser := ⟨10⟩ }
  logging := { filter := some "debug" }
  strings := .ofList [("q", "Z")]

/-- The sample with a section of unknown keys in front, and without one of its fields. -/
theorem fields_load_independently_of_sampleText :
    Toml.entries? sampleText.toList = some sampleEntries ∧ ofText? sampleText = some sampleConfig ∧
      Tabular sampleEntries ∧
      ofEntries? (sampleEntries.insertIdx 0 ("settings", .table [("x", .boolean false)])) =
        some sampleConfig ∧
      ofEntries? [("panel", .table [("x", .integer 1)]),
          ("logging", .table [("filter", .string "debug")]),
          ("strings", .table [("q", .string "Z")])] =
        some { logging := { filter := some "debug" }, strings := .ofList [("q", "Z")] } := by
  have hparsed : Toml.entries? sampleText.toList = some sampleEntries := by
    -- The text is one that the writer gives, so it says what was written.
    have hten : Reads ['1', '0'] (.integer 10) := by
      have hdigits : Decimal.ofInt 10 = ['1', '0'] := Decimal.digits_eq_toDigits 10
      rw [← hdigits]
      exact reads_ofInt (by decide) (by decide)
    have hone : Reads ['1'] (.integer 1) := by
      have hdigits : Decimal.ofInt 1 = ['1'] := Decimal.digits_eq_toDigits 1
      rw [← hdigits]
      exact reads_ofInt (by decide) (by decide)
    have hshows : List.Forall₂ Section.Shows
        [⟨"panel", [("initial_user", ['1', '0']), ("x", ['1'])]⟩,
          ⟨"logging", [("filter", writeText "debug".toList)]⟩,
          ⟨"strings", [("q", writeText "Z".toList)]⟩]
        [("panel", [("initial_user", .integer 10), ("x", .integer 1)]),
          ("logging", [("filter", .string "debug")]), ("strings", [("q", .string "Z")])] := by
      refine .cons (shows_of_lines (by decide) ?_) (.cons (shows_of_lines (by decide) ?_)
        (.cons (shows_of_lines (by decide) ?_) .nil))
      · exact .cons ⟨rfl, hten⟩ (.cons ⟨rfl, hone⟩ .nil)
      · exact .cons ⟨rfl, reads_text "debug"⟩ .nil
      · exact .cons ⟨rfl, reads_text "Z"⟩ .nil
    exact entries?_writeSections hshows (by decide) (by decide)
  have hloads : ofText? sampleText = some sampleConfig := by
    rw [ofText?, hparsed]
    rfl
  have htabular : Tabular sampleEntries := by
    intro s v hv
    cases s with
    | panel | logging | strings => exact ⟨_, (Option.some.inj hv).symm⟩
    | settings => cases hv
  have hunknown : ∀ f : Field, f.key ≠ "x" := fun f => by cases f <;> decide
  obtain ⟨_, hsections, hfields, _⟩ := fields_load_independently hparsed hloads htabular
  refine ⟨hparsed, hloads, htabular, ?_, hfields .initialUser⟩
  refine (hsections .settings (by decide)).2 _ 0 rfl fun f _ hmem => ?_
  exact hunknown f (List.mem_singleton.mp hmem)

end Config

end TilePanel
