import TilePanel.Proofs.Toml.Keys

/-!
Whole documents, read back. A written document is a list of lines, each of which is one statement or
blank; the statements build up one table after the other, field by field.
-/

namespace TilePanel.Toml

open TilePanel.Text

/-! Lines. -/

/-- Whether a text consists of some statements. A limit on the number of lines above the number of
characters is never reached. -/
def Yields (cs : List Char) (ss : List Statement) : Prop :=
  ∀ limit, cs.length < limit → statements? limit cs = some ss

private theorem yields_nil : Yields [] [] := by
  intro limit hlimit
  cases limit with
  | zero => cases hlimit
  | succ limit => rfl

private theorem endLine?_break (rest : List Char) : endLine? ('\n' :: rest) = some rest := by
  simp [endLine?, skipGaps, isGap, skipComment, lineBreak?]

/-- A line that holds a statement, or none, in front of others. -/
theorem Yields.line {rest : List Char} {ss : List Statement} (h : Yields rest ss)
    (line : List Char) {s : Option Statement}
    (hhead : skipGaps (line ++ '\n' :: rest) = line ++ '\n' :: rest)
    (hline : statement? (line ++ '\n' :: rest) = some (s, '\n' :: rest)) :
    Yields (line ++ '\n' :: rest) (s.toList ++ ss) := by
  intro limit hlimit
  cases limit with
  | zero => cases hlimit
  | succ limit =>
    have hrest : rest.length < limit := by
      simp only [List.length_append, List.length_cons] at hlimit
      omega
    unfold statements?
    rw [hhead]
    split
    · next hnil => simp at hnil
    · rw [hline]
      dsimp only
      rw [endLine?_break]
      dsimp only
      rw [h limit hrest]
      rfl

theorem Yields.blank {rest : List Char} {ss : List Statement} (h : Yields rest ss) :
    Yields ('\n' :: rest) ss :=
  h.line [] rfl rfl

private theorem isBare_of_forall {cs : List Char} (hne : cs ≠ [])
    (hbare : ∀ c ∈ cs, isBare c = true) : writeKey cs = cs := by
  have hall : (!cs.isEmpty && cs.all isBare) = true := by
    simp [hne, List.all_eq_true.mpr hbare]
  simp only [writeKey, hall, if_true]

/-- The line that opens a section. -/
theorem statement?_header {name : String} (hne : name.toList ≠ [])
    (hbare : ∀ c ∈ name.toList, isBare c = true) (rest : List Char) :
    statement? ('[' :: (writeKey name.toList ++ ']' :: '\n' :: rest)) =
      some (some (.table [name]), '\n' :: rest) := by
  have hpath : dottedKey? keyLimit (writeKey name.toList ++ ']' :: '\n' :: rest) =
      some ([name], ']' :: '\n' :: rest) := by
    have hclose := skipGaps_of_head (show isGap ']' = false by decide) ('\n' :: rest)
    have hkey := dottedKey?_writeKey 78 name.toList (show isBare ']' = false by decide)
      ('\n' :: rest) (by rw [hclose]; simp)
    rw [hclose, String.ofList_toList] at hkey
    exact hkey
  have hsingle : ∀ r, writeKey name.toList ++ ']' :: '\n' :: rest ≠ '[' :: r := by
    intro r h
    obtain ⟨c, cs, hname⟩ := List.exists_cons_of_ne_nil hne
    have hc : isBare c = true := hbare c (by rw [hname]; exact List.mem_cons_self)
    rw [isBare_of_forall hne hbare, hname] at h
    rw [(List.cons.inj h).1] at hc
    exact absurd hc (by decide)
  unfold statement?
  split
  · next h => cases h
  · next h => cases h
  · next h => cases h
  · next h => cases h
  · next r h => exact absurd (List.cons.inj h).2 (hsingle r)
  · next r _ h =>
    rw [← (List.cons.inj h).2, hpath]
    rfl
  · next hopen => exact absurd rfl (hopen _)

/-- The line of a key and its value. -/
theorem statement?_writeLine {key : String} {written : List Char} {v : Value}
    (hreads : Reads written v) (rest : List Char) :
    statement? (writeKey key.toList ++ ' ' :: '=' :: ' ' :: (written ++ '\n' :: rest)) =
      some (some (.assign [key] v), '\n' :: rest) := by
  have hkey : dottedKey? keyLimit
      (writeKey key.toList ++ ' ' :: '=' :: ' ' :: (written ++ '\n' :: rest)) =
      some ([key], '=' :: ' ' :: (written ++ '\n' :: rest)) := by
    have hequals : skipGaps (' ' :: '=' :: ' ' :: (written ++ '\n' :: rest)) =
        '=' :: ' ' :: (written ++ '\n' :: rest) := by
      rw [skipGaps_space]
      exact skipGaps_of_head (by decide) _
    have hread := dottedKey?_writeKey 78 key.toList (show isBare ' ' = false by decide)
      ('=' :: ' ' :: (written ++ '\n' :: rest)) (by rw [hequals]; simp)
    rw [hequals, String.ofList_toList] at hread
    exact hread
  have hpair : pair? (value? depthLimit)
      (writeKey key.toList ++ ' ' :: '=' :: ' ' :: (written ++ '\n' :: rest)) =
      some (([key], v), '\n' :: rest) := by
    unfold pair?
    rw [hkey]
    change (value? depthLimit (skipGaps (' ' :: (written ++ '\n' :: rest)))).map _ = _
    rw [hreads rest]
    rfl
  obtain ⟨c, r, hhead, hc⟩ := head_writeKey key.toList
  rw [hhead, List.cons_append] at hpair ⊢
  unfold statement?
  split
  · next h => cases h
  · next h => exact absurd (List.cons.inj h).1 (ne_of_test hc (by decide))
  · next h => exact absurd (List.cons.inj h).1 (ne_of_test hc (by decide))
  · next h => exact absurd (List.cons.inj h).1 (ne_of_test hc (by decide))
  · next h => exact absurd (List.cons.inj h).1 (ne_of_test hc (by decide))
  · next h => exact absurd (List.cons.inj h).1 (ne_of_test hc (by decide))
  · rw [hpair]
    rfl

/-! Tables. -/

namespace Entries

variable {key : String} {change : Option Node → Option Node} {es : Entries}

/-- Entries with other keys are passed over. -/
private theorem update_append (hfresh : ∀ e ∈ es, e.1 ≠ key) (rest : Entries) :
    update key change (es ++ rest) = (update key change rest).map fun found => es ++ found := by
  induction es with
  | nil => simp
  | cons e es ih =>
    have hrest := ih fun f hf => hfresh f (List.mem_cons_of_mem e hf)
    rw [List.cons_append, update, if_neg (hfresh e List.mem_cons_self), hrest, Option.map_map]
    rfl

private theorem update_of_fresh (hfresh : ∀ e ∈ es, e.1 ≠ key) :
    update key change es = (change none).map fun node => es ++ [(key, node)] := by
  have happend := @update_append key change es hfresh []
  rw [List.append_nil, update, Option.map_map] at happend
  exact happend

private theorem update_last (hfresh : ∀ e ∈ es, e.1 ≠ key) (node : Node) :
    update key change (es ++ [(key, node)]) =
      (change (some node)).map fun node' => es ++ [(key, node')] := by
  rw [update_append hfresh, update, if_pos rfl, Option.map_map]
  rfl

/-- A header with a new name opens a table at the end. -/
private theorem openTable_of_fresh (hfresh : ∀ e ∈ es, e.1 ≠ key) :
    openTable [key] es = some (es ++ [(key, .table .header [])]) := by
  rw [openTable, update_of_fresh hfresh]
  rfl

/-- A new key of the table that was opened last gets its value there. -/
private theorem assignIn_last {name : String} (hname : ∀ e ∈ es, e.1 ≠ name) {inner : Entries}
    (hkey : ∀ e ∈ inner, e.1 ≠ key) (v : Value) :
    assignIn v [key] [name] (es ++ [(name, .table .header inner)]) =
      some (es ++ [(name, .table .header (inner ++ [(key, .value v)]))]) := by
  have hinner : assign v [key] inner = some (inner ++ [(key, .value v)]) := by
    rw [assign, update_of_fresh hkey]
    rfl
  rw [assignIn, update_last hname]
  simp only [assignIn, hinner, Option.map_some]

end Entries

def fieldEntries (fields : List (String × Value)) : Entries :=
  fields.map fun f => (f.1, .value f.2)

theorem toValues_fieldEntries (fields : List (String × Value)) :
    Entries.toValues (fieldEntries fields) = fields := by
  induction fields with
  | nil => rfl
  | cons f fields ih =>
    change (f.1, f.2) :: Entries.toValues (fieldEntries fields) = _
    rw [ih]

/-- A section of a document that was read: its name, and its keys with their values. -/
abbrev Sheet := String × List (String × Value)

def sheetStatements (sheet : Sheet) : List Statement :=
  .table [sheet.1] :: sheet.2.map fun f => .assign [f.1] f.2

def sheetEntry (sheet : Sheet) : String × Node :=
  (sheet.1, .table .header (fieldEntries sheet.2))

private theorem foldlM_fields {es : Entries} {name : String} (hname : ∀ e ∈ es, e.1 ≠ name)
    {before fields : List (String × Value)}
    (hdistinct : ((before ++ fields).map Prod.fst).Nodup) :
    (fields.map fun f => Statement.assign [f.1] f.2).foldlM Build.add
        ⟨es ++ [(name, .table .header (fieldEntries before))], [name]⟩ =
      some ⟨es ++ [(name, .table .header (fieldEntries (before ++ fields)))], [name]⟩ := by
  induction fields generalizing before with
  | nil => rw [List.append_nil]; rfl
  | cons f fields ih =>
    have hshift : before ++ f :: fields = before ++ [f] ++ fields := by simp
    have hkey : ∀ e ∈ fieldEntries before, e.1 ≠ f.1 := by
      intro e he hsame
      obtain ⟨g, hg, rfl⟩ := List.mem_map.mp he
      rw [List.map_append, List.nodup_append] at hdistinct
      exact hdistinct.2.2 g.1 (List.mem_map_of_mem hg) f.1 (by simp) hsame
    have hadded : Build.add ⟨es ++ [(name, .table .header (fieldEntries before))], [name]⟩
        (.assign [f.1] f.2) =
        some ⟨es ++ [(name, .table .header (fieldEntries (before ++ [f])))], [name]⟩ := by
      rw [Build.add, Entries.assignIn_last hname hkey]
      simp [fieldEntries]
    rw [hshift] at hdistinct ⊢
    rw [List.map_cons, List.foldlM_cons, hadded]
    exact ih hdistinct

/-- Sections with different names, whose keys differ, become entries one after the other. -/
private theorem foldlM_sheets {done sheets : List Sheet} (path : List String)
    (hnames : ((done ++ sheets).map Prod.fst).Nodup)
    (hkeys : ∀ sheet ∈ sheets, (sheet.2.map Prod.fst).Nodup) :
    ∃ path', (sheets.flatMap sheetStatements).foldlM Build.add ⟨done.map sheetEntry, path⟩ =
      some ⟨(done ++ sheets).map sheetEntry, path'⟩ := by
  induction sheets generalizing done path with
  | nil =>
    refine ⟨path, ?_⟩
    rw [List.append_nil]
    rfl
  | cons sheet sheets ih =>
    have hshift : done ++ sheet :: sheets = done ++ [sheet] ++ sheets := by simp
    have hname : ∀ e ∈ done.map sheetEntry, e.1 ≠ sheet.1 := by
      intro e he hsame
      obtain ⟨other, hother, rfl⟩ := List.mem_map.mp he
      rw [List.map_append, List.nodup_append] at hnames
      exact hnames.2.2 other.1 (List.mem_map_of_mem hother) sheet.1 (by simp) hsame
    have hopened : Build.add ⟨done.map sheetEntry, path⟩ (.table [sheet.1]) =
        some ⟨done.map sheetEntry ++ [(sheet.1, .table .header [])], [sheet.1]⟩ := by
      rw [Build.add, Entries.openTable_of_fresh hname]
      rfl
    have hfields := @foldlM_fields _ _ hname [] sheet.2 (hkeys sheet List.mem_cons_self)
    have hdone : (done ++ [sheet]).map sheetEntry =
        done.map sheetEntry ++ [(sheet.1, .table .header (fieldEntries sheet.2))] := by
      rw [List.map_append]
      rfl
    rw [hshift] at hnames ⊢
    obtain ⟨path', hrest⟩ := ih [sheet.1] hnames
      fun other hother => hkeys other (List.mem_cons_of_mem _ hother)
    refine ⟨path', ?_⟩
    rw [List.flatMap_cons, sheetStatements, List.cons_append, List.foldlM_cons, hopened]
    change ((sheet.2.map fun f => Statement.assign [f.1] f.2) ++
      sheets.flatMap sheetStatements).foldlM Build.add _ = _
    rw [List.foldlM_append]
    change ((sheet.2.map fun f => Statement.assign [f.1] f.2).foldlM Build.add
      ⟨done.map sheetEntry ++ [(sheet.1, .table .header (fieldEntries []))], [sheet.1]⟩).bind _ = _
    rw [hfields, List.nil_append, ← hdone]
    exact hrest

/-! Documents. -/

/-- Whether a section is the written form of a sheet. Its name has to be bare. -/
structure Section.Shows (s : Section) (sheet : Sheet) : Prop where
  name : s.name = sheet.1
  named : s.name.toList ≠ []
  bare : ∀ c ∈ s.name.toList, isBare c = true
  lines : List.Forall₂ (fun line field => line.1 = field.1 ∧ Reads line.2 field.2) s.lines sheet.2

/-- The lines of a section are read as its assignments, in order. -/
theorem yields_lines {lines : List (String × List Char)} {fields : List (String × Value)}
    (hlines : List.Forall₂ (fun line field => line.1 = field.1 ∧ Reads line.2 field.2)
      lines fields) {rest : List Char} {ss : List Statement} (h : Yields rest ss) :
    Yields (lines.flatMap writeLine ++ rest)
      ((fields.map fun f => .assign [f.1] f.2) ++ ss) := by
  induction hlines with
  | nil => exact h
  | @cons line field lines fields hline _ ih =>
    obtain ⟨hkey, hreads⟩ := hline
    let later := lines.flatMap writeLine ++ rest
    let text := writeKey line.1.toList ++ ' ' :: '=' :: ' ' :: line.2
    have htext : (line :: lines).flatMap writeLine ++ rest = text ++ '\n' :: later := by
      simp [writeLine, text, later]
    have hstatement : statement? (text ++ '\n' :: later) =
        some (some (.assign [field.1] field.2), '\n' :: later) := by
      have hread := @statement?_writeLine line.1 _ _ hreads later
      rw [← hkey]
      simpa [text] using hread
    have hhead : skipGaps (text ++ '\n' :: later) = text ++ '\n' :: later := by
      obtain ⟨c, r, hfirst, hc⟩ := head_writeKey line.1.toList
      simp only [text, hfirst, List.cons_append]
      exact skipGaps_of_head (isGap_of_beginsKey hc) _
    rw [htext]
    exact ih.line text hhead hstatement

/-- A section is read as its header and its assignments. -/
theorem yields_section {s : Section} {sheet : Sheet} (hs : s.Shows sheet) {rest : List Char}
    {ss : List Statement} (h : Yields rest ss) :
    Yields (writeSection s ++ rest) (sheetStatements sheet ++ ss) := by
  let later := s.lines.flatMap writeLine ++ rest
  let text := '[' :: (writeKey s.name.toList ++ [']'])
  have htext : writeSection s ++ rest = text ++ '\n' :: later := by
    simp [writeSection, text, later]
  have hstatement : statement? (text ++ '\n' :: later) =
      some (some (.table [sheet.1]), '\n' :: later) := by
    have hread := statement?_header hs.named hs.bare later
    rw [← hs.name]
    simpa [text] using hread
  rw [htext]
  exact (yields_lines hs.lines h).line text (skipGaps_of_head (by decide) _) hstatement

theorem yields_sections {sections : List Section} {sheets : List Sheet}
    (h : List.Forall₂ Section.Shows sections sheets) :
    Yields (writeSections sections) (sheets.flatMap sheetStatements) := by
  induction h with
  | nil => exact yields_nil
  | @cons s sheet sections sheets hs hrest ih =>
    rw [List.flatMap_cons]
    cases hrest with
    | nil =>
      have hlast := yields_section hs yields_nil
      rwa [List.append_nil] at hlast
    | cons _ _ => exact yields_section hs ih.blank

/-- Sections become tables, in order. -/
theorem toValues_sheets (sheets : List Sheet) :
    Entries.toValues (sheets.map sheetEntry) = sheets.map fun s => (s.1, .table s.2) := by
  induction sheets with
  | nil => rfl
  | cons sheet sheets ih =>
    have htable : (sheetEntry sheet).2.toValue = .table sheet.2 := by
      rw [sheetEntry, Node.toValue, toValues_fieldEntries]
    rw [List.map_cons, List.map_cons, ← ih, ← htable]
    rfl

/-- The entries of a text that does not begin with a byte order mark. -/
private theorem entries?_of_head {cs : List Char} {ss : List Statement}
    (hhead : ∀ c, cs.head? = some c → c.toNat ≠ 0xFEFF) (h : Yields cs ss) :
    entries? cs = (ss.foldlM Build.add {}).map fun b => b.entries.toValues := by
  have hstatements := h _ (Nat.lt_succ_self _)
  cases cs with
  | nil =>
    unfold entries?
    dsimp only
    rw [hstatements]
    rfl
  | cons c r =>
    unfold entries?
    dsimp only
    rw [if_neg (hhead c rfl), hstatements]
    rfl

private theorem head_writeSections (sections : List Section) :
    ∀ c, (writeSections sections).head? = some c → c = '[' := by
  intro c hc
  match sections with
  | [] => cases hc
  | [_] => exact (Option.some.inj hc).symm
  | _ :: _ :: _ => exact (Option.some.inj hc).symm

/-- A written document is read back. -/
theorem entries?_writeSections {sections : List Section} {sheets : List Sheet}
    (h : List.Forall₂ Section.Shows sections sheets) (hnames : (sheets.map Prod.fst).Nodup)
    (hkeys : ∀ sheet ∈ sheets, (sheet.2.map Prod.fst).Nodup) :
    entries? (writeSections sections) = some (sheets.map fun s => (s.1, .table s.2)) := by
  have hhead : ∀ c, (writeSections sections).head? = some c → c.toNat ≠ 0xFEFF := by
    intro c hc
    rw [head_writeSections sections c hc]
    decide
  obtain ⟨path, hbuilt⟩ := @foldlM_sheets [] sheets [] hnames hkeys
  rw [List.map_nil, List.nil_append] at hbuilt
  rw [entries?_of_head hhead (yields_sections h), hbuilt, Option.map_some, toValues_sheets]

end TilePanel.Toml
