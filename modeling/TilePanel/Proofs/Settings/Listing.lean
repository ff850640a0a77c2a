import Mathlib.Data.List.Nodup
import TilePanel.Proofs.Settings.Storage

/-!
A listing is in the order of the keys, names no key twice, and says what the reads say. So two
stores that read alike list alike, whatever they look like inside: a memory store and a table mirror
each other from the beginning on.
-/

namespace TilePanel

namespace Text

/-- Whether entries stand in the order of their keys, without a key that stands twice. -/
def Ascending {α : Type} (entries : List (String × α)) : Prop :=
  entries.Pairwise fun a b => precedes a.1 b.1 = true

variable {α : Type}

/-- Entries in order are determined by what they say. -/
theorem Ascending.ext {es es' : List (String × α)} (h : Ascending es) (h' : Ascending es')
    (hmem : ∀ e, e ∈ es ↔ e ∈ es') : es = es' := by
  have hdistinct : ∀ {es : List (String × α)}, Ascending es → es.Nodup := by
    intro es h
    refine h.imp fun {a b} hab hsame => ?_
    rw [hsame, precedes_irrefl] at hab
    cases hab
  refine List.Perm.eq_of_pairwise (fun a b _ _ hab hba => ?_) h h'
    ((List.perm_ext_iff_of_nodup (hdistinct h) (hdistinct h')).mpr hmem)
  have hloop := precedes_trans hab hba
  rw [precedes_irrefl] at hloop
  cases hloop

private theorem perm_insertByKey (entry : String × α) (es : List (String × α)) :
    (insertByKey entry es).Perm (entry :: es) := by
  induction es with
  | nil => exact .refl _
  | cons e rest ih =>
    rw [insertByKey]
    split
    · exact (ih.cons e).trans (.swap entry e rest)
    · exact .refl _

private theorem perm_sortByKey (es : List (String × α)) : (sortByKey es).Perm es := by
  induction es with
  | nil => exact .refl _
  | cons e rest ih => exact (perm_insertByKey e _).trans (ih.cons e)

private theorem ascending_insertByKey {entry : String × α} {es : List (String × α)}
    (h : Ascending es) (hnew : ∀ e ∈ es, e.1 ≠ entry.1) : Ascending (insertByKey entry es) := by
  induction es with
  | nil => exact List.pairwise_singleton ..
  | cons e rest ih =>
    obtain ⟨hfirst, hrest⟩ := List.pairwise_cons.mp h
    rw [insertByKey]
    split
    · next hbefore =>
      refine List.pairwise_cons.mpr ⟨?_, ih hrest fun f hf => hnew f (List.mem_cons_of_mem _ hf)⟩
      intro f hf
      rcases List.mem_cons.mp ((perm_insertByKey entry rest).mem_iff.mp hf) with rfl | hf
      · exact hbefore
      · exact hfirst f hf
    · next hnot =>
      have hentry : precedes entry.1 e.1 = true :=
        precedes_of_ne (hnew e List.mem_cons_self) (Bool.eq_false_iff.mpr hnot)
      refine List.pairwise_cons.mpr ⟨?_, h⟩
      intro f hf
      rcases List.mem_cons.mp hf with rfl | hf
      · exact hentry
      · exact precedes_trans hentry (hfirst f hf)

/-- Entries with different keys are sorted strictly. -/
theorem ascending_sortByKey {es : List (String × α)} (h : (es.map Prod.fst).Nodup) :
    Ascending (sortByKey es) := by
  induction es with
  | nil => exact .nil
  | cons e rest ih =>
    obtain ⟨hnew, hrest⟩ := List.nodup_cons.mp h
    refine ascending_insertByKey (ih hrest) fun f hf hsame => hnew ?_
    rw [← hsame]
    exact List.mem_map_of_mem ((perm_sortByKey rest).mem_iff.mp hf)

end Text

/-- Searching finds an element that alone passes a test. -/
private theorem find?_eq_some_of_unique {α : Type} {p : α → Bool} {l : List α} {a : α}
    (hmem : a ∈ l)
    (hp : p a = true) (hunique : ∀ b ∈ l, p b = true → b = a) : l.find? p = some a := by
  obtain ⟨b, hfind⟩ := Option.isSome_iff_exists.mp (List.find?_isSome.mpr ⟨a, hmem, hp⟩)
  rw [hfind, hunique b (List.mem_of_find?_eq_some hfind) (List.find?_some hfind)]

def MemoryEntry.place (entry : MemoryEntry) : UserId × String :=
  (entry.user, entry.key)

namespace MemoryStore

/-- Whether no two entries are for the same user and key. -/
def Keyed (s : MemoryStore) : Prop :=
  (s.entries.map MemoryEntry.place).Nodup

private theorem mem_of_place_mem_upsert {key value : String} {user : UserId} {es : List MemoryEntry}
    {place : UserId × String} (h : place ∈ (upsert key value user es).map MemoryEntry.place) :
    place = (user, key) ∨ place ∈ es.map MemoryEntry.place := by
  induction es with
  | nil => exact .inl (List.mem_singleton.mp h)
  | cons e rest ih =>
    rw [upsert] at h
    split at h
    · rcases List.mem_cons.mp h with rfl | h
      · exact .inl rfl
      · exact .inr (List.mem_cons_of_mem _ h)
    · rcases List.mem_cons.mp h with rfl | h
      · exact .inr List.mem_cons_self
      · exact (ih h).imp_right (List.mem_cons_of_mem _)

/-- A write takes the place of the entry that was there for the same user and key. -/
theorem Keyed.write {s : MemoryStore} (h : s.Keyed) (key value : String) (user : UserId) :
    (s.write key value user).Keyed := by
  unfold Keyed MemoryStore.write at *
  revert h
  induction s.entries with
  | nil => exact fun _ => List.nodup_singleton _
  | cons e rest ih =>
    intro h
    obtain ⟨hnew, hrest⟩ := List.nodup_cons.mp h
    rw [upsert]
    split
    · next hfor =>
      obtain ⟨rfl, rfl⟩ := (e.isFor_iff key user).mp hfor
      exact h
    · next hfor =>
      refine List.nodup_cons.mpr ⟨fun hmem => ?_, ih hrest⟩
      rcases mem_of_place_mem_upsert hmem with hsame | hmem
      · exact hfor ((e.isFor_iff key user).mpr (Prod.mk.inj hsame))
      · exact hnew hmem

/-- Reading finds the entry that is for a user and a key. -/
theorem Keyed.read_eq_some {s : MemoryStore} (h : s.Keyed) (key value : String) (user : UserId) :
    s.read key user = some value ↔ ⟨user, key, value⟩ ∈ s.entries := by
  constructor
  · intro hread
    obtain ⟨e, hfind, rfl⟩ := Option.map_eq_some_iff.mp hread
    have hfor : e.isFor key user = true :=
      List.find?_some (p := fun e : MemoryEntry => e.isFor key user) hfind
    obtain ⟨rfl, rfl⟩ := (e.isFor_iff key user).mp hfor
    exact List.mem_of_find?_eq_some hfind
  · intro hmem
    have hfind : s.entries.find? (fun e => e.isFor key user) = some ⟨user, key, value⟩ := by
      refine find?_eq_some_of_unique hmem (by simp [MemoryEntry.isFor]) fun e he hfor => ?_
      obtain ⟨huser, hkey⟩ := (e.isFor_iff key user).mp hfor
      exact List.inj_on_of_nodup_map h he hmem (Prod.ext huser hkey)
    rw [read, hfind]
    rfl

/-- The entries that are listed are those that can be read. -/
theorem Keyed.mem_list {s : MemoryStore} (h : s.Keyed) (user : UserId) (e : String × String) :
    e ∈ s.list user ↔ s.read e.1 user = some e.2 := by
  rw [h.read_eq_some, list, (Text.perm_sortByKey _).mem_iff, List.mem_map]
  constructor
  · rintro ⟨entry, hentry, rfl⟩
    obtain ⟨hmem, huser⟩ := List.mem_filter.mp hentry
    obtain rfl := beq_iff_eq.mp huser
    exact hmem
  · intro hmem
    exact ⟨_, List.mem_filter.mpr ⟨hmem, beq_self_eq_true user⟩, rfl⟩

theorem Keyed.ascending_list {s : MemoryStore} (h : s.Keyed) (user : UserId) :
    Text.Ascending (s.list user) := by
  refine Text.ascending_sortByKey ?_
  rw [List.map_map]
  refine (List.Nodup.of_map (fun key => (user, key)) ?_)
  rw [List.map_map]
  have hplaces : (s.entries.filter fun e => e.user == user).map
      ((fun key => (user, key)) ∘ (Prod.fst ∘ fun e => (e.key, e.value))) =
      (s.entries.filter fun e => e.user == user).map MemoryEntry.place := by
    refine List.map_congr_left fun e he => ?_
    have huser : e.user = user := beq_iff_eq.mp (List.mem_filter.mp he).2
    exact Prod.ext huser.symm rfl
  rw [hplaces]
  exact h.sublist (List.filter_sublist.map _)

end MemoryStore

namespace Row

def Before (r s : Row) : Prop :=
  r.isBefore s.name s.user = true

theorem before_iff (r s : Row) :
    r.Before s ↔ r.user.id < s.user.id ∨ r.user = s.user ∧ Text.precedes r.name s.name = true := by
  simp [Before, isBefore]

theorem Before.trans {r s t : Row} (h : r.Before s) (h' : s.Before t) : r.Before t := by
  rw [before_iff] at *
  rcases h with h | ⟨huser, hname⟩
  · rcases h' with h' | ⟨huser', _⟩
    · exact .inl (Int32.lt_trans h h')
    · exact .inl (huser' ▸ h)
  · rcases h' with h' | ⟨huser', hname'⟩
    · exact .inl (huser ▸ h')
    · exact .inr ⟨huser.trans huser', Text.precedes_trans hname hname'⟩

/-- Of two rows with different places one comes before the other. -/
theorem before_of_not {r s : Row} (hplace : ¬r.isFor s.name s.user = true) (h : ¬r.Before s) :
    s.Before r := by
  rw [before_iff] at *
  rw [isFor_iff] at hplace
  by_cases huser : r.user = s.user
  · refine .inr ⟨huser.symm, Text.precedes_of_ne (fun hname => hplace ⟨huser, hname⟩) ?_⟩
    exact Bool.eq_false_iff.mpr fun hname => h (.inr ⟨huser, hname⟩)
  · left
    have hle : ¬r.user.id < s.user.id := fun hlt => h (.inl hlt)
    rw [Int32.lt_iff_toInt_lt] at hle ⊢
    have hne : r.user.id.toInt ≠ s.user.id.toInt := by
      intro hsame
      have hid := Int32.toInt_inj.mp hsame
      cases hr : r.user
      cases hs : s.user
      rw [hr, hs] at huser hid
      exact huser (congrArg UserId.mk hid)
    omega

end Row

def Row.said (row : Row) : String × String :=
  (row.name, match row.cell with | .text value => value | _ => "")

namespace SettingsTable

/-- Whether the rows are in order, without a place that is taken twice, and hold texts only. -/
structure Tidy (t : SettingsTable) : Prop where
  ordered : t.rows.Pairwise Row.Before
  texts : ∀ r ∈ t.rows, r.cell = .text r.said.2

private theorem mem_of_mem_place {row r : Row} {rows : List Row} (h : r ∈ place row rows) :
    r = row ∨ r ∈ rows := by
  induction rows with
  | nil => exact .inl (List.mem_singleton.mp h)
  | cons s rest ih =>
    rw [place] at h
    split at h
    · exact (List.mem_cons.mp h).imp_right (List.mem_cons_of_mem _)
    · split at h
      · rcases List.mem_cons.mp h with rfl | h
        · exact .inr List.mem_cons_self
        · exact (ih h).imp_right (List.mem_cons_of_mem _)
      · exact List.mem_cons.mp h

/-- A row is put in front of the first one that it comes before. -/
theorem ordered_place {row : Row} {rows : List Row} (h : rows.Pairwise Row.Before) :
    (place row rows).Pairwise Row.Before := by
  induction rows with
  | nil => exact List.pairwise_singleton ..
  | cons r rest ih =>
    obtain ⟨hfirst, hrest⟩ := List.pairwise_cons.mp h
    rw [place]
    split
    · next hfor =>
      obtain ⟨huser, hname⟩ := (r.isFor_iff row.name row.user).mp hfor
      refine List.pairwise_cons.mpr ⟨fun s hs => ?_, hrest⟩
      have hbefore := (r.before_iff s).mp (hfirst s hs)
      rw [huser, hname] at hbefore
      exact (row.before_iff s).mpr hbefore
    · next hplace =>
      split
      · next hbefore =>
        refine List.pairwise_cons.mpr ⟨fun s hs => ?_, ih hrest⟩
        rcases mem_of_mem_place hs with rfl | hs
        · exact hbefore
        · exact hfirst s hs
      · next hnot =>
        have hrow : row.Before r := Row.before_of_not hplace hnot
        refine List.pairwise_cons.mpr ⟨fun s hs => ?_, h⟩
        rcases List.mem_cons.mp hs with rfl | hs
        · exact hrow
        · exact hrow.trans (hfirst s hs)

theorem Tidy.write {t : SettingsTable} (h : t.Tidy) (key value : String) (user : UserId) :
    (t.write key value user).Tidy := by
  refine ⟨ordered_place h.ordered, fun r hr => ?_⟩
  rcases mem_of_mem_place hr with rfl | hr
  · rfl
  · exact h.texts r hr

theorem entry_of_text {r : Row} (h : r.cell = .text r.said.2) : entry r = .ok r.said := by
  rw [entry, h]
  rfl

/-- The rows of a user are listed as they stand in the table, since all of them hold texts. -/
theorem Tidy.list_eq {t : SettingsTable} (h : t.Tidy) (user : UserId) :
    t.list user = .ok ((t.rows.filter fun r => r.user == user).map Row.said) := by
  have hlist : ∀ rows : List Row, (∀ r ∈ rows, r.cell = .text r.said.2) →
      rows.mapM entry = .ok (rows.map Row.said) := by
    intro rows htexts
    induction rows with
    | nil => rfl
    | cons r rest ih =>
      rw [List.mapM_cons, entry_of_text (htexts r List.mem_cons_self),
        ih fun s hs => htexts s (List.mem_cons_of_mem _ hs)]
      rfl
  exact hlist _ fun r hr => h.texts r (List.mem_filter.mp hr).1

theorem Tidy.ascending {t : SettingsTable} (h : t.Tidy) (user : UserId) :
    Text.Ascending ((t.rows.filter fun r => r.user == user).map Row.said) := by
  refine List.pairwise_map.mpr ((h.ordered.filter _).imp_of_mem fun {r s} hr hs hbefore => ?_)
  have hruser : r.user = user := beq_iff_eq.mp (List.mem_filter.mp hr).2
  have hsuser : s.user = user := beq_iff_eq.mp (List.mem_filter.mp hs).2
  rcases (r.before_iff s).mp hbefore with hlt | ⟨_, hname⟩
  · rw [hruser, hsuser, Int32.lt_iff_toInt_lt] at hlt
    exact absurd hlt (Int.lt_irrefl _)
  · exact hname

/-- Reading finds the row that is for a user and a key. -/
theorem Tidy.read_eq_ok {t : SettingsTable} (h : t.Tidy) (key value : String) (user : UserId) :
    t.read key user = .ok (some value) ↔ ⟨user, key, .text value⟩ ∈ t.rows := by
  have hplaces : (t.rows.map fun r => (r.user, r.name)).Nodup := by
    refine List.pairwise_map.mpr (h.ordered.imp fun {r s} hbefore hsame => ?_)
    obtain ⟨huser, hname⟩ := Prod.mk.inj hsame
    rw [Row.before_iff, huser, hname, Text.precedes_irrefl, Int32.lt_iff_toInt_lt] at hbefore
    simp at hbefore
  constructor
  · intro hread
    unfold read at hread
    cases hfind : t.rows.find? (fun r => r.isFor key user) with
    | none => simp [hfind] at hread
    | some r =>
      have hfor : r.isFor key user = true :=
        List.find?_some (p := fun r : Row => r.isFor key user) hfind
      have hmem := List.mem_of_find?_eq_some hfind
      obtain ⟨rfl, rfl⟩ := (r.isFor_iff key user).mp hfor
      simp only [hfind, h.texts r hmem, Cell.asText, Except.ok.injEq, Option.some.injEq] at hread
      rw [← hread, ← h.texts r hmem]
      exact hmem
  · intro hmem
    have hfind : t.rows.find? (fun r => r.isFor key user) = some ⟨user, key, .text value⟩ := by
      refine find?_eq_some_of_unique hmem (by simp [Row.isFor]) fun r hr hfor => ?_
      obtain ⟨huser, hname⟩ := (r.isFor_iff key user).mp hfor
      exact List.inj_on_of_nodup_map hplaces hr hmem (Prod.ext huser hname)
    simp [read, hfind, Cell.asText]

/-- The entries that are listed are those that can be read. -/
theorem Tidy.mem_said {t : SettingsTable} (h : t.Tidy) (user : UserId) (e : String × String) :
    e ∈ (t.rows.filter fun r => r.user == user).map Row.said ↔
      t.read e.1 user = .ok (some e.2) := by
  rw [h.read_eq_ok, List.mem_map]
  constructor
  · rintro ⟨r, hr, rfl⟩
    obtain ⟨hmem, huser⟩ := List.mem_filter.mp hr
    obtain rfl := beq_iff_eq.mp huser
    have hcell := h.texts r hmem
    rw [← hcell]
    exact hmem
  · intro hmem
    exact ⟨_, List.mem_filter.mpr ⟨hmem, beq_self_eq_true user⟩, rfl⟩

end SettingsTable

/-- A memory store and a table that were written alike from the beginning. -/
structure Mirrors (m : MemoryStore) (t : SettingsTable) : Prop where
  keyed : m.Keyed
  tidy : t.Tidy
  read : ∀ key user, t.read key user = .ok (m.read key user)

namespace Mirrors

variable {m : MemoryStore} {t : SettingsTable}

theorem empty : Mirrors {} {} :=
  ⟨.nil, ⟨.nil, by simp⟩, fun _ _ => rfl⟩

theorem write (h : Mirrors m t) (key value : String) (user : UserId) :
    Mirrors (m.write key value user) (t.write key value user) := by
  refine ⟨h.keyed.write key value user, h.tidy.write key value user, fun other owner => ?_⟩
  by_cases hsame : owner = user ∧ other = key
  · obtain ⟨rfl, rfl⟩ := hsame
    rw [t.read_write_self, m.read_write_self]
  · rw [t.read_write_of_ne hsame, m.read_write_of_ne hsame]
    exact h.read other owner

/-- Both list the same, in the same order. -/
theorem list (h : Mirrors m t) (user : UserId) : t.list user = .ok (m.list user) := by
  rw [h.tidy.list_eq]
  refine congrArg Except.ok ((h.tidy.ascending user).ext (h.keyed.ascending_list user) fun e => ?_)
  rw [h.tidy.mem_said, h.keyed.mem_list, h.read]
  simp

end Mirrors

namespace SettingsStore

/-- Two stores that nobody can tell apart, one in memory and one in a database. -/
def Mirrored (s s' : SettingsStore) : Prop :=
  ∃ m t, s = .memory m ∧ s' = .database (some t) ∧ Mirrors m t

namespace Mirrored

variable {s s' : SettingsStore}

theorem empty : Mirrored (.memory {}) (.database (some {})) :=
  ⟨_, _, rfl, rfl, .empty⟩

theorem read (h : Mirrored s s') (key : String) (user : UserId) :
    s'.read key user = s.read key user := by
  obtain ⟨m, t, rfl, rfl, hmirrors⟩ := h
  exact hmirrors.read key user

theorem readInt (h : Mirrored s s') (key : String) (fallback : Int32) (user : UserId) :
    s'.readInt key fallback user = s.readInt key fallback user :=
  readInt_congr fallback (h.read key user)

theorem list (h : Mirrored s s') (user : UserId) : s'.list user = s.list user := by
  obtain ⟨m, t, rfl, rfl, hmirrors⟩ := h
  exact hmirrors.list user

/-- Both take every write. -/
theorem write (h : Mirrored s s') (key value : String) (user : UserId) :
    ∃ r r', s.write key value user = .ok r ∧ s'.write key value user = .ok r' ∧
      Mirrored r r' := by
  obtain ⟨m, t, rfl, rfl, hmirrors⟩ := h
  exact ⟨_, _, rfl, rfl, _, _, rfl, rfl, hmirrors.write key value user⟩

end Mirrored

end SettingsStore

end TilePanel
