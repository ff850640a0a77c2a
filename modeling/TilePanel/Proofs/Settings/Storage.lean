import TilePanel.Settings.Store

/-!
What a write does to later reads: the key and the user written read back the new text, and every
other pair reads as before. This is proved for the memory store and for the database table, and
from both for any settings store whose write succeeds.
-/

namespace TilePanel

namespace MemoryEntry

theorem isFor_iff (entry : MemoryEntry) (key : String) (user : UserId) :
    entry.isFor key user = true ↔ entry.user = user ∧ entry.key = key := by
  simp [isFor]

end MemoryEntry

namespace MemoryStore

theorem read_write_self (s : MemoryStore) (key value : String) (user : UserId) :
    (s.write key value user).read key user = some value := by
  have hnew : (MemoryEntry.mk user key value).isFor key user = true :=
    (MemoryEntry.isFor_iff _ _ _).mpr ⟨rfl, rfl⟩
  unfold read write
  induction s.entries with
  | nil => simp [upsert, hnew]
  | cons e es ih =>
    by_cases h : e.isFor key user = true
    · simp [upsert, h, hnew]
    · simpa [upsert, h] using ih

theorem read_write_of_ne (s : MemoryStore) {key other value : String} {user owner : UserId}
    (hne : ¬(owner = user ∧ other = key)) :
    (s.write key value user).read other owner = s.read other owner := by
  have hnew : (MemoryEntry.mk user key value).isFor other owner = false := by
    rw [Bool.eq_false_iff]
    intro h
    obtain ⟨huser, hkey⟩ := (MemoryEntry.isFor_iff _ _ _).mp h
    exact hne ⟨huser.symm, hkey.symm⟩
  unfold read write
  induction s.entries with
  | nil => simp [upsert, hnew]
  | cons e es ih =>
    by_cases h : e.isFor key user = true
    · have hold : e.isFor other owner = false := by
        rw [Bool.eq_false_iff]
        intro h'
        obtain ⟨huser, hkey⟩ := (MemoryEntry.isFor_iff _ _ _).mp h
        obtain ⟨howner, hother⟩ := (MemoryEntry.isFor_iff _ _ _).mp h'
        exact hne ⟨howner.symm.trans huser, hother.symm.trans hkey⟩
      simp [upsert, h, hnew, hold]
    · by_cases h' : e.isFor other owner = true
      · simp [upsert, h, h']
      · simpa [upsert, h, h'] using ih

end MemoryStore

namespace Row

theorem isFor_iff (row : Row) (name : String) (user : UserId) :
    row.isFor name user = true ↔ row.user = user ∧ row.name = name := by
  simp [isFor]

private theorem isFor_self (row : Row) : row.isFor row.name row.user = true := by
  simp [isFor]

end Row

namespace SettingsTable

private theorem find_place_self (row : Row) (rows : List Row) :
    (place row rows).find? (fun r => r.isFor row.name row.user) = some row := by
  induction rows with
  | nil => simp [place, Row.isFor_self]
  | cons r rs ih =>
    by_cases h : r.isFor row.name row.user = true
    · simp [place, h, Row.isFor_self]
    · by_cases hb : r.isBefore row.name row.user = true
      · simpa [place, h, hb] using ih
      · simp [place, h, hb, Row.isFor_self]

private theorem find_place_of_ne (row : Row) (rows : List Row) {name : String} {user : UserId}
    (hne : ¬(user = row.user ∧ name = row.name)) :
    (place row rows).find? (fun r => r.isFor name user) =
      rows.find? (fun r => r.isFor name user) := by
  have hnew : row.isFor name user = false := by
    rw [Bool.eq_false_iff]
    intro h
    obtain ⟨huser, hname⟩ := (Row.isFor_iff _ _ _).mp h
    exact hne ⟨huser.symm, hname.symm⟩
  induction rows with
  | nil => simp [place, hnew]
  | cons r rs ih =>
    by_cases h : r.isFor row.name row.user = true
    · have hold : r.isFor name user = false := by
        rw [Bool.eq_false_iff]
        intro h'
        obtain ⟨hru, hrn⟩ := (Row.isFor_iff _ _ _).mp h
        obtain ⟨hu, hn⟩ := (Row.isFor_iff _ _ _).mp h'
        exact hne ⟨hu.symm.trans hru, hn.symm.trans hrn⟩
      simp [place, h, hnew, hold]
    · by_cases hb : r.isBefore row.name row.user = true
      · by_cases h' : r.isFor name user = true
        · simp [place, h, hb, h']
        · simpa [place, h, hb, h'] using ih
      · simp [place, h, hb, hnew]

theorem read_write_self (t : SettingsTable) (key value : String) (user : UserId) :
    (t.write key value user).read key user = .ok (some value) := by
  have hfound := find_place_self ⟨user, key, .text value⟩ t.rows
  simp [read, write, replace, hfound, Cell.asText]

theorem read_write_of_ne (t : SettingsTable) {key other value : String} {user owner : UserId}
    (hne : ¬(owner = user ∧ other = key)) :
    (t.write key value user).read other owner = t.read other owner := by
  have hfound := find_place_of_ne ⟨user, key, .text value⟩ t.rows hne
  simp [read, write, replace, hfound]

end SettingsTable

namespace SettingsStore

variable {s s' : SettingsStore} {key value : String} {user : UserId}

/-- A successful write is one of memory or of a table that is there. -/
theorem write_cases (h : s.write key value user = .ok s') :
    (∃ m, s = .memory m ∧ s' = .memory (m.write key value user)) ∨
      ∃ t, s = .database (some t) ∧ s' = .database (some (t.write key value user)) := by
  match s, h with
  | .memory m, h =>
    simp only [write, Except.ok.injEq] at h
    exact .inl ⟨m, rfl, h.symm⟩
  | .database (some t), h =>
    simp only [write, Except.ok.injEq] at h
    exact .inr ⟨t, rfl, h.symm⟩

theorem read_write_self (h : s.write key value user = .ok s') :
    s'.read key user = .ok (some value) := by
  obtain ⟨m, rfl, rfl⟩ | ⟨t, rfl, rfl⟩ := write_cases h
  · simp [read, MemoryStore.read_write_self]
  · exact t.read_write_self key value user

theorem read_write_of_ne (h : s.write key value user = .ok s') {other : String} {owner : UserId}
    (hne : ¬(owner = user ∧ other = key)) : s'.read other owner = s.read other owner := by
  obtain ⟨m, rfl, rfl⟩ | ⟨t, rfl, rfl⟩ := write_cases h
  · simp [read, m.read_write_of_ne hne]
  · exact t.read_write_of_ne hne

/-- An integer setting depends on the stored text alone. -/
theorem readInt_congr {other : String} {owner : UserId} (fallback : Int32)
    (h : s'.read other owner = s.read other owner) :
    s'.readInt other fallback owner = s.readInt other fallback owner := by
  simp [readInt, h]

end SettingsStore

end TilePanel
