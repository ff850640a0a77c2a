import Mathlib.Data.List.Induction
import TilePanel.Proofs.Settings.Listing

/-!
Many writes in a row. Of a key and a user only the last write counts, a pair that is not written
reads as before, and a store that took one write takes all that follow. What the writes leave is
listed in the order of the keys, each key once, with the text that it reads.
-/

namespace TilePanel

structure Write where
  key : String
  value : String
  user : UserId
deriving DecidableEq, Repr

namespace Write

def isFor (w : Write) (key : String) (user : UserId) : Bool :=
  w.user == user && w.key == key

theorem isFor_iff (w : Write) (key : String) (user : UserId) :
    w.isFor key user = true ↔ w.user = user ∧ w.key = key := by
  simp [isFor]

end Write

def lastWrite? (key : String) (user : UserId) (writes : List Write) : Option String :=
  (writes.reverse.find? fun w => w.isFor key user).map Write.value

theorem lastWrite?_append_self (w : Write) (writes : List Write) :
    lastWrite? w.key w.user (writes ++ [w]) = some w.value := by
  have hlast : w.isFor w.key w.user = true := (w.isFor_iff _ _).mpr ⟨rfl, rfl⟩
  simp [lastWrite?, hlast]

theorem lastWrite?_append_of_ne {w : Write} {key : String} {user : UserId}
    (hne : w.isFor key user = false) (writes : List Write) :
    lastWrite? key user (writes ++ [w]) = lastWrite? key user writes := by
  simp [lastWrite?, hne]

theorem lastWrite?_eq_none_iff {key : String} {user : UserId} {writes : List Write} :
    lastWrite? key user writes = none ↔ ∀ w ∈ writes, w.isFor key user = false := by
  simp [lastWrite?]

namespace SettingsStore

variable {s s' : SettingsStore} {key : String} {user : UserId} {writes : List Write}

/-- Whether a store takes writes. One that does not refuses all of them. -/
def isWritable : SettingsStore → Bool
  | memory _ | database (some _) => true
  | database none | readOnly _ | failing _ => false

theorem write_of_isWritable (h : s.isWritable = true) (key value : String) (user : UserId) :
    ∃ after, s.write key value user = .ok after ∧ after.isWritable = true := by
  match s, h with
  | memory m, _ => exact ⟨_, rfl, rfl⟩
  | database (some t), _ => exact ⟨_, rfl, rfl⟩

theorem write_of_not_isWritable (h : s.isWritable = false) (key value : String) (user : UserId) :
    ∃ cause, s.write key value user = .error cause := by
  match s, h with
  | database none, _ | readOnly _, _ | failing _, _ => exact ⟨_, rfl⟩

def writeAll (s : SettingsStore) (writes : List Write) : Except Error SettingsStore :=
  writes.foldlM (fun s w => s.write w.key w.value w.user) s

theorem writeAll_cons (s : SettingsStore) (w : Write) (writes : List Write) :
    s.writeAll (w :: writes) =
      (s.write w.key w.value w.user).bind fun between => between.writeAll writes := rfl

theorem writeAll_append (s : SettingsStore) (writes later : List Write) :
    s.writeAll (writes ++ later) =
      (s.writeAll writes).bind fun between => between.writeAll later := by
  unfold writeAll
  rw [List.foldlM_append]
  rfl

/-- Writes that are taken, followed by others that are taken. -/
theorem writeAll_trans {between : SettingsStore} {later : List Write}
    (h : s.writeAll writes = .ok between) (h' : between.writeAll later = .ok s') :
    s.writeAll (writes ++ later) = .ok s' := by
  rw [writeAll_append, h]
  exact h'

private theorem writeAll_append_singleton {w : Write} (h : s.writeAll (writes ++ [w]) = .ok s') :
    ∃ between, s.writeAll writes = .ok between ∧
      between.write w.key w.value w.user = .ok s' := by
  rw [writeAll_append] at h
  cases hfirst : s.writeAll writes with
  | error cause =>
    rw [hfirst] at h
    cases h
  | ok between =>
    refine ⟨between, rfl, ?_⟩
    rw [hfirst] at h
    change (between.write w.key w.value w.user).bind (fun after => .ok after) = .ok s' at h
    cases hwrite : between.write w.key w.value w.user with
    | error cause =>
      rw [hwrite] at h
      cases h
    | ok after =>
      rw [hwrite] at h
      exact h

/-- What every write that is taken keeps, any number of them keep. -/
theorem writeAll_keeps {P : SettingsStore → Prop}
    (hwrite : ∀ {s key value user s'}, P s → s.write key value user = .ok s' → P s')
    (h : s.writeAll writes = .ok s') (hs : P s) : P s' := by
  induction writes using List.reverseRecOn generalizing s' with
  | nil =>
    obtain rfl := Except.ok.inj h
    exact hs
  | append_singleton writes w ih =>
    obtain ⟨between, hfirst, hlast⟩ := writeAll_append_singleton h
    exact hwrite (ih hfirst) hlast

/-- The last of the writes for a key and a user is what they read, and without one they read what
they read before. -/
theorem read_writeAll (h : s.writeAll writes = .ok s') (key : String) (user : UserId) :
    s'.read key user = match lastWrite? key user writes with
      | some value => .ok (some value)
      | none => s.read key user := by
  induction writes using List.reverseRecOn generalizing s' with
  | nil =>
    obtain rfl := Except.ok.inj h
    rfl
  | append_singleton writes w ih =>
    obtain ⟨between, hfirst, hlast⟩ := writeAll_append_singleton h
    cases hw : w.isFor key user with
    | true =>
      obtain ⟨rfl, rfl⟩ := (w.isFor_iff key user).mp hw
      rw [lastWrite?_append_self]
      exact read_write_self hlast
    | false =>
      have hne : ¬(user = w.user ∧ key = w.key) := by
        rintro ⟨rfl, rfl⟩
        rw [(w.isFor_iff _ _).mpr ⟨rfl, rfl⟩] at hw
        cases hw
      rw [lastWrite?_append_of_ne hw, read_write_of_ne hlast hne]
      exact ih hfirst

theorem read_writeAll_of_unwritten (h : s.writeAll writes = .ok s')
    (hunwritten : ∀ w ∈ writes, w.isFor key user = false) :
    s'.read key user = s.read key user := by
  rw [read_writeAll h, lastWrite?_eq_none_iff.mpr hunwritten]

/-- Whether a store has no two texts for one key and user, and nothing but texts. -/
def Tidy : SettingsStore → Prop
  | memory m => m.Keyed
  | database (some t) | readOnly t => t.Tidy
  | database none | failing _ => False

namespace Tidy

theorem write {value : String} (hs : s.Tidy) (h : s.write key value user = .ok s') : s'.Tidy := by
  obtain ⟨m, rfl, rfl⟩ | ⟨t, rfl, rfl⟩ := write_cases h
  · exact MemoryStore.Keyed.write hs key value user
  · exact SettingsTable.Tidy.write hs key value user

theorem writeAll (hs : s.Tidy) (h : s.writeAll writes = .ok s') : s'.Tidy :=
  writeAll_keeps Tidy.write h hs

/-- A listing stands in the order of its keys and says exactly what the reads say. -/
theorem list (hs : s.Tidy) (user : UserId) :
    ∃ entries, s.list user = .ok entries ∧ Text.Ascending entries ∧
      ∀ e, e ∈ entries ↔ s.read e.1 user = .ok (some e.2) := by
  match s, hs with
  | memory m, hs =>
    refine ⟨m.list user, rfl, MemoryStore.Keyed.ascending_list hs user, fun e => ?_⟩
    rw [MemoryStore.Keyed.mem_list hs, SettingsStore.read, Except.ok.injEq]
  | database (some t), hs | readOnly t, hs =>
    exact ⟨_, SettingsTable.Tidy.list_eq hs user, SettingsTable.Tidy.ascending hs user,
      SettingsTable.Tidy.mem_said hs user⟩

end Tidy

end SettingsStore

theorem Text.Ascending.keys_nodup {α : Type} {entries : List (String × α)}
    (h : Text.Ascending entries) : (entries.map Prod.fst).Nodup := by
  refine List.pairwise_map.mpr (h.imp fun {a b} hab hsame => ?_)
  rw [hsame, Text.precedes_irrefl] at hab
  cases hab

end TilePanel
