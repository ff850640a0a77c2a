import Mathlib.Data.List.InsertIdx
import TilePanel.Toml.Value

/-!
What stands under a key of a table: the first entry that has the key. Entries are put in, taken out
or changed by key, and what stands under any other key stays.
-/

namespace TilePanel.Toml

section

variable {α : Type}

private theorem lookup_cons (key : String) (e : String × α) (es : List (String × α)) :
    lookup key (e :: es) = if e.1 = key then some e.2 else lookup key es := by
  unfold lookup
  by_cases h : e.1 = key
  · rw [List.find?_cons_of_pos (by simpa using h), if_pos h]
    rfl
  · rw [List.find?_cons_of_neg (by simpa using h), if_neg h]

theorem lookup_eq_none_iff {key : String} {es : List (String × α)} :
    lookup key es = none ↔ key ∉ es.map Prod.fst := by
  induction es with
  | nil => exact ⟨fun _ h => (nomatch h), fun _ => rfl⟩
  | cons e es ih =>
    rw [lookup_cons, List.map_cons, List.mem_cons, not_or, ← ih]
    by_cases h : e.1 = key
    · simp [h]
    · simp [h, Ne.symm h]

theorem mem_of_lookup {key : String} {v : α} {es : List (String × α)}
    (h : lookup key es = some v) : (key, v) ∈ es := by
  obtain ⟨e, hfound, rfl⟩ := Option.map_eq_some_iff.mp h
  have hkey : e.1 = key := by simpa using List.find?_some hfound
  rw [← hkey]
  exact List.mem_of_find?_eq_some hfound

theorem lookup_insertIdx_of_ne {key : String} {e : String × α} (h : e.1 ≠ key) (n : Nat)
    (es : List (String × α)) : lookup key (es.insertIdx n e) = lookup key es := by
  induction n generalizing es with
  | zero => rw [List.insertIdx_zero, lookup_cons, if_neg h]
  | succ n ih =>
    cases es with
    | nil => rfl
    | cons first rest => rw [List.insertIdx_succ_cons, lookup_cons, lookup_cons, ih]

/-- An entry that is put in is found, unless it is put behind another one of its key, or nowhere. -/
theorem lookup_insertIdx_self (key : String) (v : α) (n : Nat) (es : List (String × α)) :
    lookup key (es.insertIdx n (key, v)) = some v ∨
      lookup key (es.insertIdx n (key, v)) = lookup key es := by
  induction n generalizing es with
  | zero => exact .inl (by rw [List.insertIdx_zero, lookup_cons, if_pos rfl])
  | succ n ih =>
    cases es with
    | nil => exact .inr rfl
    | cons first rest =>
      rw [List.insertIdx_succ_cons, lookup_cons, lookup_cons]
      by_cases h : first.1 = key
      · exact .inr (by rw [if_pos h, if_pos h])
      · rw [if_neg h, if_neg h]
        exact ih rest

def without (key : String) (es : List (String × α)) : List (String × α) :=
  es.filter fun e => e.1 ≠ key

theorem lookup_without_self (key : String) (es : List (String × α)) :
    lookup key (without key es) = none := by
  rw [lookup_eq_none_iff]
  intro hmem
  obtain ⟨e, he, hkey⟩ := List.mem_map.mp hmem
  exact of_decide_eq_true (List.mem_filter.mp he).2 hkey

theorem lookup_without_of_ne {key other : String} (h : other ≠ key) (es : List (String × α)) :
    lookup other (without key es) = lookup other es := by
  induction es with
  | nil => rfl
  | cons e es ih =>
    unfold without at ih ⊢
    by_cases hkey : e.1 = key
    · have hother : e.1 ≠ other := fun hsame => h (hsame.symm.trans hkey)
      rw [List.filter_cons_of_neg (by simpa using hkey), lookup_cons, if_neg hother, ih]
    · rw [List.filter_cons_of_pos (by simpa using hkey), lookup_cons, lookup_cons, ih]

end

def Value.mapTable (change : List (String × Value) → List (String × Value)) : Value → Value
  | .table es => .table (change es)
  | v => v

def within (key : String) (change : List (String × Value) → List (String × Value))
    (es : List (String × Value)) : List (String × Value) :=
  es.map fun e => if e.1 = key then (e.1, e.2.mapTable change) else e

/-- A change inside of one section is seen under its key only. -/
theorem lookup_within (key : String) (change : List (String × Value) → List (String × Value))
    (other : String) (es : List (String × Value)) :
    lookup other (within key change es) =
      if other = key then (lookup other es).map (Value.mapTable change) else lookup other es := by
  induction es with
  | nil => simp [within, lookup]
  | cons e es ih =>
    unfold within at ih ⊢
    rw [List.map_cons, lookup_cons, lookup_cons, ih]
    by_cases hsame : e.1 = other
    · subst hsame
      by_cases hkey : e.1 = key <;> simp [hkey]
    · have hchanged : (if e.1 = key then (e.1, e.2.mapTable change) else e).1 = e.1 := by
        split <;> rfl
      rw [hchanged, if_neg hsame, if_neg hsame]

end TilePanel.Toml
