import TilePanel.Text.ByteOrder

/-!
Tables of texts: each key has one text, and the entries are sorted by the bytes of the keys.
-/

namespace TilePanel.Text

/-- Whether entries are sorted by their keys, each key at most once. -/
abbrev Sorted (entries : List (String × String)) : Prop :=
  entries.Pairwise fun a b => precedes a.1 b.1 = true

structure TextTable where
  entries : List (String × String)
  sorted : Sorted entries
deriving DecidableEq

namespace TextTable

def empty : TextTable :=
  ⟨[], .nil⟩

/-- Puts a text at the place of its key, instead of the text that the key had. -/
def place (key text : String) : List (String × String) → List (String × String)
  | [] => [(key, text)]
  | e :: es =>
    if e.1 = key then (key, text) :: es
    else if precedes e.1 key then e :: place key text es
    else (key, text) :: e :: es

private theorem mem_place {key text : String} {e : String × String} {es : List (String × String)}
    (h : e ∈ place key text es) : e.1 = key ∨ e ∈ es := by
  induction es with
  | nil => exact .inl (by simp_all [place])
  | cons f fs ih =>
    by_cases hf : f.1 = key
    · rw [place, if_pos hf] at h
      rcases List.mem_cons.mp h with rfl | h
      · exact .inl rfl
      · exact .inr (List.mem_cons_of_mem _ h)
    · by_cases hp : precedes f.1 key = true
      · rw [place, if_neg hf, if_pos hp] at h
        rcases List.mem_cons.mp h with rfl | h
        · exact .inr List.mem_cons_self
        · exact (ih h).imp_right (List.mem_cons_of_mem _)
      · rw [place, if_neg hf, if_neg hp] at h
        exact (List.mem_cons.mp h).imp_left fun same => congrArg Prod.fst same

private theorem sorted_place {key text : String} {es : List (String × String)} (h : Sorted es) :
    Sorted (place key text es) := by
  induction es with
  | nil => exact List.pairwise_singleton ..
  | cons f fs ih =>
    obtain ⟨hf, hfs⟩ := List.pairwise_cons.mp h
    by_cases hk : f.1 = key
    · rw [place, if_pos hk]
      exact List.pairwise_cons.mpr ⟨fun e he => hk ▸ hf e he, hfs⟩
    · by_cases hp : precedes f.1 key = true
      · rw [place, if_neg hk, if_pos hp]
        refine List.pairwise_cons.mpr ⟨fun e he => ?_, ih hfs⟩
        rcases mem_place he with rfl | he
        · exact hp
        · exact hf e he
      · have hkf : precedes key f.1 = true :=
          precedes_of_ne hk (Bool.eq_false_iff.mpr hp)
        rw [place, if_neg hk, if_neg hp]
        refine List.pairwise_cons.mpr ⟨fun e he => ?_, h⟩
        rcases List.mem_cons.mp he with rfl | he
        · exact hkf
        · exact precedes_trans hkf (hf e he)

def insert (t : TextTable) (key text : String) : TextTable :=
  ⟨place key text t.entries, sorted_place t.sorted⟩

/-- The table of a list of entries; the last text of a key counts. -/
def ofList (entries : List (String × String)) : TextTable :=
  entries.foldl (fun t e => t.insert e.1 e.2) empty

@[ext]
theorem ext {a b : TextTable} (h : a.entries = b.entries) : a = b := by
  cases a
  cases b
  cases h
  rfl

end TextTable

end TilePanel.Text
