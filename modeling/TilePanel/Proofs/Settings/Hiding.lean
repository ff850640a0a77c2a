import TilePanel.Proofs.Settings.Listing

/-!
A settings store without the settings of one user. What others read and list does not depend on
these, what others write is the same with them and without them, and what is written for that user
does not show. For a table this takes that the rows are in order, as a new row is put in front of the
first one that it finds behind it, whoever that row is for.
-/

namespace TilePanel

/-- A search finds the same in a part of a list that keeps all that the search is for. -/
private theorem find?_filter_of_imp {α : Type} {p q : α → Bool} (h : ∀ a, q a = true → p a = true)
    (l : List α) : (l.filter p).find? q = l.find? q := by
  have hboth : (fun a => decide (p a = true ∧ q a = true)) = q := by
    funext a
    cases hq : q a with
    | false => simp
    | true => simp [h a hq]
  rw [List.find?_filter, hboth]

private theorem filter_filter_of_imp {α : Type} {p q : α → Bool} (h : ∀ a, q a = true → p a = true)
    (l : List α) : (l.filter p).filter q = l.filter q := by
  rw [List.filter_filter]
  refine List.filter_congr fun a _ => ?_
  cases hq : q a with
  | false => rfl
  | true => simp [h a hq]

namespace MemoryStore

variable {hidden user : UserId}

def without (hidden : UserId) (s : MemoryStore) : MemoryStore :=
  ⟨s.entries.filter fun e => e.user != hidden⟩

theorem read_without (s : MemoryStore) (hother : user ≠ hidden) (key : String) :
    (s.without hidden).read key user = s.read key user := by
  unfold read without
  rw [find?_filter_of_imp fun e hfor => ?_]
  simp [((e.isFor_iff key user).mp hfor).1, hother]

theorem list_without (s : MemoryStore) (hother : user ≠ hidden) :
    (s.without hidden).list user = s.list user := by
  unfold list without
  rw [filter_filter_of_imp fun e huser => ?_]
  simp [beq_iff_eq.mp huser, hother]

/-- A write for another user can be made before the settings of a user are left out, or
afterwards. -/
theorem write_without (s : MemoryStore) (hother : user ≠ hidden) (key value : String) :
    (s.without hidden).write key value user = (s.write key value user).without hidden := by
  unfold without write
  congr 1
  induction s.entries with
  | nil => simp [upsert, hother]
  | cons e rest ih =>
    by_cases hfor : e.isFor key user = true
    · have huser : e.user = user := ((e.isFor_iff key user).mp hfor).1
      simp [upsert, hfor, huser, hother]
    · by_cases hhidden : e.user = hidden
      · simpa [upsert, hfor, hhidden] using ih
      · simpa [upsert, hfor, hhidden] using ih

theorem without_write_hidden (s : MemoryStore) (hidden : UserId) (key value : String) :
    (s.write key value hidden).without hidden = s.without hidden := by
  unfold without write
  congr 1
  induction s.entries with
  | nil => simp [upsert]
  | cons e rest ih =>
    by_cases hfor : e.isFor key hidden = true
    · have huser : e.user = hidden := ((e.isFor_iff key hidden).mp hfor).1
      simp [upsert, hfor, huser]
    · simp only [upsert, hfor, Bool.false_eq_true, if_false, List.filter_cons, ih]

end MemoryStore

namespace Row

private theorem not_before_self (r : Row) : ¬r.Before r := by
  rw [before_iff, Text.precedes_irrefl, Int32.lt_iff_toInt_lt]
  simp

end Row

namespace SettingsTable

variable {hidden user : UserId}

def without (hidden : UserId) (t : SettingsTable) : SettingsTable :=
  ⟨t.rows.filter fun r => r.user != hidden⟩

theorem read_without (t : SettingsTable) (hother : user ≠ hidden) (key : String) :
    (t.without hidden).read key user = t.read key user := by
  unfold read without
  rw [find?_filter_of_imp fun r hfor => ?_]
  simp [((r.isFor_iff key user).mp hfor).1, hother]

theorem list_without (t : SettingsTable) (hother : user ≠ hidden) :
    (t.without hidden).list user = t.list user := by
  unfold list without
  rw [filter_filter_of_imp fun r huser => ?_]
  simp [beq_iff_eq.mp huser, hother]

/-- A row that comes before all others is put in front of them. -/
private theorem place_of_before {row : Row} {rows : List Row} (h : ∀ r ∈ rows, row.Before r) :
    place row rows = row :: rows := by
  cases rows with
  | nil => rfl
  | cons r rest =>
    have hbefore : row.Before r := h r List.mem_cons_self
    have hafter : ¬r.isBefore row.name row.user = true := fun hback =>
      row.not_before_self (hbefore.trans hback)
    have hplace : ¬r.isFor row.name row.user = true := by
      intro hfor
      obtain ⟨huser, hname⟩ := (r.isFor_iff row.name row.user).mp hfor
      rw [Row.before_iff, huser, hname, ← Row.before_iff] at hbefore
      exact row.not_before_self hbefore
    rw [place, if_neg hplace, if_neg hafter]

/-- Rows of others are put at the same place among those of others. -/
theorem place_without {row : Row} (hother : row.user ≠ hidden) {rows : List Row}
    (hordered : rows.Pairwise Row.Before) :
    place row (rows.filter fun r => r.user != hidden) =
      (place row rows).filter fun r => r.user != hidden := by
  induction rows with
  | nil => simp [place, hother]
  | cons r rest ih =>
    obtain ⟨hfirst, hrest⟩ := List.pairwise_cons.mp hordered
    by_cases hfor : r.isFor row.name row.user = true
    · have huser : r.user = row.user := ((r.isFor_iff row.name row.user).mp hfor).1
      simp [place, hfor, huser, hother]
    · by_cases hbefore : r.isBefore row.name row.user = true
      · by_cases hhidden : r.user = hidden
        · simpa [place, hfor, hbefore, hhidden] using ih hrest
        · simpa [place, hfor, hbefore, hhidden] using ih hrest
      · by_cases hhidden : r.user = hidden
        · -- The row that stopped the search is not there; the next one that is stops it as well.
          have hrow : row.Before r := Row.before_of_not hfor hbefore
          have hplace : place row (rest.filter fun r => r.user != hidden) =
              row :: rest.filter fun r => r.user != hidden :=
            place_of_before fun s hs => hrow.trans (hfirst s (List.mem_filter.mp hs).1)
          simp [place, hfor, hbefore, hhidden, hother, hplace]
        · simp [place, hfor, hbefore, hhidden, hother]

theorem replace_without {t : SettingsTable} (hordered : t.rows.Pairwise Row.Before) {row : Row}
    (hother : row.user ≠ hidden) :
    (t.without hidden).replace row = (t.replace row).without hidden :=
  congrArg SettingsTable.mk (place_without hother hordered)

/-- A row of a user is left out with the others of that user. -/
theorem without_replace_hidden (t : SettingsTable) {row : Row} (hhidden : row.user = hidden) :
    (t.replace row).without hidden = t.without hidden := by
  subst hhidden
  unfold without replace
  congr 1
  induction t.rows with
  | nil => simp [place]
  | cons r rest ih =>
    by_cases hfor : r.isFor row.name row.user = true
    · have huser : r.user = row.user := ((r.isFor_iff row.name row.user).mp hfor).1
      simp [place, hfor, huser]
    · by_cases hbefore : r.isBefore row.name row.user = true
      · simp only [place, hfor, hbefore, Bool.false_eq_true, if_false, if_true, List.filter_cons, ih]
      · simp [place, hfor, hbefore]

end SettingsTable

namespace SettingsStore

variable {hidden user : UserId} {s s' : SettingsStore} {key value : String}

def without (hidden : UserId) : SettingsStore → SettingsStore
  | memory m => memory (m.without hidden)
  | database table => database (table.map (SettingsTable.without hidden))
  | readOnly t => readOnly (t.without hidden)
  | failing fault => failing fault

def Ordered : SettingsStore → Prop
  | database (some t) | readOnly t => t.rows.Pairwise Row.Before
  | _ => True

theorem read_without (s : SettingsStore) (hother : user ≠ hidden) (key : String) :
    (s.without hidden).read key user = s.read key user := by
  match s with
  | memory m => exact congrArg Except.ok (m.read_without hother key)
  | database (some t) | readOnly t => exact t.read_without hother key
  | database none | failing _ => rfl

theorem list_without (s : SettingsStore) (hother : user ≠ hidden) :
    (s.without hidden).list user = s.list user := by
  match s with
  | memory m => exact congrArg Except.ok (m.list_without hother)
  | database (some t) | readOnly t => exact t.list_without hother
  | database none | failing _ => rfl

theorem readInt_without (s : SettingsStore) (hother : user ≠ hidden) (key : String)
    (fallback : Int32) :
    (s.without hidden).readInt key fallback user = s.readInt key fallback user :=
  readInt_congr fallback (s.read_without hother key)

theorem readIntNotices_without (s : SettingsStore) (hother : user ≠ hidden) (key : String)
    (fallback : Int32) :
    (s.without hidden).readIntNotices key fallback user = s.readIntNotices key fallback user := by
  simp only [readIntNotices, s.read_without hother]

theorem writeNotices_without (s : SettingsStore) (hidden : UserId) (key value : String)
    (user : UserId) : (s.without hidden).writeNotices key value user = s.writeNotices key value user := by
  cases s <;> rfl

/-- What others write. -/
theorem write_without (hordered : s.Ordered) (hother : user ≠ hidden) (key value : String) :
    (s.without hidden).write key value user = (s.write key value user).map (without hidden) := by
  match s, hordered with
  | memory m, _ => exact congrArg (Except.ok ∘ memory) (m.write_without hother key value)
  | database (some t), hordered =>
    exact congrArg (Except.ok ∘ database ∘ some) (SettingsTable.replace_without hordered hother)
  | database none, _ | readOnly _, _ | failing _, _ => rfl

theorem without_write_hidden (h : s.write key value hidden = .ok s') :
    s'.without hidden = s.without hidden := by
  obtain ⟨m, rfl, rfl⟩ | ⟨t, rfl, rfl⟩ := write_cases h
  · exact congrArg memory (m.without_write_hidden hidden key value)
  · exact congrArg (database ∘ some) (t.without_replace_hidden rfl)

theorem Ordered.write (hordered : s.Ordered) (h : s.write key value user = .ok s') :
    s'.Ordered := by
  obtain ⟨m, rfl, rfl⟩ | ⟨t, rfl, rfl⟩ := write_cases h
  · trivial
  · exact SettingsTable.ordered_place hordered

end SettingsStore

end TilePanel
