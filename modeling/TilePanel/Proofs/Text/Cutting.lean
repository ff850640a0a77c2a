import Mathlib.Data.List.Induction
import TilePanel.Text.Blank
import TilePanel.Text.ByteOrder

/-!
Texts that are cut: at separators, where the pieces on both sides do not depend on each other, behind
the last separator, where the word that is still being written begins, and at places that count bytes,
where the number of bytes determines the cut.
-/

namespace TilePanel.Text

variable {isSeparator other : Char → Bool} {text kept typed before after : List Char}

theorem pieces_eq_splitOnP (isSeparator : Char → Bool) (cs : List Char) :
    pieces isSeparator cs = cs.splitOnP isSeparator := by
  induction cs with
  | nil => rfl
  | cons c cs ih =>
    rw [pieces, List.splitOnP_cons_eq_if_modifyHead, ih]
    cases hpieces : cs.splitOnP isSeparator with
    | nil => exact absurd hpieces (List.splitOnP_ne_nil _ _)
    | cons w ws => rfl

theorem words_append_separator {c : Char} (hc : isSeparator c = true) (before after : List Char) :
    words isSeparator (before ++ c :: after) =
      words isSeparator before ++ words isSeparator after := by
  simp only [words, pieces_eq_splitOnP, List.splitOnP_append_cons _ _ hc, List.filter_append]

private theorem words_of_unseparated (htyped : ∀ c ∈ typed, isSeparator c = false)
    (hne : typed ≠ []) : words isSeparator typed = [typed] := by
  rw [words, pieces_eq_splitOnP, List.splitOnP_eq_singleton htyped]
  simp [hne]

theorem pieces_congr {cs : List Char} (h : ∀ c ∈ cs, isSeparator c = other c) :
    pieces isSeparator cs = pieces other cs := by
  induction cs with
  | nil => rfl
  | cons c cs ih =>
    rw [pieces, pieces, h c List.mem_cons_self, ih fun d hd => h d (List.mem_cons_of_mem _ hd)]

/-- The word that is still being written at the end of a text, which is empty behind a separator. -/
def openWord (isSeparator : Char → Bool) (text : List Char) : List Char :=
  (text.splitOnP isSeparator).getLast (List.splitOnP_ne_nil _ _)

def closedWords (isSeparator : Char → Bool) (text : List Char) : List (List Char) :=
  (text.splitOnP isSeparator).dropLast.filter fun w => !w.isEmpty

/-- A text that is cut behind its last separator. -/
structure CutBehindLast (isSeparator : Char → Bool) (text kept typed : List Char) : Prop where
  joined : text = kept ++ typed
  unseparated : ∀ c ∈ typed, isSeparator c = false
  closed : kept = [] ∨ ∃ before c, isSeparator c = true ∧ kept = before ++ [c]

namespace CutBehindLast

/-- Every text can be cut behind its last separator. -/
theorem exists_cut (isSeparator : Char → Bool) (text : List Char) :
    ∃ kept typed, CutBehindLast isSeparator text kept typed := by
  induction text using List.reverseRecOn with
  | nil => exact ⟨[], [], rfl, nofun, .inl rfl⟩
  | append_singleton text c ih =>
    obtain ⟨kept, typed, rfl, htyped, hkept⟩ := ih
    -- The text grows at its end, so a separator moves the cut there and any other character is typed.
    cases hc : isSeparator c with
    | true => exact ⟨kept ++ typed ++ [c], [], by simp, nofun, .inr ⟨_, c, hc, rfl⟩⟩
    | false =>
      refine ⟨kept, typed ++ [c], by simp, ?_, hkept⟩
      exact List.forall_mem_append.mpr ⟨htyped, List.forall_mem_singleton.mpr hc⟩

/-- The cut is the same for more separators, as long as none of these comes behind it. -/
theorem widen (h : CutBehindLast isSeparator text kept typed)
    (himp : ∀ c, isSeparator c = true → other c = true) (htyped : ∀ c ∈ typed, other c = false) :
    CutBehindLast other text kept typed := by
  refine ⟨h.joined, htyped, h.closed.imp_right ?_⟩
  rintro ⟨before, c, hc, hkept⟩
  exact ⟨before, c, himp c hc, hkept⟩

/-- The piece behind the last separator is the last one. -/
theorem splitOnP (h : CutBehindLast isSeparator text kept typed) :
    ∃ closed, text.splitOnP isSeparator = closed ++ [typed] ∧
      closed.filter (fun w => !w.isEmpty) = words isSeparator kept := by
  obtain ⟨rfl, htyped, hkept⟩ := h
  have hlast := List.splitOnP_eq_singleton htyped
  rcases hkept with rfl | ⟨before, c, hc, rfl⟩
  · exact ⟨[], hlast, rfl⟩
  · refine ⟨before.splitOnP isSeparator, ?_, ?_⟩
    · rw [List.append_assoc, List.singleton_append, List.splitOnP_append_cons _ _ hc, hlast]
    · rw [words_append_separator hc, words, pieces_eq_splitOnP]
      exact (List.append_nil _).symm

theorem openWord_eq (h : CutBehindLast isSeparator text kept typed) :
    openWord isSeparator text = typed := by
  obtain ⟨closed, hsplit, _⟩ := h.splitOnP
  simp [openWord, hsplit]

theorem closedWords_eq (h : CutBehindLast isSeparator text kept typed) :
    closedWords isSeparator text = words isSeparator kept := by
  obtain ⟨closed, hsplit, hclosed⟩ := h.splitOnP
  rw [closedWords, hsplit, List.dropLast_concat, hclosed]

/-- A word that is put behind the cut stands by itself. -/
theorem words_append (h : CutBehindLast isSeparator text kept typed) {word : List Char}
    (hword : ∀ c ∈ word, isSeparator c = false) (hne : word ≠ []) :
    words isSeparator (kept ++ word) = words isSeparator kept ++ [word] := by
  rcases h.closed with rfl | ⟨before, c, hc, rfl⟩
  · exact words_of_unseparated hword hne
  · rw [List.append_assoc, List.singleton_append, words_append_separator hc,
      words_append_separator hc, words_of_unseparated hword hne]
    simp [words, pieces]

end CutBehindLast

theorem byteSize_append (before after : List Char) :
    byteSize (before ++ after) = byteSize before + byteSize after := by
  induction before with
  | nil => exact (Nat.zero_add _).symm
  | cons c before ih =>
    change c.utf8Size + byteSize (before ++ after) = c.utf8Size + byteSize before + byteSize after
    rw [ih, Nat.add_assoc]

/-- A beginning is what its bytes say. -/
theorem takeBytes?_append (before after : List Char) :
    takeBytes? (before ++ after) (byteSize before) = some before := by
  induction before with
  | nil => cases after <;> rfl
  | cons c before ih =>
    have hsize : byteSize (c :: before) = c.utf8Size + byteSize before := rfl
    have hpos := c.utf8Size_pos
    obtain ⟨n, hn⟩ : ∃ n, c.utf8Size + byteSize before = n + 1 := ⟨_, (Nat.succ_pred (by omega)).symm⟩
    have hrest : n + 1 - c.utf8Size = byteSize before := by omega
    rw [hsize, hn, List.cons_append, takeBytes?, if_pos (by omega), hrest, ih]
    rfl

theorem eq_of_byteSize_eq {before' after' : List Char} (h : before ++ after = before' ++ after')
    (hsize : byteSize before = byteSize before') : before = before' := by
  have htaken := takeBytes?_append before after
  rw [h, hsize, takeBytes?_append] at htaken
  exact (Option.some.inj htaken).symm

end TilePanel.Text
