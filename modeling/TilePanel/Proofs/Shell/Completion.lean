import TilePanel.Proofs.Text.Cutting
import TilePanel.Shell.Completion

/-!
What completion offers, and what a line becomes when an offer is accepted. The words of the line end
at any blank, but the place where an accepted word goes is behind the last space; the two agree as
long as no other blank comes behind that space. Then the words in front stay as they are and the one
at the cursor is extended, and the offers are exactly the commands, or the subcommands of the first
word, that begin with what was typed. If another blank comes behind the last space, no offer goes on
with what was typed.
-/

namespace TilePanel.Shell

open TilePanel.Text

variable {text kept typed : List Char}

theorem complete?_at (front rest : List Char) :
    complete? (String.ofList (front ++ rest)) (byteSize front) = some (completeText front) := by
  rw [complete?, String.toList_ofList, takeBytes?_append, Option.map_some]

private theorem throughLastSpace_eq (h : CutBehindLast (· == ' ') text kept typed) :
    throughLastSpace text = kept := by
  obtain ⟨rfl, htyped, hkept⟩ := h
  have hpassed : ∀ c ∈ typed.reverse, (c != ' ') = true := by
    intro c hc
    rw [bne, htyped c (List.mem_reverse.mp hc)]
    rfl
  rw [throughLastSpace, List.reverse_append, List.dropWhile_append_of_pos hpassed]
  rcases hkept with rfl | ⟨before, c, hc, rfl⟩
  · rfl
  · simp [beq_iff_eq.mp hc]

/-- What may follow words that are complete, of what begins as typed. -/
def offers (earlier : List (List Char)) (typed : List Char) : List String :=
  match earlier with
  | [] => beginningWith typed commandNames
  | [command] => beginningWith typed (subcommandNames command)
  | _ => []

private theorem beginningWith_nil (words : List String) : beginningWith [] words = words := by
  simp [beginningWith]

private theorem isBlank_of_space (c : Char) (hc : (c == ' ') = true) : isBlank c = true := by
  rw [beq_iff_eq.mp hc]
  decide

/-- As long as no other blank follows the last space, the candidates are what the words in front of
the cut leave to offer. -/
private theorem candidates_eq (h : CutBehindLast (· == ' ') text kept typed)
    (htyped : ∀ c ∈ typed, isBlank c = false) :
    candidates text = offers (blankSeparated kept) typed := by
  have hblank := h.widen isBlank_of_space htyped
  obtain ⟨rfl, hspaces, hkept⟩ := h
  by_cases hne : typed = []
  · -- Behind a space, or at the start of the line, everything is offered that may follow.
    subst hne
    rw [List.append_nil]
    rcases hkept with rfl | ⟨before, c, hc, rfl⟩
    · exact (beginningWith_nil commandNames).symm
    · have hends : ((before ++ [c]).getLast? == some ' ') = true := by simpa using hc
      unfold candidates
      rw [hends]
      match blankSeparated (before ++ [c]) with
      | [] | [command] => exact (beginningWith_nil _).symm
      | [command, sub] | command :: sub :: other :: rest => rfl
  · have hends : ((kept ++ typed).getLast? == some ' ') = false := by
      rw [List.getLast?_append, List.getLast?_eq_some_getLast hne]
      exact hspaces _ (List.getLast_mem hne)
    have hwords : blankSeparated (kept ++ typed) = blankSeparated kept ++ [typed] :=
      hblank.words_append htyped hne
    unfold candidates
    rw [hends, hwords]
    match blankSeparated kept with
    | [] | [command] | [command, sub] => rfl
    | command :: sub :: other :: rest => rfl

def vocabulary : List String :=
  commandNames ++ commandTable.flatMap Prod.snd

private theorem mem_vocabulary_of_subcommand {command : List Char} {w : String}
    (hw : w ∈ subcommandNames command) : w ∈ vocabulary := by
  unfold subcommandNames at hw
  cases hfind : commandTable.find? (fun entry => entry.1.toList == command) with
  | none => simp [hfind] at hw
  | some entry =>
    rw [hfind] at hw
    exact List.mem_append_right _
      (List.mem_flatMap.mpr ⟨entry, List.mem_of_find?_eq_some hfind, hw⟩)

theorem mem_vocabulary {w : String} (hw : w ∈ candidates text) : w ∈ vocabulary := by
  have hcommand : ∀ {v}, v ∈ commandNames → v ∈ vocabulary := fun hv => List.mem_append_left _ hv
  have hbeginning : ∀ {start words}, w ∈ beginningWith start words → w ∈ words :=
    fun hmem => (List.mem_filter.mp hmem).1
  unfold candidates at hw
  dsimp only at hw
  split at hw
  · exact hcommand hw
  · exact hcommand (hbeginning hw)
  · exact mem_vocabulary_of_subcommand hw
  · exact mem_vocabulary_of_subcommand (hbeginning hw)
  · cases hw

/-- A word of the table is one word of a line. -/
private theorem vocabulary_unblank :
    ∀ w ∈ vocabulary, w.toList ≠ [] ∧ ∀ c ∈ w.toList, isBlank c = false := by
  -- Computed by `List.all`: what decides a statement about all characters may go through every one.
  have hall : vocabulary.all (fun w =>
      !w.toList.isEmpty && w.toList.all fun c => !isBlank c) = true := by
    decide +kernel
  simpa [List.all_eq_true] using hall

theorem start_completeText (h : CutBehindLast (· == ' ') text kept typed) :
    (completeText text).start = byteSize kept := by
  rw [completeText, throughLastSpace_eq h]

/-- What is offered begins as typed. -/
theorem prefix_of_mem_offers {earlier : List (List Char)} {w : String}
    (hw : w ∈ offers earlier typed) : typed <+: w.toList := by
  have hbeginning : ∀ {words}, w ∈ beginningWith typed words → typed <+: w.toList :=
    fun hmem => List.isPrefixOf_iff_prefix.mp (List.mem_filter.mp hmem).2
  unfold offers at hw
  split at hw
  · exact hbeginning hw
  · exact hbeginning hw
  · cases hw

/-- Whether the text in front of a place, with a word behind it, holds the words of a text, except
that the one that is still being written at its end has become the word, which begins with it. -/
def Extends (text : List Char) (start : Nat) (word : List Char) : Prop :=
  ∃ kept typed, text = kept ++ typed ∧ byteSize kept = start ∧ typed <+: word ∧
    blankSeparated (kept ++ word) = closedWords isBlank text ++ [word]

/-- The place of an offer is one between characters, not behind the cursor. An offer that is accepted
there extends the word at the cursor and leaves the words in front of it as they are, exactly if no
blank but a space comes behind the last space in front of the cursor. -/
theorem offers_extend_iff (front rest : List Char) :
    ∃ done, complete? (String.ofList (front ++ rest)) (byteSize front) = some done ∧
      (∃ kept typed, front = kept ++ typed ∧ byteSize kept = done.start) ∧
      ∀ w ∈ done.words, Extends front done.start w.toList ↔
        ∀ c ∈ openWord (· == ' ') front, isBlank c = false := by
  obtain ⟨kept, typed, hcut⟩ := CutBehindLast.exists_cut (· == ' ') front
  have hstart := start_completeText hcut
  refine ⟨_, complete?_at front rest, ⟨kept, typed, hcut.joined, hstart.symm⟩, ?_⟩
  intro w hw
  obtain ⟨hne, hword⟩ := vocabulary_unblank w (mem_vocabulary hw)
  rw [hcut.openWord_eq, hstart]
  constructor
  · -- The bytes of the start allow one cut only, and what was typed behind it is part of a word.
    rintro ⟨kept', typed', hjoined, hsize, hbegins, _⟩ c hc
    have hboth : kept' ++ typed' = kept ++ typed := hjoined.symm.trans hcut.joined
    obtain rfl := eq_of_byteSize_eq hboth hsize
    obtain rfl := List.append_cancel_left hboth
    exact hword c (hbegins.subset hc)
  · intro htyped
    have hblank := hcut.widen isBlank_of_space htyped
    have hoffered : w ∈ offers (blankSeparated kept) typed := candidates_eq hcut htyped ▸ hw
    refine ⟨kept, typed, hcut.joined, rfl, prefix_of_mem_offers hoffered, ?_⟩
    rw [hblank.closedWords_eq]
    exact hblank.words_append hword hne

/-- A tab ends a word, but is no place for an offer: the command in front of it would be lost. -/
theorem tab_loses_command :
    complete? "panel\tsh" 8 = some ⟨0, ["show"]⟩ ∧
      ¬Extends "panel\tsh".toList 0 "show".toList := by
  refine ⟨by decide +kernel, ?_⟩
  rintro ⟨kept, typed, hjoined, hsize, hbegins, _⟩
  obtain rfl : kept = [] := eq_of_byteSize_eq (List.nil_append (kept ++ typed)).symm hsize
  rw [List.nil_append] at hjoined
  rw [← hjoined] at hbegins
  exact absurd hbegins (by decide +kernel)

private theorem beginningWith_eq_filter (start : List Char) (words : List String) :
    beginningWith start words = words.filter fun w => decide (start <+: w.toList) := by
  refine List.filter_congr fun w _ => ?_
  rw [Bool.eq_iff_iff, List.isPrefixOf_iff_prefix, decide_eq_true_iff]

/-- Each command has one entry in the table. -/
theorem subcommandNames_eq : ∀ entry ∈ commandTable, subcommandNames entry.1.toList = entry.2 := by
  decide +kernel

private theorem subcommandNames_of_unknown {command : List Char}
    (hunknown : ∀ entry ∈ commandTable, entry.1.toList ≠ command) :
    subcommandNames command = [] := by
  have hnone : commandTable.find? (fun entry => entry.1.toList == command) = none := by
    refine List.find?_eq_none.mpr fun entry hentry => ?_
    simpa using hunknown entry hentry
  rw [subcommandNames, hnone]
  rfl

theorem nodup_subcommandNames (command : List Char) : (subcommandNames command).Nodup := by
  have hall : ∀ entry ∈ commandTable, entry.2.Nodup := by decide +kernel
  unfold subcommandNames
  cases hfind : commandTable.find? (fun entry => entry.1.toList == command) with
  | none => exact List.nodup_nil
  | some entry => exact hall entry (List.mem_of_find?_eq_some hfind)

theorem nodup_offers (earlier : List (List Char)) (typed : List Char) :
    (offers earlier typed).Nodup := by
  have hcommands : commandNames.Nodup := by decide +kernel
  unfold offers
  split
  · exact hcommands.filter _
  · next command => exact (nodup_subcommandNames command).filter _
  · exact List.nodup_nil

/-- In a text without other blanks than spaces, words end at spaces. -/
private theorem words_of_spaced {cs : List Char} (hspaced : ∀ c ∈ cs, isBlank c = true → c = ' ') :
    blankSeparated cs = words (· == ' ') cs := by
  rw [blankSeparated, words, words, pieces_congr fun c hc => ?_]
  rw [Bool.eq_iff_iff]
  exact ⟨fun hblank => beq_iff_eq.mpr (hspaced c hc hblank), isBlank_of_space c⟩

/-- Completion is exact where the only blanks in front of the cursor are spaces: an offer goes behind
the last of them, and the offers, each once and in the order of the table, are the commands that begin
with what was typed there, or the subcommands of the one word in front of it; behind two words there
is none. -/
theorem offers_exact_when_spaced {front : List Char} (rest : List Char)
    (hspaced : ∀ c ∈ front, isBlank c = true → c = ' ') :
    let typed := openWord (· == ' ') front
    let earlier := closedWords (· == ' ') front
    let asTyped := fun w : String => decide (typed <+: w.toList)
    ∃ done, complete? (String.ofList (front ++ rest)) (byteSize front) = some done ∧
      done.start + byteSize typed = byteSize front ∧ done.words.Nodup ∧
      (earlier = [] → done.words = (commandTable.map Prod.fst).filter asTyped) ∧
      (∀ command, earlier = [command] →
        (∀ entry ∈ commandTable, entry.1.toList = command →
          done.words = entry.2.filter asTyped) ∧
        ((∀ entry ∈ commandTable, entry.1.toList ≠ command) → done.words = [])) ∧
      (2 ≤ earlier.length → done.words = []) := by
  intro typed earlier asTyped
  obtain ⟨kept, typed', hcut⟩ := CutBehindLast.exists_cut (· == ' ') front
  obtain rfl : typed' = typed := hcut.openWord_eq.symm
  have htyped : ∀ c ∈ typed, isBlank c = false := by
    intro c hc
    refine Bool.eq_false_iff.mpr fun hblank => ?_
    have hspace := hspaced c (hcut.joined ▸ List.mem_append_right kept hc) hblank
    have hother := hcut.unseparated c hc
    rw [hspace] at hother
    cases hother
  have hearlier : earlier = blankSeparated kept := by
    rw [words_of_spaced fun c hc => hspaced c (hcut.joined ▸ List.mem_append_left typed hc)]
    exact hcut.closedWords_eq
  have hwords : (completeText front).words = offers earlier typed :=
    hearlier ▸ candidates_eq hcut htyped
  refine ⟨_, complete?_at front rest, ?_, ?_⟩
  · rw [start_completeText hcut, ← byteSize_append, ← hcut.joined]
  rw [hwords]
  refine ⟨nodup_offers earlier typed, ?_, ?_, ?_⟩
  · intro hnone
    rw [hnone]
    exact beginningWith_eq_filter typed commandNames
  · intro command hone
    rw [hone]
    refine ⟨?_, ?_⟩
    · rintro entry hentry rfl
      rw [offers, subcommandNames_eq entry hentry, beginningWith_eq_filter]
    · intro hunknown
      rw [offers, subcommandNames_of_unknown hunknown]
      rfl
  · intro htwo
    match earlier, htwo with
    | first :: second :: others, _ => rfl

/-- One command in front, and the beginning of two of its subcommands. -/
theorem offers_exact_behind_panel :
    (∀ c ∈ " panel  br".toList, isBlank c = true → c = ' ') ∧
      ∃ done, complete? " panel  bright" 10 = some done ∧ done.start = 8 ∧
        done.words = ["brightness-mode", "brightness"] := by
  have hspaced : ∀ c ∈ " panel  br".toList, isBlank c = true → c = ' ' := by simp [isBlank]
  obtain ⟨done, hdone, hstart, _, _, hone, _⟩ := offers_exact_when_spaced "ight".toList hspaced
  have hline : String.ofList (" panel  br".toList ++ "ight".toList) = " panel  bright" := by
    decide +kernel
  have hcursor : byteSize " panel  br".toList = 10 := by decide +kernel
  have htyped : byteSize (openWord (· == ' ') " panel  br".toList) = 2 := by decide +kernel
  rw [hline, hcursor] at hdone
  obtain ⟨hknown, _⟩ := hone "panel".toList (by decide +kernel)
  refine ⟨hspaced, done, hdone, by omega, ?_⟩
  exact (hknown _ List.mem_cons_self rfl).trans (by decide +kernel)

end TilePanel.Shell
