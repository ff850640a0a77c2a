import Mathlib.Data.List.Basic
import Mathlib.Data.List.Induction
import TilePanel.Shell.Words

/-!
The grammar of command lines. A line is words with blanks between them, and a word is a row of
segments, some of them bare and the others quoted. Cutting a line gives the texts of its words, empty
ones left out. Every line can be read in this way, once a quote that is still open is closed at its
end, so that nothing is left to say about the cut.
-/

namespace TilePanel.Shell

open TilePanel.Text

def IsQuote (c : Char) : Prop :=
  c = '"' ∨ c = '\x27'

/-- A part of a word: characters that stand for themselves, or characters between quotes that they do
not hold. -/
inductive Segment
  | bare (text : List Char) (hbare : ∀ c ∈ text, isBlank c = false ∧ ¬IsQuote c)
  | quoted (quote : Char) (hquote : IsQuote quote) (text : List Char) (htext : quote ∉ text)

namespace Segment

def text : Segment → List Char
  | bare text _ => text
  | quoted _ _ text _ => text

def written : Segment → List Char
  | bare text _ => text
  | quoted quote _ text _ => quote :: text ++ [quote]

end Segment

/-- How a line may be written: words, each with the blanks behind it, and blanks in front. -/
structure Reading where
  front : List Char
  items : List (List Segment × List Char)
  front_blank : ∀ c ∈ front, isBlank c = true
  behind_blank : ∀ item ∈ items, ∀ c ∈ item.2, isBlank c = true
  /-- Words are apart; behind the last one there need be no blank. -/
  apart : ∀ item ∈ items.dropLast, item.2 ≠ []

namespace Reading

def line (r : Reading) : List Char :=
  r.front ++ r.items.flatMap fun item => item.1.flatMap Segment.written ++ item.2

def words (r : Reading) : List (List Char) :=
  r.items.map fun item => item.1.flatMap Segment.text

end Reading

namespace Cut

/-- The cut between quotes, with the argument so far. -/
def unquoted (current : List Char) : Cut :=
  { current }

private theorem step_bare {c : Char} (hblank : isBlank c = false) (hquote : ¬IsQuote c)
    (current : List Char) : (unquoted current).step c = (unquoted (c :: current), []) := by
  unfold IsQuote at hquote
  simp only [step, unquoted]
  rw [if_neg hquote, hblank]
  rfl

private theorem run_bare {text : List Char} (hbare : ∀ c ∈ text, isBlank c = false ∧ ¬IsQuote c)
    (current rest : List Char) :
    run (unquoted current) (text ++ rest) = run (unquoted (text.reverse ++ current)) rest := by
  induction text generalizing current with
  | nil => rfl
  | cons c text ih =>
    obtain ⟨hblank, hquote⟩ := hbare c List.mem_cons_self
    rw [List.cons_append, run, step_bare hblank hquote, List.nil_append,
      ih (fun d hd => hbare d (List.mem_cons_of_mem _ hd)), List.reverse_cons, List.append_assoc]
    rfl

private theorem run_open {quote : Char} (hquote : IsQuote quote) (current rest : List Char) :
    run (unquoted current) (quote :: rest) = run ⟨some quote, current⟩ rest := by
  have hstep : (unquoted current).step quote = (⟨some quote, current⟩, []) := by
    unfold IsQuote at hquote
    simp only [step, unquoted]
    rw [if_pos hquote]
  rw [run, hstep, List.nil_append]

private theorem run_inside {quote : Char} {text : List Char} (htext : quote ∉ text)
    (current rest : List Char) :
    run ⟨some quote, current⟩ (text ++ rest) =
      run ⟨some quote, text.reverse ++ current⟩ rest := by
  induction text generalizing current with
  | nil => rfl
  | cons c text ih =>
    have hne : c ≠ quote := fun hsame => htext (hsame ▸ List.mem_cons_self)
    have hstep : step ⟨some quote, current⟩ c = (⟨some quote, c :: current⟩, []) := by
      simp only [step]
      rw [if_neg hne]
    rw [List.cons_append, run, hstep, List.nil_append,
      ih fun hmem => htext (List.mem_cons_of_mem _ hmem), List.reverse_cons, List.append_assoc]
    rfl

private theorem run_close (quote : Char) (current rest : List Char) :
    run ⟨some quote, current⟩ (quote :: rest) = run (unquoted current) rest := by
  have hstep : step ⟨some quote, current⟩ quote = (unquoted current, []) := by
    simp only [step]
    rw [if_pos trivial]
    rfl
  rw [run, hstep, List.nil_append]

/-- A segment adds its text to the argument. -/
theorem run_segment (segment : Segment) (current rest : List Char) :
    run (unquoted current) (segment.written ++ rest) =
      run (unquoted (segment.text.reverse ++ current)) rest := by
  cases segment with
  | bare text hbare => exact run_bare hbare current rest
  | quoted quote hquote text htext =>
    have hwritten : (Segment.quoted quote hquote text htext).written ++ rest =
        quote :: (text ++ quote :: rest) := by
      simp [Segment.written]
    rw [hwritten, run_open hquote, run_inside htext, run_close]
    rfl

theorem run_word (word : List Segment) (current rest : List Char) :
    run (unquoted current) (word.flatMap Segment.written ++ rest) =
      run (unquoted ((word.flatMap Segment.text).reverse ++ current)) rest := by
  induction word generalizing current with
  | nil => rfl
  | cons segment word ih =>
    rw [List.flatMap_cons, List.append_assoc, run_segment, ih, List.flatMap_cons,
      List.reverse_append, List.append_assoc]

private theorem step_blank {c : Char} (hc : isBlank c = true) (current : List Char) :
    (unquoted current).step c = (unquoted [], (unquoted current).finish) := by
  have hquote : ¬(c = '"' ∨ c = '\x27') := by
    rintro (rfl | rfl) <;> exact absurd hc (by decide)
  simp only [step, unquoted]
  rw [if_neg hquote, hc]
  rfl

/-- Blanks end the argument. -/
private theorem run_blanks {blanks : List Char} (hblanks : ∀ c ∈ blanks, isBlank c = true)
    (hne : blanks ≠ []) (current rest : List Char) :
    run (unquoted current) (blanks ++ rest) =
      (unquoted current).finish ++ run (unquoted []) rest := by
  induction blanks generalizing current with
  | nil => exact absurd rfl hne
  | cons c blanks ih =>
    have hrest := fun d hd => hblanks d (List.mem_cons_of_mem c hd)
    rw [List.cons_append, run, step_blank (hblanks c List.mem_cons_self)]
    cases blanks with
    | nil => rfl
    | cons d blanks =>
      rw [ih hrest (List.cons_ne_nil d blanks)]
      rfl

theorem finish_unquoted (text : List Char) :
    (unquoted text.reverse).finish = [text].filter (· ≠ []) := by
  cases text with
  | nil => rfl
  | cons c text => simp [finish, unquoted]

private theorem run_front {blanks : List Char} (hblanks : ∀ c ∈ blanks, isBlank c = true)
    (rest : List Char) : run (unquoted []) (blanks ++ rest) = run (unquoted []) rest := by
  by_cases hne : blanks = []
  · rw [hne]
    rfl
  · exact run_blanks hblanks hne [] rest

private theorem run_end {blanks : List Char} (hblanks : ∀ c ∈ blanks, isBlank c = true)
    (current : List Char) : run (unquoted current) blanks = (unquoted current).finish := by
  by_cases hne : blanks = []
  · rw [hne]
    rfl
  · have hrun := run_blanks hblanks hne current []
    have hnothing : run (unquoted []) [] = [] := rfl
    rwa [List.append_nil, hnothing, List.append_nil] at hrun

/-- Words that are apart end one after the other. -/
theorem run_items {items : List (List Segment × List Char)}
    (hblank : ∀ item ∈ items, ∀ c ∈ item.2, isBlank c = true)
    (hapart : ∀ item ∈ items.dropLast, item.2 ≠ []) :
    run (unquoted []) (items.flatMap fun item => item.1.flatMap Segment.written ++ item.2) =
      (items.map fun item => item.1.flatMap Segment.text).filter (· ≠ []) := by
  induction items with
  | nil => rfl
  | cons item items ih =>
    have hgap := hblank item List.mem_cons_self
    rw [List.flatMap_cons, List.append_assoc, run_word, List.append_nil, List.map_cons]
    cases items with
    | nil =>
      rw [List.flatMap_nil, List.append_nil, run_end hgap, finish_unquoted]
      rfl
    | cons next items =>
      have hne : item.2 ≠ [] := hapart item List.mem_cons_self
      rw [run_blanks hgap hne, finish_unquoted,
        ih (fun other hother => hblank other (List.mem_cons_of_mem _ hother))
          fun other hother => hapart other (List.mem_cons_of_mem _ hother),
        ← List.filter_append]
      rfl

/-- After words no quote is open. -/
theorem leads_items {items : List (List Segment × List Char)}
    (hblank : ∀ item ∈ items, ∀ c ∈ item.2, isBlank c = true) (current : List Char) :
    ∃ ended last, ∀ rest,
      run (unquoted current)
          ((items.flatMap fun item => item.1.flatMap Segment.written ++ item.2) ++ rest) =
        ended ++ run (unquoted last) rest := by
  induction items generalizing current with
  | nil => exact ⟨[], current, fun _ => rfl⟩
  | cons item items ih =>
    have hgap := hblank item List.mem_cons_self
    have hrest := fun other hother => hblank other (List.mem_cons_of_mem item hother)
    let between := (item.1.flatMap Segment.text).reverse ++ current
    by_cases hne : item.2 = []
    · obtain ⟨ended, last, hlast⟩ := ih hrest between
      refine ⟨ended, last, fun rest => ?_⟩
      rw [List.flatMap_cons, hne, List.append_nil, List.append_assoc, run_word]
      exact hlast rest
    · obtain ⟨ended, last, hlast⟩ := ih hrest []
      refine ⟨(unquoted between).finish ++ ended, last, fun rest => ?_⟩
      rw [List.flatMap_cons, List.append_assoc, List.append_assoc, run_word,
        run_blanks hgap hne, hlast, List.append_assoc]

end Cut

namespace Reading

/-- A line is cut into the texts of its words. -/
theorem run_line (r : Reading) : Cut.run {} r.line = r.words.filter (· ≠ []) :=
  (Cut.run_front r.front_blank _).trans (Cut.run_items r.behind_blank r.apart)

theorem leads_line (r : Reading) : ∃ ended last, ∀ rest,
    Cut.run {} (r.line ++ rest) = ended ++ Cut.run (Cut.unquoted last) rest := by
  obtain ⟨ended, last, hlast⟩ := Cut.leads_items r.behind_blank []
  refine ⟨ended, last, fun rest => ?_⟩
  rw [line, List.append_assoc]
  exact (Cut.run_front r.front_blank _).trans (hlast rest)

/-- A reading with a word behind those that are apart. -/
private theorem exists_last {front : List Char} {apart : List (List Segment × List Char)}
    (hfront : ∀ c ∈ front, isBlank c = true)
    (hbehind : ∀ item ∈ apart, ∀ c ∈ item.2, isBlank c = true)
    (hapart : ∀ item ∈ apart, item.2 ≠ []) (word : List Segment) (gap : List Char)
    (hgap : ∀ c ∈ gap, isBlank c = true) :
    ∃ r : Reading, r.line =
      front ++ (apart.flatMap fun item => item.1.flatMap Segment.written ++ item.2) ++
        word.flatMap Segment.written ++ gap := by
  have hall : ∀ item ∈ apart ++ [(word, gap)], ∀ c ∈ item.2, isBlank c = true :=
    List.forall_mem_append.mpr ⟨hbehind, List.forall_mem_singleton.mpr hgap⟩
  refine ⟨⟨front, apart ++ [(word, gap)], hfront, hall, ?_⟩, by simp [line]⟩
  rw [List.dropLast_concat]
  exact hapart

/-- A reading goes on with a segment: of the last word, or of a new one if a blank stands before. -/
private theorem exists_segment (r : Reading) (segment : Segment) :
    ∃ r' : Reading, r'.line = r.line ++ segment.written := by
  obtain ⟨front, items, hfront, hbehind, hapart⟩ := r
  rcases List.eq_nil_or_concat' items with rfl | ⟨init, ⟨word, gap⟩, rfl⟩
  · obtain ⟨r', hr'⟩ := exists_last hfront hbehind hapart [segment] [] nofun
    exact ⟨r', hr'.trans (by simp [line])⟩
  · rw [List.dropLast_concat] at hapart
    obtain ⟨hinit, hlast⟩ := List.forall_mem_append.mp hbehind
    by_cases hgap : gap = []
    · obtain ⟨r', hr'⟩ := exists_last hfront hinit hapart (word ++ [segment]) [] nofun
      exact ⟨r', hr'.trans (by simp [line, hgap])⟩
    · have hall : ∀ item ∈ init ++ [(word, gap)], item.2 ≠ [] :=
        List.forall_mem_append.mpr ⟨hapart, List.forall_mem_singleton.mpr hgap⟩
      obtain ⟨r', hr'⟩ := exists_last hfront hbehind hall [segment] [] nofun
      exact ⟨r', hr'.trans (by simp [line])⟩

/-- A reading goes on with a blank. -/
private theorem exists_blank (r : Reading) {c : Char} (hc : isBlank c = true) :
    ∃ r' : Reading, r'.line = r.line ++ [c] := by
  have hgrown : ∀ {blanks : List Char}, (∀ d ∈ blanks, isBlank d = true) →
      ∀ d ∈ blanks ++ [c], isBlank d = true := fun hblanks =>
    List.forall_mem_append.mpr ⟨hblanks, List.forall_mem_singleton.mpr hc⟩
  obtain ⟨front, items, hfront, hbehind, hapart⟩ := r
  rcases List.eq_nil_or_concat' items with rfl | ⟨init, ⟨word, gap⟩, rfl⟩
  · exact ⟨⟨front ++ [c], [], hgrown hfront, hbehind, hapart⟩, by simp [line]⟩
  · rw [List.dropLast_concat] at hapart
    obtain ⟨hinit, hlast⟩ := List.forall_mem_append.mp hbehind
    have hgap : ∀ d ∈ gap, isBlank d = true := List.forall_mem_singleton.mp hlast
    obtain ⟨r', hr'⟩ := exists_last hfront hinit hapart word _ (hgrown hgap)
    exact ⟨r', hr'.trans (by simp [line])⟩

end Reading

/-- A line whose last quote is still open: it ends in a quote and characters that this does not
close. -/
structure Unclosed (quote : Char) (line : List Char) : Prop where
  isQuote : IsQuote quote
  opened : ∃ (r : Reading) (body : List Char), quote ∉ body ∧ line = r.line ++ quote :: body

/-- A quote that is open at the end may as well be closed there. -/
theorem Unclosed.run_closed {quote : Char} {line : List Char} (h : Unclosed quote line) :
    Cut.run {} line = Cut.run {} (line ++ [quote]) ∧ ∃ r : Reading, r.line = line ++ [quote] := by
  obtain ⟨r, body, hbody, rfl⟩ := h.opened
  constructor
  · obtain ⟨ended, last, hlast⟩ := r.leads_line
    have hopen := Cut.run_inside hbody last []
    rw [List.append_nil] at hopen
    rw [List.append_assoc, hlast, hlast, Cut.run_open h.isQuote, List.cons_append,
      Cut.run_open h.isQuote, Cut.run_inside hbody, Cut.run_close, hopen]
    rfl
  · obtain ⟨r', hr'⟩ := r.exists_segment (.quoted quote h.isQuote body hbody)
    refine ⟨r', hr'.trans ?_⟩
    simp [Segment.written]

/-- Every line can be read, or a quote is open at its end. -/
theorem readable_or_unclosed (line : List Char) :
    (∃ r : Reading, r.line = line) ∨ ∃ quote, Unclosed quote line := by
  -- The line grows at its end, as the cut reads it: each character goes on with the reading, opens a
  -- quote, or goes on with the quote that is open.
  induction line using List.reverseRecOn with
  | nil => exact .inl ⟨⟨[], [], nofun, nofun, nofun⟩, rfl⟩
  | append_singleton line c ih =>
    rcases ih with ⟨r, rfl⟩ | ⟨quote, hquote, r, body, hbody, rfl⟩
    · by_cases hquote : IsQuote c
      · exact .inr ⟨c, hquote, r, [], List.not_mem_nil, rfl⟩
      · cases hblank : isBlank c with
        | true => exact .inl (r.exists_blank hblank)
        | false =>
          have hbare : ∀ d ∈ [c], isBlank d = false ∧ ¬IsQuote d := by
            intro d hd
            obtain rfl := List.mem_singleton.mp hd
            exact ⟨hblank, hquote⟩
          exact .inl (r.exists_segment (.bare [c] hbare))
    · by_cases hcloses : c = quote
      · subst hcloses
        exact .inl (Unclosed.run_closed ⟨hquote, r, body, hbody, rfl⟩).2
      · refine .inr ⟨quote, hquote, r, body ++ [c], ?_, by simp⟩
        simp [hbody, Ne.symm hcloses]

def Segment.single (c : Char) : Segment :=
  if h : c = '"' then .quoted '\x27' (.inr rfl) [c] (by simp [h])
  else .quoted '"' (.inl rfl) [c] (by simpa using Ne.symm h)

theorem Segment.text_single (c : Char) : (single c).text = [c] := by
  unfold single
  split <;> rfl

/-- Words that are written one character after the other, each with a blank behind it. -/
def Reading.spelled (words : List (List Char)) : Reading where
  front := []
  items := words.map fun word => (word.map Segment.single, [' '])
  front_blank := nofun
  behind_blank := by simp [isBlank]
  apart item hitem := by
    obtain ⟨word, _, rfl⟩ := List.mem_map.mp (List.dropLast_subset _ hitem)
    exact List.cons_ne_nil _ _

theorem Reading.words_spelled (words : List (List Char)) : (spelled words).words = words := by
  have hspelled : ∀ word : List Char, (word.map Segment.single).flatMap Segment.text = word := by
    intro word
    induction word with
    | nil => rfl
    | cons c word ih => rw [List.map_cons, List.flatMap_cons, ih, Segment.text_single]; rfl
  rw [Reading.words, spelled, List.map_map]
  exact (List.map_congr_left fun word _ => hspelled word).trans (List.map_id _)

theorem arguments_ofList (line : List Char) :
    arguments (String.ofList line) = (Cut.run {} line).map String.ofList := by
  rw [arguments, String.toList_ofList]

/-- A line that was written by the rules of quoting is cut into the words that it was written
for. -/
theorem arguments_line (r : Reading) : arguments (String.ofList r.line) =
    (r.words.map String.ofList).filter (· ≠ "") := by
  have hempty : ∀ text : List Char, String.ofList text = "" ↔ text = [] := by
    intro text
    rw [← String.toList_inj]
    simp
  rw [arguments_ofList, r.run_line, List.filter_map]
  congr 2
  funext text
  simp [hempty]

example : arguments " panel string k \"a \x27b\x27 c\" " =
    ["panel", "string", "k", "a \x27b\x27 c"] := by
  decide +kernel

/-- A command line is cut exactly as its quoting says. The arguments of a line that is written as words
are the texts of these words, the empty ones left out; a quote that is still open at the end counts as
closed there; every line is written in one of these two ways; and all lists of texts that are not
empty can be written. -/
theorem arguments_follow_quoting :
    (∀ r : Reading, arguments (String.ofList r.line) =
      (r.words.map String.ofList).filter (· ≠ "")) ∧
    (∀ quote line, Unclosed quote line →
      arguments (String.ofList line) = arguments (String.ofList (line ++ [quote])) ∧
        ∃ r : Reading, r.line = line ++ [quote]) ∧
    (∀ line : List Char, (∃ r : Reading, r.line = line) ∨ ∃ quote, Unclosed quote line) ∧
    ∀ words : List String, "" ∉ words → ∃ line, arguments line = words := by
  refine ⟨arguments_line, ?_, readable_or_unclosed, ?_⟩
  · intro quote line hunclosed
    obtain ⟨hsame, hreading⟩ := hunclosed.run_closed
    refine ⟨?_, hreading⟩
    rw [arguments_ofList, arguments_ofList, hsame]
  · intro words hwords
    refine ⟨String.ofList (Reading.spelled (words.map String.toList)).line, ?_⟩
    have htexts : (words.map String.toList).map String.ofList = words := by
      simp [List.map_map, Function.comp_def]
    rw [arguments_line, Reading.words_spelled, htexts, List.filter_eq_self]
    intro word hword
    have hne : word ≠ "" := fun hempty => hwords (hempty ▸ hword)
    simpa using hne

end TilePanel.Shell
