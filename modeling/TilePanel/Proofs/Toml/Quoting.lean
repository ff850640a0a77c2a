import TilePanel.Proofs.Toml.Runs

/-!
Texts as the writer quotes them, read back. Every character that is written between double quotes is
read back by itself, so both readers undo the escapes one character at a time. Between triple quotes
the reader counts quotes as the writer does.
-/

namespace TilePanel.Toml

open TilePanel.Text

@[simp]
theorem withFront_nil (reading : Reading (List Char)) : withFront [] reading = reading := by
  cases reading <;> rfl

@[simp]
theorem withFront_some (front cs rest : List Char) :
    withFront front (some (cs, rest)) = some (front ++ cs, rest) := rfl

private theorem withFront_withFront (front later : List Char) (reading : Reading (List Char)) :
    withFront front (withFront later reading) = withFront (front ++ later) reading := by
  cases reading <;> simp [withFront]

theorem isPlain_of_needsEscape {c : Char} (hescape : needsEscape c = false) (hbreak : c ≠ '\n') :
    isPlain c = true := by
  by_cases htab : c = '\t'
  · simp [isPlain, htab]
  · simp [needsEscape, htab, hbreak] at hescape
    simp [isPlain, htab]
    omega

/-- Characters that a test tells apart are different. -/
theorem ne_of_test {p : Char → Bool} {c d : Char} (hc : p c = true) (hd : p d = false) : c ≠ d := by
  rintro rfl
  rw [hc] at hd
  cases hd

/-! Escapes. -/

theorem charOf?_toNat (c : Char) : charOf? c.toNat = some c := by
  have hvalid : c.toNat.isValidChar := c.valid
  rw [charOf?, if_pos hvalid, Char.ofNat_toNat]

/-- The digits of a code point below 256 are those of its two halves behind two zeros. -/
private theorem charOf?_halves (c : Char) :
    charOf? (16 * (c.toNat / 16) + c.toNat % 16) = some c := by
  rw [Nat.div_add_mod, charOf?_toNat]

private theorem toNat_lt_of_needsEscape {c : Char} (h : needsEscape c = true) : c.toNat < 128 := by
  simp only [needsEscape, Bool.and_eq_true, Bool.or_eq_true, decide_eq_true_eq] at h
  omega

private theorem hexValue?_high {c : Char} (h : needsEscape c = true) :
    hexValue? (upperHexDigit (c.toNat / 16)) = some (c.toNat / 16) := by
  have := toNat_lt_of_needsEscape h
  exact hexValue?_upperHexDigit (by omega)

private theorem hexValue?_low (c : Char) :
    hexValue? (upperHexDigit (c.toNat % 16)) = some (c.toNat % 16) :=
  hexValue?_upperHexDigit (Nat.mod_lt _ (by decide))

/-- How a character is escaped: by a letter of its own, by its code point, or not at all. -/
private theorem escapeChar_cases (c : Char) :
    (∃ d, escapeChar c = ['\\', d] ∧ afterBackslash d = some (.plain, [c]) ∧
      LongMode.escape.next '"' d = some (.plain, [c])) ∨
    (escapeChar c = codeEscape c ∧ needsEscape c = true) ∨
    (escapeChar c = [c] ∧ c ≠ '\\' ∧ c ≠ '\r' ∧ needsEscape c = false) := by
  unfold escapeChar
  split
  · next h => exact .inl ⟨'t', rfl, by subst h; decide⟩
  split
  · next h => exact .inl ⟨'\\', rfl, by subst h; decide⟩
  split
  · next h => exact .inl ⟨'r', rfl, by subst h; decide⟩
  split
  · next h => exact .inl ⟨'b', rfl, by subst h; decide⟩
  split
  · next h => exact .inl ⟨'f', rfl, by subst h; decide⟩
  split
  · next h => exact .inr (.inl ⟨rfl, h⟩)
  · next hslash hreturn _ _ hescape =>
    exact .inr (.inr ⟨rfl, hslash, hreturn, Bool.eq_false_iff.mpr hescape⟩)

theorem quotedText_codeEscape {c : Char} (h : needsEscape c = true) (rest : List Char) :
    quotedText .plain (codeEscape c ++ rest) = withFront [c] (quotedText .plain rest) := by
  have hzero : hexValue? '0' = some 0 := by decide
  have hstart : afterBackslash 'u' = some (.code 4 0, []) := by decide
  simp [codeEscape, quotedText, hstart, hzero, hexValue?_high h, hexValue?_low, codeDigit,
    charOf?_halves]

/-- The writer's escape of a character on one line is read as that character. -/
theorem quotedText_escapeChar {c : Char} (hquote : c ≠ '"') (hbreak : c ≠ '\n')
    (rest : List Char) :
    quotedText .plain (escapeChar c ++ rest) = withFront [c] (quotedText .plain rest) := by
  rcases escapeChar_cases c with ⟨d, hc, hd, _⟩ | ⟨hc, hescape⟩ | ⟨hc, hslash, _, hescape⟩
  · rw [hc]
    simp [quotedText, hd]
  · rw [hc]
    exact quotedText_codeEscape hescape rest
  · have hplain := isPlain_of_needsEscape hescape hbreak
    rw [hc]
    simp [quotedText, hquote, hslash, hplain]

/-- A text on one line between double quotes is read back. -/
theorem quotedText_escapeLine (cs rest : List Char) :
    quotedText .plain (escapeLine cs ++ '"' :: rest) = some (cs, rest) := by
  induction cs with
  | nil => simp [escapeLine, quotedText]
  | cons c cs ih =>
    have htail : escapeLine (c :: cs) ++ '"' :: rest =
        (if c = '"' then ['\\', '"'] else if c = '\n' then ['\\', 'n'] else escapeChar c) ++
          (escapeLine cs ++ '"' :: rest) := by
      rw [escapeLine, List.flatMap_cons, List.append_assoc]
      rfl
    rw [htail]
    split
    · next h =>
      have hquote : afterBackslash '"' = some (.plain, ['"']) := by decide
      simp [quotedText, hquote, ih, h]
    · next hquote =>
      split
      · next h =>
        have hbreak : afterBackslash 'n' = some (.plain, ['\n']) := by decide
        simp [quotedText, hbreak, ih, h]
      · next hbreak =>
        rw [quotedText_escapeChar hquote hbreak, ih]
        rfl

/-- A text between single quotes is read as it is. -/
theorem literalText_append {cs : List Char} (hplain : ∀ c ∈ cs, isPlain c = true)
    (hquote : '\x27' ∉ cs) (rest : List Char) :
    literalText (cs ++ '\x27' :: rest) = some (cs, rest) := by
  have hinside : ∀ c ∈ cs, (isPlain c && decide (c ≠ '\x27')) = true := by
    intro c hc
    have hne : c ≠ '\x27' := fun h => hquote (h ▸ hc)
    simp [hplain c hc, hne]
  unfold literalText
  dsimp only
  rw [List.dropWhile_append_of_pos hinside, List.takeWhile_append_of_pos hinside]
  simp

/-! Triple quotes. -/

/-- Where the reader stands after some quotes in a row. -/
def standing : Nat → LongMode
  | 0 => .plain
  | run + 1 => .quotes (run + 1)

/-- A quote that does not end the text is counted. -/
private theorem longText_quote {quote : Char} {run : Nat} (hrun : run < 5) (rest : List Char) :
    longText quote (standing run) (quote :: rest) = longText quote (standing (run + 1)) rest := by
  have hgoes : (standing run).endsBefore quote quote = false := by
    cases run with
    | zero => rfl
    | succ run => simp [standing, LongMode.endsBefore]; omega
  have hnext : (standing run).next quote quote = some (standing (run + 1), []) := by
    cases run with
    | zero => simp [standing, LongMode.next, longStart]
    | succ run => simp [standing, LongMode.next]
  rw [longText, hgoes]
  simp [hnext]

/-- Up to two quotes in front of another character belong to the text. -/
private theorem longText_standing {quote c : Char} (hc : c ≠ quote) {run : Nat} (hrun : run ≤ 2)
    (rest : List Char) :
    longText quote (standing run) (c :: rest) =
      withFront (List.replicate run quote) (longText quote .plain (c :: rest)) := by
  cases run with
  | zero => simp [standing]
  | succ run =>
    have hgoes : (LongMode.quotes (run + 1)).endsBefore quote c = false := by
      simp [LongMode.endsBefore]
      omega
    rw [standing, longText, longText, hgoes]
    simp only [LongMode.next, LongMode.endsBefore, longStart, hc, if_false, Bool.false_eq_true]
    cases longPlain quote c with
    | none => rfl
    | some step => exact (withFront_withFront _ _ _).symm

/-- The closing quotes, with up to two quotes of the text in front of them. -/
private theorem longText_close {quote : Char} {run : Nat} (hrun : run ≤ 2) {rest : List Char}
    (hrest : rest.head? ≠ some quote) :
    longText quote (standing run) (quote :: quote :: quote :: rest) =
      some (List.replicate run quote, rest) := by
  rw [longText_quote (by omega), longText_quote (by omega), longText_quote (by omega)]
  have hending : (standing (run + 3)).ending? quote = some (List.replicate run quote) := by
    simp [standing, LongMode.ending?]
  cases rest with
  | nil => rw [longText, hending]; rfl
  | cons c rest =>
    have hc : c ≠ quote := fun h => hrest (congrArg some h)
    have hends : (standing (run + 3)).endsBefore quote c = true := by
      simp [standing, LongMode.endsBefore, hc]
    rw [longText, hends, hending]
    rfl

private theorem longText_of_plain {quote c : Char} {front : List Char} (hc : c ≠ quote)
    (hplain : longPlain quote c = some (.plain, front)) (rest : List Char) :
    longText quote .plain (c :: rest) = withFront front (longText quote .plain rest) := by
  simp [longText, LongMode.endsBefore, LongMode.next, longStart, hc, hplain]

private theorem longText_codeEscape {c : Char} (h : needsEscape c = true) (rest : List Char) :
    longText '"' .plain (codeEscape c ++ rest) = withFront [c] (longText '"' .plain rest) := by
  have hzero : hexValue? '0' = some 0 := by decide
  have hslash : LongMode.plain.next '"' '\\' = some (.escape, []) := by decide
  have hstart : LongMode.escape.next '"' 'u' = some (.code 4 0, []) := by decide
  simp [codeEscape, longText, LongMode.endsBefore, hslash, hstart]
  simp [LongMode.next, hzero, hexValue?_high h, hexValue?_low, codeDigit, Mode.long,
    charOf?_halves]

/-- The writer's escape of a character is read as that character. -/
private theorem longText_escapeChar {c : Char} (hquote : c ≠ '"') (hbreak : c ≠ '\n')
    (rest : List Char) :
    longText '"' .plain (escapeChar c ++ rest) = withFront [c] (longText '"' .plain rest) := by
  rcases escapeChar_cases c with ⟨d, hc, _, hd⟩ | ⟨hc, hescape⟩ | ⟨hc, hslash, hreturn, hescape⟩
  · have hstart : LongMode.plain.next '"' '\\' = some (.escape, []) := by decide
    rw [hc]
    simp [longText, LongMode.endsBefore, hstart, hd]
  · rw [hc]
    exact longText_codeEscape hescape rest
  · have hplain := isPlain_of_needsEscape hescape hbreak
    rw [hc]
    refine longText_of_plain hquote ?_ rest
    simp [longPlain, hslash, hbreak, hreturn, hplain]

/-- The first character that stands for a character other than a double quote is none. -/
private theorem head_escapeChar {c : Char} (hquote : c ≠ '"') :
    ∃ d r, escapeChar c = d :: r ∧ d ≠ '"' ∧ (d = '\n' → c = '\n') ∧ d ≠ '\r' := by
  rcases escapeChar_cases c with ⟨d, hc, _, _⟩ | ⟨hc, _⟩ | ⟨hc, _, hreturn, _⟩
  · exact ⟨'\\', [d], hc, by decide, by simp, by decide⟩
  · exact ⟨'\\', _, hc, by decide, by simp, by decide⟩
  · exact ⟨c, [], hc, hquote, id, hreturn⟩

/-- A text between triple double quotes is read back, with the quotes in front of it. -/
theorem longText_escapeLong (cs : List Char) {run : Nat} (hrun : run ≤ 2) {rest : List Char}
    (hrest : rest.head? ≠ some '"') :
    longText '"' (standing run) (escapeLong run cs ++ '"' :: '"' :: '"' :: rest) =
      some (List.replicate run '"' ++ cs, rest) := by
  induction cs generalizing run with
  | nil =>
    rw [escapeLong, List.append_nil]
    exact longText_close hrun hrest
  | cons c cs ih =>
    by_cases hquote : c = '"'
    · subst hquote
      rw [escapeLong, if_pos rfl]
      by_cases hthird : run = 2
      · have hescape : longText '"' .plain
            ('\\' :: '"' :: (escapeLong 0 cs ++ '"' :: '"' :: '"' :: rest)) =
            some ('"' :: cs, rest) := by
          have hslash : LongMode.plain.next '"' '\\' = some (.escape, []) := by decide
          have hnext : LongMode.escape.next '"' '"' = some (.plain, ['"']) := by decide
          have hread : longText '"' .plain (escapeLong 0 cs ++ '"' :: '"' :: '"' :: rest) =
              some (cs, rest) := ih (Nat.zero_le 2)
          simp [longText, LongMode.endsBefore, hslash, hnext, hread]
        rw [if_pos hthird, List.cons_append, List.cons_append,
          longText_standing (by decide) hrun, hescape, withFront_some]
      · rw [if_neg hthird, List.cons_append, longText_quote (by omega), ih (by omega),
          List.replicate_succ', List.append_assoc]
        rfl
    · have hread : longText '"' .plain (escapeLong 0 cs ++ '"' :: '"' :: '"' :: rest) =
          some (cs, rest) := ih (Nat.zero_le 2)
      rw [escapeLong, if_neg hquote]
      by_cases hbreak : c = '\n'
      · have hplain : longPlain '"' '\n' = some (.plain, ['\n']) := by decide
        rw [if_pos hbreak, List.cons_append, longText_standing (by decide) hrun,
          longText_of_plain (by decide) hplain, hread, hbreak]
        rfl
      · obtain ⟨d, r, hhead, hd, _⟩ := head_escapeChar hquote
        have hescape : longText '"' .plain
            (escapeChar c ++ (escapeLong 0 cs ++ '"' :: '"' :: '"' :: rest)) =
            some (c :: cs, rest) := by
          rw [longText_escapeChar hquote hbreak, hread]
          rfl
        rw [if_neg hbreak, List.append_assoc]
        rw [hhead] at hescape ⊢
        rw [List.cons_append, longText_standing hd hrun]
        rw [List.cons_append] at hescape
        rw [hescape]
        rfl

/-- A text between triple single quotes is read as it is. -/
theorem longText_raw {cs : List Char} (hplain : ∀ c ∈ cs, isPlain c = true ∨ c = '\n') {run : Nat}
    (hruns : RunsWithin 2 '\x27' run cs) {rest : List Char} (hrest : rest.head? ≠ some '\x27') :
    longText '\x27' (standing run) (cs ++ '\x27' :: '\x27' :: '\x27' :: rest) =
      some (List.replicate run '\x27' ++ cs, rest) := by
  induction cs generalizing run with
  | nil =>
    rw [List.append_nil]
    exact longText_close hruns hrest
  | cons c cs ih =>
    have hrun := hruns.front
    have htail := fun d hd => hplain d (List.mem_cons_of_mem c hd)
    rw [List.cons_append]
    by_cases hquote : c = '\x27'
    · subst hquote
      have hruns' : RunsWithin 2 '\x27' (run + 1) cs := by simpa [RunsWithin] using hruns.2
      rw [longText_quote (by omega), ih htail hruns', List.replicate_succ', List.append_assoc]
      rfl
    · have hruns' : RunsWithin 2 '\x27' 0 cs := by simpa [RunsWithin, hquote] using hruns.2
      have hread : longText '\x27' .plain (cs ++ '\x27' :: '\x27' :: '\x27' :: rest) =
          some (cs, rest) := ih htail hruns'
      have hstep : longPlain '\x27' c = some (.plain, [c]) := by
        rcases hplain c List.mem_cons_self with hc | rfl
        · have hreturn : c ≠ '\r' := ne_of_test hc (by decide)
          have hbreak : c ≠ '\n' := ne_of_test hc (by decide)
          simp [longPlain, hc, hreturn, hbreak]
        · decide
      rw [longText_standing hquote hrun, longText_of_plain hquote hstep, hread]
      rfl

/-! The forms. -/

private theorem formOf_single {cs : List Char} (h : formOf cs = .single) :
    cs.any needsEscape = false ∧ '\x27' ∉ cs ∧ '\n' ∉ cs := by
  dsimp only [formOf] at h
  split at h
  · cases h
  split at h
  · next hs =>
    simp only [Bool.and_eq_true, Bool.not_eq_true', decide_eq_true_eq] at hs
    obtain ⟨⟨hescape, hsingles⟩, hbreak⟩ := hs
    exact ⟨hescape, (longestRun_eq_zero_iff _ cs).mp hsingles, by simpa using hbreak⟩
  · split at h
    · cases h
    split at h
    · cases h
    split at h <;> cases h

private theorem formOf_longSingle {cs : List Char} (h : formOf cs = .longSingle) :
    cs.any needsEscape = false ∧ RunsWithin 2 '\x27' 0 cs := by
  dsimp only [formOf] at h
  split at h
  · cases h
  split at h
  · cases h
  split at h
  · cases h
  split at h
  · next hs =>
    simp only [Bool.and_eq_true, Bool.not_eq_true', decide_eq_true_eq] at hs
    exact ⟨hs.1, (longestRun_le_iff 2 _ cs).mp hs.2⟩
  · split at h <;> cases h

private theorem skipLineBreak_of_head {cs : List Char} (hbreak : cs.head? ≠ some '\n')
    (hreturn : cs.head? ≠ some '\r') : skipLineBreak cs = cs := by
  unfold skipLineBreak lineBreak?
  split
  · exact absurd rfl hbreak
  · exact absurd rfl hreturn
  · rfl

/-- The line break behind the opening quotes is skipped, and where there is none the text does not
begin with one. -/
private theorem skipLineBreak_opening {cs body : List Char}
    (hbody : '\n' ∉ cs → body.head? ≠ some '\n' ∧ body.head? ≠ some '\r') :
    skipLineBreak (opening cs ++ body) = body := by
  unfold opening
  split
  · rfl
  · next hnone =>
    obtain ⟨hbreak, hreturn⟩ := hbody (by simpa using hnone)
    exact skipLineBreak_of_head hbreak hreturn

/-- One quote opens a text on one line, unless two more follow. -/
theorem string?_double {r : List Char} (hr : ∀ r', r ≠ '"' :: '"' :: r') :
    string? ('"' :: r) = quotedText .plain r := by
  unfold string?
  split
  · next r' h =>
    have htwo : r = '"' :: '"' :: r' := (List.cons.inj h).2
    exact absurd htwo (hr r')
  · next h => rw [(List.cons.inj h).2]
  · next h => cases h
  · next h => cases h
  · next _ hnone _ _ => exact absurd rfl (hnone r)

theorem string?_single {r : List Char} (hr : ∀ r', r ≠ '\x27' :: '\x27' :: r') :
    string? ('\x27' :: r) = literalText r := by
  unfold string?
  split
  · next h => cases h
  · next h => cases h
  · next r' h =>
    have htwo : r = '\x27' :: '\x27' :: r' := (List.cons.inj h).2
    exact absurd htwo (hr r')
  · next h => rw [(List.cons.inj h).2]
  · next hnone => exact absurd rfl (hnone r)

private theorem head_escapeLine {c : Char} (cs : List Char) :
    ∃ d r, escapeLine (c :: cs) = d :: r ∧ d ≠ '"' := by
  rw [escapeLine, List.flatMap_cons]
  split
  · exact ⟨_, _, rfl, by decide⟩
  split
  · exact ⟨_, _, rfl, by decide⟩
  · next hquote _ =>
    obtain ⟨d, r, hhead, hd, _⟩ := head_escapeChar hquote
    rw [hhead]
    exact ⟨d, _, rfl, hd⟩

/-- A text on one line between double quotes, whatever follows but another quote. -/
theorem string?_escapeLine (cs : List Char) {rest : List Char} (hrest : rest.head? ≠ some '"') :
    string? ('"' :: (escapeLine cs ++ '"' :: rest)) = some (cs, rest) := by
  rw [string?_double, quotedText_escapeLine]
  intro r h
  cases cs with
  | nil =>
    have hrest' : rest = '"' :: r := (List.cons.inj h).2
    exact hrest (by rw [hrest']; rfl)
  | cons c cs =>
    obtain ⟨d, r', hhead, hd⟩ := head_escapeLine (c := c) cs
    rw [hhead] at h
    exact hd (List.cons.inj h).1

/-- Between single quotes every character stands for itself. -/
theorem string?_raw {cs : List Char} (hplain : ∀ c ∈ cs, isPlain c = true) (hquote : '\x27' ∉ cs)
    {rest : List Char} (hrest : rest.head? ≠ some '\x27') :
    string? ('\x27' :: (cs ++ '\x27' :: rest)) = some (cs, rest) := by
  rw [string?_single, literalText_append hplain hquote]
  intro r h
  cases cs with
  | nil =>
    have hrest' : rest = '\x27' :: r := (List.cons.inj h).2
    exact hrest (by rw [hrest']; rfl)
  | cons c cs => exact hquote (by rw [(List.cons.inj h).1]; exact List.mem_cons_self)

/-- The first character of a text between triple double quotes, if it has no line break. -/
private theorem head_escapeLong {cs : List Char} (hbreak : '\n' ∉ cs) (rest : List Char) :
    (escapeLong 0 cs ++ '"' :: rest).head? ≠ some '\n' ∧
      (escapeLong 0 cs ++ '"' :: rest).head? ≠ some '\r' := by
  cases cs with
  | nil => simp [escapeLong]
  | cons c cs =>
    have hc : c ≠ '\n' := fun h => hbreak (by rw [h]; exact List.mem_cons_self)
    by_cases hquote : c = '"'
    · simp [escapeLong, hquote]
    · obtain ⟨d, r, hhead, _, hd, hreturn⟩ := head_escapeChar hquote
      rw [escapeLong, if_neg hquote, if_neg hc, hhead]
      have hfirst : d ≠ '\n' := fun h => hc (hd h)
      simp [hfirst, hreturn]

private theorem isPlain_of_any {cs : List Char} (hescape : cs.any needsEscape = false) :
    ∀ c ∈ cs, isPlain c = true ∨ c = '\n' := by
  intro c hc
  by_cases hbreak : c = '\n'
  · exact .inr hbreak
  · have hnone := List.any_eq_false.mp hescape c hc
    exact .inl (isPlain_of_needsEscape (Bool.eq_false_iff.mpr hnone) hbreak)

/-- A written text is read back, whatever follows but another quote. -/
theorem string?_writeText (cs : List Char) {rest : List Char} (hdouble : rest.head? ≠ some '"')
    (hsingle : rest.head? ≠ some '\x27') :
    string? (writeText cs ++ rest) = some (cs, rest) := by
  unfold writeText
  cases hform : formOf cs with
  | double =>
    simp only [List.cons_append, List.append_assoc, List.nil_append]
    exact string?_escapeLine cs hdouble
  | single =>
    obtain ⟨hescape, hquote, hbreak⟩ := formOf_single hform
    simp only [List.cons_append, List.append_assoc, List.nil_append]
    refine string?_raw ?_ hquote hsingle
    intro c hc
    exact (isPlain_of_any hescape c hc).resolve_right fun h => hbreak (h ▸ hc)
  | longDouble =>
    simp only [List.cons_append, List.append_assoc, List.nil_append]
    rw [string?, skipLineBreak_opening fun hbreak => head_escapeLong hbreak _]
    exact longText_escapeLong cs (Nat.zero_le 2) hdouble
  | longSingle =>
    obtain ⟨hescape, hruns⟩ := formOf_longSingle hform
    have hplain := isPlain_of_any hescape
    simp only [List.cons_append, List.append_assoc, List.nil_append]
    have hopening : skipLineBreak (opening cs ++
        (cs ++ '\x27' :: '\x27' :: '\x27' :: rest)) =
        cs ++ '\x27' :: '\x27' :: '\x27' :: rest := by
      refine skipLineBreak_opening fun hbreak => ?_
      cases cs with
      | nil => simp
      | cons c cs =>
        have hc : c ≠ '\n' := fun h => hbreak (by rw [h]; exact List.mem_cons_self)
        have hreturn : c ≠ '\r' :=
          ne_of_test ((hplain c List.mem_cons_self).resolve_right hc) (by decide)
        simp [hc, hreturn]
    rw [string?, hopening]
    exact longText_raw hplain hruns hsingle

end TilePanel.Toml
