import TilePanel.Proofs.Toml.Quoting
import TilePanel.Proofs.Toml.Words
import TilePanel.Toml.Document

/-!
Keys and values at their places on a line, read back.
-/

namespace TilePanel.Toml

open TilePanel.Text

theorem skipGaps_of_head {c : Char} (hc : isGap c = false) (r : List Char) :
    skipGaps (c :: r) = c :: r := by
  simp [skipGaps, hc]

theorem skipGaps_space (r : List Char) : skipGaps (' ' :: r) = skipGaps r := by
  simp [skipGaps, isGap]

/-! Keys. -/

def beginsKey (c : Char) : Bool :=
  isBare c || c = '"' || c = '\x27'

/-- A written key cannot be taken for the beginning of a table, or for a line without a
statement. -/
theorem head_writeKey (cs : List Char) : ∃ c r, writeKey cs = c :: r ∧ beginsKey c = true := by
  dsimp only [writeKey]
  split
  · next hbare =>
    cases cs with
    | nil => simp at hbare
    | cons c cs =>
      simp only [List.all_cons, Bool.and_eq_true] at hbare
      exact ⟨c, cs, rfl, by simp [beginsKey, hbare.2.1]⟩
  split
  · exact ⟨'"', _, rfl, rfl⟩
  split
  · exact ⟨'\x27', _, rfl, rfl⟩
  · exact ⟨'"', _, rfl, rfl⟩

theorem isGap_of_beginsKey {c : Char} (hc : beginsKey c = true) : isGap c = false := by
  have hspace : c ≠ ' ' := ne_of_test hc (by decide)
  have htab : c ≠ '\t' := ne_of_test hc (by decide)
  simp [isGap, hspace, htab]

private theorem simpleKey?_bare {cs : List Char} (hne : cs ≠ []) (hbare : ∀ c ∈ cs, isBare c = true)
    {d : Char} (hd : isBare d = false) (rest : List Char) :
    simpleKey? (cs ++ d :: rest) = some (String.ofList cs, d :: rest) := by
  have htake : (cs ++ d :: rest).takeWhile isBare = cs := by
    rw [List.takeWhile_append_of_pos hbare]
    simp [hd]
  have hdrop : (cs ++ d :: rest).dropWhile isBare = d :: rest := by
    rw [List.dropWhile_append_of_pos hbare]
    simp [hd]
  obtain ⟨c, r, rfl⟩ := List.exists_cons_of_ne_nil hne
  have hc := hbare c List.mem_cons_self
  unfold simpleKey?
  split
  · next h => exact absurd (List.cons.inj h).1 (ne_of_test hc (by decide))
  · next h => exact absurd (List.cons.inj h).1 (ne_of_test hc (by decide))
  · rw [htake, hdrop]

/-- A written key is read back, up to a character that no bare key holds. -/
theorem simpleKey?_writeKey (cs : List Char) {d : Char} (hd : isBare d = false)
    (rest : List Char) :
    simpleKey? (writeKey cs ++ d :: rest) = some (String.ofList cs, d :: rest) := by
  have hquoted : simpleKey? ('"' :: (escapeLine cs ++ '"' :: d :: rest)) =
      some (String.ofList cs, d :: rest) := by
    simp [simpleKey?, quotedText_escapeLine]
  dsimp only [writeKey]
  split
  · next hbare =>
    simp only [Bool.and_eq_true, Bool.not_eq_true', List.isEmpty_eq_false_iff,
      List.all_eq_true] at hbare
    exact simpleKey?_bare hbare.1 hbare.2 hd rest
  split
  · simpa using hquoted
  split
  · next hliteral =>
    simp only [Bool.and_eq_true, Bool.not_eq_true', List.any_eq_false, Bool.or_eq_true,
      decide_eq_true_eq, not_or, Bool.not_eq_true, List.contains_eq_mem,
      decide_eq_false_iff_not] at hliteral
    obtain ⟨hescape, hquote⟩ := hliteral
    have hplain : ∀ c ∈ cs, isPlain c = true :=
      fun c hc => isPlain_of_needsEscape (hescape c hc).1 (hescape c hc).2
    simp [simpleKey?, literalText_append hplain hquote]
  · simpa using hquoted

/-- A key without dots, as a whole; what follows it on the line is no dot. -/
theorem dottedKey?_writeKey (limit : Nat) (cs : List Char) {d : Char} (hd : isBare d = false)
    (rest : List Char) (hrest : (skipGaps (d :: rest)).head? ≠ some '.') :
    dottedKey? (limit + 1) (writeKey cs ++ d :: rest) =
      some ([String.ofList cs], skipGaps (d :: rest)) := by
  obtain ⟨c, r, hhead, hc⟩ := head_writeKey cs
  have hskip : skipGaps (writeKey cs ++ d :: rest) = writeKey cs ++ d :: rest := by
    rw [hhead, List.cons_append]
    exact skipGaps_of_head (isGap_of_beginsKey hc) _
  unfold dottedKey?
  rw [hskip, simpleKey?_writeKey cs hd]
  dsimp only
  split
  · next h => exact absurd (by rw [h]; rfl) hrest
  · rfl

/-! Values. -/

/-- Whether what is written behind an equals sign is read as a value, up to the end of the line. -/
def Reads (written : List Char) (v : Value) : Prop :=
  ∀ rest, value? depthLimit (skipGaps (' ' :: (written ++ '\n' :: rest))) = some (v, '\n' :: rest)

/-- What begins neither an array nor a table is a text or a word. -/
theorem value?_of_head {c : Char} (harray : c ≠ '[') (htable : c ≠ '\x7b') (depth : Nat)
    (r : List Char) :
    value? depth (c :: r) =
      match string? (c :: r) with
      | some (text, r) => some (.string (String.ofList text), r)
      | none => scalar? (c :: r) := by
  unfold value?
  split
  · next h => exact absurd (List.cons.inj h).1 harray
  · next h => exact absurd (List.cons.inj h).1 htable
  · rfl

private theorem head_writeText (cs : List Char) :
    ∃ q r, writeText cs = q :: r ∧ (q = '"' ∨ q = '\x27') := by
  unfold writeText
  split
  · exact ⟨_, _, rfl, .inl rfl⟩
  · exact ⟨_, _, rfl, .inr rfl⟩
  · exact ⟨_, _, rfl, .inl rfl⟩
  · exact ⟨_, _, rfl, .inr rfl⟩

/-- A text is read back, whatever the form that it was written in. -/
theorem reads_writeText (cs : List Char) : Reads (writeText cs) (.string (String.ofList cs)) := by
  intro rest
  have htext : string? (writeText cs ++ '\n' :: rest) = some (cs, '\n' :: rest) :=
    string?_writeText cs (by simp) (by simp)
  obtain ⟨q, r, hhead, hq⟩ := head_writeText cs
  have hother : isGap q = false ∧ q ≠ '[' ∧ q ≠ '\x7b' := by
    rcases hq with rfl | rfl <;> decide
  rw [skipGaps_space]
  rw [hhead, List.cons_append] at htext ⊢
  rw [skipGaps_of_head hother.1, value?_of_head hother.2.1 hother.2.2, htext]

private theorem string?_of_head {c : Char} (hdouble : c ≠ '"') (hsingle : c ≠ '\x27')
    (r : List Char) : string? (c :: r) = none := by
  unfold string?
  split
  · next h => exact absurd (List.cons.inj h).1 hdouble
  · next h => exact absurd (List.cons.inj h).1 hdouble
  · next h => exact absurd (List.cons.inj h).1 hsingle
  · next h => exact absurd (List.cons.inj h).1 hsingle
  · rfl

/-- A word is no text, array or table, since it begins with none of their characters. -/
theorem reads_of_scalar {word : List Char} {v : Value} (hne : word ≠ [])
    (hchars : ∀ c ∈ word, isWordChar c = true)
    (hscalar : ∀ rest, scalar? (word ++ '\n' :: rest) = some (v, '\n' :: rest)) :
    Reads word v := by
  intro rest
  have hword := hscalar rest
  obtain ⟨c, r, rfl⟩ := List.exists_cons_of_ne_nil hne
  have hc := hchars c List.mem_cons_self
  have hgap : isGap c = false := by
    have hspace : c ≠ ' ' := ne_of_test hc (by decide)
    have htab : c ≠ '\t' := ne_of_test hc (by decide)
    simp [isGap, hspace, htab]
  rw [skipGaps_space]
  rw [List.cons_append] at hword ⊢
  rw [skipGaps_of_head hgap,
    value?_of_head (ne_of_test hc (by decide)) (ne_of_test hc (by decide)),
    string?_of_head (ne_of_test hc (by decide)) (ne_of_test hc (by decide)), hword]

theorem reads_ofInt {n : Int} (hlow : -9223372036854775808 ≤ n)
    (hhigh : n ≤ 9223372036854775807) : Reads (Decimal.ofInt n) (.integer n) := by
  refine reads_of_scalar ?_ (isWordChar_of_mem_ofInt n) (scalar?_ofInt hlow hhigh)
  cases n with
  | ofNat n => exact Decimal.digits_ne_nil n
  | negSucc n => simp [Decimal.ofInt]

theorem reads_truth (b : Bool) : Reads (Json.truth b) (.boolean b) := by
  refine reads_of_scalar ?_ (isWordChar_of_mem_truth b) (scalar?_truth b)
  cases b <;> simp [Json.truth]

end TilePanel.Toml
