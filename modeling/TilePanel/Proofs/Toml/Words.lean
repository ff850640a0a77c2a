import TilePanel.Proofs.Text.Decimal
import TilePanel.Text.Json
import TilePanel.Toml.Scalar

/-!
Integers and truth values as they are written, read back as single words.
-/

namespace TilePanel.Toml

open TilePanel.Text

/-- Digits without separators are themselves. -/
private theorem ungroup_of_digits {ds : List Char} (hne : ds ≠ [])
    (hdigits : ∀ c ∈ ds, c.isDigit = true) : ungroup Char.isDigit ds = some ds := by
  induction ds with
  | nil => exact absurd rfl hne
  | cons c cs ih =>
    have hc := hdigits c List.mem_cons_self
    have htail := fun d hd => hdigits d (List.mem_cons_of_mem c hd)
    cases cs with
    | nil => simp [ungroup, hc]
    | cons d ds =>
      have hd : d ≠ '_' := by
        rintro rfl
        have := htail '_' List.mem_cons_self
        cases this
      have hrest := ih (by simp) htail
      rw [ungroup]
      · simp [hc, hrest]
      · simp
      · intro r h
        exact hd (List.cons.inj h).1

theorem decimalDigits?_digits (n : Nat) :
    decimalDigits? (Decimal.digits n) = some (Decimal.digits n) := by
  have hungroup := ungroup_of_digits (Decimal.digits_ne_nil n) (Decimal.isDigit_of_mem_digits n)
  by_cases hn : n = 0
  · have hzero : Decimal.digits 0 = ['0'] := by
      rw [Decimal.digits]
      rfl
    rw [hn, hzero]
    rfl
  · have hhead := Decimal.head_digits n hn
    unfold decimalDigits?
    rw [hungroup]
    split
    · next h => exact absurd (by rw [Option.some.inj h]; rfl) hhead
    · next h => exact absurd (by rw [Option.some.inj h]; rfl) hhead
    · rfl

private theorem splitSign_of_digits {ds : List Char} (hdigits : ∀ c ∈ ds, c.isDigit = true) :
    splitSign ds = (false, ds) := by
  unfold splitSign
  split
  · exact absurd (hdigits '-' List.mem_cons_self) (by decide)
  · exact absurd (hdigits '+' List.mem_cons_self) (by decide)
  · rfl

/-- A letter is no digit, so that a number does not look like one in another base. -/
private theorem integerOf?_digits (n : Nat) : integerOf? (Decimal.digits n) = some (n : Int) := by
  have hdigits := Decimal.isDigit_of_mem_digits n
  have hletter : ∀ {c d : Char} {r : List Char}, d.isDigit = false →
      Decimal.digits n ≠ c :: d :: r := by
    intro c d r hd h
    have hmem : d ∈ Decimal.digits n := by simp [h]
    rw [hdigits d hmem] at hd
    cases hd
  unfold integerOf?
  split
  · next h => exact absurd h (hletter (by decide))
  · next h => exact absurd h (hletter (by decide))
  · next h => exact absurd h (hletter (by decide))
  · rw [splitSign_of_digits hdigits]
    simp [decimalDigits?_digits, Decimal.value_digits]

theorem integerOf?_ofInt (n : Int) : integerOf? (Decimal.ofInt n) = some n := by
  cases n with
  | ofNat n => exact integerOf?_digits n
  | negSucc n =>
    have hvalue := Decimal.value_digits (n + 1)
    simp only [Decimal.ofInt, integerOf?, splitSign, decimalDigits?_digits, Option.map_some,
      hvalue, if_true]
    rfl

theorem integer?_ofInt {n : Int} (hlow : -9223372036854775808 ≤ n)
    (hhigh : n ≤ 9223372036854775807) : integer? (Decimal.ofInt n) = some n := by
  rw [integer?, integerOf?_ofInt]
  simp [hlow, hhigh]

private theorem isWordChar_of_isDigit {c : Char} (h : c.isDigit = true) : isWordChar c = true := by
  simp [isWordChar, Char.isAlphanum, h]

theorem isWordChar_of_mem_ofInt (n : Int) : ∀ c ∈ Decimal.ofInt n, isWordChar c = true := by
  intro c hc
  cases n with
  | ofNat n => exact isWordChar_of_isDigit (Decimal.isDigit_of_mem_digits n c hc)
  | negSucc n =>
    rcases List.mem_cons.mp hc with rfl | hc
    · decide
    · exact isWordChar_of_isDigit (Decimal.isDigit_of_mem_digits _ c hc)

/-- What begins with a digit or a minus sign is no truth value. -/
theorem word?_ofInt {n : Int} (hlow : -9223372036854775808 ≤ n)
    (hhigh : n ≤ 9223372036854775807) : word? (Decimal.ofInt n) = some (.integer n) := by
  have hnone : ∀ c cs, c.isDigit = false → c ≠ '-' → Decimal.ofInt n ≠ c :: cs := by
    intro c cs hdigit hsign h
    cases n with
    | ofNat n =>
      have hmem : c ∈ Decimal.digits n := by
        rw [show Decimal.digits n = c :: cs from h]
        exact List.mem_cons_self
      rw [Decimal.isDigit_of_mem_digits n c hmem] at hdigit
      cases hdigit
    | negSucc n => exact hsign (List.cons.inj h).1.symm
  rw [word?, if_neg (hnone _ _ (by decide) (by decide)), if_neg (hnone _ _ (by decide) (by decide)),
    integer?_ofInt hlow hhigh]

/-- A word at the end of its line is read as a whole. -/
theorem scalar?_of_word {word : List Char} {v : Value} (hchars : ∀ c ∈ word, isWordChar c = true)
    (hword : word? word = some v) (rest : List Char) :
    scalar? (word ++ '\n' :: rest) = some (v, '\n' :: rest) := by
  have htake : (word ++ '\n' :: rest).takeWhile isWordChar = word := by
    rw [List.takeWhile_append_of_pos hchars]
    simp [show isWordChar '\n' = false by decide]
  have hdrop : (word ++ '\n' :: rest).dropWhile isWordChar = '\n' :: rest := by
    rw [List.dropWhile_append_of_pos hchars]
    simp [show isWordChar '\n' = false by decide]
  have hspaced : spacedDateTime? word ('\n' :: rest) = none := by
    unfold spacedDateTime?
    split
    · next h => cases h
    · rfl
  unfold scalar?
  simp only [htake, hdrop, hspaced, hword, Option.map_some]

theorem scalar?_ofInt {n : Int} (hlow : -9223372036854775808 ≤ n)
    (hhigh : n ≤ 9223372036854775807) (rest : List Char) :
    scalar? (Decimal.ofInt n ++ '\n' :: rest) = some (.integer n, '\n' :: rest) :=
  scalar?_of_word (isWordChar_of_mem_ofInt n) (word?_ofInt hlow hhigh) rest

theorem isWordChar_of_mem_truth (b : Bool) : ∀ c ∈ Json.truth b, isWordChar c = true := by
  apply List.all_eq_true.mp
  cases b <;> decide

theorem scalar?_truth (b : Bool) (rest : List Char) :
    scalar? (Json.truth b ++ '\n' :: rest) = some (.boolean b, '\n' :: rest) := by
  refine scalar?_of_word (isWordChar_of_mem_truth b) ?_ rest
  cases b <;> rfl

end TilePanel.Toml
