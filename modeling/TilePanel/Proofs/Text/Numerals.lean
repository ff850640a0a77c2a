import Mathlib.Data.Nat.Digits.Defs
import Mathlib.Data.List.DropRight
import Mathlib.Data.List.Induction
import TilePanel.Proofs.Text.Decimal
import TilePanel.Text.Blank

/-!
Which texts denote integers. A numeral is an optional sign and decimal digits, as many as one likes,
and it may stand between blanks. Trimming and reading a text gives the integer that it denotes, and
of all texts that denote an integer the one that is printed is the shortest.
-/

namespace TilePanel.Text

variable {front core back cs : List Char}

theorem trimEnd_append_blank (hback : ∀ c ∈ back, isBlank c = true) (cs : List Char) :
    trimEnd (cs ++ back) = trimEnd cs := by
  have hpassed : ∀ c ∈ back.reverse, isBlank c = true := fun c hc => hback c (List.mem_reverse.mp hc)
  rw [trimEnd, List.reverse_append, List.dropWhile_append_of_pos hpassed, trimEnd]

theorem trimEnd_eq_self (hcore : ∀ c ∈ core, isBlank c = false) : trimEnd core = core := by
  refine List.rdropWhile_eq_self_iff.mpr fun hne => ?_
  rw [hcore _ (List.getLast_mem hne)]
  exact Bool.false_ne_true

/-- Trimming takes off the blanks on both sides and nothing else. -/
private theorem trim_around (hfront : ∀ c ∈ front, isBlank c = true)
    (hback : ∀ c ∈ back, isBlank c = true)
    (hcore : ∀ c ∈ core, isBlank c = false) (hne : core ≠ []) :
    trim (front ++ core ++ back) = core := by
  have hstart : (core ++ back).dropWhile isBlank = core ++ back := by
    cases core with
    | nil => exact absurd rfl hne
    | cons c cs => rw [List.cons_append, List.dropWhile_cons, hcore c List.mem_cons_self]; rfl
  rw [trim, List.append_assoc, List.dropWhile_append_of_pos hfront, hstart,
    trimEnd_append_blank hback, trimEnd_eq_self hcore]

/-- Around what trimming leaves there were blanks. -/
private theorem exists_around_trim (cs : List Char) :
    ∃ front back, (∀ c ∈ front, isBlank c = true) ∧ (∀ c ∈ back, isBlank c = true) ∧
      cs = front ++ trim cs ++ back := by
  let rest := cs.dropWhile isBlank
  refine ⟨cs.takeWhile isBlank, rest.rtakeWhile isBlank, ?_, ?_, ?_⟩
  · exact fun c hc => List.mem_takeWhile_imp hc
  · exact fun c hc => List.mem_rtakeWhile_imp hc
  · have hend : trimEnd rest ++ rest.rtakeWhile isBlank = rest := List.rdropWhile_append_rtakeWhile
    rw [trim, List.append_assoc, hend, List.takeWhile_append_dropWhile]

namespace Decimal

def AreDigits (ds : List Char) : Prop :=
  ds ≠ [] ∧ ∀ d ∈ ds, '0' ≤ d ∧ d ≤ '9'

/-- The number that digits stand for: the last one counts once, the one in front of it ten times. -/
def magnitude (ds : List Char) : Nat :=
  Nat.ofDigits 10 (ds.reverse.map fun d => d.toNat - '0'.toNat)

/-- The written forms of integers, and the integers that they denote. -/
inductive Numeral : List Char → Int → Prop
  | unsigned {ds : List Char} (h : AreDigits ds) : Numeral ds (magnitude ds)
  | plus {ds : List Char} (h : AreDigits ds) : Numeral ('+' :: ds) (magnitude ds)
  | minus {ds : List Char} (h : AreDigits ds) : Numeral ('-' :: ds) (-magnitude ds)

theorem areDigits_iff (ds : List Char) :
    AreDigits ds ↔ (ds.isEmpty || !ds.all Char.isDigit) = false := by
  simp [AreDigits, Char.isDigit, Char.le_def]

theorem value_eq_magnitude (ds : List Char) : value ds = magnitude ds := by
  induction ds using List.reverseRecOn with
  | nil => rfl
  | append_singleton ds d ih =>
    have hlast : magnitude (ds ++ [d]) = d.toNat - 48 + 10 * magnitude ds := by
      rw [magnitude, List.reverse_concat, List.map_cons, Nat.ofDigits_cons]
      rfl
    rw [value_append, ih, hlast, Nat.add_comm]

theorem readDigits?_eq_some_iff {ds : List Char} {n : Nat} :
    readDigits? ds = some n ↔ AreDigits ds ∧ n = magnitude ds := by
  rw [readDigits?, areDigits_iff, value_eq_magnitude]
  cases hds : ds.isEmpty || !ds.all Char.isDigit with
  | true => simp
  | false => simp [eq_comm]

private theorem ne_sign_of_areDigits {c : Char} {cs : List Char} (h : AreDigits (c :: cs)) :
    c ≠ '-' ∧ c ≠ '+' := by
  obtain ⟨hlow, _⟩ := h.2 c List.mem_cons_self
  constructor
  · rintro rfl
    exact absurd hlow (by decide)
  · rintro rfl
    exact absurd hlow (by decide)

private theorem readInt?_minus (ds : List Char) :
    readInt? ('-' :: ds) = (readDigits? ds).map fun n : Nat => -(n : Int) := by
  rw [readInt?, if_pos rfl]
  cases readDigits? ds <;> rfl

private theorem readInt?_plus (ds : List Char) :
    readInt? ('+' :: ds) = (readDigits? ds).map Int.ofNat := by
  rw [readInt?, if_neg (by decide), if_pos rfl]

private theorem readInt?_unsigned {c : Char} (cs : List Char) (hminus : c ≠ '-') (hplus : c ≠ '+') :
    readInt? (c :: cs) = (readDigits? (c :: cs)).map Int.ofNat := by
  rw [readInt?, if_neg hminus, if_neg hplus]

/-- What the reader accepts is what integers are written as. -/
theorem readInt?_eq_some_iff {cs : List Char} {n : Int} : readInt? cs = some n ↔ Numeral cs n := by
  constructor
  · intro h
    cases cs with
    | nil => cases h
    | cons c cs =>
      by_cases hminus : c = '-'
      · rw [hminus, readInt?_minus] at h
        obtain ⟨m, hm, rfl⟩ := Option.map_eq_some_iff.mp h
        obtain ⟨hds, rfl⟩ := readDigits?_eq_some_iff.mp hm
        exact hminus ▸ .minus hds
      by_cases hplus : c = '+'
      · rw [hplus, readInt?_plus] at h
        obtain ⟨m, hm, rfl⟩ := Option.map_eq_some_iff.mp h
        obtain ⟨hds, rfl⟩ := readDigits?_eq_some_iff.mp hm
        exact hplus ▸ .plus hds
      rw [readInt?_unsigned cs hminus hplus] at h
      obtain ⟨m, hm, rfl⟩ := Option.map_eq_some_iff.mp h
      obtain ⟨hds, rfl⟩ := readDigits?_eq_some_iff.mp hm
      exact .unsigned hds
  · intro h
    cases h with
    | unsigned hds =>
      cases cs with
      | nil => exact absurd rfl hds.1
      | cons c cs =>
        obtain ⟨hminus, hplus⟩ := ne_sign_of_areDigits hds
        rw [readInt?_unsigned cs hminus hplus, readDigits?_eq_some_iff.mpr ⟨hds, rfl⟩]
        rfl
    | plus hds =>
      rw [readInt?_plus, readDigits?_eq_some_iff.mpr ⟨hds, rfl⟩]
      rfl
    | minus hds =>
      rw [readInt?_minus, readDigits?_eq_some_iff.mpr ⟨hds, rfl⟩]
      rfl

/-- An integer is narrowed if it is one of 32 bits. -/
theorem narrow?_eq_some_iff {n : Int} {v : Int32} : narrow? n = some v ↔ n = v.toInt := by
  have hlow := v.le_toInt
  have hhigh := v.toInt_lt
  unfold narrow?
  split
  · next hfits =>
    have hsame : (Int32.ofInt n).toInt = n := Int32.toInt_ofInt_of_le (by omega) (by omega)
    rw [Option.some_inj, ← Int32.toInt_inj, hsame]
  · next hfits =>
    refine iff_of_false (by simp) ?_
    rintro rfl
    omega

private theorem isBlank_of_isDigit {d : Char} (h : '0' ≤ d ∧ d ≤ '9') : isBlank d = false := by
  have hlow : 48 ≤ d.toNat := h.1
  have hhigh : d.toNat ≤ 57 := h.2
  simp only [isBlank, Bool.or_eq_false_iff, Bool.and_eq_false_imp, decide_eq_true_eq,
    decide_eq_false_iff_not, beq_eq_false_iff_ne]
  omega

theorem Numeral.unblank {cs : List Char} {n : Int} (h : Numeral cs n) :
    cs ≠ [] ∧ ∀ c ∈ cs, isBlank c = false := by
  cases h with
  | unsigned hds => exact ⟨hds.1, fun d hd => isBlank_of_isDigit (hds.2 d hd)⟩
  | plus hds | minus hds =>
    refine ⟨List.cons_ne_nil _ _, List.forall_mem_cons.mpr ⟨by decide, ?_⟩⟩
    exact fun d hd => isBlank_of_isDigit (hds.2 d hd)

theorem areDigits_digits (n : Nat) : AreDigits (digits n) := by
  refine ⟨digits_ne_nil n, fun d hd => ?_⟩
  simpa [Char.isDigit, Char.le_def] using isDigit_of_mem_digits n d hd

theorem magnitude_digits (n : Nat) : magnitude (digits n) = n := by
  rw [← value_eq_magnitude, value_digits]

/-- What is printed for an integer is a numeral of it. -/
theorem numeral_ofInt (n : Int) : Numeral (ofInt n) n := by
  cases n with
  | ofNat n =>
    have hdigits := Numeral.unsigned (areDigits_digits n)
    rwa [magnitude_digits] at hdigits
  | negSucc n =>
    have hdigits := Numeral.minus (areDigits_digits (n + 1))
    rwa [magnitude_digits] at hdigits

private theorem digit_sub {d : Char} (h : '0' ≤ d ∧ d ≤ '9') :
    d.toNat - 48 < 10 ∧ digit (d.toNat - 48) = d := by
  have hlow : 48 ≤ d.toNat := h.1
  have hhigh : d.toNat ≤ 57 := h.2
  have hsame : 48 + (d.toNat - 48) = d.toNat := by omega
  refine ⟨by omega, ?_⟩
  rw [digit, hsame, Char.ofNat_toNat]

/-- Of all digits of one number those that are printed are the fewest. -/
theorem digits_shortest {ds : List Char} (h : AreDigits ds) :
    ds = digits (magnitude ds) ∨ (digits (magnitude ds)).length < ds.length := by
  induction ds using List.reverseRecOn with
  | nil => exact absurd rfl h.1
  | append_singleton ds d ih =>
    obtain ⟨hlast, hdigit⟩ := digit_sub (h.2 d (by simp))
    rw [← value_eq_magnitude, value_append, value_eq_magnitude]
    by_cases hzero : magnitude ds = 0
    · -- Whatever stands in front of the last digit is zeros.
      have hprinted : digits (10 * magnitude ds + (d.toNat - 48)) = [d] := by
        rw [hzero, Nat.mul_zero, Nat.zero_add, digits, if_pos hlast, hdigit]
      rw [hprinted]
      cases ds with
      | nil => exact .inl rfl
      | cons c ds => simp
    · have hne : ds ≠ [] := by
        rintro rfl
        exact hzero rfl
      have hfront : (10 * magnitude ds + (d.toNat - 48)) / 10 = magnitude ds := by omega
      have hback : (10 * magnitude ds + (d.toNat - 48)) % 10 = d.toNat - 48 := by omega
      have hprinted : digits (10 * magnitude ds + (d.toNat - 48)) =
          digits (magnitude ds) ++ [d] := by
        rw [digits, if_neg (by omega), hfront, hback, hdigit]
      rw [hprinted]
      rcases ih ⟨hne, fun c hc => h.2 c (by simp [hc])⟩ with hsame | hshorter
      · exact .inl (by rw [← hsame])
      · exact .inr (by simpa using hshorter)

private theorem length_digits_le {ds : List Char} (h : AreDigits ds) :
    (digits (magnitude ds)).length ≤ ds.length := by
  rcases digits_shortest h with hsame | hshorter
  · rw [← hsame]
  · exact Nat.le_of_lt hshorter

/-- Every other numeral of an integer is longer than the one that is printed. -/
theorem Numeral.shortest {cs : List Char} {n : Int} (h : Numeral cs n) :
    cs = ofInt n ∨ (ofInt n).length < cs.length := by
  cases h with
  | unsigned hds => exact digits_shortest hds
  | @plus ds hds => exact .inr (Nat.lt_succ_of_le (length_digits_le hds))
  | @minus ds hds =>
    have hshortest := digits_shortest hds
    cases hmagnitude : magnitude ds with
    | zero =>
      right
      have hprinted : ofInt (-((0 : Nat) : Int)) = ['0'] := by decide +kernel
      have hpos := List.length_pos_of_ne_nil hds.1
      rw [hprinted, List.length_singleton, List.length_cons]
      omega
    | succ m =>
      rw [hmagnitude] at hshortest
      have hprinted : ofInt (-((m + 1 : Nat) : Int)) = '-' :: digits (m + 1) := rfl
      rw [hprinted]
      exact hshortest.imp (congrArg _) Nat.succ_lt_succ

end Decimal

/-- Whether a text denotes an integer: it is a numeral of that integer, with any blanks around. -/
def Denotes (raw : String) (n : Int) : Prop :=
  ∃ front core back, raw.toList = front ++ core ++ back ∧ (∀ c ∈ front, isBlank c = true) ∧
    (∀ c ∈ back, isBlank c = true) ∧ Decimal.Numeral core n

/-- What is read once the blanks around are taken away is what the text denotes. -/
theorem denotes_iff {raw : String} {n : Int} :
    Denotes raw n ↔ Decimal.readInt? (trim raw.toList) = some n := by
  rw [Decimal.readInt?_eq_some_iff]
  constructor
  · rintro ⟨front, core, back, hraw, hfront, hback, hcore⟩
    obtain ⟨hne, hunblank⟩ := hcore.unblank
    rw [hraw, trim_around hfront hback hunblank hne]
    exact hcore
  · intro h
    obtain ⟨front, back, hfront, hback, hraw⟩ := exists_around_trim raw.toList
    exact ⟨front, _, back, hraw, hfront, hback, h⟩

/-- A text denotes one integer at most. -/
theorem Denotes.unique {raw : String} {m n : Int} (h : Denotes raw m) (h' : Denotes raw n) :
    m = n := by
  rw [denotes_iff] at h h'
  exact Option.some.inj (h.symm.trans h')

theorem denotes_showInt (n : Int) : Denotes (showInt n) n :=
  ⟨[], Decimal.ofInt n, [], by simp [showInt], by simp, by simp, Decimal.numeral_ofInt n⟩

/-- Every other text that denotes an integer is longer than the one that is printed. -/
theorem Denotes.shortest {raw : String} {n : Int} (h : Denotes raw n) :
    raw = showInt n ∨ (showInt n).length < raw.length := by
  obtain ⟨front, core, back, hraw, -, -, hcore⟩ := h
  have hlength : raw.length = front.length + core.length + back.length := by
    rw [← String.length_toList, hraw, List.length_append, List.length_append]
  have hprinted : (showInt n).length = (Decimal.ofInt n).length := by
    rw [showInt, String.length_ofList]
  rcases hcore.shortest with rfl | hshorter
  · by_cases hblank : front = [] ∧ back = []
    · obtain ⟨rfl, rfl⟩ := hblank
      left
      rw [← String.toList_inj, hraw, showInt, String.toList_ofList]
      simp
    · right
      have hpos : 0 < front.length + back.length := by
        rw [← List.length_append]
        exact List.length_pos_of_ne_nil fun hnil => hblank (List.append_eq_nil_iff.mp hnil)
      omega
  · right
    omega

end TilePanel.Text
