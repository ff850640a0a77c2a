import TilePanel.Text.Decimal

/-!
The decimal digits of a number, read back. They are digits, they denote the number, and they begin
with a zero for the number zero only.
-/

namespace TilePanel.Text.Decimal

private theorem toNat_digit {d : Nat} (h : d < 10) : (digit d).toNat = 48 + d := by
  revert d
  decide

theorem isDigit_digit {d : Nat} (h : d < 10) : (digit d).isDigit = true := by
  revert d
  decide

private theorem digit_ne_zero {d : Nat} (h : d < 10) (hd : d ≠ 0) : digit d ≠ '0' := by
  revert d
  decide

/-- The induction over the digits of a number. -/
theorem digits_induction {motive : Nat → List Char → Prop}
    (single : ∀ n, n < 10 → motive n [digit n])
    (more : ∀ n, ¬n < 10 → motive (n / 10) (digits (n / 10)) →
      motive n (digits (n / 10) ++ [digit (n % 10)]))
    (n : Nat) : motive n (digits n) := by
  induction n using Nat.strongRecOn with
  | ind n ih =>
    rw [digits]
    split
    · next h => exact single n h
    · next h => exact more n h (ih (n / 10) (by omega))

theorem digits_ne_nil (n : Nat) : digits n ≠ [] := by
  induction n using digits_induction with
  | single n _ => simp
  | more n _ _ => simp

theorem isDigit_of_mem_digits (n : Nat) : ∀ c ∈ digits n, c.isDigit = true := by
  induction n using digits_induction with
  | single n h =>
    intro c hc
    rw [List.mem_singleton.mp hc]
    exact isDigit_digit h
  | more n _ ih =>
    intro c hc
    rcases List.mem_append.mp hc with hc | hc
    · exact ih c hc
    · rw [List.mem_singleton.mp hc]
      exact isDigit_digit (Nat.mod_lt n (by decide))

theorem value_append (ds : List Char) (d : Char) :
    value (ds ++ [d]) = 10 * value ds + (d.toNat - 48) := by
  simp [value]

theorem value_digits (n : Nat) : value (digits n) = n := by
  induction n using digits_induction with
  | single n h => simp [value, toNat_digit h]
  | more n _ ih =>
    rw [value_append, ih, toNat_digit (Nat.mod_lt n (by decide))]
    omega

/-- The digits of a number other than zero do not begin with a zero. -/
theorem head_digits (n : Nat) (hn : n ≠ 0) : (digits n).head? ≠ some '0' := by
  revert hn
  induction n using digits_induction with
  | single n h =>
    intro hn hhead
    exact digit_ne_zero h hn (Option.some.inj hhead)
  | more n hten ih =>
    intro _
    have hhead := ih (by omega)
    cases hds : digits (n / 10) with
    | nil => exact absurd hds (digits_ne_nil _)
    | cons d ds =>
      rw [hds] at hhead
      exact hhead

/-- The digits are the ones of the library. -/
theorem digits_eq_toDigits (n : Nat) : digits n = Nat.toDigits 10 n := by
  have hdigit : ∀ d < 10, digit d = Nat.digitChar d := by decide
  induction n using digits_induction with
  | single n h => rw [Nat.toDigits_of_lt_base h, hdigit n h]
  | more n h ih =>
    rw [Nat.toDigits_of_base_le (by decide) (Nat.le_of_not_lt h), ih,
      hdigit _ (Nat.mod_lt n (by decide))]

end TilePanel.Text.Decimal

namespace TilePanel.Text

theorem showNat_eq (n : Nat) : showNat n = toString n :=
  congrArg String.ofList (Decimal.digits_eq_toDigits n)

theorem showInt_eq (n : Int) : showInt n = toString n := by
  cases n with
  | ofNat n => exact showNat_eq n
  | negSucc n =>
    have hdigits : String.ofList (Decimal.digits (n + 1)) = toString (n + 1) := showNat_eq (n + 1)
    rw [showInt, Decimal.ofInt, String.ofList_cons, hdigits]
    rfl

end TilePanel.Text
