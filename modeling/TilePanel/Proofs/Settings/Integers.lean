import TilePanel.Proofs.Text.Numerals
import TilePanel.Settings.Store

/-!
Integer settings. Reading one gives the integer that its text denotes if that fits into 32 bits, and
the fallback in all other cases.
-/

namespace TilePanel.SettingsStore

open TilePanel.Text

theorem parseInt?_eq_some_iff {raw : String} {v : Int32} :
    parseInt? raw = some v ↔ Denotes raw v.toInt := by
  rw [denotes_iff, parseInt?, Decimal.readInt32?, Option.bind_eq_some_iff]
  constructor
  · rintro ⟨n, hn, hfits⟩
    rw [hn, Decimal.narrow?_eq_some_iff.mp hfits]
  · intro h
    exact ⟨_, h, Decimal.narrow?_eq_some_iff.mpr rfl⟩

/-- What is stored for an integer reads back as that integer. -/
theorem parseInt?_settingText (v : Int32) : parseInt? (settingText v) = some v :=
  parseInt?_eq_some_iff.mpr (denotes_showInt v.toInt)

/-- An integer setting is the number that its text denotes, if there is such a number and it fits into
32 bits. In all other cases, whether nothing is stored, the store fails, the text is no numeral or the
number is too large or too small, it is the fallback. -/
theorem readInt_reads_numerals (s : SettingsStore) (key : String) (fallback : Int32)
    (user : UserId) :
    (∀ raw n, s.read key user = .ok (some raw) → Denotes raw n → -2 ^ 31 ≤ n → n ≤ 2 ^ 31 - 1 →
      (s.readInt key fallback user).toInt = n) ∧
    ((¬∃ raw n, s.read key user = .ok (some raw) ∧ Denotes raw n ∧ -2 ^ 31 ≤ n ∧ n ≤ 2 ^ 31 - 1) →
      s.readInt key fallback user = fallback) ∧
    ∀ raw m n, Denotes raw m → Denotes raw n → m = n := by
  refine ⟨?_, ?_, fun raw m n => Denotes.unique⟩
  · intro raw n hread hdenotes hlow hhigh
    have hsame : (Int32.ofInt n).toInt = n := Int32.toInt_ofInt_of_le hlow (by omega)
    have hparsed : parseInt? raw = some (.ofInt n) := by
      rw [parseInt?_eq_some_iff, hsame]
      exact hdenotes
    simp only [readInt, hread, hparsed, Option.getD_some]
    exact hsame
  · intro hnone
    unfold readInt
    split
    · next raw hread =>
      cases hparsed : parseInt? raw with
      | none => rfl
      | some v =>
        have hlow := v.le_toInt
        have hhigh := v.toInt_lt
        exact absurd ⟨raw, v.toInt, hread, parseInt?_eq_some_iff.mp hparsed, hlow, by omega⟩ hnone
    · rfl
    · rfl

example : parseInt? " -002147483648\u3000" = some (-2147483648) ∧ parseInt? "2147483648" = none ∧
    parseInt? "- 1" = none := by
  decide +kernel

end TilePanel.SettingsStore
