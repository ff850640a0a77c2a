import Mathlib.Data.List.Infix
import TilePanel.Toml.Writer

/-!
Runs of one character. The longest one is found by counting, and is at most `k` exactly if the
character does not stand `k + 1` times in a row.
-/

namespace TilePanel.Toml

/-- Whether no run of a character is longer than `k`, if `run` of them stand in front. -/
def RunsWithin (k : Nat) (q : Char) : Nat → List Char → Prop
  | run, [] => run ≤ k
  | run, c :: cs => run ≤ k ∧ RunsWithin k q (if c = q then run + 1 else 0) cs

theorem RunsWithin.front {k run : Nat} {q : Char} {cs : List Char} (h : RunsWithin k q run cs) :
    run ≤ k := by
  cases cs with
  | nil => exact h
  | cons c cs => exact h.1

/-- The counter of `longestRun`, from any point on. -/
private theorem foldl_runs_le_iff (k : Nat) (q : Char) (cs : List Char) {longest run : Nat}
    (hrun : run ≤ longest) :
    (cs.foldl (fun (run : Nat × Nat) d =>
      let now := if d = q then run.2 + 1 else 0
      (max run.1 now, now)) (longest, run)).1 ≤ k ↔ longest ≤ k ∧ RunsWithin k q run cs := by
  induction cs generalizing longest run with
  | nil =>
    simp only [List.foldl_nil, RunsWithin]
    omega
  | cons c cs ih =>
    rw [List.foldl_cons]
    dsimp only
    rw [ih (Nat.le_max_right _ _), RunsWithin]
    constructor
    · rintro ⟨hmax, hrest⟩
      have hlongest := Nat.le_trans (Nat.le_max_left longest _) hmax
      exact ⟨hlongest, Nat.le_trans hrun hlongest, hrest⟩
    · rintro ⟨hlongest, _, hrest⟩
      exact ⟨Nat.max_le.mpr ⟨hlongest, hrest.front⟩, hrest⟩

theorem longestRun_le_iff (k : Nat) (q : Char) (cs : List Char) :
    longestRun q cs ≤ k ↔ RunsWithin k q 0 cs := by
  rw [longestRun, foldl_runs_le_iff k q cs (Nat.le_refl 0)]
  simp

/-- A run that is too short cannot begin a long one if another character follows. -/
private theorem not_replicate_prefix {k run : Nat} {q c : Char} (hc : c ≠ q) (hrun : run ≤ k)
    (cs : List Char) : ¬List.replicate (k + 1) q <+: List.replicate run q ++ c :: cs := by
  induction run generalizing k with
  | zero =>
    rw [List.replicate_succ, List.replicate_zero, List.nil_append, List.cons_prefix_cons]
    exact fun h => hc h.1.symm
  | succ run ih =>
    obtain ⟨k, rfl⟩ := Nat.exists_eq_succ_of_ne_zero (Nat.ne_zero_of_lt hrun)
    rw [List.replicate_succ, List.replicate_succ (n := run), List.cons_append,
      List.cons_prefix_cons]
    exact fun h => ih (Nat.le_of_succ_le_succ hrun) h.2

private theorem replicate_infix_iff {k run : Nat} {q c : Char} (hc : c ≠ q) (hrun : run ≤ k)
    (cs : List Char) :
    List.replicate (k + 1) q <:+: List.replicate run q ++ c :: cs ↔
      List.replicate (k + 1) q <:+: cs := by
  induction run with
  | zero =>
    have hprefix := not_replicate_prefix hc (Nat.zero_le k) cs
    rw [List.replicate_zero, List.nil_append] at hprefix ⊢
    rw [List.infix_cons_iff, or_iff_right hprefix]
  | succ run ih =>
    have hprefix := not_replicate_prefix hc hrun cs
    rw [List.replicate_succ (n := run), List.cons_append] at hprefix ⊢
    rw [List.infix_cons_iff, or_iff_right hprefix]
    exact ih (Nat.le_of_succ_le hrun)

/-- Counting the quotes in a row finds a run that is too long exactly if there is one. -/
theorem runsWithin_iff (k : Nat) (q : Char) (cs : List Char) {run : Nat} (hrun : run ≤ k) :
    RunsWithin k q run cs ↔ ¬List.replicate (k + 1) q <:+: List.replicate run q ++ cs := by
  induction cs generalizing run with
  | nil =>
    refine iff_of_true hrun ?_
    intro h
    have hlength := h.length_le
    simp only [List.length_replicate, List.append_nil] at hlength
    omega
  | cons c cs ih =>
    rw [RunsWithin, and_iff_right hrun]
    by_cases hc : c = q
    · subst hc
      have hshift : List.replicate run c ++ c :: cs = List.replicate (run + 1) c ++ cs := by
        rw [List.replicate_succ', List.append_assoc]
        rfl
      rw [if_pos rfl, hshift]
      rcases Nat.lt_or_eq_of_le hrun with hlt | rfl
      · exact ih hlt
      · refine iff_of_false (fun h => Nat.not_succ_le_self run h.front) (not_not_intro ?_)
        exact (List.prefix_append _ cs).isInfix
    · rw [if_neg hc, ih (Nat.zero_le k), replicate_infix_iff hc hrun]
      rfl

/-- What the counting of runs comes to. -/
theorem longestRun_le_iff_not_infix (k : Nat) (q : Char) (cs : List Char) :
    longestRun q cs ≤ k ↔ ¬List.replicate (k + 1) q <:+: cs := by
  rw [longestRun_le_iff, runsWithin_iff k q cs (Nat.zero_le k)]
  rfl

theorem longestRun_eq_zero_iff (q : Char) (cs : List Char) : longestRun q cs = 0 ↔ q ∉ cs := by
  rw [← Nat.le_zero, longestRun_le_iff_not_infix]
  exact not_congr (List.singleton_infix_iff q cs)

end TilePanel.Toml
