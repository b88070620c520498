import Mathlib

/-! # Streaks and an alarm at a bound

A counter goes up on every bad mark, an alarm is raised when it reaches the bound, and any other
mark sets it back. So there is one alarm for each streak of bad marks that is long enough.
-/
namespace MacroInvest.Streaks
variable {M : Type*} (bad : M → Bool)

/-- The lengths of the streaks of bad marks, the empty ones included. -/
def streaks (marks : List M) : List ℕ := (marks.splitOnP (fun m => !bad m)).map List.length

/-- The alarms that a counter starting from `count` raises at `bound`. -/
def alarms (bound : ℕ) : ℕ → List M → ℕ
  | _, [] => 0
  | count, m :: marks =>
    if bad m then (if count + 1 = bound then 1 else 0) + alarms bound (count + 1) marks
    else alarms bound 0 marks

variable {bad} {bound : ℕ}

theorem streaks_ne_nil (bad : M → Bool) (marks : List M) : streaks bad marks ≠ [] := by
  simp [streaks,List.splitOnP_ne_nil]

theorem streaks_cons_bad {m : M} (h : bad m = true) (marks : List M) :
    streaks bad (m :: marks) = (streaks bad marks).modifyHead (· + 1) := by
  rw [streaks,List.splitOnP_cons_eq_if_modifyHead,streaks]
  simp only [h,Bool.not_true,Bool.false_eq_true,if_false]
  cases marks.splitOnP (fun m => !bad m) with
  | nil => rfl
  | cons front rest => simp

theorem streaks_cons_good {m : M} (h : bad m = false) (marks : List M) :
    streaks bad (m :: marks) = 0 :: streaks bad marks := by
  rw [streaks,List.splitOnP_cons_eq_if_modifyHead,streaks]
  simp [h]

/-- The first streak goes on from the counter, every other one starts at zero. -/
theorem alarms_eq (hbound : 0 < bound) (count : ℕ) {marks : List M} {first : ℕ} {rest : List ℕ}
    (h : streaks bad marks = first :: rest) : alarms bad bound count marks =
      (if count < bound ∧ bound ≤ count + first then 1 else 0) +
        rest.countP (fun n => decide (bound ≤ n)) := by
  induction marks generalizing count first rest with
  | nil =>
    simp only [streaks,List.splitOnP_nil,List.map_cons,List.length_nil,List.map_nil] at h
    obtain ⟨rfl,rfl⟩ := List.cons.inj h
    simp [alarms]
  | cons m marks ih =>
    obtain ⟨next,later,hmarks⟩ := List.exists_cons_of_ne_nil (streaks_ne_nil bad marks)
    cases hm : bad m with
    | true =>
      rw [streaks_cons_bad hm,hmarks,List.modifyHead_cons] at h
      obtain ⟨rfl,rfl⟩ := List.cons.inj h
      rw [alarms,if_pos hm,ih (count + 1) hmarks]
      split_ifs <;> omega
    | false =>
      rw [streaks_cons_good hm,hmarks] at h
      obtain ⟨rfl,rfl⟩ := List.cons.inj h
      rw [alarms,if_neg (by simp [hm]),ih 0 hmarks,List.countP_cons]
      simp only [decide_eq_true_eq]
      split_ifs <;> omega

/-- One alarm for each streak that reaches the bound. -/
theorem alarms_zero (hbound : 0 < bound) (marks : List M) : alarms bad bound 0 marks =
    (streaks bad marks).countP (fun n => decide (bound ≤ n)) := by
  obtain ⟨first,rest,h⟩ := List.exists_cons_of_ne_nil (streaks_ne_nil bad marks)
  rw [alarms_eq hbound 0 h,h,List.countP_cons]
  simp only [decide_eq_true_eq,hbound,true_and,zero_add]
  omega

end MacroInvest.Streaks
