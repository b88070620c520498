import MacroInvest.Library.Series

/-! # The worst fall of a series

A pass over a series keeps the greatest value so far and measures how far below it each value
lies. The least of what it measures is the least relative change from any value to a later one:
the greatest value so far is the value before which the fall is worst.
-/
namespace MacroInvest.Drawdown
open Series
section Order
variable {T : Type*} [LinearOrder T]

/-- The loop invariant: the kept value is one of those passed, and none of them is greater. -/
theorem cummax_isGreatest (s : ℕ → T) (t : ℕ) : IsGreatest (s '' Set.Iic t) (cummax s t) := by
  induction t with
  | zero =>
    refine ⟨⟨0,Set.self_mem_Iic,rfl⟩,?_⟩
    rintro x ⟨i,hi,rfl⟩
    rw [Nat.le_zero.mp hi,cummax]
  | succ t ih =>
    obtain ⟨⟨i,hi,hpeak⟩,hle⟩ := ih
    rw [cummax]
    constructor
    · rcases max_choice (cummax s t) (s (t + 1)) with hmax | hmax
      · exact ⟨i,Nat.le_succ_of_le hi,hpeak.trans hmax.symm⟩
      · exact ⟨t + 1,Set.self_mem_Iic,hmax.symm⟩
    · rintro x ⟨j,hj,rfl⟩
      rcases Nat.le_succ_iff.mp hj with hj | rfl
      · exact (hle ⟨j,hj,rfl⟩).trans (le_max_left _ _)
      · exact le_max_right _ _

/-- A value is not below an earlier one where no step goes down. -/
theorem le_of_steps {s : ℕ → T} {n : ℕ} (hrise : ∀ t, t + 1 < n → s t ≤ s (t + 1)) {i j : ℕ}
    (hij : i ≤ j) (hj : j < n) : s i ≤ s j := by
  induction j, hij using Nat.le_induction with
  | base => exact le_rfl
  | succ j _ ih => exact (ih (Nat.lt_of_succ_lt hj)).trans (hrise j hj)

end Order

variable {K : Type*} [Field K]

/-- The distance of a value from the greatest so far. -/
def fallAt [Max K] (s : ℕ → K) (t : ℕ) : K := (s t - cummax s t) / cummax s t

def fallsTo [Max K] (s : ℕ → K) (n : ℕ) : List K := (List.range n).map (fallAt s)

/-- The relative changes from a value to itself or a later one. -/
def changes (s : ℕ → K) (n : ℕ) : Set K :=
  {x | ∃ i j, i ≤ j ∧ j < n ∧ x = (s j - s i) / s i}

section Changes
variable {s : ℕ → K} {n : ℕ}

theorem changes_mono {m : ℕ} (h : n ≤ m) : changes s n ⊆ changes s m := by
  rintro x ⟨i,j,hij,hj,hx⟩
  exact ⟨i,j,hij,hj.trans_le h,hx⟩

theorem changes_congr {s' : ℕ → K} (h : ∀ i < n, s i = s' i) : changes s n = changes s' n := by
  ext x
  constructor
  · rintro ⟨i,j,hij,hj,hx⟩
    exact ⟨i,j,hij,hj,by rw [hx,h j hj,h i (hij.trans_lt hj)]⟩
  · rintro ⟨i,j,hij,hj,hx⟩
    exact ⟨i,j,hij,hj,by rw [hx,h j hj,h i (hij.trans_lt hj)]⟩

end Changes

variable [LinearOrder K]

theorem fallAt_mem_changes (s : ℕ → K) {t n : ℕ} (ht : t < n) : fallAt s t ∈ changes s n := by
  obtain ⟨⟨i,hi,hpeak⟩,-⟩ := cummax_isGreatest s t
  exact ⟨i,t,hi,ht,by rw [fallAt,hpeak]⟩

/-- What the pass returns on a series that is not empty. -/
theorem fallsTo_min (s : ℕ → K) {n : ℕ} (hn : 0 < n) :
    (fallsTo s n).min? = some ((fallsTo s n).min?.getD 0) := by
  cases hmin : (fallsTo s n).min? with
  | none =>
    rw [List.min?_eq_none_iff,fallsTo,List.map_eq_nil_iff,List.range_eq_nil] at hmin
    exact absurd hmin hn.ne'
  | some m => rfl

theorem least_nonpos {s : ℕ → K} {n : ℕ} {worst : K} (hn : 0 < n)
    (hleast : IsLeast (changes s n) worst) : worst ≤ 0 :=
  hleast.2 ⟨0,0,le_rfl,hn,by rw [sub_self,zero_div]⟩

variable [IsStrictOrderedRing K]

section Peak
variable (s : ℕ → K)

theorem cummax_mul {c : K} (hc : 0 < c) (t : ℕ) :
    cummax (fun i => c * s i) t = c * cummax s t := by
  induction t with
  | zero => rfl
  | succ t ih => rw [cummax,cummax,ih,mul_max_of_nonneg _ _ hc.le]

/-- A fall is a ratio, so the unit of the series has no part in it. -/
theorem fallAt_mul {c : K} (hc : 0 < c) (t : ℕ) : fallAt (fun i => c * s i) t = fallAt s t := by
  rw [fallAt,cummax_mul s hc,← mul_sub,mul_div_mul_left _ _ hc.ne',fallAt]

end Peak

section Worst
variable {s : ℕ → K} {n : ℕ}

/-- Measured from a greater value, a change is worse. -/
theorem fallAt_le (hpos : ∀ i < n, 0 < s i) {i j : ℕ} (hij : i ≤ j) (hj : j < n) :
    fallAt s j ≤ (s j - s i) / s i := by
  have hi : 0 < s i := hpos i (hij.trans_lt hj)
  have hpeak : s i ≤ cummax s j := (cummax_isGreatest s j).2 ⟨i,hij,rfl⟩
  rw [fallAt,sub_div,sub_div,div_self hi.ne',div_self (hi.trans_le hpeak).ne']
  exact sub_le_sub_right (div_le_div_of_nonneg_left (hpos j hj).le hi hpeak) 1

theorem worst_isLeast (hn : 0 < n) (hpos : ∀ i < n, 0 < s i) :
    IsLeast (changes s n) ((fallsTo s n).min?.getD 0) := by
  obtain ⟨hmem,hle⟩ := List.min?_eq_some_iff.mp (fallsTo_min s hn)
  constructor
  · obtain ⟨t,ht,hfall⟩ := List.mem_map.mp hmem
    rw [← hfall]
    exact fallAt_mem_changes s (List.mem_range.mp ht)
  · rintro x ⟨i,j,hij,hj,rfl⟩
    have hfall := hle (fallAt s j) (List.mem_map.mpr ⟨j,List.mem_range.mpr hj,rfl⟩)
    exact hfall.trans (fallAt_le hpos hij hj)

end Worst

section Least
variable {s : ℕ → K} {n : ℕ} {worst : K}

/-- A value above zero has not lost everything. -/
theorem neg_one_lt_least (hpos : ∀ i < n, 0 < s i) (hleast : IsLeast (changes s n) worst) :
    -1 < worst := by
  obtain ⟨i,j,hij,hj,rfl⟩ := hleast.1
  have hi : 0 < s i := hpos i (hij.trans_lt hj)
  have hratio : 0 < s j / s i := div_pos (hpos j hj) hi
  rw [sub_div,div_self hi.ne']
  linarith

theorem least_eq_zero_iff (hn : 0 < n) (hpos : ∀ i < n, 0 < s i)
    (hleast : IsLeast (changes s n) worst) :
    worst = 0 ↔ ∀ t, t + 1 < n → s t ≤ s (t + 1) := by
  constructor
  · intro hzero t ht
    have hchange := hleast.2 ⟨t,t + 1,Nat.le_succ t,ht,rfl⟩
    rw [hzero,le_div_iff₀ (hpos t (Nat.lt_of_succ_lt ht)),zero_mul] at hchange
    exact sub_nonneg.mp hchange
  · intro hrise
    refine le_antisymm (least_nonpos hn hleast) ?_
    obtain ⟨i,j,hij,hj,rfl⟩ := hleast.1
    exact div_nonneg (sub_nonneg.mpr (le_of_steps hrise hij hj)) (hpos i (hij.trans_lt hj)).le

end Least

end MacroInvest.Drawdown
