import MacroInvest.Quant.Engine

/-! # One crossover rule or two

The backtest tells crosses by a change of one comparison, the live engine by two comparisons
of its own, one strict and one not, on the last two bars. Both compare the same rolling means,
however these are computed. On the history up to a bar the two agree, the ties and the first bar
with both means apart.
-/
namespace MacroInvest.Quant
open Broker Series

section Comparisons
variable {R : Rolling ℚ} {close close' : ℕ → ℚ} {t : ℕ}

theorem lastGolden_iff : lastGolden R close t = true ↔
    (smaSlow ≤ t + 1 ∧ R.mean smaSlow close t < R.mean smaFast close t) ∧
      smaSlow ≤ t - 1 + 1 ∧ R.mean smaFast close (t - 1) ≤ R.mean smaSlow close (t - 1) := by
  unfold lastGolden
  rw [Bool.and_eq_true,compare_means_iff,compare_means_iff,decide_eq_true_iff,decide_eq_true_iff]

theorem lastDead_iff : lastDead R close t = true ↔
    (smaSlow ≤ t + 1 ∧ R.mean smaFast close t < R.mean smaSlow close t) ∧
      smaSlow ≤ t - 1 + 1 ∧ R.mean smaSlow close (t - 1) ≤ R.mean smaFast close (t - 1) := by
  unfold lastDead
  rw [Bool.and_eq_true,compare_means_iff,compare_means_iff,decide_eq_true_iff,decide_eq_true_iff]

theorem goldenCross_iff (t : ℕ) :
    goldenCross R close (t + 1) = true ↔ FastAbove R close (t + 1) ∧ ¬FastAbove R close t := by
  rw [goldenCross,risesAt,Bool.and_eq_true,shift,Bool.not_eq_true',Bool.eq_false_iff,ne_eq,
    bullish_iff,bullish_iff]

theorem deadCross_iff (t : ℕ) :
    deadCross R close (t + 1) = true ↔ ¬FastAbove R close (t + 1) ∧ FastAbove R close t := by
  rw [deadCross,fallsAt,Bool.and_eq_true,shift,Bool.not_eq_true',Bool.eq_false_iff,ne_eq,
    bullish_iff,bullish_iff]

theorem lastCrosses_congr (h : AgreeTo t close close') :
    lastGolden R close t = lastGolden R close' t ∧ lastDead R close t = lastDead R close' t := by
  have hlast := fun r => agreeTo_compare (R := R) h r t (le_refl t)
  have hprev := fun r => agreeTo_compare (R := R) h r (t - 1) (by omega)
  simp only [lastGolden,lastDead,hlast,hprev,and_self]

end Comparisons

/-- The live engine on the history up to a bar looks at that bar and the one before. -/
theorem analyze_prefix (R : Rolling ℚ) (ticker : String) {closes : List ℚ} {t : ℕ}
    (hslow : smaSlow ≤ t + 1) (ht : t < closes.length) :
    (analyze R ticker (some (closes.take (t + 1)))).goldenCross =
      lastGolden R (closeSeries closes) t ∧
    (analyze R ticker (some (closes.take (t + 1)))).deadCross =
      lastDead R (closeSeries closes) t := by
  have hlen : (closes.take (t + 1)).length = t + 1 := by
    rw [List.length_take]
    omega
  have hagree : AgreeTo t (closeSeries (closes.take (t + 1))) (closeSeries closes) :=
    agreeTo_closeSeries (by rw [List.take_take,min_self])
  have hcrosses := lastCrosses_congr (R := R) hagree
  simp only [analyze,hlen,if_neg (not_lt.mpr hslow),compute,Nat.add_sub_cancel]
  exact hcrosses

/-- Both engines tell the same crosses at a bar. -/
def SameCrosses (R : Rolling ℚ) (ticker : String) (closes : List ℚ) (t : ℕ) : Prop :=
  (goldenCross R (closeSeries closes) t = true ↔
    (analyze R ticker (some (closes.take (t + 1)))).goldenCross = true) ∧
  (deadCross R (closeSeries closes) t = true ↔
    (analyze R ticker (some (closes.take (t + 1)))).deadCross = true)

/-- The fast mean is not above the slow one at the first bar that has both, and later neither
comes down to the slow one exactly nor goes below it from a tie. -/
def NoTie (R : Rolling ℚ) (close : ℕ → ℚ) (t : ℕ) : Prop :=
  let fast := R.mean smaFast close
  let slow := R.mean smaSlow close
  if t + 1 = smaSlow then fast t ≤ slow t
  else ¬(fast t = slow t ∧ slow (t - 1) < fast (t - 1)) ∧
    ¬(fast t < slow t ∧ fast (t - 1) = slow (t - 1))

/-- A fall to or below from above, and one below from above or level, are the same without a
tie. -/
theorem falls_iff (fast slow fast' slow' : ℚ) :
    (fast ≤ slow ∧ slow' < fast' ↔ fast < slow ∧ slow' ≤ fast') ↔
      ¬(fast = slow ∧ slow' < fast') ∧ ¬(fast < slow ∧ fast' = slow') := by
  have hnow : ¬(fast < slow ∧ fast = slow) := fun h => h.1.ne h.2
  have hprev : ¬(slow' < fast' ∧ fast' = slow') := fun h => h.1.ne' h.2
  rw [le_iff_lt_or_eq (a := fast),le_iff_lt_or_eq (a := slow'),eq_comm (a := slow')]
  tauto

/-- At a bar with a history of twenty the engines agree exactly without such a tie. -/
theorem crossover_law (R : Rolling ℚ) (ticker : String) (closes : List ℚ) (t : ℕ)
    (hslow : smaSlow ≤ t + 1) (ht : t < closes.length) :
    SameCrosses R ticker closes t ↔ NoTie R (closeSeries closes) t := by
  obtain ⟨hgolden,hdead⟩ := analyze_prefix R ticker hslow ht
  obtain ⟨t,rfl⟩ : ∃ s, t = s + 1 := ⟨t - 1,by simp only [smaSlow] at hslow; omega⟩
  unfold SameCrosses NoTie
  rw [hgolden,hdead,goldenCross_iff,deadCross_iff,lastGolden_iff,lastDead_iff,FastAbove,FastAbove,
    Nat.add_sub_cancel]
  generalize R.mean smaFast (closeSeries closes) = fast
  generalize R.mean smaSlow (closeSeries closes) = slow
  by_cases hfirst : t + 1 + 1 = smaSlow
  · have hprev : ¬smaSlow ≤ t + 1 := by omega
    simp only [hfirst,hprev,le_refl,true_and,false_and,and_false,not_false_eq_true,and_true,
      iff_false,not_lt,if_true]
  · have hprev : smaSlow ≤ t + 1 := by omega
    simp only [hslow,hprev,true_and,if_neg hfirst,not_lt]
    exact falls_iff (fast (t + 1)) (slow (t + 1)) (fast t) (slow t)

/-- Nineteen flat bars and a higher one. -/
def firstLead : List ℚ := List.replicate 19 100 ++ [120]

theorem crossover_law_flat : SameCrosses .exact "AAPL" (List.replicate 21 100) 20 :=
  (crossover_law .exact "AAPL" (List.replicate 21 100) 20 (by decide) (by decide)).mpr
    (by unfold NoTie; decide +kernel)

/-- The backtest registers a golden cross at the first bar with both means, the live engine
on the same history does not. -/
theorem crossover_differs : (∀ c ∈ firstLead, 0 < c) ∧
    goldenCross .exact (closeSeries firstLead) 19 = true ∧
    (analyze .exact "AAPL" (some (firstLead.take 20))).goldenCross = false ∧
    ¬SameCrosses .exact "AAPL" firstLead 19 := by
  have hbacktest : goldenCross .exact (closeSeries firstLead) 19 = true := by decide +kernel
  have hlive : (analyze .exact "AAPL" (some (firstLead.take 20))).goldenCross = false := by
    decide +kernel
  refine ⟨by decide +kernel,hbacktest,hlive,?_⟩
  rintro ⟨hgolden,-⟩
  rw [hgolden.mp hbacktest] at hlive
  cases hlive

end MacroInvest.Quant
