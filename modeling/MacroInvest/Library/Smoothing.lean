import Mathlib

/-! # Smoothed averages

A smoothed average starts as the mean of a first period and then moves a fixed share of the way
to each value. Unrolled, it is a weighted sum of the values: those of the first period share
one weight, and every later value discounts the weights before it.
-/
namespace MacroInvest.Smoothing

section Loop
variable {K : Type*} [Field K]

def smooth (period : ℕ) (avg x : K) : K := (avg * (period - 1 : ℕ) + x) / period

def average (period : ℕ) (xs : List K) : K :=
  (xs.drop period).foldl (smooth period) ((xs.take period).sum / period)

/-- The weight of a value by its place among all of them. -/
def weight (K : Type*) [Field K] (period n i : ℕ) : K :=
  ((period - 1 : ℕ) / period) ^ (n - 1 - max i (period - 1)) / period

def weighted (period : ℕ) (xs : List K) : K :=
  ∑ i ∈ Finset.range xs.length, weight K period xs.length i * xs.getD i 0

variable {period : ℕ} {xs : List K}

/-- A value after the first period discounts the weights of all before it. -/
theorem weight_succ {n i : ℕ} (hn : period ≤ n) (hi : i < n) :
    weight K period (n + 1) i = (period - 1 : ℕ) / period * weight K period n i := by
  have hexp : n + 1 - 1 - max i (period - 1) = n - 1 - max i (period - 1) + 1 := by omega
  rw [weight,weight,hexp,pow_succ']
  ring

theorem weight_last (n : ℕ) : weight K period (n + 1) n = 1 / period := by
  have hexp : n + 1 - 1 - max n (period - 1) = 0 := by omega
  rw [weight,hexp,pow_zero]

theorem weighted_concat (hlen : period ≤ xs.length) (x : K) :
    weighted period (xs ++ [x]) = smooth period (weighted period xs) x := by
  have hlength : (xs ++ [x]).length = xs.length + 1 := by simp
  have hbefore : ∀ i ∈ Finset.range xs.length,
      weight K period (xs.length + 1) i * (xs ++ [x]).getD i 0 =
        (period - 1 : ℕ) / period * (weight K period xs.length i * xs.getD i 0) := by
    intro i hi
    have hi := Finset.mem_range.mp hi
    rw [weight_succ hlen hi,List.getD_append _ _ _ _ hi,mul_assoc]
  have hlast : (xs ++ [x]).getD xs.length 0 = x := by simp
  rw [weighted,hlength,Finset.sum_range_succ,Finset.sum_congr rfl hbefore,← Finset.mul_sum,
    hlast,weight_last,smooth,← weighted]
  ring

theorem weighted_first (hlen : xs.length = period) : weighted period xs = xs.sum / period := by
  have hweight : ∀ i ∈ Finset.range xs.length,
      weight K period xs.length i * xs.getD i 0 = xs.getD i 0 / period := by
    intro i hi
    have hexp : xs.length - 1 - max i (period - 1) = 0 := by
      have hi := Finset.mem_range.mp hi
      omega
    rw [weight,hexp,pow_zero,one_div_mul_eq_div]
  have hsum : ∑ i ∈ Finset.range xs.length, xs.getD i 0 = xs.sum := by
    rw [Finset.sum_range,← Fin.sum_univ_getElem xs]
    exact Finset.sum_congr rfl (fun i _ => List.getD_eq_getElem _ _ i.isLt)
  rw [weighted,Finset.sum_congr rfl hweight,← Finset.sum_div,hsum]

/-- The loop keeps the weighted sum of the values passed, from the end of the first period on. -/
theorem foldl_weighted (hlen : period ≤ xs.length) (rest : List K) :
    rest.foldl (smooth period) (weighted period xs) = weighted period (xs ++ rest) := by
  induction rest generalizing xs with
  | nil => rw [List.append_nil,List.foldl_nil]
  | cons x rest ih =>
    have hlonger : period ≤ (xs ++ [x]).length := by
      rw [List.length_append]
      omega
    rw [List.foldl_cons,← weighted_concat hlen,ih hlonger,List.append_assoc,List.singleton_append]

theorem average_eq_weighted (hlen : period ≤ xs.length) :
    average period xs = weighted period xs := by
  have hfirst : (xs.take period).length = period := List.length_take_of_le hlen
  rw [average,← weighted_first hfirst,foldl_weighted hfirst.ge,List.take_append_drop]

/-- The average in another unit. -/
theorem weighted_mul (c : K) (period : ℕ) (xs : List K) :
    weighted period (xs.map (c * ·)) = c * weighted period xs := by
  rw [weighted,weighted,List.length_map,Finset.mul_sum]
  refine Finset.sum_congr rfl (fun i hi => ?_)
  have hi := Finset.mem_range.mp hi
  rw [List.getD_eq_getElem _ _ (by rwa [List.length_map]),List.getD_eq_getElem _ _ hi,
    List.getElem_map]
  ring

end Loop

section Order
variable {K : Type*} [Field K] [LinearOrder K] [IsStrictOrderedRing K] {period : ℕ} {xs ys : List K}

theorem weight_pos (hperiod : 1 < period) (n i : ℕ) : 0 < weight K period n i := by
  have hp : (0 : K) < period := Nat.cast_pos.mpr (by omega)
  have hp' : (0 : K) < (period - 1 : ℕ) := Nat.cast_pos.mpr (by omega)
  exact div_pos (pow_pos (div_pos hp' hp) _) hp

theorem weighted_mono (hperiod : 1 < period) (h : List.Forall₂ (· ≤ ·) xs ys) :
    weighted period xs ≤ weighted period ys := by
  rw [weighted,weighted,← h.length_eq]
  refine Finset.sum_le_sum ?_
  intro i hi
  have hi := Finset.mem_range.mp hi
  have hle := h.get hi (h.length_eq ▸ hi)
  rw [List.getD_eq_getElem _ _ hi,List.getD_eq_getElem _ _ (h.length_eq ▸ hi)]
  exact mul_le_mul_of_nonneg_left hle (weight_pos hperiod _ _).le

theorem term_nonneg (hperiod : 1 < period) (h : ∀ x ∈ xs, 0 ≤ x) : ∀ i ∈ Finset.range xs.length,
    0 ≤ weight K period xs.length i * xs.getD i 0 := by
  intro i hi
  rw [List.getD_eq_getElem _ _ (Finset.mem_range.mp hi)]
  exact mul_nonneg (weight_pos hperiod _ _).le (h _ (List.getElem_mem _))

theorem weighted_nonneg (hperiod : 1 < period) (h : ∀ x ∈ xs, 0 ≤ x) : 0 ≤ weighted period xs :=
  Finset.sum_nonneg (term_nonneg hperiod h)

/-- Every value counts, so nothing but zeros averages to zero. -/
theorem weighted_eq_zero_iff (hperiod : 1 < period) (h : ∀ x ∈ xs, 0 ≤ x) :
    weighted period xs = 0 ↔ ∀ x ∈ xs, x = 0 := by
  rw [weighted,Finset.sum_eq_zero_iff_of_nonneg (term_nonneg hperiod h)]
  constructor
  · intro hzero x hx
    obtain ⟨i,hi,rfl⟩ := List.getElem_of_mem hx
    have hterm := hzero i (Finset.mem_range.mpr hi)
    rw [List.getD_eq_getElem _ _ hi] at hterm
    exact (mul_eq_zero.mp hterm).resolve_left (weight_pos hperiod _ _).ne'
  · intro hzero i hi
    rw [List.getD_eq_getElem _ _ (Finset.mem_range.mp hi),hzero _ (List.getElem_mem _),mul_zero]

end Order

end MacroInvest.Smoothing
