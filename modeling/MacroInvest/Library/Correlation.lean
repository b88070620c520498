import MacroInvest.Library.NearestRounding
import MacroInvest.Library.Root

/-! # Correlation of paired values

The correlation of a sample is kept by its comoment and the root that divides it, so that it is
rounded and compared in the rationals. It does not exist where one side does not vary, never
exceeds one, and is one for a sample of equal pairs that vary.
-/
namespace MacroInvest.Correlation
open Rounding

/-- A comoment over the root of the product of the two sums of squares. -/
structure Coefficient where
  comoment : ℚ
  scale : Root
  positive : 0 < scale.sq
  bounded : comoment ^ 2 ≤ scale.sq

section Sample

def mean (xs : List ℚ) : ℚ := xs.sum / xs.length

/-- The sum of the products of the deviations. -/
def comoment (pairs : List (ℚ × ℚ)) : ℚ :=
  (pairs.map (fun p => (p.1 - mean (pairs.map Prod.fst)) *
    (p.2 - mean (pairs.map Prod.snd)))).sum

/-- The sum of the squared deviations. -/
def squares (xs : List ℚ) : ℚ := (xs.map (fun x => (x - mean xs) ^ 2)).sum

theorem squares_nonneg (xs : List ℚ) : 0 ≤ squares xs := by
  apply List.sum_nonneg
  intro y hy
  obtain ⟨x,-,rfl⟩ := List.mem_map.mp hy
  exact sq_nonneg _

theorem comoment_sq_le (pairs : List (ℚ × ℚ)) :
    comoment pairs ^ 2 ≤ squares (pairs.map Prod.fst) * squares (pairs.map Prod.snd) := by
  simp only [comoment,squares,List.map_map,Function.comp_def,← Fin.sum_univ_fun_getElem]
  exact Finset.sum_mul_sq_le_sq_mul_sq _ _ _

/-- The correlation of the pairs; `none` where a side does not vary. -/
def pearson (pairs : List (ℚ × ℚ)) : Option Coefficient :=
  let scale := squares (pairs.map Prod.fst) * squares (pairs.map Prod.snd)
  if h : 0 < scale then
    some ⟨comoment pairs,⟨scale,h.le⟩,h,comoment_sq_le pairs⟩
  else none

variable {pairs : List (ℚ × ℚ)}

theorem pearson_eq_none_iff : pearson pairs = none ↔
    squares (pairs.map Prod.fst) = 0 ∨ squares (pairs.map Prod.snd) = 0 := by
  have hx := squares_nonneg (pairs.map Prod.fst)
  have hy := squares_nonneg (pairs.map Prod.snd)
  have hscale : pearson pairs = none ↔
      ¬0 < squares (pairs.map Prod.fst) * squares (pairs.map Prod.snd) := by
    simp [pearson]
  rw [hscale,not_lt,(mul_nonneg hx hy).ge_iff_eq',mul_eq_zero]

theorem mean_of_constant {xs : List ℚ} {c : ℚ} (hne : xs ≠ []) (hc : ∀ x ∈ xs, x = c) :
    mean xs = c := by
  have hlen : (xs.length : ℚ) ≠ 0 := by exact_mod_cast List.length_pos_iff.mpr hne |>.ne'
  rw [mean,List.sum_eq_card_nsmul xs c hc,nsmul_eq_mul,mul_div_cancel_left₀ _ hlen]

theorem squares_eq_zero_iff {xs : List ℚ} : squares xs = 0 ↔ ∃ c, ∀ x ∈ xs, x = c := by
  constructor
  · intro h
    refine ⟨mean xs,fun x hx => ?_⟩
    have hall := (List.all_zero_of_le_zero_le_of_sum_eq_zero (by
      intro y hy
      obtain ⟨x,-,rfl⟩ := List.mem_map.mp hy
      exact sq_nonneg (x - mean xs)) h) (List.mem_map_of_mem hx)
    exact sub_eq_zero.mp (pow_eq_zero_iff two_ne_zero |>.mp hall)
  · rintro ⟨c,hc⟩
    rcases eq_or_ne xs [] with rfl | hne
    · rfl
    · apply List.sum_eq_zero
      intro y hy
      obtain ⟨x,hx,rfl⟩ := List.mem_map.mp hy
      rw [hc x hx,mean_of_constant hne hc,sub_self,zero_pow two_ne_zero]

/-- Pairs of equal values correlate by one when they vary. -/
theorem pearson_self {xs : List ℚ} (h : squares xs ≠ 0) :
    ∃ c, pearson (xs.map (fun x => (x,x))) = some c ∧ 0 ≤ c.comoment ∧
      c.comoment ^ 2 = c.scale.sq := by
  have hfst : (xs.map (fun x => (x,x))).map Prod.fst = xs := by
    rw [List.map_map]
    exact List.map_id xs
  have hsnd : (xs.map (fun x => (x,x))).map Prod.snd = xs := by
    rw [List.map_map]
    exact List.map_id xs
  have hcomoment : comoment (xs.map (fun x => (x,x))) = squares xs := by
    simp only [comoment,hfst,hsnd,squares,List.map_map,Function.comp_def,sq]
  have hpos : 0 < squares xs * squares xs := mul_self_pos.mpr h
  simp only [pearson,hfst,hsnd,hcomoment]
  rw [dif_pos hpos]
  exact ⟨_,rfl,squares_nonneg xs,sq (squares xs)⟩

theorem pearson_of_length_le_one (h : pairs.length ≤ 1) : pearson pairs = none := by
  rw [pearson_eq_none_iff,squares_eq_zero_iff]
  left
  match pairs, h with
  | [], _ => exact ⟨0,by simp⟩
  | [p], _ => exact ⟨p.1,by simp⟩

theorem pearson_swap (pairs : List (ℚ × ℚ)) :
    pearson (pairs.map Prod.swap) = pearson pairs := by
  have hcomoment : comoment (pairs.map Prod.swap) = comoment pairs := by
    simp only [comoment,List.map_map,Function.comp_def,Prod.fst_swap,Prod.snd_swap,mul_comm]
  have hscale : squares ((pairs.map Prod.swap).map Prod.fst) *
      squares ((pairs.map Prod.swap).map Prod.snd) =
      squares (pairs.map Prod.fst) * squares (pairs.map Prod.snd) := by
    simp only [List.map_map,Function.comp_def,Prod.fst_swap,Prod.snd_swap,mul_comm]
  simp only [pearson,hcomoment,hscale]

end Sample

section Rounded

/-- The integer nearest to the root of a number, even on a tie. -/
def roundSqrt (s : ℚ) : ℕ :=
  let k := Nat.sqrt ⌊s⌋₊
  if s < (k + 1 / 2) ^ 2 then k
  else if (k + 1 / 2) ^ 2 < s then k + 1
  else if Even k then k else k + 1

theorem roundSqrt_sq (n : ℕ) : roundSqrt (n ^ 2) = n := by
  have hfloor : ⌊((n : ℚ) ^ 2)⌋₊ = n * n := by
    rw [← sq]
    exact_mod_cast Nat.floor_natCast (n ^ 2)
  have hlt : (n : ℚ) ^ 2 < (n + 1 / 2) ^ 2 := by
    have hn : (0 : ℚ) ≤ n := n.cast_nonneg
    nlinarith
  simp only [roundSqrt,hfloor,Nat.sqrt_eq]
  rw [if_pos hlt]

theorem sqrt_floor_le {s : ℚ} (hs : 0 ≤ s) : (Nat.sqrt ⌊s⌋₊ : ℚ) ^ 2 ≤ s := by
  have hsqrt : ((Nat.sqrt ⌊s⌋₊ ^ 2 : ℕ) : ℚ) ≤ (⌊s⌋₊ : ℕ) := by exact_mod_cast Nat.sqrt_le' _
  push_cast at hsqrt
  exact hsqrt.trans (Nat.floor_le hs)

theorem lt_succ_sqrt_floor (s : ℚ) : s < ((Nat.sqrt ⌊s⌋₊ : ℚ) + 1) ^ 2 := by
  have hsqrt : ((⌊s⌋₊ + 1 : ℕ) : ℚ) ≤ ((Nat.sqrt ⌊s⌋₊ + 1) ^ 2 : ℕ) := by
    exact_mod_cast Nat.lt_succ_sqrt' _
  push_cast at hsqrt
  exact (Nat.lt_floor_add_one s).trans_le hsqrt

theorem toInt_sqrt {s : ℚ} (hs : 0 ≤ s) :
    (halfEven : NearestRule ℝ).toInt (√(s : ℝ)) = roundSqrt s := by
  have hreal : (0 : ℝ) ≤ s := by exact_mod_cast hs
  have hfloor : ⌊√(s : ℝ)⌋ = Nat.sqrt ⌊s⌋₊ := by
    rw [Int.floor_eq_iff]
    have hlow : ((Nat.sqrt ⌊s⌋₊ : ℝ)) ^ 2 ≤ s := by exact_mod_cast sqrt_floor_le hs
    have hhigh : (s : ℝ) < ((Nat.sqrt ⌊s⌋₊ : ℝ) + 1) ^ 2 := by exact_mod_cast lt_succ_sqrt_floor s
    constructor
    · exact Real.le_sqrt_of_sq_le (by exact_mod_cast hlow)
    · rw [Int.cast_natCast]
      exact (Real.sqrt_lt' (by positivity)).mpr hhigh
  have hfract : Int.fract √(s : ℝ) = √(s : ℝ) - (Nat.sqrt ⌊s⌋₊ : ℝ) := by
    rw [Int.fract,hfloor,Int.cast_natCast]
  have hhalf : (0 : ℝ) < (Nat.sqrt ⌊s⌋₊ : ℝ) + 1 / 2 := by positivity
  have hcast : ((((Nat.sqrt ⌊s⌋₊ : ℚ) + 1 / 2) ^ 2 : ℚ) : ℝ) =
      ((Nat.sqrt ⌊s⌋₊ : ℝ) + 1 / 2) ^ 2 := by push_cast; ring
  have hbelow : Int.fract √(s : ℝ) < 1 / 2 ↔ s < ((Nat.sqrt ⌊s⌋₊ : ℚ) + 1 / 2) ^ 2 := by
    rw [hfract,sub_lt_iff_lt_add',Real.sqrt_lt' hhalf,← hcast,Rat.cast_lt]
  have habove : 1 / 2 < Int.fract √(s : ℝ) ↔ ((Nat.sqrt ⌊s⌋₊ : ℚ) + 1 / 2) ^ 2 < s := by
    rw [hfract,lt_sub_iff_add_lt',Real.lt_sqrt hhalf.le,← hcast,Rat.cast_lt]
  simp only [halfEven,roundSqrt,hfloor,hbelow,habove,Int.even_coe_nat]
  split_ifs <;> rfl

namespace Coefficient
variable (c : Coefficient)

/-- The number that is meant. -/
noncomputable def toReal : ℝ := c.comoment / c.scale.toReal

/-- `round(corr, decimals)`, half to even. -/
def round (decimals : ℕ) : ℚ :=
  let steps : ℚ := roundSqrt (c.comoment ^ 2 / c.scale.sq * (10 ^ decimals) ^ 2)
  (if c.comoment < 0 then -steps else steps) / 10 ^ decimals

theorem round_eq (decimals : ℕ) :
    (c.round decimals : ℝ) = halfEven.atUnit (1 / 10 ^ decimals) c.toReal := by
  have hscale : (0 : ℝ) < c.scale.sq := by exact_mod_cast c.positive
  have hroot : (0 : ℝ) < c.scale.toReal := Real.sqrt_pos.mpr hscale
  have hsteps : 0 ≤ c.comoment ^ 2 / c.scale.sq * (10 ^ decimals) ^ 2 :=
    mul_nonneg (div_nonneg (sq_nonneg _) c.scale.nonneg) (sq_nonneg _)
  have habs : √((c.comoment ^ 2 / c.scale.sq * (10 ^ decimals) ^ 2 : ℚ) : ℝ) =
      |(c.comoment : ℝ)| / c.scale.toReal * 10 ^ decimals := by
    push_cast
    rw [Real.sqrt_mul (by positivity),Real.sqrt_sq (by positivity),Real.sqrt_div (sq_nonneg _),
      Real.sqrt_sq_eq_abs]
    rfl
  have hnearest := toInt_sqrt hsteps
  rw [habs] at hnearest
  simp only [round,NearestRule.atUnit,toReal,div_div_eq_mul_div,div_one]
  split_ifs with hneg
  · have hreal : (c.comoment : ℝ) < 0 := by exact_mod_cast hneg
    rw [abs_of_neg hreal,neg_div,neg_mul,halfEven_toInt_neg] at hnearest
    rw [neg_eq_iff_eq_neg.mp hnearest]
    push_cast
    ring
  · have hreal : (0 : ℝ) ≤ c.comoment := by exact_mod_cast not_lt.mp hneg
    rw [abs_of_nonneg hreal] at hnearest
    rw [hnearest]
    push_cast
    ring

/-- A correlation of one is reported as one. -/
theorem round_of_sq_eq (decimals : ℕ) (h0 : 0 ≤ c.comoment) (h : c.comoment ^ 2 = c.scale.sq) :
    c.round decimals = 1 := by
  have hpow : ((10 : ℚ) ^ decimals) = ((10 ^ decimals : ℕ) : ℚ) := by push_cast; rfl
  have hne : ((10 ^ decimals : ℕ) : ℚ) ≠ 0 := by positivity
  rw [round,h,div_self c.positive.ne',one_mul,hpow,roundSqrt_sq,if_neg h0.not_gt,div_self hne]

theorem abs_toReal_le_one : |c.toReal| ≤ 1 := by
  have hscale : (0 : ℝ) < c.scale.sq := by exact_mod_cast c.positive
  have hbounded : (c.comoment : ℝ) ^ 2 ≤ c.scale.sq := by exact_mod_cast c.bounded
  rw [toReal,Root.toReal,abs_div,abs_of_pos (Real.sqrt_pos.mpr hscale),
    div_le_one (Real.sqrt_pos.mpr hscale)]
  exact Real.abs_le_sqrt hbounded

/-- Rounding keeps a correlation between minus one and one. -/
theorem abs_round_le_one (decimals : ℕ) : |c.round decimals| ≤ 1 := by
  have hunit : (0 : ℝ) < 1 / 10 ^ decimals := by positivity
  have hone : (1 : ℝ) ∈ AddSubgroup.zmultiples (1 / 10 ^ decimals : ℝ) :=
    AddSubgroup.mem_zmultiples_iff.mpr ⟨10 ^ decimals,by rw [zsmul_eq_mul]; push_cast; field_simp⟩
  obtain ⟨hlow,hhigh⟩ := abs_le.mp c.abs_toReal_le_one
  have hupper := halfEven.atUnit_le_of_le_mem hunit hone hhigh
  have hlower := halfEven.atUnit_mono hunit hlow
  rw [halfEven.atUnit_of_mem hunit (neg_mem hone)] at hlower
  rw [← round_eq] at hupper hlower
  exact abs_le.mpr ⟨by exact_mod_cast hlower,by exact_mod_cast hupper⟩

end Coefficient

end Rounded

end MacroInvest.Correlation
