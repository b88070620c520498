import MacroInvest.Library.NearestRounding

/-! # Average costs on a grid

An average cost is blended from the cost of what is held and a rounded amount paid, and then
rounded to its unit again. What each step loses does not add up: a cost outside the range of
the prices paid moves back by more than it loses, or stays where it is.
-/
namespace MacroInvest.BlendedCost
open Rounding
variable {K : Type*} [Field K] [LinearOrder K] [IsStrictOrderedRing K]

/-- The average cost of `held` at `cost` and of `q` for the amount `n`. -/
def blend (held cost q n : K) : K := (held * cost + n) / (held + q)

/-- `x` is at most `d` outside the range of the prices. -/
def NearRange (d x : K) (prices : List K) : Prop :=
  (∃ p ∈ prices, p - d ≤ x) ∧ ∃ p ∈ prices, x ≤ p + d

section Blend
variable (r : NearestRule K) {u held cost q n p bound : K}

/-- Half a unit too much for at least one piece is at most half a unit too much each. -/
theorem blend_le (hheld : 0 ≤ held) (hq : 1 ≤ q) (hu : 0 < u) (hn : n ≤ q * p + u / 2)
    (hcost : held * cost ≤ held * bound) (hp : p ≤ bound) :
    blend held cost q n ≤ bound + u / 2 := by
  have htotal : 0 < held + q := by linarith
  rw [blend,div_le_iff₀ htotal]
  have hpaid : q * p ≤ q * bound := mul_le_mul_of_nonneg_left hp (by linarith)
  have hloss : u / 2 ≤ u / 2 * (held + q) := le_mul_of_one_le_right (by linarith) (by linarith)
  linarith

theorem le_blend (hheld : 0 ≤ held) (hq : 1 ≤ q) (hu : 0 < u) (hn : q * p - u / 2 ≤ n)
    (hcost : held * bound ≤ held * cost) (hp : bound ≤ p) :
    bound - u / 2 ≤ blend held cost q n := by
  have htotal : 0 < held + q := by linarith
  rw [blend,le_div_iff₀ htotal]
  have hpaid : q * bound ≤ q * p := mul_le_mul_of_nonneg_left hp (by linarith)
  have hloss : u / 2 ≤ u / 2 * (held + q) := le_mul_of_one_le_right (by linarith) (by linarith)
  linarith

/-- A cost above the price paid falls, by more than half a unit may add. -/
theorem blend_lt (hheld : 0 ≤ held) (hq : 1 ≤ q) (hu : 0 < u) (hn : n ≤ q * p + u / 2)
    (hp : p < cost) : blend held cost q n < cost + u / 2 := by
  have htotal : 0 < held + q := by linarith
  rw [blend,div_lt_iff₀ htotal]
  have hpaid : q * p < q * cost := mul_lt_mul_of_pos_left hp (by linarith)
  have hloss : u / 2 ≤ u / 2 * (held + q) := le_mul_of_one_le_right (by linarith) (by linarith)
  linarith

theorem lt_blend (hheld : 0 ≤ held) (hq : 1 ≤ q) (hu : 0 < u) (hn : q * p - u / 2 ≤ n)
    (hp : cost < p) : cost - u / 2 < blend held cost q n := by
  have htotal : 0 < held + q := by linarith
  rw [blend,lt_div_iff₀ htotal]
  have hpaid : q * cost < q * p := mul_lt_mul_of_pos_left hp (by linarith)
  have hloss : u / 2 ≤ u / 2 * (held + q) := le_mul_of_one_le_right (by linarith) (by linarith)
  linarith

/-- A cost on the grid that is at most a unit above a bound of the prices stays so. -/
theorem atUnit_blend_le (hheld : 0 ≤ held) (hq : 1 ≤ q) (hu : 0 < u) (hn : n ≤ q * p + u / 2)
    (hgrid : cost ∈ AddSubgroup.zmultiples u) (hcost : cost ≤ bound + u) (hp : p ≤ bound) :
    r.atUnit u (blend held cost q n) ≤ bound + u := by
  by_cases hle : cost ≤ bound
  · have hblend := blend_le hheld hq hu hn (mul_le_mul_of_nonneg_left hle hheld) hp
    have hround := r.atUnit_le hu (blend held cost q n)
    linarith
  · have hblend := blend_lt hheld hq hu hn (hp.trans_lt (not_le.mp hle))
    exact (r.atUnit_le_of_lt hu hgrid hblend).trans hcost

theorem le_atUnit_blend (hheld : 0 ≤ held) (hq : 1 ≤ q) (hu : 0 < u) (hn : q * p - u / 2 ≤ n)
    (hgrid : cost ∈ AddSubgroup.zmultiples u) (hcost : bound - u ≤ cost) (hp : bound ≤ p) :
    bound - u ≤ r.atUnit u (blend held cost q n) := by
  by_cases hle : bound ≤ cost
  · have hblend := le_blend hheld hq hu hn (mul_le_mul_of_nonneg_left hle hheld) hp
    have hround := (abs_le.mp (r.abs_atUnit_sub_le hu (blend held cost q n))).1
    linarith
  · have hblend := lt_blend hheld hq hu hn ((not_le.mp hle).trans_le hp)
    exact hcost.trans (r.le_atUnit_of_lt hu hgrid hblend)

end Blend

section NearRange
variable (r : NearestRule K) {u d e x held cost q n p : K} {prices : List K}

/-- With nothing held the cost is within a unit of the price itself. -/
theorem nearRange_first (hq : 1 ≤ q) (hu : 0 < u) (hn : |n - q * p| ≤ u / 2) :
    NearRange u (r.atUnit u (blend 0 cost q n)) (prices ++ [p]) := by
  obtain ⟨hlow,hhigh⟩ := abs_le.mp hn
  have hle : blend 0 cost q n ≤ p + u / 2 :=
    blend_le le_rfl hq hu (sub_le_iff_le_add'.mp hhigh) (by simp) le_rfl
  have hge : p - u / 2 ≤ blend 0 cost q n :=
    le_blend le_rfl hq hu (by linarith only [hlow]) (by simp) le_rfl
  obtain ⟨hdown,hup⟩ := abs_le.mp (r.abs_atUnit_sub_le hu (blend 0 cost q n))
  have hmem : p ∈ prices ++ [p] := List.mem_append_right _ List.mem_cons_self
  exact ⟨⟨p,hmem,by linarith⟩,⟨p,hmem,by linarith⟩⟩

/-- Another purchase keeps the cost within a unit of the range of the prices. -/
theorem nearRange_blend (hheld : 0 ≤ held) (hq : 1 ≤ q) (hu : 0 < u) (hn : |n - q * p| ≤ u / 2)
    (hgrid : cost ∈ AddSubgroup.zmultiples u) (h : NearRange u cost prices) :
    NearRange u (r.atUnit u (blend held cost q n)) (prices ++ [p]) := by
  obtain ⟨hlow,hhigh⟩ := abs_le.mp hn
  have hless : q * p - u / 2 ≤ n := by linarith
  have hmore : n ≤ q * p + u / 2 := by linarith
  obtain ⟨⟨lo,hlo,hcostlo⟩,⟨hi,hhi,hcosthi⟩⟩ := h
  have hmem : p ∈ prices ++ [p] := List.mem_append_right _ List.mem_cons_self
  constructor
  · have hle : min lo p - u ≤ r.atUnit u (blend held cost q n) :=
      le_atUnit_blend r hheld hq hu hless hgrid
        ((sub_le_sub_right (min_le_left lo p) u).trans hcostlo) (min_le_right lo p)
    rcases min_choice lo p with hmin | hmin
    · exact ⟨lo,List.mem_append_left _ hlo,hmin ▸ hle⟩
    · exact ⟨p,hmem,hmin ▸ hle⟩
  · have hle : r.atUnit u (blend held cost q n) ≤ max hi p + u :=
      atUnit_blend_le r hheld hq hu hmore hgrid
        (hcosthi.trans (add_le_add_left (le_max_left hi p) u)) (le_max_right hi p)
    rcases max_choice hi p with hmax | hmax
    · exact ⟨hi,List.mem_append_left _ hhi,hmax ▸ hle⟩
    · exact ⟨p,hmem,hmax ▸ hle⟩

theorem NearRange.mono (h : NearRange d x prices) (hd : d ≤ e) : NearRange e x prices := by
  obtain ⟨⟨lo,hlo,hlow⟩,⟨hi,hhi,hhigh⟩⟩ := h
  exact ⟨⟨lo,hlo,by linarith⟩,⟨hi,hhi,by linarith⟩⟩

/-- Prices that are rounded move the range by half a unit at most. -/
theorem NearRange.rounded (hu : 0 < u) (h : NearRange d x prices) :
    NearRange (d + u / 2) x (prices.map (r.atUnit u)) := by
  obtain ⟨⟨lo,hlo,hlow⟩,⟨hi,hhi,hhigh⟩⟩ := h
  have hup := r.atUnit_le hu lo
  have hdown := (abs_le.mp (r.abs_atUnit_sub_le hu hi)).1
  exact ⟨⟨_,List.mem_map_of_mem hlo,by linarith⟩,⟨_,List.mem_map_of_mem hhi,by linarith⟩⟩

end NearRange
end MacroInvest.BlendedCost
