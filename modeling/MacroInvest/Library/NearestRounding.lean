import Mathlib

/-! # Rounding to the multiples of a unit

A rounding rule is any choice of a nearest integer; the rules differ only on ties.
Monotonicity, idempotence and the error bound are proved once for all of them, so a
program that mixes half-even and half-away rounding needs no separate theory for each.
-/
namespace MacroInvest.Rounding
variable {K : Type*} [Field K] [LinearOrder K] [IsStrictOrderedRing K]

/-- A choice of a nearest integer for every number. -/
structure NearestRule (K : Type*) [Field K] [LinearOrder K] [IsStrictOrderedRing K] where
  toInt : K → ℤ
  near : ∀ x, |(toInt x : K) - x| ≤ 1 / 2

namespace NearestRule

theorem toInt_le (r : NearestRule K) (x : K) : (r.toInt x : K) ≤ x + 1 / 2 := by
  have h := (abs_le.mp (r.near x)).2
  linarith

theorem le_toInt (r : NearestRule K) (x : K) : x - 1 / 2 ≤ (r.toInt x : K) := by
  have h := (abs_le.mp (r.near x)).1
  linarith

/-- Ties cannot break monotonicity: strictly increasing inputs leave no room for a whole step down. -/
theorem toInt_mono (r : NearestRule K) : Monotone r.toInt := by
  intro x y hxy
  rcases hxy.eq_or_lt with rfl | hlt
  · exact le_rfl
  · have hx := r.toInt_le x
    have hy := r.le_toInt y
    have h : (r.toInt x : K) < r.toInt y + 1 := by linarith
    exact Int.lt_add_one_iff.mp (by exact_mod_cast h)

@[simp] theorem toInt_intCast (r : NearestRule K) (n : ℤ) : r.toInt (n : K) = n := by
  have hu := r.toInt_le (n : K)
  have hl := r.le_toInt (n : K)
  have h1 : (r.toInt (n : K) : K) < n + 1 := by linarith
  have h2 : (n : K) < r.toInt (n : K) + 1 := by linarith
  have h1' : r.toInt (n : K) < n + 1 := by exact_mod_cast h1
  have h2' : n < r.toInt (n : K) + 1 := by exact_mod_cast h2
  omega

/-- `x` rounded to a multiple of the unit `u`. -/
def atUnit (r : NearestRule K) (u x : K) : K := r.toInt (x / u) * u

variable (r : NearestRule K) {u x y : K}

theorem atUnit_mem (u x : K) : r.atUnit u x ∈ AddSubgroup.zmultiples u :=
  AddSubgroup.mem_zmultiples_iff.mpr ⟨r.toInt (x / u), zsmul_eq_mul _ _⟩

theorem atUnit_of_mem (hu : 0 < u) (hx : x ∈ AddSubgroup.zmultiples u) : r.atUnit u x = x := by
  obtain ⟨k, rfl⟩ := AddSubgroup.mem_zmultiples_iff.mp hx
  simp only [atUnit, zsmul_eq_mul]
  rw [mul_div_cancel_right₀ _ hu.ne', toInt_intCast]

theorem atUnit_eq_self_iff (hu : 0 < u) : r.atUnit u x = x ↔ x ∈ AddSubgroup.zmultiples u :=
  ⟨fun h => h ▸ r.atUnit_mem u x, r.atUnit_of_mem hu⟩

theorem atUnit_mono (hu : 0 < u) (h : x ≤ y) : r.atUnit u x ≤ r.atUnit u y := by
  have hi := r.toInt_mono (div_le_div_of_nonneg_right h hu.le)
  exact mul_le_mul_of_nonneg_right (by exact_mod_cast hi) hu.le

/-- A bound that is itself a multiple of the unit survives rounding. -/
theorem atUnit_le_of_le_mem (hu : 0 < u) (hy : y ∈ AddSubgroup.zmultiples u) (h : x ≤ y) :
    r.atUnit u x ≤ y := (r.atUnit_mono hu h).trans (r.atUnit_of_mem hu hy).le

theorem atUnit_nonneg (hu : 0 < u) (h : 0 ≤ x) : 0 ≤ r.atUnit u x := by
  have h0 := r.atUnit_of_mem hu (zero_mem (AddSubgroup.zmultiples u))
  exact h0.symm.le.trans (r.atUnit_mono hu h)

theorem abs_atUnit_sub_le (hu : 0 < u) (x : K) : |r.atUnit u x - x| ≤ u / 2 := by
  have hx : r.atUnit u x - x = ((r.toInt (x / u) : K) - x / u) * u := by
    rw [sub_mul, div_mul_cancel₀ _ hu.ne', atUnit]
  rw [hx, abs_mul, abs_of_pos hu]
  have h := mul_le_mul_of_nonneg_right (r.near (x / u)) hu.le
  linarith

theorem atUnit_le (hu : 0 < u) (x : K) : r.atUnit u x ≤ x + u / 2 := by
  have h := (abs_le.mp (r.abs_atUnit_sub_le hu x)).2
  linarith

/-- Less than half a unit above a multiple does not reach the next one. -/
theorem atUnit_le_of_lt (hu : 0 < u) (hy : y ∈ AddSubgroup.zmultiples u) (h : x < y + u / 2) :
    r.atUnit u x ≤ y := by
  obtain ⟨k,rfl⟩ := AddSubgroup.mem_zmultiples_iff.mp hy
  have hle := r.atUnit_le hu x
  rw [zsmul_eq_mul] at h ⊢
  have hlt : (r.toInt (x / u) : K) * u < (k + 1) * u := by
    calc (r.toInt (x / u) : K) * u = r.atUnit u x := rfl
      _ ≤ x + u / 2 := hle
      _ < (k + 1) * u := by linarith
  have hint : (r.toInt (x / u) : K) < (k + 1 : ℤ) := by
    push_cast
    exact lt_of_mul_lt_mul_right hlt hu.le
  have hk : r.toInt (x / u) ≤ k := Int.lt_add_one_iff.mp (by exact_mod_cast hint)
  exact mul_le_mul_of_nonneg_right (by exact_mod_cast hk) hu.le

theorem le_atUnit_of_lt (hu : 0 < u) (hy : y ∈ AddSubgroup.zmultiples u) (h : y - u / 2 < x) :
    y ≤ r.atUnit u x := by
  obtain ⟨k,rfl⟩ := AddSubgroup.mem_zmultiples_iff.mp hy
  have hle := (abs_le.mp (r.abs_atUnit_sub_le hu x)).1
  rw [zsmul_eq_mul] at h ⊢
  have hlt : (k - 1) * u < (r.toInt (x / u) : K) * u := by
    calc (k - 1) * u < x - u / 2 := by linarith
      _ ≤ r.atUnit u x := by linarith
      _ = (r.toInt (x / u) : K) * u := rfl
  have hint : ((k - 1 : ℤ) : K) < r.toInt (x / u) := by
    push_cast
    exact lt_of_mul_lt_mul_right hlt hu.le
  have hk : k ≤ r.toInt (x / u) := Int.sub_one_lt_iff.mp (by exact_mod_cast hint)
  exact mul_le_mul_of_nonneg_right (by exact_mod_cast hk) hu.le

end NearestRule

variable [FloorRing K]

def halfEven : NearestRule K where
  toInt x :=
    if Int.fract x < 1 / 2 then ⌊x⌋
    else if 1 / 2 < Int.fract x then ⌊x⌋ + 1
    else if Even ⌊x⌋ then ⌊x⌋ else ⌊x⌋ + 1
  near x := by
    have hx := Int.floor_add_fract x
    have h0 := Int.fract_nonneg x
    have h1 := Int.fract_lt_one x
    rw [abs_le]
    split_ifs with hlo hhi hev <;> push_cast <;> constructor <;> linarith

def halfAway : NearestRule K where
  toInt x := if 0 ≤ x then ⌊x + 1 / 2⌋ else -⌊-x + 1 / 2⌋
  near x := by
    rw [abs_le]
    split_ifs with hx
    · have hl := Int.floor_le (x + 1 / 2)
      have hu := Int.lt_floor_add_one (x + 1 / 2)
      constructor <;> linarith
    · have hl := Int.floor_le (-x + 1 / 2)
      have hu := Int.lt_floor_add_one (-x + 1 / 2)
      push_cast
      constructor <;> linarith

/-- Half-even rounding is the same on both sides of zero. -/
theorem halfEven_toInt_neg (x : K) : (halfEven : NearestRule K).toInt (-x) = -halfEven.toInt x := by
  by_cases hint : Int.fract x = 0
  · obtain ⟨n,rfl⟩ := Int.fract_eq_zero_iff.mp hint
    rw [← Int.cast_neg,NearestRule.toInt_intCast,NearestRule.toInt_intCast]
  · have hfract : Int.fract (-x) = 1 - Int.fract x := Int.fract_neg hint
    have hfloor : ⌊-x⌋ = -⌊x⌋ - 1 := by
      have hx := Int.floor_add_fract x
      have hneg := Int.floor_add_fract (-x)
      have hcast : ((⌊-x⌋ : ℤ) : K) = ((-⌊x⌋ - 1 : ℤ) : K) := by
        push_cast
        linarith
      exact_mod_cast hcast
    have heven : Even (-⌊x⌋ - 1) ↔ ¬Even ⌊x⌋ := by
      rw [Int.even_sub_one,even_neg]
    simp only [halfEven,hfract,hfloor,heven]
    rcases lt_trichotomy (Int.fract x) (1 / 2) with h | h | h
    · rw [if_neg (by linarith),if_pos (by linarith),if_pos h]
      ring
    · have hhalf : (1 : K) - 1 / 2 = 1 / 2 := by ring
      simp only [h,hhalf,lt_irrefl,if_false]
      split_ifs <;> ring
    · rw [if_pos (by linarith),if_neg (by linarith),if_pos h]
      ring

section HalfAway
variable {x : K}

theorem halfAway_toInt (hx : 0 ≤ x) : (halfAway : NearestRule K).toInt x = ⌊x + 1 / 2⌋ := if_pos hx

/-- Whole steps pass through the rule on the side of zero where it rounds half up. -/
theorem halfAway_toInt_add {n : ℤ} (hn : 0 ≤ n) (hx : 0 ≤ x) :
    (halfAway : NearestRule K).toInt (n + x) = n + (halfAway : NearestRule K).toInt x := by
  have hn' : (0 : K) ≤ n := by exact_mod_cast hn
  rw [halfAway_toInt (add_nonneg hn' hx),halfAway_toInt hx,add_assoc,Int.floor_intCast_add]

/-- A reflection sends a tie to the other neighbour and leaves everything else alone. -/
theorem halfAway_toInt_sub_iff {n : ℤ} (hx : 0 ≤ x) (hn : x ≤ n) :
    (halfAway : NearestRule K).toInt (n - x) = n - (halfAway : NearestRule K).toInt x ↔
      ∀ k : ℤ, x ≠ k + 1 / 2 := by
  have hshift : x + 1 / 2 = (x - 1 / 2) + 1 := by ring
  have hreflect : (n : K) - x + 1 / 2 = -(x - 1 / 2) + n := by ring
  have htie : (x - 1 / 2 ∉ Set.range ((↑) : ℤ → K)) ↔ ∀ k : ℤ, x ≠ k + 1 / 2 := by
    simp only [Set.mem_range,not_exists]
    refine forall_congr' ?_
    intro k
    constructor
    · intro hk he
      exact hk (by rw [he]; ring)
    · intro hk he
      exact hk (by rw [he]; ring)
  rw [← htie,← Int.ceil_eq_floor_add_one_iff_notMem,halfAway_toInt (sub_nonneg.mpr hn),
    halfAway_toInt hx,hreflect,Int.floor_add_intCast,Int.floor_neg,hshift,Int.floor_add_one]
  constructor
  · intro h
    omega
  · intro h
    omega

variable {u y : K} (hu : 0 < u)
include hu

theorem halfAway_atUnit_add (hy : y ∈ AddSubgroup.zmultiples u) (hy0 : 0 ≤ y) (hx : 0 ≤ x) :
    halfAway.atUnit u (y + x) = y + halfAway.atUnit u x := by
  obtain ⟨n,rfl⟩ := AddSubgroup.mem_zmultiples_iff.mp hy
  rw [zsmul_eq_mul] at hy0 ⊢
  have hn : 0 ≤ n := by exact_mod_cast nonneg_of_mul_nonneg_left hy0 hu
  simp only [NearestRule.atUnit]
  rw [add_div,mul_div_cancel_right₀ _ hu.ne',halfAway_toInt_add hn (div_nonneg hx hu.le)]
  push_cast
  ring

theorem halfAway_atUnit_sub_iff (hy : y ∈ AddSubgroup.zmultiples u) (hx : 0 ≤ x) (hxy : x ≤ y) :
    halfAway.atUnit u (y - x) = y - halfAway.atUnit u x ↔ ∀ k : ℤ, x ≠ (k + 1 / 2) * u := by
  obtain ⟨n,rfl⟩ := AddSubgroup.mem_zmultiples_iff.mp hy
  rw [zsmul_eq_mul] at hxy ⊢
  have hn : x / u ≤ n := (div_le_iff₀ hu).mpr hxy
  have hties : (∀ k : ℤ, x ≠ (k + 1 / 2) * u) ↔ ∀ k : ℤ, x / u ≠ k + 1 / 2 := by
    refine forall_congr' ?_
    intro k
    rw [ne_eq,ne_eq,div_eq_iff hu.ne']
  rw [hties,← halfAway_toInt_sub_iff (div_nonneg hx hu.le) hn]
  simp only [NearestRule.atUnit]
  rw [sub_div,mul_div_cancel_right₀ _ hu.ne',← sub_mul,mul_left_inj' hu.ne']
  exact_mod_cast Iff.rfl

end HalfAway

end MacroInvest.Rounding
