import Mathlib

/-! # Square roots of rationals

A standard deviation is the root of a rational. Kept by its square it can be multiplied,
divided and compared without leaving the rationals, and means a real number all the same.
-/
namespace MacroInvest

/-- The nonnegative number with a given square. -/
@[ext] structure Root where
  sq : ℚ
  nonneg : 0 ≤ sq
  deriving DecidableEq

namespace Root

/-- A nonnegative rational as the root of its square. -/
def ofRat (x : ℚ) : Root := ⟨x ^ 2,sq_nonneg x⟩

def mul (a b : Root) : Root := ⟨a.sq * b.sq,mul_nonneg a.nonneg b.nonneg⟩

def div (a b : Root) : Root := ⟨a.sq / b.sq,div_nonneg a.nonneg b.nonneg⟩

def lt (a b : Root) : Bool := a.sq < b.sq

def max (a b : Root) : Root := if a.lt b then b else a

/-- The nearest multiple of one part in `scale`, half to even. -/
def nearest (scale : ℕ) (a : Root) : ℕ :=
  let doubledSq := (2 * scale) ^ 2 * a.sq
  let doubled := Nat.sqrt ⌊doubledSq⌋₊
  if (doubled : ℚ) ^ 2 = doubledSq then doubled / 2 + (doubled % 2) * (doubled / 2 % 2)
  else (doubled + 1) / 2

/-- The number that is meant. -/
noncomputable def toReal (a : Root) : ℝ := Real.sqrt a.sq

variable (a b : Root)

theorem toReal_ofRat {x : ℚ} (hx : 0 ≤ x) : (ofRat x).toReal = x := by
  have hreal : (0 : ℝ) ≤ x := by exact_mod_cast hx
  rw [toReal,ofRat,Rat.cast_pow,Real.sqrt_sq hreal]

theorem toReal_mul : (a.mul b).toReal = a.toReal * b.toReal := by
  have ha : (0 : ℝ) ≤ a.sq := by exact_mod_cast a.nonneg
  rw [toReal,toReal,toReal,mul,Rat.cast_mul,Real.sqrt_mul ha]

theorem toReal_div : (a.div b).toReal = a.toReal / b.toReal := by
  have ha : (0 : ℝ) ≤ a.sq := by exact_mod_cast a.nonneg
  rw [toReal,toReal,toReal,div,Rat.cast_div,Real.sqrt_div ha]

theorem lt_iff : a.lt b = true ↔ a.toReal < b.toReal := by
  have ha : (0 : ℝ) ≤ a.sq := by exact_mod_cast a.nonneg
  rw [lt,decide_eq_true_iff,toReal,toReal,Real.sqrt_lt_sqrt_iff ha,Rat.cast_lt]

theorem toReal_max : (a.max b).toReal = Max.max a.toReal b.toReal := by
  unfold max
  split
  · rename_i hlt
    exact (max_eq_right ((lt_iff a b).mp hlt).le).symm
  · rename_i hge
    exact (max_eq_left (not_lt.mp ((lt_iff a b).not.mp hge))).symm

end Root
end MacroInvest
