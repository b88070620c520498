import MacroInvest.Library.NearestRounding

/-! # Floating point rounding

A number is rounded to a significand of `p` digits in radix `β`, ties to even; overflow and
underflow are left out. Every bound that is itself such a number survives the rounding, whatever
the exponents of the two are, and that is all a proof about a float computation needs of it.
-/
namespace MacroInvest.Rounding
variable {K : Type*} [Field K]

/-- The numbers with a significand of `p` digits. -/
def IsFloat (β p : ℕ) (b : K) : Prop := ∃ m e : ℤ, |m| ≤ (β : ℤ) ^ p ∧ b = m * (β : K) ^ e

variable {β p : ℕ}

theorem isFloat_intCast {m : ℤ} (h : |m| ≤ (β : ℤ) ^ p) : IsFloat β p (m : K) :=
  ⟨m,0,h,by rw [zpow_zero,mul_one]⟩

theorem IsFloat.neg {b : K} (h : IsFloat β p b) : IsFloat β p (-b) := by
  obtain ⟨m,e,hm,rfl⟩ := h
  refine ⟨-m,e,(abs_neg m).trans_le hm,?_⟩
  rw [Int.cast_neg,neg_mul]

variable [LinearOrder K] [IsStrictOrderedRing K]

theorem radix_pos (hβ : 1 < β) : (0 : K) < β := by exact_mod_cast zero_lt_one.trans hβ

theorem radix_zpow_pos (hβ : 1 < β) (e : ℤ) : (0 : K) < (β : K) ^ e := zpow_pos (radix_pos hβ) e

theorem mem_zmultiples_radix_zpow (hβ : 1 < β) {e e' : ℤ} (h : e' ≤ e) (m : ℤ) :
    (m : K) * (β : K) ^ e ∈ AddSubgroup.zmultiples ((β : K) ^ e') := by
  obtain ⟨n,hn⟩ := Int.eq_ofNat_of_zero_le (sub_nonneg.mpr h)
  refine AddSubgroup.mem_zmultiples_iff.mpr ⟨m * (β : ℤ) ^ n,?_⟩
  have he : e = e' + n := by omega
  rw [he,zpow_add₀ (radix_pos hβ).ne',zpow_natCast,zsmul_eq_mul]
  push_cast
  ring

variable [FloorRing K]

/-- The exponent of the last of `p` digits of `x`. -/
def lastDigit (β p : ℕ) (x : K) : ℤ := Int.log β |x| + 1 - p

def roundFloat (β p : ℕ) (x : K) : K := halfEven.atUnit ((β : K) ^ lastDigit β p x) x

/-- Rounding is the same on both sides of zero. -/
theorem roundFloat_neg_eq (p : ℕ) (x : K) : roundFloat β p (-x) = -roundFloat β p x := by
  have hlast : lastDigit β p (-x) = lastDigit β p x := by rw [lastDigit,lastDigit,abs_neg]
  rw [roundFloat,roundFloat,hlast,NearestRule.atUnit,NearestRule.atUnit,neg_div,halfEven_toInt_neg]
  push_cast
  ring

section Digits
variable {x b : K} (hβ : 1 < β)
include hβ

theorem roundFloat_zero (p : ℕ) : roundFloat β p (0 : K) = 0 :=
  halfEven.atUnit_of_mem (radix_zpow_pos hβ _) (zero_mem _)

/-- A number of `p` digits is a multiple of the last digit of `x`, or its own exponent is so
small that it does not exceed the leading digit of `x`. -/
theorem IsFloat.mem_or_le (hb : IsFloat β p b) (hx : 0 < x) :
    b ∈ AddSubgroup.zmultiples ((β : K) ^ lastDigit β p x) ∨ b ≤ (β : K) ^ Int.log β x := by
  obtain ⟨m,e,hm,rfl⟩ := hb
  rcases le_or_gt (lastDigit β p x) e with he | he
  · exact .inl (mem_zmultiples_radix_zpow hβ he m)
  · right
    rw [lastDigit,abs_of_pos hx] at he
    have hm' : (m : K) ≤ (β : K) ^ (p : ℤ) := by
      rw [zpow_natCast]
      exact_mod_cast (le_abs_self m).trans hm
    calc (m : K) * (β : K) ^ e ≤ (β : K) ^ (p : ℤ) * (β : K) ^ e :=
          mul_le_mul_of_nonneg_right hm' (radix_zpow_pos hβ e).le
      _ = (β : K) ^ (p + e) := (zpow_add₀ (radix_pos hβ).ne' _ _).symm
      _ ≤ (β : K) ^ Int.log β x :=
          zpow_le_zpow_right₀ (by exact_mod_cast hβ.le) (by omega)

/-- The leading digit of `x` is a multiple of its last one. -/
theorem leadingDigit_mem (hp : 1 ≤ p) (hx : 0 < x) :
    (β : K) ^ Int.log β x ∈ AddSubgroup.zmultiples ((β : K) ^ lastDigit β p x) := by
  have hle : lastDigit β p x ≤ Int.log β x := by
    rw [lastDigit,abs_of_pos hx]
    omega
  have hmem := mem_zmultiples_radix_zpow (K := K) hβ hle 1
  rwa [Int.cast_one,one_mul] at hmem

theorem roundFloat_le (hp : 1 ≤ p) (hb : IsFloat β p b) (hx : 0 ≤ x) (h : x ≤ b) :
    roundFloat β p x ≤ b := by
  rcases hx.eq_or_lt with rfl | hx
  · rwa [roundFloat_zero hβ]
  · refine halfEven.atUnit_le_of_le_mem (radix_zpow_pos hβ _) ?_ h
    rcases hb.mem_or_le hβ hx with hmem | hle
    · exact hmem
    · have heq : b = (β : K) ^ Int.log β x :=
        hle.antisymm ((Int.zpow_log_le_self hβ hx).trans h)
      rw [heq]
      exact leadingDigit_mem hβ hp hx

theorem le_roundFloat (hp : 1 ≤ p) (hb : IsFloat β p b) (hx : 0 ≤ x) (h : b ≤ x) :
    b ≤ roundFloat β p x := by
  rcases hx.eq_or_lt with rfl | hx
  · rwa [roundFloat_zero hβ]
  · have hkeep : ∀ {y : K}, y ∈ AddSubgroup.zmultiples ((β : K) ^ lastDigit β p x) → y ≤ x →
        y ≤ roundFloat β p x := by
      intro y hy hyx
      have hmono := halfEven.atUnit_mono (radix_zpow_pos hβ (lastDigit β p x)) hyx
      rwa [halfEven.atUnit_of_mem (radix_zpow_pos hβ _) hy] at hmono
    rcases hb.mem_or_le hβ hx with hmem | hle
    · exact hkeep hmem h
    · exact hle.trans (hkeep (leadingDigit_mem hβ hp hx) (Int.zpow_log_le_self hβ hx))

theorem roundFloat_nonneg (hp : 1 ≤ p) (hx : 0 ≤ x) : 0 ≤ roundFloat β p x :=
  le_roundFloat hβ hp ⟨0,0,by simp,by simp⟩ hx hx

/-- Numbers with leading digits in different places have a power of the radix between them. -/
theorem roundFloat_mono (hp : 1 ≤ p) {y : K} (hx : 0 ≤ x) (h : x ≤ y) :
    roundFloat β p x ≤ roundFloat β p y := by
  rcases hx.eq_or_lt with rfl | hx
  · rw [roundFloat_zero hβ]
    exact roundFloat_nonneg hβ hp h
  · have hy : 0 < y := hx.trans_le h
    have hlog : Int.log β x ≤ Int.log β y := Int.log_mono_right hx h
    rcases hlog.eq_or_lt with heq | hlt
    · rw [roundFloat,roundFloat,lastDigit,lastDigit,abs_of_pos hx,abs_of_pos hy,heq]
      exact halfEven.atUnit_mono (radix_zpow_pos hβ _) h
    · have hfloat : IsFloat β p ((β : K) ^ Int.log β y) := by
        refine ⟨1,Int.log β y,?_,by simp⟩
        rw [abs_one]
        exact one_le_pow₀ (by exact_mod_cast hβ.le)
      have hbelow : x ≤ (β : K) ^ Int.log β y :=
        (Int.lt_zpow_succ_log_self hβ x).le.trans
          (zpow_le_zpow_right₀ (by exact_mod_cast hβ.le) hlt)
      exact (roundFloat_le hβ hp hfloat hx.le hbelow).trans
        (le_roundFloat hβ hp hfloat hy.le (Int.zpow_log_le_self hβ hy))

/-- Rounding to a relative precision does not reach zero. -/
theorem roundFloat_neg (hp : 1 ≤ p) (hx : x < 0) : roundFloat β p x < 0 := by
  have habs : 0 < |x| := abs_pos.mpr hx.ne
  have hmem := neg_mem (leadingDigit_mem hβ hp habs)
  rw [lastDigit,abs_abs,← lastDigit] at hmem
  have hle : x ≤ -(β : K) ^ Int.log β |x| := by
    have hlog : (β : K) ^ Int.log β |x| ≤ |x| := Int.zpow_log_le_self hβ habs
    have hneg := abs_of_neg hx
    linarith
  have hround := halfEven.atUnit_le_of_le_mem (radix_zpow_pos hβ _) hmem hle
  exact hround.trans_lt (neg_neg_of_pos (radix_zpow_pos hβ _))

theorem roundFloat_monotone (hp : 1 ≤ p) : Monotone (roundFloat β p : K → K) := by
  intro x y h
  rcases le_or_gt 0 x with hx | hx
  · exact roundFloat_mono hβ hp hx h
  · rcases le_or_gt 0 y with hy | hy
    · exact (roundFloat_neg hβ hp hx).le.trans (roundFloat_nonneg hβ hp hy)
    · have hneg := roundFloat_mono hβ hp (neg_nonneg.mpr hy.le) (neg_le_neg h)
      rw [roundFloat_neg_eq,roundFloat_neg_eq] at hneg
      exact neg_le_neg_iff.mp hneg

theorem roundFloat_of_isFloat (hp : 1 ≤ p) (hb : IsFloat β p b) : roundFloat β p b = b := by
  have hkeep : ∀ {c : K}, IsFloat β p c → 0 ≤ c → roundFloat β p c = c := fun hc hc0 =>
    (roundFloat_le hβ hp hc hc0 le_rfl).antisymm (le_roundFloat hβ hp hc hc0 le_rfl)
  rcases le_or_gt 0 b with hpos | hneg
  · exact hkeep hb hpos
  · have hflip := hkeep hb.neg (neg_nonneg.mpr hneg.le)
    rwa [roundFloat_neg_eq,neg_inj] at hflip

/-- Half of the last digit, as a part of the number. -/
theorem abs_roundFloat_sub_le (p : ℕ) (x : K) :
    |roundFloat β p x - x| ≤ |x| * (β : K) ^ (1 - p : ℤ) / 2 := by
  rcases eq_or_ne x 0 with rfl | hx
  · rw [roundFloat_zero hβ]
    simp
  · have hhalf := halfEven.abs_atUnit_sub_le (radix_zpow_pos (K := K) hβ (lastDigit β p x)) x
    have hlog : (β : K) ^ Int.log β |x| ≤ |x| := Int.zpow_log_le_self hβ (abs_pos.mpr hx)
    have hdigit : (β : K) ^ lastDigit β p x = (β : K) ^ Int.log β |x| * (β : K) ^ (1 - p : ℤ) := by
      rw [← zpow_add₀ (radix_pos hβ).ne',lastDigit,add_sub_assoc]
    rw [hdigit] at hhalf
    have hscaled := mul_le_mul_of_nonneg_right hlog (radix_zpow_pos (K := K) hβ (1 - p)).le
    rw [roundFloat,hdigit]
    linarith

end Digits

end MacroInvest.Rounding
