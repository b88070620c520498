import MacroInvest.Library.Arithmetic

/-! # Mixtures

Two wholes are put together, the first one with a share `l` of the sum. A part of the sum is then
a mixture of its shares of the two wholes. Over all shares `l` the mixtures of two numbers, and the
sums of the squares of mixed parts, come as close as one likes to two bounds that are read off the
wholes alone. A value that is computed with roundings and rounded in the end is the same for all
shares where the two bounds, moved apart a little, are rounded alike, and only where they are so
when they are moved together.
-/
namespace MacroInvest.Mixing
variable {K : Type*} [Field K] [LinearOrder K] [IsStrictOrderedRing K]

/-- Both wholes have a share in the sum. -/
def Inner (l : K) : Prop := 0 < l ∧ l < 1

def mix (l a b : K) : K := l * a + (1 - l) * b

/-- The sum of the squares of mixed parts, from those of the parts and of their differences. -/
def mixSquares (l A B Q : K) : K := mix l A B - l * (1 - l) * Q

/-- The share at which the mixture is most even. -/
def evenest (A B Q : K) : K := (Q + B - A) / (Q + Q)

def leastSquares (A B Q : K) : K := mixSquares (evenest A B Q) A B Q

/-- No mixture goes below this: the most even one, or the more even of the two wholes. -/
def lowSquares (A B Q : K) : K := if |A - B| < Q then leastSquares A B Q else min A B

/-- The values lie between two bounds and come near both. -/
structure Spans (F : K → K) (lo hi : K) : Prop where
  low : ∀ l, Inner l → lo ≤ F l
  high : ∀ l, Inner l → F l ≤ hi
  near_low : ∀ z, lo < z → ∃ l, Inner l ∧ F l < z
  near_high : ∀ z, z < hi → ∃ l, Inner l ∧ z < F l

section Mix
variable {l a b : K}

theorem Inner.symm (h : Inner l) : Inner (1 - l) := by
  constructor <;> linarith [h.1,h.2]

theorem inner_half : Inner (1 / 2 : K) := by
  constructor <;> linarith

omit [LinearOrder K] [IsStrictOrderedRing K] in
theorem mix_self (l a : K) : mix l a a = a := by
  rw [mix]
  ring

/-- What is left of a number beside one whole is less than any gap for some share. -/
theorem exists_near {F : K → K} {A M e : K}
    (hnear : ∀ l, Inner l → |F l - A| ≤ (1 - l) * M) (he : 0 < e) :
    ∃ l, Inner l ∧ |F l - A| < e := by
  have hbound : 0 < 2 * (|M| + e) := by positivity
  have hrest : 0 < e / (2 * (|M| + e)) := div_pos he hbound
  have hinner : Inner (1 - e / (2 * (|M| + e))) := by
    have hlt : e / (2 * (|M| + e)) < 1 := by
      rw [div_lt_one hbound]
      linarith [abs_nonneg M]
    constructor <;> linarith
  refine ⟨_,hinner,(hnear _ hinner).trans_lt ?_⟩
  rw [sub_sub_cancel]
  have hle : e / (2 * (|M| + e)) * M ≤ e / (2 * (|M| + e)) * |M| :=
    mul_le_mul_of_nonneg_left (le_abs_self M) hrest.le
  refine hle.trans_lt ?_
  rw [div_mul_eq_mul_div,div_lt_iff₀ hbound]
  apply mul_lt_mul_of_pos_left _ he
  linarith [abs_nonneg M]

end Mix

section Squares
variable {l A B Q : K}

omit [LinearOrder K] [IsStrictOrderedRing K] in
theorem mixSquares_symm (l A B Q : K) : mixSquares (1 - l) B A Q = mixSquares l A B Q := by
  rw [mixSquares,mixSquares,mix,mix]
  ring

theorem mixSquares_near (hl : Inner l) : |mixSquares l A B Q - A| ≤ (1 - l) * (|A - B| + |Q|) := by
  have hform : mixSquares l A B Q - A = -((1 - l) * ((A - B) + l * Q)) := by
    rw [mixSquares,mix]
    ring
  rw [hform,abs_neg,abs_mul,abs_of_pos hl.symm.1]
  apply mul_le_mul_of_nonneg_left _ hl.symm.1.le
  have hQ : |l * Q| ≤ |Q| := by
    rw [abs_mul,abs_of_pos hl.1]
    exact mul_le_of_le_one_left (abs_nonneg Q) hl.2.le
  linarith [abs_add_le (A - B) (l * Q)]

/-- Some sums of squares are as near as one likes to those of the first whole, and of the
second. -/
theorem exists_near_wholes (A B Q : K) {e : K} (he : 0 < e) :
    (∃ l, Inner l ∧ |mixSquares l A B Q - A| < e) ∧
      ∃ l, Inner l ∧ |mixSquares l A B Q - B| < e := by
  have hwhole : ∀ A B : K, ∃ l, Inner l ∧ |mixSquares l A B Q - A| < e := fun A B =>
    exists_near (fun l hl => mixSquares_near hl) he
  obtain ⟨l,hl,hnear⟩ := hwhole B A
  refine ⟨hwhole A B,1 - l,hl.symm,?_⟩
  rwa [mixSquares_symm]

theorem mixSquares_eq (hQ : 0 < Q) (l : K) : mixSquares l A B Q =
    leastSquares A B Q + Q * (l - evenest A B Q) ^ 2 := by
  have htwice : (Q + Q) * evenest A B Q = Q + B - A := mul_div_cancel₀ _ (add_pos hQ hQ).ne'
  rw [leastSquares,mixSquares,mixSquares,mix,mix]
  linear_combination (l - evenest A B Q) * htwice

theorem inner_evenest (hQ : |A - B| < Q) : Inner (evenest A B Q) := by
  have hpos : 0 < Q + Q := by linarith [abs_nonneg (A - B)]
  obtain ⟨hlow,hhigh⟩ := abs_lt.mp hQ
  constructor
  · exact div_pos (by linarith) hpos
  · rw [evenest,div_lt_one hpos]
    linarith

theorem mixSquares_le (hl : Inner l) (hQ : 0 ≤ Q) : mixSquares l A B Q ≤ max A B := by
  have hA := mul_le_mul_of_nonneg_left (le_max_left A B) hl.1.le
  have hB := mul_le_mul_of_nonneg_left (le_max_right A B) hl.symm.1.le
  have hless := mul_nonneg (mul_pos hl.1 hl.symm.1).le hQ
  rw [mixSquares,mix]
  linarith

/-- Without a most even mixture in between no sum of squares goes below that of a whole. -/
theorem le_mixSquares (hl : Inner l) (hQ : 0 ≤ Q) (hle : Q ≤ A - B) : B ≤ mixSquares l A B Q := by
  have hform : mixSquares l A B Q = B + l * ((A - B) - (1 - l) * Q) := by
    rw [mixSquares,mix]
    ring
  have hshare : (1 - l) * Q ≤ Q := mul_le_of_le_one_left hQ hl.symm.2.le
  rw [hform]
  linarith [mul_nonneg hl.1.le (show 0 ≤ (A - B) - (1 - l) * Q by linarith)]

theorem lowSquares_le (hl : Inner l) (hQ : 0 ≤ Q) : lowSquares A B Q ≤ mixSquares l A B Q := by
  unfold lowSquares
  split
  · rename_i hinside
    have hpos : 0 < Q := (abs_nonneg _).trans_lt hinside
    rw [mixSquares_eq hpos]
    linarith [mul_nonneg hpos.le (sq_nonneg (l - evenest A B Q))]
  · rename_i hinside
    rw [not_lt,le_abs] at hinside
    rcases hinside with hle | hle
    · exact (min_le_right A B).trans (le_mixSquares hl hQ hle)
    · rw [← mixSquares_symm]
      exact (min_le_left A B).trans (le_mixSquares hl.symm hQ (by linarith))

/-- The sums of squares of all mixtures. -/
theorem spans_mixSquares (hQ : 0 ≤ Q) :
    Spans (fun l => mixSquares l A B Q) (lowSquares A B Q) (max A B) := by
  refine ⟨fun l hl => lowSquares_le hl hQ,fun l hl => mixSquares_le hl hQ,fun z hz => ?_,
    fun z hz => ?_⟩
  · rw [lowSquares] at hz
    split at hz
    · rename_i hinside
      refine ⟨_,inner_evenest hinside,?_⟩
      rw [mixSquares_eq ((abs_nonneg _).trans_lt hinside),sub_self]
      simpa using hz
    · obtain ⟨⟨l,hl,hA⟩,l',hl',hB⟩ := exists_near_wholes A B Q (sub_pos.mpr hz)
      rcases min_choice A B with hmin | hmin
      · exact ⟨l,hl,by linarith [(abs_lt.mp hA).2]⟩
      · exact ⟨l',hl',by linarith [(abs_lt.mp hB).2]⟩
  · obtain ⟨⟨l,hl,hA⟩,l',hl',hB⟩ := exists_near_wholes A B Q (sub_pos.mpr hz)
    rcases max_choice A B with hmax | hmax
    · exact ⟨l,hl,by linarith [(abs_lt.mp hA).1]⟩
    · exact ⟨l',hl',by linarith [(abs_lt.mp hB).1]⟩

/-- The mixtures of two numbers are between them. -/
theorem spans_mix (a b : K) : Spans (fun l => mix l a b) (min a b) (max a b) := by
  have hspans := spans_mixSquares (A := a) (B := b) (le_refl 0)
  rw [lowSquares,if_neg (abs_nonneg _).not_gt] at hspans
  simpa only [mixSquares,mul_zero,sub_zero] using hspans

end Squares

section Rounded
open Rounding
variable {R : ℚ → ℚ} {g lo hi : ℚ} {k : ℕ}

/-- Two bounds are rounded alike when they are moved apart by a factor, or together by one below
one. -/
def Settled (R : ℚ → ℚ) (g lo hi : ℚ) : Prop := R (hi * g) ≤ R (lo / g)

/-- A value that is computed in every unit is near that of some mixture, and of every one in some
unit. -/
structure Follows (k : ℕ) (f F : ℚ → ℚ) : Prop where
  mixture : ∀ c, 0 < c → ∃ l, Inner l ∧ Near k (f c) (F l)
  reached : ∀ l, Inner l → ∃ c, 0 < c ∧ Near k (f c) (F l)

section Follows
variable {f F : ℚ → ℚ} (h : Follows k f F) (hR : Monotone R) (hspan : Spans F lo hi)
include h hR hspan

/-- Between settled bounds the values of all units are rounded alike. -/
theorem Follows.alike_of_settled (hg : growth k ≤ g) (hset : Settled R g lo hi) {c c' : ℚ}
    (hc : 0 < c) (hc' : 0 < c') : R (f c) = R (f c') := by
  have hpos : 0 < g := (growth_pos k).trans_le hg
  have hbound : ∀ c, 0 < c → R (lo / g) ≤ R (f c) ∧ R (f c) ≤ R (hi * g) := by
    intro c hc
    obtain ⟨l,hl,hnear⟩ := h.mixture c hc
    constructor
    · apply hR
      rw [div_le_iff₀ hpos,mul_comm]
      exact (hspan.low l hl).trans
        (hnear.ge.trans (mul_le_mul_of_nonneg_right hg hnear.nonneg_left))
    · apply hR
      rw [mul_comm]
      exact hnear.le.trans (mul_le_mul hg (hspan.high l hl) hnear.nonneg hpos.le)
  exact le_antisymm ((hbound c hc).2.trans (hset.trans (hbound c' hc').1))
    ((hbound c' hc').2.trans (hset.trans (hbound c hc).1))

/-- Where the values of all units are rounded alike the bounds are settled, moved together. -/
theorem Follows.settled_of_alike (hsmall : ∃ d > 0, R d ≤ R 0) (hlo : 0 ≤ lo) (hg : growth k < g)
    (halike : ∀ c, 0 < c → R (f c) = R (f 1)) : Settled R g⁻¹ lo hi := by
  have hgrowth := growth_pos k
  have hpos : 0 < g := hgrowth.trans hg
  have hupper : R (hi * g⁻¹) ≤ R (f 1) := by
    rcases le_or_gt hi 0 with hnone | hvalue
    · obtain ⟨l,-,hnear⟩ := h.mixture 1 one_pos
      exact hR ((mul_nonpos_of_nonpos_of_nonneg hnone (inv_nonneg.mpr hpos.le)).trans
        hnear.nonneg_left)
    · obtain ⟨l,hl,hlt⟩ := hspan.near_high (hi * growth k / g) (by
        rw [div_lt_iff₀ hpos]
        exact mul_lt_mul_of_pos_left hg hvalue)
      obtain ⟨c,hc,hnear⟩ := h.reached l hl
      rw [← halike c hc]
      apply hR
      rw [← div_eq_mul_inv,div_le_iff₀ hpos]
      rw [div_lt_iff₀ hpos] at hlt
      have hback := mul_le_mul_of_nonneg_right hnear.ge hpos.le
      refine le_of_mul_le_mul_left ?_ hgrowth
      linarith
  have hlower : R (f 1) ≤ R (lo / g⁻¹) := by
    rw [div_inv_eq_mul]
    rcases hlo.eq_or_lt with rfl | hvalue
    · obtain ⟨d,hd,hround⟩ := hsmall
      obtain ⟨l,hl,hlt⟩ := hspan.near_low (d / growth k) (div_pos hd hgrowth)
      obtain ⟨c,hc,hnear⟩ := h.reached l hl
      rw [← halike c hc,zero_mul]
      refine le_trans (hR ?_) hround
      rw [lt_div_iff₀ hgrowth,mul_comm] at hlt
      exact hnear.le.trans hlt.le
    · obtain ⟨l,hl,hlt⟩ := hspan.near_low (lo * g / growth k) (by
        rw [lt_div_iff₀ hgrowth]
        exact mul_lt_mul_of_pos_left hg hvalue)
      obtain ⟨c,hc,hnear⟩ := h.reached l hl
      rw [← halike c hc]
      apply hR
      rw [lt_div_iff₀ hgrowth,mul_comm] at hlt
      exact hnear.le.trans hlt.le
  exact hupper.trans hlower

end Follows

end Rounded

end MacroInvest.Mixing
