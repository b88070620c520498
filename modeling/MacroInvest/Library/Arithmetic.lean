import MacroInvest.Library.FloatRounding

/-! # Arithmetic that rounds

A program computes with the rounded results of its operations. What a proof needs of the rounding
is its order, the whole numbers that it keeps and its relative error. Exact numbers are an instance
and so are floats of 53 binary digits, overflow and underflow left out. Amounts that are not
negative stay near the exact ones, by a number of roundings that products, quotients and sums add
up.
-/
namespace MacroInvest.Rounding

/-- How the result of an operation is rounded. -/
structure Arithmetic where
  fl : ℚ → ℚ
  mono : Monotone fl
  fl_int : ∀ m : ℤ, |m| ≤ 2 ^ 53 → fl m = m
  near : ∀ x, |fl x - x| ≤ |x| / 2 ^ 53

namespace Arithmetic

/-- Nothing is rounded. -/
def exact : Arithmetic where
  fl := id
  mono := monotone_id
  fl_int _ _ := rfl
  near x := by
    rw [id,sub_self,abs_zero]
    positivity

/-- Python's `float`. -/
def double : Arithmetic where
  fl := roundFloat 2 53
  mono := roundFloat_monotone one_lt_two (by norm_num)
  fl_int _ hm := roundFloat_of_isFloat one_lt_two (by norm_num) (isFloat_intCast hm)
  near x := by
    have herror := abs_roundFloat_sub_le (K := ℚ) one_lt_two 53 x
    norm_num at herror ⊢
    linarith

section Operations
variable (A : Arithmetic)

def add (x y : ℚ) : ℚ := A.fl (x + y)

def sub (x y : ℚ) : ℚ := A.fl (x - y)

def mul (x y : ℚ) : ℚ := A.fl (x * y)

def div (x y : ℚ) : ℚ := A.fl (x / y)

/-- `round(x, s)`: the nearest number of `s` decimals, as a float. -/
def round (s : ℕ) (x : ℚ) : ℚ := A.fl (halfEven.atUnit (1 / 10 ^ s) x)

/-- What the rounding of a total has lost, computed from the greater of its two parts. -/
def lost (t x : ℚ) : ℚ :=
  let total := A.add t x
  if |x| ≤ |t| then A.add (A.sub t total) x else A.add (A.sub x total) t

/-- One item of `sum`: the total, and what its roundings have lost. -/
def sumStep (t : ℚ × ℚ) (x : ℚ) : ℚ × ℚ := (A.add t.1 x,A.add t.2 (A.lost t.1 x))

/-- `sum` of floats, with what was lost added at the end. -/
def sum (l : List ℚ) : ℚ :=
  let t := l.foldl A.sumStep (0,0)
  if t.2 = 0 then t.1 else A.add t.1 t.2

end Operations

section Order
variable (A : Arithmetic)

theorem add_swap (x y : ℚ) : A.add x y = A.add y x := congrArg A.fl (Rat.add_comm x y)

@[simp] theorem fl_zero : A.fl 0 = 0 := by simpa using A.fl_int 0 (by norm_num)

@[simp] theorem fl_one : A.fl 1 = 1 := by simpa using A.fl_int 1 (by norm_num)

theorem fl_nonneg {x : ℚ} (h : 0 ≤ x) : 0 ≤ A.fl x := A.fl_zero.ge.trans (A.mono h)

theorem fl_nonpos {x : ℚ} (h : x ≤ 0) : A.fl x ≤ 0 := (A.mono h).trans A.fl_zero.le

theorem fl_le_one {x : ℚ} (h : x ≤ 1) : A.fl x ≤ 1 := (A.mono h).trans A.fl_one.le

/-- A size that is a whole number is not exceeded. -/
theorem abs_fl_le {x : ℚ} {m : ℕ} (hm : m ≤ 2 ^ 53) (h : |x| ≤ m) : |A.fl x| ≤ m := by
  have hint : |(m : ℤ)| ≤ 2 ^ 53 := by
    rw [Nat.abs_cast]
    exact_mod_cast hm
  have hle := A.mono (abs_le.mp h).2
  have hge := A.mono (abs_le.mp h).1
  have hupper : A.fl m = m := by exact_mod_cast A.fl_int m hint
  have hlower : A.fl (-m) = -m := by exact_mod_cast A.fl_int (-m) (by rwa [abs_neg])
  rw [hupper] at hle
  rw [hlower] at hge
  exact abs_le.mpr ⟨hge,hle⟩

theorem abs_fl_le_one {x : ℚ} (h : |x| ≤ 1) : |A.fl x| ≤ 1 := by
  simpa using A.abs_fl_le (m := 1) (by norm_num) (by simpa using h)

theorem round_mono (s : ℕ) : Monotone (A.round s) :=
  fun _ _ h => A.mono (halfEven.atUnit_mono (by positivity) h)

/-- Whole numbers are kept. -/
theorem round_int (s : ℕ) {m : ℤ} (hm : |m| ≤ 2 ^ 53) : A.round s m = m := by
  have hmem : (m : ℚ) ∈ AddSubgroup.zmultiples (1 / 10 ^ s : ℚ) := by
    refine AddSubgroup.mem_zmultiples_iff.mpr ⟨m * 10 ^ s,?_⟩
    rw [zsmul_eq_mul]
    push_cast
    field_simp
  rw [round,halfEven.atUnit_of_mem (by positivity) hmem,A.fl_int m hm]

@[simp] theorem round_zero (s : ℕ) : A.round s 0 = 0 := by
  simpa using A.round_int s (m := 0) (by norm_num)

theorem round_nonneg (s : ℕ) {x : ℚ} (h : 0 ≤ x) : 0 ≤ A.round s x :=
  (A.round_zero s).ge.trans (A.round_mono s h)

theorem round_le_one (s : ℕ) {x : ℚ} (h : x ≤ 1) : A.round s x ≤ 1 := by
  have hone : A.round s 1 = 1 := by simpa using A.round_int s (m := 1) (by norm_num)
  exact (A.round_mono s h).trans hone.le

end Order

end Arithmetic

/-! ## Nearness -/

/-- What one rounding may add to an amount, or take from it. -/
def slack : ℚ := 1 / 2 ^ 52

/-- The same for a number of roundings. -/
def growth (k : ℕ) : ℚ := (1 + slack) ^ k

section Growth

theorem slack_pos : 0 < slack := by norm_num [slack]

theorem one_le_growth (k : ℕ) : 1 ≤ growth k := one_le_pow₀ (by linarith [slack_pos])

theorem growth_pos (k : ℕ) : 0 < growth k := one_pos.trans_le (one_le_growth k)

theorem growth_add (j k : ℕ) : growth (j + k) = growth j * growth k := pow_add _ _ _

theorem growth_mono {j k : ℕ} (h : j ≤ k) : growth j ≤ growth k :=
  pow_le_pow_right₀ (by linarith [slack_pos]) h

/-- A share of an amount is no more than as many roundings. -/
theorem one_add_le_growth (k : ℕ) : 1 + k * slack ≤ growth k :=
  one_add_mul_le_pow (by linarith [slack_pos]) k

/-- Up to half of an amount the roundings do not compound to more than twice their share. -/
theorem growth_mul_le (k : ℕ) : growth k * (1 - k * slack) ≤ 1 := by
  have hslack := slack_pos
  have hle : slack ≤ 1 := by norm_num [slack]
  have hbernoulli := one_add_mul_le_pow (show (-2 : ℚ) ≤ -slack by linarith) k
  calc growth k * (1 - k * slack) ≤ growth k * (1 + -slack) ^ k :=
        mul_le_mul_of_nonneg_left (by linarith) (growth_pos k).le
    _ = ((1 + slack) * (1 + -slack)) ^ k := (mul_pow _ _ _).symm
    _ ≤ 1 := pow_le_one₀ (by nlinarith) (by nlinarith)

theorem growth_le {k : ℕ} {y : ℚ} (hy : k * slack ≤ y) (hhalf : y ≤ 1 / 2) :
    growth k ≤ 1 + 2 * y := by
  have hnonneg : 0 ≤ y := (mul_nonneg (Nat.cast_nonneg k) slack_pos.le).trans hy
  have hrest : 0 < 1 - y := by linarith
  have hsquare : y * y ≤ y / 2 := by
    have h := mul_le_mul_of_nonneg_left hhalf hnonneg
    linarith
  have hone : growth k * (1 - y) ≤ 1 :=
    (mul_le_mul_of_nonneg_left (by linarith) (growth_pos k).le).trans (growth_mul_le k)
  calc growth k ≤ 1 / (1 - y) := (le_div_iff₀ hrest).mpr hone
    _ ≤ 1 + 2 * y := (div_le_iff₀ hrest).mpr (by linarith)

end Growth

/-- Two amounts differ by `k` roundings at most. -/
structure Near (k : ℕ) (x y : ℚ) : Prop where
  nonneg : 0 ≤ y
  le : x ≤ growth k * y
  ge : y ≤ growth k * x

namespace Near
variable {j k : ℕ} {x y x' y' z : ℚ}

theorem refl (h : 0 ≤ x) : Near 0 x x := by
  constructor
  · exact h
  · rw [growth,pow_zero,one_mul]
  · rw [growth,pow_zero,one_mul]

theorem nonneg_left (h : Near k x y) : 0 ≤ x :=
  nonneg_of_mul_nonneg_right (h.nonneg.trans h.ge) (growth_pos k)

theorem mono (h : Near j x y) (hjk : j ≤ k) : Near k x y := by
  have hgrowth := growth_mono hjk
  constructor
  · exact h.nonneg
  · exact h.le.trans (mul_le_mul_of_nonneg_right hgrowth h.nonneg)
  · exact h.ge.trans (mul_le_mul_of_nonneg_right hgrowth h.nonneg_left)

theorem trans (h : Near j x y) (h' : Near k y z) : Near (j + k) x z := by
  rw [add_comm]
  constructor
  · exact h'.nonneg
  · calc x ≤ growth j * y := h.le
      _ ≤ growth j * (growth k * z) := mul_le_mul_of_nonneg_left h'.le (growth_pos j).le
      _ = growth (k + j) * z := by rw [growth_add]; ring
  · calc z ≤ growth k * y := h'.ge
      _ ≤ growth k * (growth j * x) := mul_le_mul_of_nonneg_left h.ge (growth_pos k).le
      _ = growth (k + j) * x := by rw [growth_add]; ring

theorem add (h : Near k x y) (h' : Near k x' y') : Near k (x + x') (y + y') := by
  constructor
  · exact add_nonneg h.nonneg h'.nonneg
  · rw [mul_add]
    exact add_le_add h.le h'.le
  · rw [mul_add]
    exact add_le_add h.ge h'.ge

theorem mul (h : Near j x y) (h' : Near k x' y') : Near (j + k) (x * x') (y * y') := by
  constructor
  · exact mul_nonneg h.nonneg h'.nonneg
  · calc x * x' ≤ growth j * y * (growth k * y') :=
          mul_le_mul h.le h'.le h'.nonneg_left (mul_nonneg (growth_pos j).le h.nonneg)
      _ = growth (j + k) * (y * y') := by rw [growth_add]; ring
  · calc y * y' ≤ growth j * x * (growth k * x') :=
          mul_le_mul h.ge h'.ge h'.nonneg (mul_nonneg (growth_pos j).le h.nonneg_left)
      _ = growth (j + k) * (x * x') := by rw [growth_add]; ring

theorem sum_map {ι : Type*} {l : List ι} {f g : ι → ℚ} (h : ∀ i ∈ l, Near k (f i) (g i)) :
    Near k (l.map f).sum (l.map g).sum := by
  induction l with
  | nil => exact (refl le_rfl).mono (Nat.zero_le k)
  | cons i l ih =>
    rw [List.map_cons,List.sum_cons,List.map_cons,List.sum_cons]
    exact (h i List.mem_cons_self).add (ih (fun j hj => h j (List.mem_cons_of_mem i hj)))

theorem eq_zero_iff (h : Near k x y) : x = 0 ↔ y = 0 := by
  constructor
  · rintro rfl
    exact le_antisymm (h.ge.trans_eq (mul_zero _)) h.nonneg
  · rintro rfl
    exact le_antisymm (h.le.trans_eq (mul_zero _)) h.nonneg_left

theorem inv (h : Near k x y) : Near k x⁻¹ y⁻¹ := by
  by_cases hy : y = 0
  · rw [h.eq_zero_iff.mpr hy,hy,inv_zero]
    exact (refl le_rfl).mono (Nat.zero_le k)
  · have hypos : 0 < y := lt_of_le_of_ne h.nonneg (Ne.symm hy)
    have hxpos : 0 < x := lt_of_le_of_ne h.nonneg_left (fun hx => hy (h.eq_zero_iff.mp hx.symm))
    constructor
    · exact inv_nonneg.mpr h.nonneg
    · rw [← div_eq_mul_inv,le_div_iff₀ hypos,inv_mul_le_iff₀ hxpos,mul_comm]
      exact h.ge
    · rw [← div_eq_mul_inv,le_div_iff₀ hxpos,inv_mul_le_iff₀ hypos,mul_comm]
      exact h.le

theorem div (h : Near j x y) (h' : Near k x' y') : Near (j + k) (x / x') (y / y') := by
  rw [div_eq_mul_inv,div_eq_mul_inv]
  exact h.mul h'.inv

/-- In the order of two computed amounts the exact ones are, up to the roundings of both. -/
theorem le_of_le (h : Near j x y) (h' : Near k x' y') (hle : x ≤ x') : y ≤ growth (j + k) * y' :=
  calc y ≤ growth j * x := h.ge
    _ ≤ growth j * (growth k * y') :=
        mul_le_mul_of_nonneg_left (hle.trans h'.le) (growth_pos j).le
    _ = growth (j + k) * y' := by rw [growth_add]; ring

/-- Amounts that lie further apart than the roundings go are computed in their order. -/
theorem lt_of_mul_le {g : ℚ} (h : Near j x y) (h' : Near k x' y') (hpos : 0 < y')
    (hg : growth (j + k) < g) (hle : y * g ≤ y') : x < x' := by
  by_contra! hback
  have hcomputed := h'.le_of_le h hback
  rw [add_comm k j] at hcomputed
  have hy : 0 < y := pos_of_mul_pos_right (hpos.trans_le hcomputed) (growth_pos _).le
  have hapart := mul_lt_mul_of_pos_right hg hy
  linarith

end Near

namespace Arithmetic
variable (A : Arithmetic) {j k : ℕ} {x y x' y' : ℚ}

theorem abs_fl_sub_le (x : ℚ) : |A.fl x - x| ≤ slack / 2 * |x| := by
  refine (A.near x).trans_eq ?_
  rw [slack]
  ring

theorem abs_fl_le_growth (x : ℚ) : |A.fl x| ≤ (1 + slack) * |x| := by
  have herror := A.abs_fl_sub_le x
  have hsplit := abs_add_le (A.fl x - x) x
  rw [sub_add_cancel] at hsplit
  linarith [mul_nonneg slack_pos.le (abs_nonneg x)]

theorem near_fl (h : 0 ≤ x) : Near 1 (A.fl x) x := by
  have herror := A.abs_fl_sub_le x
  rw [abs_of_nonneg h,abs_le] at herror
  have hle : slack ≤ 1 := by norm_num [slack]
  have hsmall : 0 ≤ slack * x := mul_nonneg slack_pos.le h
  have hsquare : slack * (slack * x) ≤ slack * x := mul_le_of_le_one_left hsmall hle
  constructor
  · exact h
  · rw [growth,pow_one]
    linarith [herror.2]
  · rw [growth,pow_one]
    have hbelow : (1 - slack / 2) * x ≤ A.fl x := by linarith [herror.1]
    have hscaled := mul_le_mul_of_nonneg_left hbelow (show 0 ≤ 1 + slack by linarith [slack_pos])
    linarith

theorem near_add (h : Near k x y) (h' : Near k x' y') : Near (k + 1) (A.add x x') (y + y') :=
  add_comm k 1 ▸ (A.near_fl (add_nonneg h.nonneg_left h'.nonneg_left)).trans (h.add h')

theorem near_mul (h : Near j x y) (h' : Near k x' y') :
    Near (j + k + 1) (A.mul x x') (y * y') :=
  add_comm (j + k) 1 ▸ (A.near_fl (mul_nonneg h.nonneg_left h'.nonneg_left)).trans (h.mul h')

theorem near_div (h : Near j x y) (h' : Near k x' y') :
    Near (j + k + 1) (A.div x x') (y / y') :=
  add_comm (j + k) 1 ▸ (A.near_fl (div_nonneg h.nonneg_left h'.nonneg_left)).trans (h.div h')

theorem abs_sub_add_le (hx : 0 ≤ x) (hy : 0 ≤ y) :
    |A.add (A.sub x (A.add x y)) y| ≤ 2 * slack * (x + y) := by
  have hsum : 0 ≤ x + y := add_nonneg hx hy
  have htotal := A.abs_fl_sub_le (x + y)
  rw [abs_of_nonneg hsum] at htotal
  have hle : slack ≤ 1 / 4 := by norm_num [slack]
  have hsmall : 0 ≤ slack * (x + y) := mul_nonneg slack_pos.le hsum
  have hsquare : slack * (slack * (x + y)) ≤ 1 / 4 * (slack * (x + y)) :=
    mul_le_mul_of_nonneg_right hle hsmall
  have hdiff : |x - A.add x y| ≤ (1 + slack / 2) * (x + y) := by
    have hsplit : x - A.add x y = -(A.fl (x + y) - (x + y)) + -y := by rw [Arithmetic.add]; ring
    rw [hsplit]
    refine (abs_add_le _ _).trans ?_
    rw [abs_neg,abs_neg,abs_of_nonneg hy]
    linarith
  have hinner : |A.sub x (A.add x y) + y| ≤ (slack + slack * slack / 4) * (x + y) := by
    have hsplit : A.sub x (A.add x y) + y =
        A.fl (x - A.add x y) - (x - A.add x y) + -(A.fl (x + y) - (x + y)) := by
      rw [Arithmetic.sub,Arithmetic.add]
      ring
    rw [hsplit]
    refine (abs_add_le _ _).trans ?_
    rw [abs_neg]
    have hstep := (A.abs_fl_sub_le (x - A.add x y)).trans
      (mul_le_mul_of_nonneg_left hdiff (by linarith [slack_pos]))
    linarith
  refine (A.abs_fl_le_growth _).trans ?_
  have hscaled := mul_le_mul_of_nonneg_left hinner (show 0 ≤ 1 + slack by linarith [slack_pos])
  have hcube : slack * (slack * (slack * (x + y))) ≤ 1 / 4 * (slack * (slack * (x + y))) :=
    mul_le_mul_of_nonneg_right hle (mul_nonneg slack_pos.le hsmall)
  linarith

/-- What an item of a sum is found to have lost is small, whichever part is greater. -/
theorem abs_lost_le (hx : 0 ≤ x) (hy : 0 ≤ y) : |A.lost x y| ≤ 2 * slack * (x + y) := by
  unfold lost
  split
  · exact A.abs_sub_add_le hx hy
  · have hswap := A.abs_sub_add_le hy hx
    rwa [add_comm y x,A.add_swap y x] at hswap

/-- Adding up one by one: a rounding for every item. -/
theorem near_foldl {ι : Type*} {l : List ι} {f g : ι → ℚ} (h : ∀ i ∈ l, Near k (f i) (g i)) :
    Near (k + l.length) (l.foldl (fun t i => A.add t (f i)) 0) (l.map g).sum := by
  induction l using List.reverseRecOn with
  | nil => exact (Near.refl le_rfl).mono (Nat.zero_le k)
  | append_singleton l i ih =>
    have hl := ih (fun j hj => h j (List.mem_append_left _ hj))
    have hi := h i (List.mem_append_right _ List.mem_cons_self)
    rw [List.foldl_append,List.map_append,List.sum_append,List.length_append]
    simpa [add_assoc] using A.near_add hl (hi.mono (Nat.le_add_right k l.length))

/-- Items of either sign, none of a size above one: no total exceeds their number, and its error
is a rounding of as much for each of them. -/
theorem abs_foldl_sub_le {l : List ℚ} (h : ∀ x ∈ l, |x| ≤ 1) (hlen : l.length ≤ 2 ^ 53) :
    |l.foldl A.add 0| ≤ l.length ∧ |l.foldl A.add 0 - l.sum| ≤ l.length ^ 2 / 2 ^ 53 := by
  induction l using List.reverseRecOn with
  | nil => simp
  | append_singleton l x ih =>
    rw [List.length_append,List.length_singleton] at hlen ⊢
    obtain ⟨htotal,herror⟩ := ih (fun y hy => h y (List.mem_append_left _ hy)) (by omega)
    have hx := h x (List.mem_append_right _ List.mem_cons_self)
    rw [List.foldl_append,List.foldl_cons,List.foldl_nil,List.sum_append,List.sum_singleton]
    generalize l.foldl A.add 0 = t at htotal herror ⊢
    have hsum : |t + x| ≤ (l.length + 1 : ℕ) := by
      push_cast
      exact (abs_add_le t x).trans (add_le_add htotal hx)
    refine ⟨A.abs_fl_le hlen hsum,?_⟩
    have hround := A.near (t + x)
    have hsplit : A.add t x - (l.sum + x) = A.fl (t + x) - (t + x) + (t - l.sum) := by
      rw [Arithmetic.add]
      ring
    have hnonneg : (0 : ℚ) ≤ l.length := Nat.cast_nonneg _
    push_cast at hsum ⊢
    rw [hsplit]
    refine (abs_add_le _ _).trans ?_
    linarith

/-- The state of `sum` after some items: a total near the exact one, and little that was lost. -/
structure SumState (l : List ℚ) (t : ℚ × ℚ) : Prop where
  total : Near l.length t.1 l.sum
  lost : |t.2| ≤ 2 * (l.length * slack) * (growth l.length * l.sum)

variable {A} in
theorem SumState.step {l : List ℚ} {t : ℚ × ℚ} (h : SumState l t) (hx : 0 ≤ x) :
    SumState (l ++ [x]) (A.sumStep t x) := by
  have hsum : (l ++ [x]).sum = l.sum + x := by simp
  have hlen : (l ++ [x]).length = l.length + 1 := by simp
  have htotal := h.total.add ((Near.refl hx).mono (Nat.zero_le l.length))
  have hpos := growth_pos l.length
  constructor
  · rw [hsum,hlen]
    exact A.near_add h.total ((Near.refl hx).mono (Nat.zero_le l.length))
  · have hfound := A.abs_lost_le h.total.nonneg_left hx
    rw [hsum,hlen,sumStep]
    generalize A.lost t.1 x = lost at hfound ⊢
    have hslack := slack_pos
    have hnew : 0 ≤ growth l.length * (l.sum + x) := mul_nonneg hpos.le htotal.nonneg
    have hbefore : |t.2| ≤ 2 * (l.length * slack) * (growth l.length * (l.sum + x)) := by
      refine h.lost.trans ?_
      gcongr
      exact le_add_of_nonneg_right hx
    have hnow : |lost| ≤ 2 * slack * (growth l.length * (l.sum + x)) :=
      hfound.trans (mul_le_mul_of_nonneg_left htotal.le (by linarith))
    have hboth : |t.2 + lost| ≤
        2 * ((l.length + 1) * slack) * (growth l.length * (l.sum + x)) := by
      refine (abs_add_le _ _).trans ?_
      linarith
    calc |A.add t.2 lost| ≤ (1 + slack) * |t.2 + lost| := A.abs_fl_le_growth _
      _ ≤ (1 + slack) * (2 * ((l.length + 1) * slack) * (growth l.length * (l.sum + x))) :=
          mul_le_mul_of_nonneg_left hboth (by linarith)
      _ = 2 * ((l.length + 1 : ℕ) * slack) * (growth (l.length + 1) * (l.sum + x)) := by
          rw [growth_add]
          simp only [growth,pow_one]
          push_cast
          ring

theorem sumState (l : List ℚ) (hl : ∀ x ∈ l, 0 ≤ x) : SumState l (l.foldl A.sumStep (0,0)) := by
  induction l using List.reverseRecOn with
  | nil => exact ⟨Near.refl le_rfl,by simp⟩
  | append_singleton l x ih =>
    rw [List.foldl_append]
    exact (ih (fun y hy => hl y (List.mem_append_left _ hy))).step
      (hl x (List.mem_append_right _ List.mem_cons_self))

section Lost
variable {l : List ℚ} {t : ℚ × ℚ}

/-- What was lost, twice the roundings of the total, changes it by less than its double. -/
theorem SumState.le_add (h : SumState l t) (hsmall : l.length * slack ≤ 1 / 8) :
    l.sum * (1 - 4 * (l.length * slack)) ≤ growth l.length * (t.1 + t.2) := by
  have hnonneg : 0 ≤ l.length * slack := mul_nonneg (Nat.cast_nonneg _) slack_pos.le
  have hpart : 0 ≤ l.length * slack * l.sum := mul_nonneg hnonneg h.total.nonneg
  have hdouble := growth_le (k := l.length + l.length) (y := 2 * (l.length * slack))
    (by push_cast; linarith) (by linarith)
  have hsquare : growth l.length * (growth l.length * (l.length * slack * l.sum)) ≤
      2 * (l.length * slack * l.sum) := by
    rw [← mul_assoc,← growth_add]
    exact mul_le_mul_of_nonneg_right (by linarith) hpart
  have hge := mul_le_mul_of_nonneg_left (abs_le.mp h.lost).1 (growth_pos l.length).le
  linarith [h.total.ge]

theorem SumState.add_le (h : SumState l t) :
    t.1 + t.2 ≤ growth (l.length + 2 * l.length) * l.sum := by
  have hextra := one_add_le_growth (2 * l.length)
  push_cast at hextra
  have htotal := mul_nonneg (growth_pos l.length).le h.total.nonneg
  calc t.1 + t.2 ≤ growth l.length * l.sum * (1 + 2 * (l.length * slack)) := by
        linarith [h.total.le,(abs_le.mp h.lost).2]
    _ ≤ growth l.length * l.sum * growth (2 * l.length) :=
        mul_le_mul_of_nonneg_left (by linarith) htotal
    _ = growth (l.length + 2 * l.length) * l.sum := by
        rw [growth_add]
        ring

theorem SumState.near (h : SumState l t) (hsmall : l.length * slack ≤ 1 / 8) :
    Near (9 * l.length) (t.1 + t.2) l.sum := by
  have hnonneg : 0 ≤ l.length * slack := mul_nonneg (Nat.cast_nonneg _) slack_pos.le
  have hsum := h.total.nonneg
  have hback := h.le_add hsmall
  have hstored : 0 ≤ t.1 + t.2 := by
    refine nonneg_of_mul_nonneg_right (le_trans ?_ hback) (growth_pos l.length)
    exact mul_nonneg hsum (by linarith)
  constructor
  · exact hsum
  · exact h.add_le.trans (mul_le_mul_of_nonneg_right (growth_mono (by omega)) hsum)
  · have hcut := mul_le_mul_of_nonneg_left hsmall (mul_nonneg hnonneg hsum)
    have hextra := one_add_le_growth (8 * l.length)
    push_cast at hextra
    calc l.sum ≤ l.sum * (1 - 4 * (l.length * slack)) * (1 + 8 * (l.length * slack)) := by
          linarith
      _ ≤ growth l.length * (t.1 + t.2) * growth (8 * l.length) :=
          mul_le_mul hback (by linarith) (by linarith)
            (mul_nonneg (growth_pos l.length).le hstored)
      _ = growth (9 * l.length) * (t.1 + t.2) := by
          rw [show 9 * l.length = l.length + 8 * l.length by omega,growth_add]
          ring

end Lost

/-- The sum of up to a billion items is near the exact one. -/
theorem near_sum {l : List ℚ} (hl : ∀ x ∈ l, 0 ≤ x) (hlen : l.length ≤ 10 ^ 9) :
    Near (9 * l.length + 1) (A.sum l) l.sum := by
  have h := A.sumState l hl
  rw [sum]
  generalize l.foldl A.sumStep (0,0) = t at h ⊢
  split
  · exact h.total.mono (by omega)
  · have hsmall : l.length * slack ≤ 1 / 8 := by
      have hcast : (l.length : ℚ) ≤ 10 ^ 9 := by exact_mod_cast hlen
      rw [slack]
      linarith
    have hnear := h.near hsmall
    exact add_comm 1 (9 * l.length) ▸ (A.near_fl hnear.nonneg_left).trans hnear

end Arithmetic

end MacroInvest.Rounding
