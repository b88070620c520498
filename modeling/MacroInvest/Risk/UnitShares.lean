import MacroInvest.Library.FirstMax
import MacroInvest.Library.Mixing
import MacroInvest.Risk.Allocation

/-! # Shares of a portfolio in two currencies

Won and dollar amounts are added as they are. In another unit of won every sector's share of the
total is another mixture of its shares of the two parts, and every mixture is reached by some
unit. What the code computes of a share, of the sum of the squared shares and of the sector at the
top is near the exact value, by the roundings of ten thousand positions at most.
-/
namespace MacroInvest.Risk
open Broker Rounding Mixing FirstMax

section Requote
variable (c : ℚ)

/-- The factor of a ticker's prices in a unit of won that is `c` times smaller. -/
def unitFactor (ticker : String) : ℚ := if tickerCurrency ticker = .KRW then c else 1

def requotePrices (prices : Prices) : Prices := fun ticker =>
  (prices ticker).map (unitFactor c ticker * ·)

def requoteHoldings (holdings : List Holding) : List Holding :=
  holdings.map (fun h => { h with avgCost := unitFactor c h.ticker * h.avgCost })

end Requote

section Amounts
variable (A : Arithmetic) (price : Holding → ℚ) (c : ℚ)

/-- What the code computes of a position whose price is quoted in another unit. -/
def valueIn (h : Holding) : ℚ := A.mul (A.fl h.quantity) (A.fl (unitFactor c h.ticker * price h))

/-- Its exact amount. -/
def amountIn (h : Holding) : ℚ := unitFactor c h.ticker * (h.quantity * price h)

def amount (h : Holding) : ℚ := h.quantity * price h

def won (l : List Holding) : List Holding := l.filter (fun h => tickerCurrency h.ticker = .KRW)

def dollars (l : List Holding) : List Holding :=
  l.filter (fun h => ¬tickerCurrency h.ticker = .KRW)

/-- Quantities and prices are not negative. -/
def Long (l : List Holding) : Prop := ∀ h ∈ l, 0 ≤ h.quantity ∧ 0 ≤ price h

/-- No won position has a value. -/
def NoWonValue (l : List Holding) : Prop := totalOf (amount price) (won l) = 0

variable {A price c} {l : List Holding} {sector : Holding → String} {s : String}

theorem unitFactor_pos (hc : 0 < c) (ticker : String) : 0 < unitFactor c ticker := by
  unfold unitFactor
  split
  · exact hc
  · exact one_pos

theorem unitFactor_one (ticker : String) : unitFactor 1 ticker = 1 := ite_self 1

theorem amountIn_nonneg (hc : 0 < c) {h : Holding} (hq : 0 ≤ h.quantity) (hp : 0 ≤ price h) :
    0 ≤ amountIn price c h := mul_nonneg (unitFactor_pos hc h.ticker).le (mul_nonneg hq hp)

/-- A value is read, multiplied and rounded: three roundings. -/
theorem near_valueIn (hc : 0 < c) {h : Holding} (hq : 0 ≤ h.quantity) (hp : 0 ≤ price h) :
    Near 3 (valueIn A price c h) (amountIn price c h) := by
  have hquoted : 0 ≤ unitFactor c h.ticker * price h := mul_nonneg (unitFactor_pos hc _).le hp
  rw [amountIn,mul_left_comm]
  exact A.near_mul (A.near_fl hq) (A.near_fl hquoted)

theorem sum_amounts (c : ℚ) (l : List Holding) : totalOf (amountIn price c) l =
    c * totalOf (amount price) (won l) + totalOf (amount price) (dollars l) := by
  induction l with
  | nil => simp [totalOf,won,dollars]
  | cons h l ih =>
    have hcons : ∀ (value : Holding → ℚ) (l : List Holding),
        totalOf value (h :: l) = value h + totalOf value l := fun _ _ => by
      rw [totalOf,List.map_cons,List.sum_cons,totalOf]
    rw [hcons,ih,won,won,dollars,dollars,amountIn,unitFactor]
    by_cases hwon : tickerCurrency h.ticker = .KRW
    · rw [if_pos hwon,List.filter_cons_of_pos (by simpa using hwon),
        List.filter_cons_of_neg (by simpa using hwon),hcons,amount]
      ring
    · rw [if_neg hwon,List.filter_cons_of_neg (by simpa using hwon),
        List.filter_cons_of_pos (by simpa using hwon),hcons,amount]
      ring

theorem sectorSum_amounts (c : ℚ) (l : List Holding) (s : String) :
    sectorSum sector (amountIn price c) l s =
      c * sectorSum sector (amount price) (won l) s +
        sectorSum sector (amount price) (dollars l) s := by
  have hwon : won (l.filter (fun h => sector h = s)) =
      (won l).filter (fun h => sector h = s) := List.filter_comm _ _ _
  have hdollars : dollars (l.filter (fun h => sector h = s)) =
      (dollars l).filter (fun h => sector h = s) := List.filter_comm _ _ _
  rw [sectorSum,sum_amounts,hwon,hdollars]
  rfl

theorem totalOf_nonneg {value : Holding → ℚ} (h : ∀ p ∈ l, 0 ≤ value p) : 0 ≤ totalOf value l := by
  refine List.sum_nonneg (fun x hx => ?_)
  obtain ⟨p,hp,rfl⟩ := List.mem_map.mp hx
  exact h p hp

/-- Where nothing has a value, no position of it has. -/
theorem eq_zero_of_totalOf {value : Holding → ℚ} (h : ∀ p ∈ l, 0 ≤ value p)
    (hzero : totalOf value l = 0) {p : Holding} (hp : p ∈ l) : value p = 0 := by
  refine List.all_zero_of_le_zero_le_of_sum_eq_zero (fun x hx => ?_) hzero
    (List.mem_map_of_mem hp)
  obtain ⟨q,hq,rfl⟩ := List.mem_map.mp hx
  exact h q hq

theorem sectorSum_of_totalOf {value : Holding → ℚ} (h : ∀ p ∈ l, 0 ≤ value p)
    (hzero : totalOf value l = 0) (s : String) : sectorSum sector value l s = 0 := by
  refine List.sum_eq_zero (fun x hx => ?_)
  obtain ⟨p,hp,rfl⟩ := List.mem_map.mp hx
  exact eq_zero_of_totalOf h hzero (List.mem_of_mem_filter hp)

variable (hl : Long price l)
include hl

theorem Long.amount_nonneg {part : List Holding} (hpart : part.Sublist l) :
    ∀ p ∈ part, 0 ≤ amount price p := fun p hp =>
  mul_nonneg (hl p (hpart.subset hp)).1 (hl p (hpart.subset hp)).2

theorem Long.won_amounts : ∀ p ∈ won l, 0 ≤ amount price p := hl.amount_nonneg List.filter_sublist

theorem Long.dollar_amounts : ∀ p ∈ dollars l, 0 ≤ amount price p :=
  hl.amount_nonneg List.filter_sublist

theorem Long.won_nonneg : 0 ≤ totalOf (amount price) (won l) := totalOf_nonneg hl.won_amounts

theorem Long.dollars_nonneg : 0 ≤ totalOf (amount price) (dollars l) :=
  totalOf_nonneg hl.dollar_amounts

theorem Long.near_sectorTotal (A : Arithmetic) (sector : Holding → String) (hc : 0 < c)
    (s : String) :
    Near (3 + l.length) (sectorTotal A sector (valueIn A price c) l s)
      (sectorSum sector (amountIn price c) l s) := by
  have hnear := A.near_foldl (l := l.filter (fun h => sector h = s)) (k := 3)
    (f := valueIn A price c) (g := amountIn price c) (fun h hh =>
      near_valueIn hc (hl h (List.mem_of_mem_filter hh)).1 (hl h (List.mem_of_mem_filter hh)).2)
  exact hnear.mono (Nat.add_le_add_left (List.length_filter_le _ _) 3)

end Amounts

/-! ## Shares -/

section Shares
variable (sector : Holding → String) (price : Holding → ℚ) (l : List Holding)

/-- The share of a sector in some positions. -/
def share (value : Holding → ℚ) (l : List Holding) (s : String) : ℚ :=
  sectorSum sector value l s / totalOf value l

/-- The share of a sector in the won positions, or in all where these have no value. -/
def wonShare (s : String) : ℚ :=
  if totalOf (amount price) (won l) = 0 then share sector (amount price) (dollars l) s
  else share sector (amount price) (won l) s

/-- The share of a sector in the dollar positions, or in all where these have no value. -/
def dollarShare (s : String) : ℚ :=
  if totalOf (amount price) (dollars l) = 0 then share sector (amount price) (won l) s
  else share sector (amount price) (dollars l) s

variable {sector price l} {c m : ℚ}

/-- With one currency only, the unit cancels. -/
theorem share_of_one (sector : Holding → String) (hl : Long price l)
    (hpos : 0 < totalOf (amountIn price 1) l) (hc : 0 < c)
    (hone : totalOf (amount price) (won l) = 0 ∨ totalOf (amount price) (dollars l) = 0)
    (s : String) : share sector (amountIn price c) l s = wonShare sector price l s ∧
      wonShare sector price l s = dollarShare sector price l s := by
  rw [sum_amounts] at hpos
  rw [share,sectorSum_amounts,sum_amounts,wonShare,dollarShare]
  rcases hone with hzero | hzero
  · rw [sectorSum_of_totalOf hl.won_amounts hzero,hzero,if_pos rfl,
      mul_zero,zero_add,zero_add,share,if_neg (fun h => by rw [hzero,h] at hpos; linarith)]
    exact ⟨rfl,rfl⟩
  · rw [sectorSum_of_totalOf hl.dollar_amounts hzero,hzero,if_pos rfl,
      add_zero,add_zero,if_neg (fun h => by rw [hzero,h] at hpos; linarith),
      mul_div_mul_left _ _ hc.ne',share]
    exact ⟨rfl,rfl⟩

/-- The share of the won positions in the total, in a unit of won `c` times smaller. -/
def wonWeight (price : Holding → ℚ) (l : List Holding) (c : ℚ) : ℚ :=
  c * totalOf (amount price) (won l) /
    (c * totalOf (amount price) (won l) + totalOf (amount price) (dollars l))

section Mixed
variable (hwon : 0 < totalOf (amount price) (won l))
  (hdollars : 0 < totalOf (amount price) (dollars l))
include hwon hdollars

theorem wonWeight_inner (hc : 0 < c) : Inner (wonWeight price l c) := by
  have hpart := mul_pos hc hwon
  constructor
  · exact div_pos hpart (by linarith)
  · rw [wonWeight,div_lt_one (by linarith)]
    linarith

/-- Every share of the won positions is that of some unit. -/
theorem exists_weight (hm : Inner m) : ∃ c, 0 < c ∧ wonWeight price l c = m := by
  have hrest := hm.symm.1
  refine ⟨m * totalOf (amount price) (dollars l) / ((1 - m) * totalOf (amount price) (won l)),
    ?_,?_⟩
  · exact div_pos (mul_pos hm.1 hdollars) (mul_pos hrest hwon)
  · have hne : 1 - m ≠ 0 := hrest.ne'
    have hpart : m * totalOf (amount price) (dollars l) /
        ((1 - m) * totalOf (amount price) (won l)) * totalOf (amount price) (won l) =
          m * totalOf (amount price) (dollars l) / (1 - m) := by
      field_simp
    rw [wonWeight,hpart]
    field_simp
    ring

/-- In every unit a share is a mixture of the shares of the two parts. -/
theorem share_mixed (hc : 0 < c) (s : String) : share sector (amountIn price c) l s =
    mix (wonWeight price l c) (wonShare sector price l s) (dollarShare sector price l s) := by
  have htotal : c * totalOf (amount price) (won l) + totalOf (amount price) (dollars l) ≠ 0 := by
    have hpart := mul_pos hc hwon
    linarith
  rw [share,sectorSum_amounts,sum_amounts,wonShare,dollarShare,if_neg hwon.ne',if_neg hdollars.ne',
    mix,wonWeight,share,share]
  have hw := hwon.ne'
  have hd := hdollars.ne'
  field_simp
  ring

end Mixed

/-- The shares in the units of won are mixtures of the two parts, and all mixtures are reached. -/
theorem shares_mixtures (sector : Holding → String) (hl : Long price l)
    (hpos : 0 < totalOf (amountIn price 1) l) :
    (∀ c, 0 < c → ∃ m, Inner m ∧ ∀ s, share sector (amountIn price c) l s =
      mix m (wonShare sector price l s) (dollarShare sector price l s)) ∧
    ∀ m, Inner m → ∃ c, 0 < c ∧ ∀ s, share sector (amountIn price c) l s =
      mix m (wonShare sector price l s) (dollarShare sector price l s) := by
  by_cases hone : totalOf (amount price) (won l) = 0 ∨ totalOf (amount price) (dollars l) = 0
  · have hsame : ∀ c, 0 < c → ∀ m s, share sector (amountIn price c) l s =
        mix m (wonShare sector price l s) (dollarShare sector price l s) := by
      intro c hc m s
      obtain ⟨hshare,heq⟩ := share_of_one sector hl hpos hc hone s
      rw [hshare,heq,mix_self]
    exact ⟨fun c hc => ⟨1 / 2,inner_half,hsame c hc _⟩,fun m _ => ⟨1,one_pos,hsame 1 one_pos m⟩⟩
  · obtain ⟨hwonne,hdollarsne⟩ := not_or.mp hone
    have hwon : 0 < totalOf (amount price) (won l) := lt_of_le_of_ne hl.won_nonneg (Ne.symm hwonne)
    have hdollars : 0 < totalOf (amount price) (dollars l) :=
      lt_of_le_of_ne hl.dollars_nonneg (Ne.symm hdollarsne)
    constructor
    · exact fun c hc => ⟨_,wonWeight_inner hwon hdollars hc,share_mixed hwon hdollars hc⟩
    · intro m hm
      obtain ⟨c,hc,rfl⟩ := exists_weight hwon hdollars hm
      exact ⟨c,hc,share_mixed hwon hdollars hc⟩

theorem wonShare_nonneg (sector : Holding → String) (hl : Long price l) (s : String) :
    0 ≤ wonShare sector price l s ∧ 0 ≤ dollarShare sector price l s := by
  have hshare : ∀ {part : List Holding}, part.Sublist l →
      0 ≤ share sector (amount price) part s := fun hpart => by
    have hvalues := hl.amount_nonneg hpart
    exact div_nonneg (totalOf_nonneg (fun p hp => hvalues p (List.mem_of_mem_filter hp)))
      (totalOf_nonneg hvalues)
  unfold wonShare dollarShare
  constructor
  · split
    · exact hshare List.filter_sublist
    · exact hshare List.filter_sublist
  · split
    · exact hshare List.filter_sublist
    · exact hshare List.filter_sublist

end Shares

/-! ## What is computed of them -/

/-- The roundings in an answer about ten thousand positions. -/
def steps : ℕ := 23 * 10 ^ 4 + 17

/-- More than what they make of an amount. -/
def tolerance : ℚ := 1 + 1 / 10 ^ 9

theorem growth_steps : growth steps < tolerance := by
  have hle := growth_le (k := steps) (y := 1 / 10 ^ 10) (by norm_num [steps,slack]) (by norm_num)
  refine hle.trans_lt ?_
  norm_num [tolerance]

theorem one_lt_tolerance : 1 < tolerance := by norm_num [tolerance]

theorem growth_lt {k : ℕ} (hk : k ≤ steps) : growth k < tolerance :=
  (growth_mono hk).trans_lt growth_steps

def squareSum (sectors : List String) (x : String → ℚ) : ℚ := (sectors.map (fun s => x s ^ 2)).sum

section Computed
variable {A : Arithmetic} {sector : Holding → String} {price : Holding → ℚ} {l : List Holding}
  {c : ℚ}

theorem squareSum_nonneg (sectors : List String) (x : String → ℚ) : 0 ≤ squareSum sectors x := by
  refine List.sum_nonneg (fun y hy => ?_)
  obtain ⟨s,-,rfl⟩ := List.mem_map.mp hy
  exact sq_nonneg _

theorem squareSum_mix (sectors : List String) (m : ℚ) (a b : String → ℚ) :
    squareSum sectors (fun s => mix m (a s) (b s)) = mixSquares m (squareSum sectors a)
      (squareSum sectors b) (squareSum sectors (fun s => a s - b s)) := by
  induction sectors with
  | nil => simp [squareSum,mixSquares,mix]
  | cons s sectors ih =>
    simp only [squareSum,List.map_cons,List.sum_cons,mixSquares,mix] at ih ⊢
    rw [ih]
    ring

/-- Amounts that are bounded in every unit are so in both parts. -/
theorem parts_of_units {a b : ℚ} (h : ∀ c, 0 < c → c * a ≤ b) : a ≤ 0 ∧ 0 ≤ b := by
  constructor
  · by_contra! ha
    have hunit := h ((|b| + 1) / a) (by positivity)
    rw [div_mul_cancel₀ _ ha.ne'] at hunit
    linarith [le_abs_self b]
  · by_contra! hb
    have ha : a < 0 := by linarith [h 1 one_pos]
    have hunit := h (b / (2 * a)) (div_pos_of_neg_of_neg hb (by linarith))
    have hne := ha.ne
    have hhalf : b / (2 * a) * a = b / 2 := by
      field_simp
    linarith

/-- Some sector has the greatest amount in both parts, by a factor. -/
def CommonTop (g : ℚ) (sector : Holding → String) (price : Holding → ℚ) (l : List Holding) : Prop :=
  ∃ top ∈ sectorsOf sector l, ∀ s ∈ sectorsOf sector l, s ≠ top →
    sectorSum sector (amount price) (won l) s * g ≤
        sectorSum sector (amount price) (won l) top ∧
      sectorSum sector (amount price) (dollars l) s * g ≤
        sectorSum sector (amount price) (dollars l) top

/-- The shares of a sector in the two parts are rounded alike, moved apart by a factor. -/
def ShareSettled (R : ℚ → ℚ) (g : ℚ) (sector : Holding → String) (price : Holding → ℚ)
    (l : List Holding) (s : String) : Prop :=
  Settled R g (min (wonShare sector price l s) (dollarShare sector price l s))
    (max (wonShare sector price l s) (dollarShare sector price l s))

/-- The squares of the differences of the two parts. -/
def squareGap (sector : Holding → String) (price : Holding → ℚ) (l : List Holding) : ℚ :=
  squareSum (sectorsOf sector l) (fun s => wonShare sector price l s - dollarShare sector price l s)

/-- The concentrations of the mixtures of the two parts are rounded alike. -/
def SquaresSettled (R : ℚ → ℚ) (g : ℚ) (sector : Holding → String) (price : Holding → ℚ)
    (l : List Holding) : Prop :=
  let won := squareSum (sectorsOf sector l) (wonShare sector price l)
  let dollars := squareSum (sectorsOf sector l) (dollarShare sector price l)
  Settled R g (lowSquares won dollars (squareGap sector price l)) (max won dollars)

/-- A bound that sums of squares come near is not negative. -/
theorem lowSquares_nonneg (sector : Holding → String) (price : Holding → ℚ) (l : List Holding) :
    0 ≤ lowSquares (squareSum (sectorsOf sector l) (wonShare sector price l))
      (squareSum (sectorsOf sector l) (dollarShare sector price l)) (squareGap sector price l) := by
  by_contra! hneg
  obtain ⟨m,hm,hlt⟩ := (spans_mixSquares (squareSum_nonneg _ _)).near_low 0 hneg
  have hnonneg := squareSum_nonneg (sectorsOf sector l)
    (fun s => mix m (wonShare sector price l s) (dollarShare sector price l s))
  rw [squareSum_mix] at hnonneg
  exact absurd hlt hnonneg.not_gt

variable (hl : Long price l) (hfew : l.length ≤ 10 ^ 4)
include hl

theorem Long.amountIn_nonneg (hc : 0 < c) {part : List Holding} (hpart : part.Sublist l) :
    ∀ p ∈ part, 0 ≤ amountIn price c p := fun p hp =>
  Risk.amountIn_nonneg hc (hl p (hpart.subset hp)).1 (hl p (hpart.subset hp)).2

include hfew

theorem near_sum_values (hc : 0 < c) : Near (9 * 10 ^ 4 + 4)
    (A.sum (l.map (valueIn A price c))) (totalOf (amountIn price c) l) := by
  have hnear : ∀ h ∈ l, Near 3 (valueIn A price c h) (amountIn price c h) :=
    fun h hh => near_valueIn hc (hl h hh).1 (hl h hh).2
  have hvalues : ∀ x ∈ l.map (valueIn A price c), 0 ≤ x := by
    intro x hx
    obtain ⟨h,hh,rfl⟩ := List.mem_map.mp hx
    exact (hnear h hh).nonneg_left
  have hsum := (A.near_sum hvalues (by rw [List.length_map]; omega)).trans (Near.sum_map hnear)
  rw [List.length_map] at hsum
  exact hsum.mono (by omega)

theorem near_sum_totals (hc : 0 < c) : Near (10 * 10 ^ 4 + 4)
    (A.sum ((sectorsOf sector l).map (sectorTotal A sector (valueIn A price c) l)))
    (totalOf (amountIn price c) l) := by
  have hnear := fun s => hl.near_sectorTotal A sector hc s
  have hlen := length_sectorsOf_le sector l
  have htotals : ∀ x ∈ (sectorsOf sector l).map (sectorTotal A sector (valueIn A price c) l),
      0 ≤ x := by
    intro x hx
    obtain ⟨s,-,rfl⟩ := List.mem_map.mp hx
    exact (hnear s).nonneg_left
  have hsum := (A.near_sum htotals (by rw [List.length_map]; omega)).trans
    (Near.sum_map (fun s _ => hnear s))
  rw [List.length_map,sum_sectorSum] at hsum
  exact hsum.mono (by omega)

variable {total : ℚ → ℚ} {s : String}
  (htotal : ∀ c, 0 < c → Near (10 * 10 ^ 4 + 4) (total c) (totalOf (amountIn price c) l))
include htotal

/-- A share as computed: the total of the sector over that of all positions. -/
theorem near_share (hc : 0 < c) (s : String) : Near (11 * 10 ^ 4 + 8)
    (A.div (sectorTotal A sector (valueIn A price c) l s) (total c))
    (share sector (amountIn price c) l s) :=
  (A.near_div (hl.near_sectorTotal A sector hc s) (htotal c hc)).mono (by omega)

/-- The concentration as computed, in whatever order the sectors are. -/
theorem near_squares (hc : 0 < c) {order : List String} (horder : order.Perm (sectorsOf sector l)) :
    Near steps
      (order.foldl (fun hhi s =>
        let w := A.div (sectorTotal A sector (valueIn A price c) l s) (total c)
        A.add hhi (A.mul w w)) 0)
      (squareSum (sectorsOf sector l) (share sector (amountIn price c) l)) := by
  have hlen : order.length ≤ 10 ^ 4 :=
    horder.length_eq.trans_le ((length_sectorsOf_le sector l).trans hfew)
  have hnear := A.near_foldl (l := order) (k := 22 * 10 ^ 4 + 17)
    (f := fun s => A.mul (A.div (sectorTotal A sector (valueIn A price c) l s) (total c))
      (A.div (sectorTotal A sector (valueIn A price c) l s) (total c)))
    (g := fun s => share sector (amountIn price c) l s ^ 2) (fun s _ => by
      have hw : Near (11 * 10 ^ 4 + 8)
          (A.div (sectorTotal A sector (valueIn A price c) l s) (total c))
          (share sector (amountIn price c) l s) := near_share hl hfew htotal hc s
      rw [sq]
      exact (A.near_mul hw hw).mono (by norm_num))
  rw [squareSum,← (horder.map _).sum_eq]
  exact hnear.mono (by rw [steps]; omega)

variable (hpos : 0 < totalOf (amountIn price 1) l)
include hpos

theorem follows_share (s : String) : Follows steps
    (fun c => A.div (sectorTotal A sector (valueIn A price c) l s) (total c))
    (fun m => mix m (wonShare sector price l s) (dollarShare sector price l s)) := by
  obtain ⟨hmixture,hreached⟩ := shares_mixtures sector hl hpos
  have hnear : ∀ c, 0 < c → Near steps
      (A.div (sectorTotal A sector (valueIn A price c) l s) (total c))
      (share sector (amountIn price c) l s) := fun c hc =>
    (near_share hl hfew htotal hc s).mono (by norm_num [steps])
  constructor
  · intro c hc
    obtain ⟨m,hm,hshare⟩ := hmixture c hc
    exact ⟨m,hm,hshare s ▸ hnear c hc⟩
  · intro m hm
    obtain ⟨c,hc,hshare⟩ := hreached m hm
    exact ⟨c,hc,hshare s ▸ hnear c hc⟩

theorem follows_squares {order : ℚ → List String}
    (horder : ∀ c, 0 < c → (order c).Perm (sectorsOf sector l)) : Follows steps
    (fun c => (order c).foldl (fun hhi s =>
      let w := A.div (sectorTotal A sector (valueIn A price c) l s) (total c)
      A.add hhi (A.mul w w)) 0)
    (fun m => mixSquares m (squareSum (sectorsOf sector l) (wonShare sector price l))
      (squareSum (sectorsOf sector l) (dollarShare sector price l)) (squareGap sector price l)) := by
  obtain ⟨hmixture,hreached⟩ := shares_mixtures sector hl hpos
  constructor
  · intro c hc
    obtain ⟨m,hm,hshare⟩ := hmixture c hc
    refine ⟨m,hm,?_⟩
    rw [squareGap,← squareSum_mix,← funext hshare]
    exact near_squares hl hfew htotal hc (horder c hc)
  · intro m hm
    obtain ⟨c,hc,hshare⟩ := hreached m hm
    refine ⟨c,hc,?_⟩
    rw [squareGap,← squareSum_mix,← funext hshare]
    exact near_squares hl hfew htotal hc (horder c hc)

omit hfew htotal in
theorem total_pos (hc : 0 < c) : 0 < totalOf (amountIn price c) l := by
  rw [sum_amounts] at hpos ⊢
  have hwon := hl.won_nonneg
  have hdollars := hl.dollars_nonneg
  rcases hwon.eq_or_lt with hzero | hvalue
  · rw [← hzero] at hpos ⊢
    linarith
  · linarith [mul_pos hc hvalue]

omit hfew htotal in
/-- A sector with the greatest amount has one: without it there would be none at all. -/
theorem sectorSum_top_pos (hc : 0 < c) {top : String} {g : ℚ} (hg : 0 < g)
    (hgreatest : ∀ s ∈ sectorsOf sector l, s ≠ top →
      sectorSum sector (amountIn price c) l s * g ≤ sectorSum sector (amountIn price c) l top) :
    0 < sectorSum sector (amountIn price c) l top := by
  have hamount := fun s => (hl.near_sectorTotal .exact sector hc s).nonneg
  refine lt_of_le_of_ne (hamount top) (fun hzero => ?_)
  refine (total_pos hl hpos hc).ne' ?_
  rw [← sum_sectorSum sector]
  refine List.sum_eq_zero (fun x hx => ?_)
  obtain ⟨s,hs,rfl⟩ := List.mem_map.mp hx
  by_cases hst : s = top
  · rw [hst,← hzero]
  · have hle := hgreatest s hs hst
    rw [← hzero] at hle
    exact le_antisymm (nonpos_of_mul_nonpos_left hle hg) (hamount s)

omit htotal in
/-- A sector with the greatest amounts in both parts is at the top in every unit. -/
theorem firstMax_of_commonTop (h : CommonTop tolerance sector price l) :
    ∃ top, ∀ c, 0 < c → firstMax (sectorTotal A sector (valueIn A price c) l)
      (sectorsOf sector l) = some top := by
  obtain ⟨top,hmem,hgreatest⟩ := h
  refine ⟨top,fun c hc => firstMax_of_strict hmem (fun s hs hne => ?_)⟩
  have hfactor : ∀ s ∈ sectorsOf sector l, s ≠ top →
      sectorSum sector (amountIn price c) l s * tolerance ≤
        sectorSum sector (amountIn price c) l top := by
    intro s hs hne
    obtain ⟨hwon,hdollars⟩ := hgreatest s hs hne
    rw [sectorSum_amounts,sectorSum_amounts]
    linarith [mul_le_mul_of_nonneg_left hwon hc.le]
  have htop := sectorSum_top_pos hl hpos hc (one_pos.trans one_lt_tolerance) hfactor
  have hnear := hl.near_sectorTotal A sector hc
  exact (hnear s).lt_of_mul_le (hnear top) htop (growth_lt (by rw [steps]; omega))
    (hfactor s hs hne)

omit htotal in
/-- A sector at the top in every unit has the greatest amounts in both parts. -/
theorem commonTop_of_const (halike : ∀ c, 0 < c →
    firstMax (sectorTotal A sector (valueIn A price c) l) (sectorsOf sector l) =
      firstMax (sectorTotal A sector (valueIn A price 1) l) (sectorsOf sector l)) :
    CommonTop tolerance⁻¹ sector price l := by
  have hne : sectorsOf sector l ≠ [] := by
    intro hnone
    have hsum := sum_sectorSum sector (amountIn price 1) l
    rw [hnone] at hsum
    exact hpos.ne hsum
  obtain ⟨top,htop⟩ : ∃ top, firstMax (sectorTotal A sector (valueIn A price 1) l)
      (sectorsOf sector l) = some top :=
    Option.ne_none_iff_exists'.mp (firstMax_eq_none.not.mpr hne)
  refine ⟨top,firstMax_mem htop,fun s hs _ => ?_⟩
  have hunit : ∀ c, 0 < c → sectorSum sector (amountIn price c) l s ≤
      tolerance * sectorSum sector (amountIn price c) l top := by
    intro c hc
    have hnear := hl.near_sectorTotal A sector hc
    have hle := (hnear s).le_of_le (hnear top) (le_firstMax ((halike c hc).trans htop) hs)
    have hgrowth := growth_lt (k := 3 + l.length + (3 + l.length)) (by rw [steps]; omega)
    exact hle.trans (mul_le_mul_of_nonneg_right hgrowth.le (hnear top).nonneg)
  have hparts := parts_of_units
    (a := sectorSum sector (amount price) (won l) s -
      tolerance * sectorSum sector (amount price) (won l) top)
    (b := tolerance * sectorSum sector (amount price) (dollars l) top -
      sectorSum sector (amount price) (dollars l) s) (fun c hc => by
    have h := hunit c hc
    rw [sectorSum_amounts,sectorSum_amounts] at h
    linarith)
  have hpositive : 0 < tolerance := one_pos.trans one_lt_tolerance
  constructor
  · rw [← div_eq_mul_inv,div_le_iff₀ hpositive]
    linarith [hparts.1]
  · rw [← div_eq_mul_inv,div_le_iff₀ hpositive]
    linarith [hparts.2]

end Computed

end MacroInvest.Risk
