import MacroInvest.Risk.UnitShares
import MacroInvest.Synthesis.Baselines

/-! # Portfolio weights and the unit of one currency

The risk engine answers the sectors' shares of what is held, the allocation those of what it cost
and what follows from them. Both are those of the portfolio in any unit of won only where no won
position has a value or the won and the dollar positions are spread alike, up to what the roundings
make of it.
-/
namespace MacroInvest.Risk
open Broker Rounding Mixing FirstMax

/-! ## The two answers -/

section Fractions
variable {A : Arithmetic} {prices : Prices} {holdings : List Holding} {c : ℚ}

/-- The sector of a position in the risk engine. -/
def groupSector (h : Holding) : String := (Synthesis.tickerGroups.lookup h.ticker).getD "OTHER"

/-- The positions that count: with a quantity and a price. -/
def positions (prices : Prices) (holdings : List Holding) : List Holding :=
  holdings.filter (fun h => 0 < h.quantity ∧ 0 < h.mark prices)

theorem positions_long (prices : Prices) (holdings : List Holding) :
    Long (·.mark prices) (positions prices holdings) := by
  intro h hh
  have hpos := (List.mem_filter.mp hh).2
  rw [decide_eq_true_eq] at hpos
  exact ⟨hpos.1.le,hpos.2.le⟩

/-- A value is positive where the price is. -/
theorem valueIn_pos_iff (hc : 0 < c) {price : Holding → ℚ} {h : Holding} (hq : 0 < h.quantity) :
    0 < valueIn A price c h ↔ 0 < price h := by
  have hfactor := unitFactor_pos hc h.ticker
  constructor
  · intro hvalue
    by_contra! hnone
    have hread : A.fl (unitFactor c h.ticker * price h) ≤ 0 :=
      A.fl_nonpos (mul_nonpos_of_nonneg_of_nonpos hfactor.le hnone)
    have hnonpos : valueIn A price c h ≤ 0 :=
      A.fl_nonpos (mul_nonpos_of_nonneg_of_nonpos (A.fl_nonneg hq.le) hread)
    exact absurd hvalue hnonpos.not_gt
  · intro hp
    have hnear := near_valueIn (A := A) hc hq.le hp.le
    refine lt_of_le_of_ne hnear.nonneg_left (fun hzero => ?_)
    have hamount := hnear.eq_zero_iff.mp hzero.symm
    exact (mul_pos hfactor (mul_pos hq hp)).ne' hamount

/-- The fractions that the risk engine answers. -/
def fractions (A : Arithmetic) (prices : Prices) (holdings : List Holding) (c : ℚ) :
    List (String × ℚ) :=
  let l := positions prices holdings
  let total := A.sum (l.map (valueIn A (·.mark prices) c))
  if total ≤ 0 then []
  else (sectorsOf groupSector l).map (fun s =>
    (s,A.round 4 (A.div (sectorTotal A groupSector (valueIn A (·.mark prices) c) l s) total)))

/-- What is held in a unit of won, and what it is worth. -/
def quoted (A : Arithmetic) (prices : Prices) (holdings : List Holding) (c : ℚ) :
    List (String × ℚ) :=
  (holdings.filter (0 < ·.quantity)).map (fun h => (h.ticker,valueIn A (·.mark prices) c h))

theorem heldValues_requote (c : ℚ) :
    heldValues A (requotePrices c prices) (requoteHoldings c holdings) =
      quoted A prices holdings c := by
  have hvalue : ∀ h : Holding, marketValue A (requotePrices c prices)
      { h with avgCost := unitFactor c h.ticker * h.avgCost } = valueIn A (·.mark prices) c h := by
    intro h
    rw [marketValue,valueIn,Holding.mark,Holding.mark,requotePrices]
    cases prices h.ticker <;> rfl
  rw [heldValues,requoteHoldings,List.filter_map,List.map_map]
  exact List.map_congr_left (fun h _ => by rw [Function.comp_apply,hvalue])

/-- A position that is held counts where its value is positive, in every unit. -/
theorem filter_valueIn (hc : 0 < c) : (holdings.filter (0 < ·.quantity)).filter (fun h =>
    0 < valueIn A (·.mark prices) c h) = positions prices holdings := by
  rw [List.filter_filter,positions]
  refine List.filter_congr (fun h _ => ?_)
  by_cases hq : 0 < h.quantity
  · simp [hq,valueIn_pos_iff hc hq]
  · simp [hq]

theorem quoted_values (hc : 0 < c) : ((quoted A prices holdings c).map Prod.snd).filter (0 < ·) =
    (positions prices holdings).map (valueIn A (·.mark prices) c) := by
  rw [quoted,List.map_map,← filter_valueIn (A := A) hc]
  exact List.filter_map

theorem quoted_totals (hc : 0 < c) : (quoted A prices holdings c).foldl (fun totals p =>
    if p.2 ≤ 0 then totals
      else addAt A ((Synthesis.tickerGroups.lookup p.1).getD "OTHER") p.2 totals) [] =
      sectorTotals A groupSector (valueIn A (·.mark prices) c) (positions prices holdings) := by
  rw [quoted,sectorTotals,← filter_valueIn (A := A) hc,List.foldl_filter,List.foldl_map]
  refine List.foldl_ext _ _ _ (fun totals h _ => ?_)
  by_cases hp : valueIn A (·.mark prices) c h ≤ 0
  · simp [hp,not_lt.mpr hp]
  · simp [hp,not_le.mp hp,groupSector]

theorem computeSectorConcentration_eq (hc : 0 < c) :
    computeSectorConcentration A (heldValues A (requotePrices c prices) (requoteHoldings c holdings))
      Synthesis.tickerGroups = fractions A prices holdings c := by
  rw [heldValues_requote,computeSectorConcentration]
  dsimp only
  rw [quoted_values hc,quoted_totals hc,sectorTotals_eq,List.map_map]
  rfl

/-- Every sector is rounded alike in the two parts. -/
def FractionsSettled (A : Arithmetic) (g : ℚ) (prices : Prices) (holdings : List Holding) : Prop :=
  ∀ s ∈ sectorsOf groupSector (positions prices holdings),
    ShareSettled (A.round 4) g groupSector (·.mark prices) (positions prices holdings) s

theorem round_small (A : Arithmetic) : ∃ d > 0, A.round 4 d ≤ A.round 4 0 := by
  refine ⟨1 / 10 ^ 5,by norm_num,le_of_eq (congrArg A.fl ?_)⟩
  decide +kernel

theorem totalOf_pos {value : Holding → ℚ} {l : List Holding} (hne : l ≠ [])
    (h : ∀ p ∈ l, 0 < value p) : 0 < totalOf value l := by
  refine List.sum_pos _ (fun x hx => ?_) (by simpa using hne)
  obtain ⟨p,hp,rfl⟩ := List.mem_map.mp hx
  exact h p hp

theorem positions_amount_pos (hc : 0 < c) :
    ∀ h ∈ positions prices holdings, 0 < amountIn (·.mark prices) c h := by
  intro h hh
  have hpos := (List.mem_filter.mp hh).2
  rw [decide_eq_true_eq] at hpos
  exact mul_pos (unitFactor_pos hc h.ticker) (mul_pos hpos.1 hpos.2)

/-- Without a won value no position is computed otherwise in another unit. -/
theorem valueIn_of_noWonValue {price : Holding → ℚ} {l : List Holding} (hl : Long price l)
    (hno : NoWonValue price l) (hc : 0 < c) {h : Holding} (hh : h ∈ l) :
    valueIn A price c h = valueIn A price 1 h := by
  by_cases hwon : tickerCurrency h.ticker = .KRW
  · have hzero : h.quantity * price h = 0 :=
      eq_zero_of_totalOf hl.won_amounts hno (List.mem_filter.mpr ⟨hh,by simpa using hwon⟩)
    have hvalue : ∀ c, 0 < c → valueIn A price c h = 0 := by
      intro c hc
      rw [(near_valueIn hc (hl h hh).1 (hl h hh).2).eq_zero_iff,amountIn,hzero,mul_zero]
    rw [hvalue c hc,hvalue 1 one_pos]
  · rw [valueIn,valueIn,unitFactor,unitFactor,if_neg hwon,if_neg hwon]

theorem sectorTotal_congr {sector : Holding → String} {value value' : Holding → ℚ}
    {l : List Holding} (h : ∀ p ∈ l, value p = value' p) (s : String) :
    sectorTotal A sector value l s = sectorTotal A sector value' l s := by
  refine List.foldl_ext _ _ _ (fun t p hp => ?_)
  rw [h p (List.mem_of_mem_filter hp)]

variable (hfew : holdings.length ≤ 10 ^ 4)

theorem length_positions_le : (positions prices holdings).length ≤ holdings.length :=
  List.length_filter_le _ _

include hfew in
theorem near_positions_total (A : Arithmetic) (prices : Prices) (hc : 0 < c) :
    Near (10 * 10 ^ 4 + 4)
    (A.sum ((positions prices holdings).map (valueIn A (·.mark prices) c)))
    (totalOf (amountIn (·.mark prices) c) (positions prices holdings)) :=
  (near_sum_values (positions_long prices holdings) (length_positions_le.trans hfew) hc).mono
    (by norm_num)

include hfew in
/-- Where some position counts, the fractions are the rounded shares. -/
theorem fractions_eq (hne : positions prices holdings ≠ []) (hc : 0 < c) :
    fractions A prices holdings c =
      (sectorsOf groupSector (positions prices holdings)).map (fun s => (s,A.round 4
        (A.div (sectorTotal A groupSector (valueIn A (·.mark prices) c)
          (positions prices holdings) s)
          (A.sum ((positions prices holdings).map (valueIn A (·.mark prices) c)))))) := by
  have hnear := near_positions_total hfew A prices hc
  refine if_neg (not_le.mpr (lt_of_le_of_ne hnear.nonneg_left (fun hzero => ?_)))
  exact (totalOf_pos hne (positions_amount_pos hc)).ne' (hnear.eq_zero_iff.mp hzero.symm)

theorem fractions_of_noWonValue (hno : NoWonValue (·.mark prices) (positions prices holdings))
    (hc : 0 < c) : fractions A prices holdings c = fractions A prices holdings 1 := by
  have hvalue : ∀ h ∈ positions prices holdings,
      valueIn A (·.mark prices) c h = valueIn A (·.mark prices) 1 h :=
    fun h hh => valueIn_of_noWonValue (positions_long prices holdings) hno hc hh
  rw [fractions,fractions]
  simp only [List.map_congr_left hvalue,sectorTotal_congr hvalue]

include hfew in
theorem fractions_follow (A : Arithmetic) (hne : positions prices holdings ≠ []) (s : String) :
    Follows steps
      (fun c => A.div (sectorTotal A groupSector (valueIn A (·.mark prices) c)
        (positions prices holdings) s)
        (A.sum ((positions prices holdings).map (valueIn A (·.mark prices) c))))
      (fun m => mix m (wonShare groupSector (·.mark prices) (positions prices holdings) s)
        (dollarShare groupSector (·.mark prices) (positions prices holdings) s)) :=
  follows_share (A := A) (positions_long prices holdings) (length_positions_le.trans hfew)
    (fun _ hc => near_positions_total hfew A prices hc)
    (totalOf_pos hne (positions_amount_pos one_pos)) s

include hfew in
/-- Settled shares are answered alike in every unit. -/
theorem fractions_of_settled (hset : FractionsSettled A tolerance prices holdings) (hc : 0 < c) :
    fractions A prices holdings c = fractions A prices holdings 1 := by
  by_cases hnone : positions prices holdings = []
  · exact fractions_of_noWonValue (by rw [NoWonValue,hnone]; rfl) hc
  · rw [fractions_eq hfew hnone hc,fractions_eq hfew hnone one_pos]
    refine List.map_congr_left (fun s hs => Prod.ext rfl ?_)
    exact (fractions_follow hfew A hnone s).alike_of_settled (A.round_mono 4) (spans_mix _ _)
      growth_steps.le (hset s hs) hc one_pos

include hfew in
/-- What is answered alike in every unit is settled. -/
theorem fractions_settled (halike : ∀ c, 0 < c →
    fractions A prices holdings c = fractions A prices holdings 1) :
    FractionsSettled A tolerance⁻¹ prices holdings := by
  intro s hs
  have hnone : positions prices holdings ≠ [] := by
    rintro hnone
    rw [hnone] at hs
    cases hs
  obtain ⟨hwon,hdollar⟩ := wonShare_nonneg groupSector (positions_long prices holdings) s
  refine (fractions_follow hfew A hnone s).settled_of_alike (A.round_mono 4) (spans_mix _ _)
    (round_small A) (le_min hwon hdollar) growth_steps (fun c hc => ?_)
  have hsame := halike c hc
  rw [fractions_eq hfew hnone hc,fractions_eq hfew hnone one_pos,List.map_inj_left] at hsame
  exact (Prod.ext_iff.mp (hsame s hs)).2

end Fractions

section Allocation
variable {A : Arithmetic} {holdings : List Holding} {c : ℚ}

def Allocation.weights (a : Allocation) : List (String × ℚ) :=
  a.sectors.map (fun i => (i.sector,i.weightPct))

structure SameAllocation (a a' : Allocation) : Prop where
  weights : a'.weights.Perm a.weights
  topSector : a'.topSector = a.topSector
  hhi : a'.hhi = a.hhi
  concentrationWarning : a'.concentrationWarning = a.concentrationWarning

def costSector (h : Holding) : String := allocationSector h.ticker

/-- The cost of a sector in a unit of won. -/
def sectorCost (A : Arithmetic) (holdings : List Holding) (c : ℚ) : String → ℚ :=
  sectorTotal A costSector (valueIn A Holding.avgCost c) holdings

def totalCost (A : Arithmetic) (holdings : List Holding) (c : ℚ) : ℚ :=
  A.sum ((sectorsOf costSector holdings).map (sectorCost A holdings c))

/-- The weight of a share as shown. -/
def percent (A : Arithmetic) (w : ℚ) : ℚ := A.round 1 (A.mul w 100)

/-- The warning as a function of the top and of the shares. -/
def warningOf (A : Arithmetic) (top : Option String) (w : String → ℚ) : Option String :=
  top.bind (fun s => if 40 < percent A (w s) then some (warningText s (percent A (w s))) else none)

theorem warningOf_congr {top : Option String} {w w' : String → ℚ}
    (h : ∀ s, top = some s → percent A (w s) = percent A (w' s)) :
    warningOf A top w = warningOf A top w' := by
  cases top with
  | none => rfl
  | some s => rw [warningOf,warningOf,Option.bind_some,Option.bind_some,h s rfl]

/-- The sectors with their costs, as the holdings are read. -/
def costs (A : Arithmetic) (holdings : List Holding) (c : ℚ) : List (String × ℚ) :=
  (sectorsOf costSector holdings).map (fun s => (s,sectorCost A holdings c s))

theorem sectorValues_eq (c : ℚ) : (requoteHoldings c holdings).foldl (fun totals h =>
    addAt A (allocationSector h.ticker) (costValue A h) totals) [] = costs A holdings c := by
  rw [requoteHoldings,List.foldl_map]
  exact sectorTotals_eq holdings

theorem ranked_costs (A : Arithmetic) (holdings : List Holding) (c : ℚ) :
    (ranked (costs A holdings c)).Perm (costs A holdings c) ∧ (ranked (costs A holdings c)).head? =
      (firstMax (sectorCost A holdings c) (sectorsOf costSector holdings)).map
        (fun s => (s,sectorCost A holdings c s)) := by
  refine ⟨List.perm_insertionSort _ _,?_⟩
  rw [ranked,head_insertionSort,costs,firstMax_map]

theorem fetchAllocation_eq (htotal : totalCost A holdings c ≠ 0) :
    let order := ranked (costs A holdings c)
    let answer := fetchAllocation A (requoteHoldings c holdings)
    answer.weights = order.map (fun p => (p.1,weightPct A (totalCost A holdings c) p.2)) ∧
      answer.topSector = order.head?.map Prod.fst ∧
      answer.hhi = A.round 4 (order.foldl (fun hhi p =>
        let w := A.div p.2 (totalCost A holdings c)
        A.add hhi (A.mul w w)) 0) ∧
      answer.concentrationWarning =
        concentrationWarning A (totalCost A holdings c) order.head? := by
  intro order answer
  have hne : requoteHoldings c holdings ≠ [] := by
    intro hnone
    have hempty : holdings = [] := List.map_eq_nil_iff.mp hnone
    exact htotal (by rw [totalCost,hempty]; rfl)
  have hsum : A.sum ((costs A holdings c).map Prod.snd) = totalCost A holdings c := by
    rw [costs,List.map_map]
    rfl
  have hanswer : answer = fetchAllocation A (requoteHoldings c holdings) := rfl
  rw [fetchAllocation,if_neg hne] at hanswer
  dsimp only at hanswer
  rw [sectorValues_eq,hsum,if_neg htotal] at hanswer
  rw [hanswer,Allocation.weights]
  exact ⟨List.map_map,rfl,rfl,rfl⟩

/-- What the endpoint answers where the holdings have a value, by the shares of the sectors. -/
theorem fetchAllocation_spec (htotal : totalCost A holdings c ≠ 0) :
    let sectors := sectorsOf costSector holdings
    let w := fun s => A.div (sectorCost A holdings c s) (totalCost A holdings c)
    let answer := fetchAllocation A (requoteHoldings c holdings)
    answer.weights.Perm (sectors.map (fun s => (s,percent A (w s)))) ∧
      answer.topSector = firstMax (sectorCost A holdings c) sectors ∧
      (∃ order : List String,order.Perm sectors ∧ answer.hhi = A.round 4
        (order.foldl (fun hhi s => A.add hhi (A.mul (w s) (w s))) 0)) ∧
      answer.concentrationWarning = warningOf A (firstMax (sectorCost A holdings c) sectors) w := by
  intro sectors w answer
  obtain ⟨hperm,hhead⟩ := ranked_costs A holdings c
  obtain ⟨hweights,htop,hhhi,hwarning⟩ := fetchAllocation_eq htotal
  refine ⟨?_,?_,⟨(ranked (costs A holdings c)).map Prod.fst,?_,?_⟩,?_⟩
  · rw [hweights]
    have hmapped := hperm.map (fun p => (p.1,weightPct A (totalCost A holdings c) p.2))
    rwa [costs,List.map_map] at hmapped
  · rw [htop,hhead,Option.map_map]
    exact Option.map_id'
  · have hmapped := hperm.map Prod.fst
    rw [costs,List.map_map] at hmapped
    exact hmapped.trans (List.Perm.of_eq (List.map_id' sectors))
  · rw [hhhi,List.foldl_map]
    refine congrArg (A.round 4) (List.foldl_ext _ _ _ (fun t p hp => ?_))
    obtain ⟨s,-,rfl⟩ := List.mem_map.mp (hperm.subset hp)
    rfl
  · rw [hwarning,hhead,concentrationWarning,warningOf]
    cases firstMax (sectorCost A holdings c) sectors with
    | none => rfl
    | some s => rfl

/-- The weights, the top and the concentration are the same in the two parts. -/
structure AllocationSettled (A : Arithmetic) (g : ℚ) (holdings : List Holding) : Prop where
  weights : ∀ s ∈ sectorsOf costSector holdings,
    ShareSettled (percent A) g costSector Holding.avgCost holdings s
  top : CommonTop g costSector Holding.avgCost holdings
  hhi : SquaresSettled (A.round 4) g costSector Holding.avgCost holdings

theorem percent_mono (A : Arithmetic) : Monotone (percent A) := by
  intro x y h
  apply A.round_mono
  apply A.mono
  linarith

theorem percent_small (A : Arithmetic) : ∃ d > 0, percent A d ≤ percent A 0 := by
  refine ⟨1 / 2 ^ 20,by norm_num,?_⟩
  have hnear := A.near_fl (show (0 : ℚ) ≤ 1 / 2 ^ 20 * 100 by norm_num)
  have hle : A.mul (1 / 2 ^ 20) 100 ≤ 1 / 100 := by
    refine hnear.le.trans ?_
    norm_num [growth,slack]
  calc percent A (1 / 2 ^ 20) ≤ A.round 1 (1 / 100) := A.round_mono 1 hle
    _ = percent A 0 := by
      rw [percent,Arithmetic.mul,zero_mul,A.fl_zero]
      refine congrArg A.fl ?_
      decide +kernel

/-- Lists of sectors with their values are the same up to order where the values are. -/
theorem perm_graph_iff {l : List String} {f g : String → ℚ} :
    (l.map (fun s => (s,f s))).Perm (l.map (fun s => (s,g s))) ↔ ∀ s ∈ l, f s = g s := by
  constructor
  · intro h s hs
    have hmem := h.subset (List.mem_map_of_mem hs)
    obtain ⟨t,-,heq⟩ := List.mem_map.mp hmem
    obtain ⟨rfl,hvalue⟩ := Prod.ext_iff.mp heq
    exact hvalue.symm
  · intro h
    rw [List.map_congr_left (fun s hs => by rw [h s hs])]

theorem requoteHoldings_one (holdings : List Holding) : requoteHoldings 1 holdings = holdings := by
  refine (List.map_congr_left (fun h _ => ?_)).trans (List.map_id holdings)
  rw [unitFactor_one,one_mul]
  rfl

theorem allocation_of_noWonValue (hlong : Long Holding.avgCost holdings)
    (hno : NoWonValue Holding.avgCost holdings) (hc : 0 < c) :
    SameAllocation (fetchAllocation A holdings)
      (fetchAllocation A (requoteHoldings c holdings)) := by
  have hcost : sectorCost A holdings c = sectorCost A holdings 1 :=
    funext (sectorTotal_congr (fun h hh => valueIn_of_noWonValue hlong hno hc hh))
  have hcosts : costs A holdings c = costs A holdings 1 := by rw [costs,hcost,costs]
  have hempty : ∀ c, requoteHoldings c holdings = [] ↔ holdings = [] :=
    fun _ => List.map_eq_nil_iff
  have hweights : (fetchAllocation A (requoteHoldings c holdings)).weights =
      (fetchAllocation A (requoteHoldings 1 holdings)).weights := by
    rw [fetchAllocation,fetchAllocation]
    dsimp only
    rw [sectorValues_eq,sectorValues_eq,hcosts]
    simp only [hempty]
    split
    · rfl
    · split
      · rfl
      · simp only [Allocation.weights,List.map_map]
        rfl
  have hrest : (fetchAllocation A (requoteHoldings c holdings)).topSector =
        (fetchAllocation A (requoteHoldings 1 holdings)).topSector ∧
      (fetchAllocation A (requoteHoldings c holdings)).hhi =
        (fetchAllocation A (requoteHoldings 1 holdings)).hhi ∧
      (fetchAllocation A (requoteHoldings c holdings)).concentrationWarning =
        (fetchAllocation A (requoteHoldings 1 holdings)).concentrationWarning := by
    rw [fetchAllocation,fetchAllocation]
    dsimp only
    rw [sectorValues_eq,sectorValues_eq,hcosts]
    simp only [hempty]
    split
    · exact ⟨rfl,rfl,rfl⟩
    · split
      · exact ⟨rfl,rfl,rfl⟩
      · exact ⟨rfl,rfl,rfl⟩
  rw [requoteHoldings_one] at hweights hrest
  exact ⟨hweights ▸ List.Perm.refl _,hrest.1,hrest.2.1,hrest.2.2⟩

section Valued
variable (hlong : Long Holding.avgCost holdings) (hfew : holdings.length ≤ 10 ^ 4)
  (hpos : 0 < totalOf (amountIn Holding.avgCost 1) holdings)
include hlong hfew

theorem near_totalCost (hc : 0 < c) : Near (10 * 10 ^ 4 + 4) (totalCost A holdings c)
    (totalOf (amountIn Holding.avgCost c) holdings) := near_sum_totals hlong hfew hc

include hpos

theorem totalCost_ne_zero (hc : 0 < c) : totalCost A holdings c ≠ 0 := by
  intro hzero
  exact (total_pos hlong hpos hc).ne' ((near_totalCost hlong hfew hc).eq_zero_iff.mp hzero)

theorem costs_follow (A : Arithmetic) (s : String) : Follows steps
    (fun c => A.div (sectorCost A holdings c s) (totalCost A holdings c))
    (fun m => mix m (wonShare costSector Holding.avgCost holdings s)
      (dollarShare costSector Holding.avgCost holdings s)) :=
  follows_share hlong hfew (fun _ hc => near_totalCost hlong hfew hc) hpos s

theorem squares_follow (A : Arithmetic) (order : ℚ → List String)
    (horder : ∀ c, 0 < c → (order c).Perm (sectorsOf costSector holdings)) : Follows steps
    (fun c => (order c).foldl (fun hhi s =>
      A.add hhi (A.mul (A.div (sectorCost A holdings c s) (totalCost A holdings c))
        (A.div (sectorCost A holdings c s) (totalCost A holdings c)))) 0)
    (fun m => mixSquares m
      (squareSum (sectorsOf costSector holdings) (wonShare costSector Holding.avgCost holdings))
      (squareSum (sectorsOf costSector holdings) (dollarShare costSector Holding.avgCost holdings))
      (squareGap costSector Holding.avgCost holdings)) :=
  follows_squares hlong hfew (fun _ hc => near_totalCost hlong hfew hc) hpos horder

/-- The squares of two units are rounded alike, in whatever orders they are added. -/
theorem squares_alike
    (hset : SquaresSettled (A.round 4) tolerance costSector Holding.avgCost holdings)
    (hc : 0 < c) (hone : c ≠ 1) {order order' : List String}
    (horder : order.Perm (sectorsOf costSector holdings))
    (horder' : order'.Perm (sectorsOf costSector holdings)) :
    A.round 4 (order'.foldl (fun hhi s =>
        A.add hhi (A.mul (A.div (sectorCost A holdings c s) (totalCost A holdings c))
          (A.div (sectorCost A holdings c s) (totalCost A holdings c)))) 0) =
      A.round 4 (order.foldl (fun hhi s =>
        A.add hhi (A.mul (A.div (sectorCost A holdings 1 s) (totalCost A holdings 1))
          (A.div (sectorCost A holdings 1 s) (totalCost A holdings 1)))) 0) := by
  have hfollows := squares_follow hlong hfew hpos A
    (fun c' => if c' = 1 then order else order') (fun c' _ => by
      split
      · exact horder
      · exact horder')
  have halike := hfollows.alike_of_settled (A.round_mono 4)
    (spans_mixSquares (squareSum_nonneg _ _)) growth_steps.le hset hc one_pos
  rwa [if_neg hone,if_pos rfl] at halike

theorem weights_alike {s : String}
    (hset : ShareSettled (percent A) tolerance costSector Holding.avgCost holdings s) (hc : 0 < c) :
    percent A (A.div (sectorCost A holdings c s) (totalCost A holdings c)) =
      percent A (A.div (sectorCost A holdings 1 s) (totalCost A holdings 1)) :=
  (costs_follow hlong hfew hpos A s).alike_of_settled (percent_mono A) (spans_mix _ _)
    growth_steps.le hset hc one_pos

/-- Settled costs are answered alike in every unit. -/
theorem allocation_of_settled (hset : AllocationSettled A tolerance holdings) (hc : 0 < c) :
    SameAllocation (fetchAllocation A holdings)
      (fetchAllocation A (requoteHoldings c holdings)) := by
  have hspec := fun c hc => fetchAllocation_spec (totalCost_ne_zero (A := A) (c := c) hlong hfew
    hpos hc)
  obtain ⟨hweights,htop,⟨order,horder,hhhi⟩,hwarning⟩ := hspec 1 one_pos
  obtain ⟨hweights',htop',⟨order',horder',hhhi'⟩,hwarning'⟩ := hspec c hc
  rw [requoteHoldings_one] at hweights htop hhhi hwarning
  have hshare : ∀ s ∈ sectorsOf costSector holdings,
      percent A (A.div (sectorCost A holdings c s) (totalCost A holdings c)) =
        percent A (A.div (sectorCost A holdings 1 s) (totalCost A holdings 1)) := fun s hs =>
    weights_alike hlong hfew hpos (hset.weights s hs) hc
  obtain ⟨top,hmax⟩ := firstMax_of_commonTop (A := A) hlong hfew hpos hset.top
  have hsame : firstMax (sectorCost A holdings c) (sectorsOf costSector holdings) =
      firstMax (sectorCost A holdings 1) (sectorsOf costSector holdings) :=
    (hmax c hc).trans (hmax 1 one_pos).symm
  constructor
  · exact hweights'.trans ((perm_graph_iff.mpr hshare).trans hweights.symm)
  · rw [htop,htop',hsame]
  · by_cases hone : c = 1
    · rw [hone,requoteHoldings_one]
    · rw [hhhi,hhhi']
      exact squares_alike hlong hfew hpos hset.hhi hc hone horder horder'
  · rw [hwarning,hwarning',hsame]
    exact warningOf_congr (fun s hs => hshare s (firstMax_mem hs))

/-- What is answered alike in every unit is settled. -/
theorem allocation_settled (halike : ∀ c, 0 < c → SameAllocation (fetchAllocation A holdings)
    (fetchAllocation A (requoteHoldings c holdings))) :
    AllocationSettled A tolerance⁻¹ holdings := by
  have hspec := fun c hc => fetchAllocation_spec (totalCost_ne_zero (A := A) (c := c) hlong hfew
    hpos hc)
  obtain ⟨hweights,htop,-,-⟩ := hspec 1 one_pos
  rw [requoteHoldings_one] at hweights htop
  constructor
  · intro s hs
    obtain ⟨hwon,hdollar⟩ := wonShare_nonneg costSector hlong s
    refine (costs_follow hlong hfew hpos A s).settled_of_alike (percent_mono A) (spans_mix _ _)
      (percent_small A) (le_min hwon hdollar) growth_steps (fun c hc => ?_)
    obtain ⟨hweights',-⟩ := hspec c hc
    exact perm_graph_iff.mp (hweights'.symm.trans ((halike c hc).weights.trans hweights)) s hs
  · refine commonTop_of_const (A := A) hlong hfew hpos (fun c hc => ?_)
    obtain ⟨-,htop',-⟩ := hspec c hc
    exact htop'.symm.trans ((halike c hc).topSector.trans htop)
  · choose! orderOf horderOf using fun c hc => (hspec c hc).2.2.1
    refine (squares_follow hlong hfew hpos A _ (fun c hc => (horderOf c hc).1)).settled_of_alike
      (A.round_mono 4) (spans_mixSquares (squareSum_nonneg _ _)) (round_small A) ?_ growth_steps
      (fun c hc => ?_)
    · exact lowSquares_nonneg costSector Holding.avgCost holdings
    · have hsame := (halike c hc).hhi
      have hone := (horderOf 1 one_pos).2
      rw [requoteHoldings_one] at hone
      rw [(horderOf c hc).2,hone] at hsame
      exact hsame

end Valued

end Allocation

/-! ## The law -/

/-- Neither answer depends on the unit in which won are quoted. -/
def UnitFree (A : Arithmetic) (prices : Prices) (holdings : List Holding) : Prop :=
  ∀ c, 0 < c →
    computeSectorConcentration A
        (heldValues A (requotePrices c prices) (requoteHoldings c holdings))
        Synthesis.tickerGroups =
      computeSectorConcentration A (heldValues A prices holdings) Synthesis.tickerGroups ∧
    SameAllocation (fetchAllocation A holdings) (fetchAllocation A (requoteHoldings c holdings))

/-- In each of the two answers no won position has a value, or the won and the dollar positions
are spread alike, up to a factor that pays for the roundings. -/
structure UnitSettled (A : Arithmetic) (g : ℚ) (prices : Prices) (holdings : List Holding) :
    Prop where
  fractions : NoWonValue (·.mark prices) (positions prices holdings) ∨
    holdings.length ≤ 10 ^ 4 ∧ FractionsSettled A g prices holdings
  allocation : NoWonValue Holding.avgCost holdings ∨
    holdings.length ≤ 10 ^ 4 ∧ AllocationSettled A g holdings

theorem noWonValue_of_total {holdings : List Holding} (hlong : Long Holding.avgCost holdings)
    (h : ¬0 < totalOf (amountIn Holding.avgCost 1) holdings) :
    NoWonValue Holding.avgCost holdings := by
  rw [sum_amounts,not_lt] at h
  have hwon := hlong.won_nonneg
  have hdollars := hlong.dollars_nonneg
  exact le_antisymm (by linarith) hwon

theorem requotePrices_one (prices : Prices) : requotePrices 1 prices = prices := by
  funext ticker
  rw [requotePrices]
  simp only [unitFactor_one,one_mul]
  exact Option.map_id'

/-- Multiplying all won prices and costs changes neither the fractions of the risk engine nor the
allocation where each adds amounts of one currency, or of two that are spread alike when their
shares are moved apart by the tolerance, and only where they are so when these are moved
together by it. -/
theorem currencyUnit_law (A : Arithmetic) (prices : Prices) (holdings : List Holding)
    (hlong : Long Holding.avgCost holdings) :
    (UnitSettled A tolerance prices holdings → UnitFree A prices holdings) ∧
    (holdings.length ≤ 10 ^ 4 → UnitFree A prices holdings →
      UnitSettled A tolerance⁻¹ prices holdings) := by
  have hnow : computeSectorConcentration A (heldValues A prices holdings) Synthesis.tickerGroups =
      fractions A prices holdings 1 := by
    rw [← computeSectorConcentration_eq one_pos,requotePrices_one,requoteHoldings_one]
  constructor
  · rintro ⟨hfractions,hallocation⟩ c hc
    rw [computeSectorConcentration_eq hc,hnow]
    constructor
    · rcases hfractions with hno | ⟨hfew,hset⟩
      · exact fractions_of_noWonValue hno hc
      · exact fractions_of_settled hfew hset hc
    · rcases hallocation with hno | ⟨hfew,hset⟩
      · exact allocation_of_noWonValue hlong hno hc
      · by_cases hpos : 0 < totalOf (amountIn Holding.avgCost 1) holdings
        · exact allocation_of_settled hlong hfew hpos hset hc
        · exact allocation_of_noWonValue hlong (noWonValue_of_total hlong hpos) hc
  · intro hfew hfree
    constructor
    · refine .inr ⟨hfew,fractions_settled hfew (fun c hc => ?_)⟩
      rw [← computeSectorConcentration_eq hc,(hfree c hc).1,hnow]
    · by_cases hpos : 0 < totalOf (amountIn Holding.avgCost 1) holdings
      · exact .inr ⟨hfew,allocation_settled hlong hfew hpos (fun c hc => (hfree c hc).2)⟩
      · exact .inl (noWonValue_of_total hlong hpos)

/-- A won and a dollar position that no group and no sector is given for. -/
def untracked : List Holding := [⟨"035720",10,40000,.KRW⟩,⟨"NVDA",5,120,.USD⟩]

/-- All in one sector, they are answered alike in thousands of won. -/
theorem currencyUnit_law_untracked :
    computeSectorConcentration .double
        (heldValues .double (requotePrices 0.001 (fun _ => none)) (requoteHoldings 0.001 untracked))
        Synthesis.tickerGroups =
      computeSectorConcentration .double (heldValues .double (fun _ => none) untracked)
        Synthesis.tickerGroups ∧
    SameAllocation (fetchAllocation .double untracked)
      (fetchAllocation .double (requoteHoldings 0.001 untracked)) := by
  have hlong : Long Holding.avgCost untracked := by
    unfold Long
    decide +kernel
  refine (currencyUnit_law .double (fun _ => none) untracked hlong).1 ⟨.inr ⟨by decide,?_⟩,
    .inr ⟨by decide,?_⟩⟩ 0.001 (by norm_num)
  · unfold FractionsSettled ShareSettled Settled
    decide +kernel
  · constructor
    · unfold ShareSettled Settled
      decide +kernel
    · unfold CommonTop
      decide +kernel
    · unfold SquaresSettled Settled
      decide +kernel

/-- A tracked won and a tracked dollar position. -/
def twoCurrencies : List Holding := [⟨"005930",10,70000,.KRW⟩,⟨"AAPL",5,180,.USD⟩]

/-- Quoted in thousands of won the Korean sector has less than half of the portfolio. -/
theorem won_in_thousands : ¬∀ (prices : Prices) (holdings : List Holding),
    Long Holding.avgCost holdings → UnitFree .double prices holdings := by
  intro h
  have hlong : Long Holding.avgCost twoCurrencies := by
    unfold Long
    decide +kernel
  have hsame := (h (fun _ => none) twoCurrencies hlong 0.001 (by norm_num)).1
  have hwon : computeSectorConcentration .double (heldValues .double (fun _ => none) twoCurrencies)
      Synthesis.tickerGroups = [("KR_TECH",Arithmetic.double.fl 0.9987),
        ("TECH",Arithmetic.double.fl 0.0013)] := by
    decide +kernel
  have hthousands : computeSectorConcentration .double (heldValues .double
      (requotePrices 0.001 (fun _ => none)) (requoteHoldings 0.001 twoCurrencies))
        Synthesis.tickerGroups = [("KR_TECH",0.4375),("TECH",0.5625)] := by
    decide +kernel
  rw [hwon,hthousands] at hsame
  exact absurd hsame (by decide +kernel)

end MacroInvest.Risk
