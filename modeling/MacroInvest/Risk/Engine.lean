import MacroInvest.Library.Arithmetic
import MacroInvest.Library.Correlation

/-! # The risk engine

Value at risk, drawdown and volatility are computed for each ticker from its closes, and a
correlation matrix from a frame of all of them. The rows of the frame are numbered from the
oldest close of each ticker, and a row is used where no ticker misses its return.
-/
namespace MacroInvest.Risk
open Correlation Rounding

/-- A close that a change can be measured from. -/
abbrev Close := { c : ℚ // c ≠ 0 }

/-- Closes by ticker, oldest first. -/
structure PriceTable where
  series : List (String × List Close)
  distinct : (series.map Prod.fst).Nodup

section Returns

/-- The cell of a row, missing after the last close. -/
def cell (prices : List Close) (r : ℕ) : Option ℚ := prices[r]?.map Subtype.val

/-- `pct_change()`; a missing cell makes the changes on both of its sides missing. -/
def pctChange (cells : ℕ → Option ℚ) : ℕ → Option ℚ
  | 0 => none
  | r + 1 =>
    match cells r, cells (r + 1) with
    | some a, some b => some (b / a - 1)
    | _, _ => none

/-- `prices.pct_change().dropna()` -/
def dailyReturns (prices : List Close) : List ℚ :=
  (List.range prices.length).filterMap (pctChange (cell prices))

end Returns

section Ticker

def cummax : List ℚ → List ℚ
  | [] => []
  | x :: xs => xs.scanl max x

def computeMaxDrawdown : List Close → ℚ
  | [] => 0
  | [_] => 0
  | first :: second :: rest =>
    let cumulative := (first :: second :: rest).map (fun p => p.val / first.val)
    let rollingMax := cummax cumulative
    let drawdown := List.zipWith (fun c m => (c - m) / m) cumulative rollingMax
    drawdown.min?.getD 0

/-- `np.percentile(values, q)`, interpolated linearly. -/
def percentile (values : List ℚ) (q : ℚ) : ℚ :=
  let sorted := values.insertionSort (· ≤ ·)
  let position : ℚ := (values.length - 1) * (q / 100)
  let i := ⌊position⌋₊
  let below := sorted.getD i 0
  let above := sorted.getD (min (i + 1) (values.length - 1)) 0
  below + (above - below) * (position - i)

def computeVar95 (returns : List ℚ) : ℚ :=
  if returns.length < 20 then 0 else max 0 (-percentile returns 5 * 100)

/-- The standard deviation of a sample. -/
def std (returns : List ℚ) : Root where
  sq := squares returns / (returns.length - 1 : ℕ)
  nonneg := div_nonneg (squares_nonneg returns) (Nat.cast_nonneg _)

def computeAnnualizedVolatility (returns : List ℚ) : Root :=
  if returns.length < 2 then Root.ofRat 0
  else ((std returns).mul ⟨252,by norm_num⟩).mul (Root.ofRat 100)

structure TickerRisk where
  ticker : String
  var95Pct : ℚ
  maxDrawdownPct : ℚ
  volatilityAnnPct : Root
  dataBars : ℕ
  varNonneg : 0 ≤ var95Pct
  drawdownNonpos : maxDrawdownPct ≤ 0
  bars : 1 ≤ dataBars

theorem computeVar95_nonneg (returns : List ℚ) : 0 ≤ computeVar95 returns := by
  unfold computeVar95
  split
  · exact le_rfl
  · exact le_max_left _ _

theorem foldl_min_le (a : ℚ) (xs : List ℚ) : xs.foldl min a ≤ a := by
  induction xs generalizing a with
  | nil => exact le_rfl
  | cons x xs ih => exact (ih (min a x)).trans (min_le_left a x)

/-- The first bar is its own peak. -/
theorem computeMaxDrawdown_nonpos (prices : List Close) : computeMaxDrawdown prices ≤ 0 := by
  unfold computeMaxDrawdown
  split
  · exact le_rfl
  · exact le_rfl
  · rename_i first second rest
    simp only [List.map_cons,cummax,List.scanl_cons,List.zipWith_cons_cons,sub_self,zero_div,
      List.min?_cons']
    exact foldl_min_le 0 _

def computeTickerRisk (ticker : String) (prices : List Close) (hbars : 1 ≤ prices.length) :
    TickerRisk where
  ticker := ticker
  var95Pct := computeVar95 (dailyReturns prices)
  maxDrawdownPct := computeMaxDrawdown prices * 100
  volatilityAnnPct := computeAnnualizedVolatility (dailyReturns prices)
  dataBars := prices.length
  varNonneg := computeVar95_nonneg _
  drawdownNonpos := mul_nonpos_of_nonpos_of_nonneg (computeMaxDrawdown_nonpos prices) (by norm_num)
  bars := hbars

end Ticker

section Frame

/-- The rows of all columns together. -/
def height (frame : List (String × List Close)) : ℕ :=
  (frame.map (fun column => column.2.length)).max?.getD 0

/-- The rows without a missing return. -/
def keptRows (frame : List (String × List Close)) : List ℕ :=
  (List.range (height frame)).filter (fun r =>
    frame.all (fun column => (pctChange (cell column.2) r).isSome))

/-- The returns of two columns in the same rows. -/
def pairsOver (rows : List ℕ) (a b : List Close) : List (ℚ × ℚ) :=
  rows.filterMap (fun r =>
    (pctChange (cell a) r).bind (fun x => (pctChange (cell b) r).map (fun y => (x,y))))

def computeCorrelationMatrix (frame : List (String × List Close)) :
    List (String × List (String × ℚ)) :=
  if height frame < 2 ∨ frame.length < 2 then []
  else
    let rows := keptRows frame
    if rows.length < 2 then []
    else frame.map (fun col => (col.1,frame.filterMap (fun row =>
      (pearson (pairsOver rows row.2 col.2)).map (fun corr => (row.1,corr.round 4)))))

end Frame

section Summary
variable (A : Arithmetic)

/-- `totals[key] = totals.get(key, 0.0) + value` -/
def addAt (key : String) (value : ℚ) : List (String × ℚ) → List (String × ℚ)
  | [] => [(key,A.add 0 value)]
  | p :: totals =>
    if p.1 = key then (key,A.add p.2 value) :: totals else p :: addAt key value totals

def computeSectorConcentration (holdings : List (String × ℚ))
    (tickerGroups : List (String × String)) : List (String × ℚ) :=
  let total := A.sum ((holdings.map Prod.snd).filter (0 < ·))
  if total ≤ 0 then []
  else
    let sectorValue := holdings.foldl (fun totals p =>
      if p.2 ≤ 0 then totals else addAt A ((tickerGroups.lookup p.1).getD "OTHER") p.2 totals) []
    sectorValue.map (fun p => (p.1,A.round 4 (A.div p.2 total)))

structure RiskSummary where
  tickerRisks : List (String × TickerRisk)
  correlationMatrix : List (String × List (String × ℚ))
  sectorConcentration : List (String × ℚ)
  windowDays : ℕ

/-- The series long enough to contribute. -/
def contributing (prices : PriceTable) : List (String × List Close) :=
  prices.series.filter (fun p => 2 ≤ p.2.length)

def computeRiskSummary (pricesByTicker : PriceTable) (holdings : List (String × ℚ))
    (tickerGroups : List (String × String)) : RiskSummary :=
  let tickerRisks := pricesByTicker.series.filterMap (fun p =>
    if h : 2 ≤ p.2.length then
      some (p.1,computeTickerRisk p.1 p.2 (Nat.le_of_succ_le h))
    else none)
  { tickerRisks := tickerRisks
    correlationMatrix :=
      if 2 ≤ tickerRisks.length then computeCorrelationMatrix (contributing pricesByTicker) else []
    sectorConcentration := computeSectorConcentration A holdings tickerGroups
    windowDays := height pricesByTicker.series }

end Summary

end MacroInvest.Risk
