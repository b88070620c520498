import MacroInvest.Broker.Schema
import MacroInvest.Library.Series

/-! # The crossover backtest

The engine is a pipeline over the whole history: rolling means, crosses of their comparison,
a position filled forward between the crosses, and the product of the daily returns earned on
the position of the bar before. The laws read it bar by bar and trade by trade.
-/
namespace MacroInvest.Quant
open Broker Series

def smaFast : ℕ := 5
def smaSlow : ℕ := 20

/-- The column of closes by row number. -/
def closeSeries (closes : List ℚ) (t : ℕ) : ℚ := closes.getD t 0

section Pipeline
variable (R : Rolling ℚ) (close : ℕ → ℚ) (initialCapital : ℚ)

def sma5 : ℕ → Option ℚ := R.series smaFast close
def sma20 : ℕ → Option ℚ := R.series smaSlow close

def bullish : ℕ → Bool := compareBy (fun a b => decide (b < a)) (sma5 R close) (sma20 R close)

def goldenCross : ℕ → Bool := risesAt (bullish R close)
def deadCross : ℕ → Bool := fallsAt (bullish R close)

/-- One while long, zero while flat. -/
def position : ℕ → ℚ :=
  fillna 0 (ffill (assign (deadCross R close) 0 (assign (goldenCross R close) 1 (fun _ => none))))

/-- The return of a bar on the position of the bar before. -/
def strategyReturn (t : ℕ) : ℚ := fillna 0 (pctChange close) t * shift 0 (position R close) t

def equity (t : ℕ) : ℚ := initialCapital * cumprod (fun i => 1 + strategyReturn R close i) t

def drawdown (t : ℕ) : ℚ :=
  let runningMax := cummax (equity R close initialCapital) t
  (equity R close initialCapital t - runningMax) / runningMax

end Pipeline

structure BacktestResult where
  ticker : String
  strategy : String
  bars : ℕ
  initialValue : ℚ
  finalValue : ℚ
  totalReturnPct : ℚ
  maxDrawdownPct : ℚ
  numTrades : ℕ
  equityCurve : List ℚ
  isDemo : Bool

inductive BacktestError where
  | noClosePrice (ticker : String)
  | tooFewRows (rows : ℕ)
  | zeroDivision

def BacktestError.message : BacktestError → String
  | .noClosePrice ticker => "no close_price data for " ++ ticker
  | .tooFewRows rows => "need ≥20 rows, got " ++ toString rows
  | .zeroDivision => "float division by zero"

def backtestResult (R : Rolling ℚ) (ticker : String) (closes : List ℚ) (initialCapital : ℚ) :
    BacktestResult :=
  let close := closeSeries closes
  let bars := List.range closes.length
  let finalValue := equity R close initialCapital (closes.length - 1)
  { ticker := ticker
    strategy := "sma_crossover_5_20"
    bars := closes.length
    initialValue := initialCapital
    finalValue := finalValue
    totalReturnPct := pyRound 3 ((finalValue / initialCapital - 1) * 100)
    maxDrawdownPct := pyRound 3 ((bars.map (drawdown R close initialCapital)).min?.getD 0 * 100)
    numTrades := bars.countP (goldenCross R close) + bars.countP (deadCross R close)
    equityCurve := bars.map (fun t => pyRound 4 (equity R close initialCapital t))
    isDemo := false }

/-- `BacktestEngine.run`; a frame without the column of closes is `none`. -/
def runBacktest (R : Rolling ℚ) (ticker : String) (priceDf : Option (List ℚ)) (initialCapital : ℚ) :
    Except BacktestError BacktestResult :=
  match priceDf with
  | none | some [] => .error (.noClosePrice ticker)
  | some closes =>
    if closes.length < smaSlow then .error (.tooFewRows closes.length)
    else if initialCapital = 0 then .error .zeroDivision
    else .ok (backtestResult R ticker closes initialCapital)

/-- Both means are defined at a bar, and the fast one is above the slow one. -/
def FastAbove (R : Rolling ℚ) (close : ℕ → ℚ) (t : ℕ) : Prop :=
  smaSlow ≤ t + 1 ∧ R.mean smaSlow close t < R.mean smaFast close t

instance (R : Rolling ℚ) (close : ℕ → ℚ) : DecidablePred (FastAbove R close) :=
  fun _ => inferInstanceAs (Decidable (_ ∧ _))

section Bars
variable {R : Rolling ℚ} {close close' : ℕ → ℚ} {t : ℕ}

theorem compare_means_iff (r : ℚ → ℚ → Bool) (t : ℕ) :
    compareBy r (sma5 R close) (sma20 R close) t = true ↔
      smaSlow ≤ t + 1 ∧ r (R.mean smaFast close t) (R.mean smaSlow close t) = true := by
  unfold compareBy sma5 sma20 Rolling.series
  by_cases hslow : smaSlow ≤ t + 1
  · have hfast : smaFast ≤ t + 1 := le_trans (by decide) hslow
    simp [hslow,hfast]
  · simp [hslow]

theorem bullish_iff : bullish R close t = true ↔ FastAbove R close t := by
  rw [bullish,compare_means_iff,decide_eq_true_iff]
  rfl

theorem not_fastAbove_zero : ¬FastAbove R close 0 := fun h => absurd h.1 (by decide)

/-- The position is held exactly while the fast mean is above the slow one. -/
theorem position_eq (R : Rolling ℚ) (close : ℕ → ℚ) (t : ℕ) :
    position R close t = if FastAbove R close t then 1 else 0 := by
  have hfilled := fill_crosses (K := ℚ) (bullish R close) t
  simp only [bullish_iff] at hfilled
  exact hfilled

/-- What one bar multiplies the equity by. -/
theorem growth_eq (R : Rolling ℚ) (close : ℕ → ℚ) (t : ℕ) : 1 + strategyReturn R close (t + 1) =
    if FastAbove R close t then close (t + 1) / close t else 1 := by
  have hreturn : strategyReturn R close (t + 1) =
      (close (t + 1) / close t - 1) * position R close t := rfl
  rw [hreturn,position_eq]
  by_cases hheld : FastAbove R close t
  · simp [hheld]
  · simp [hheld]

theorem equity_zero (R : Rolling ℚ) (close : ℕ → ℚ) (capital : ℚ) :
    equity R close capital 0 = capital := by
  simp [equity,cumprod,strategyReturn,shift]

theorem equity_succ (R : Rolling ℚ) (close : ℕ → ℚ) (capital : ℚ) (t : ℕ) :
    equity R close capital (t + 1) =
    equity R close capital t * if FastAbove R close t then close (t + 1) / close t else 1 := by
  rw [← growth_eq,equity,equity,cumprod,mul_assoc]

/-- The capital times the moves of the bars whose previous bar held the position. -/
theorem equity_eq (R : Rolling ℚ) (close : ℕ → ℚ) (capital : ℚ) (t : ℕ) :
    equity R close capital t = capital *
    ∏ i ∈ (Finset.range (t + 1)).filter (fun i => 0 < i ∧ FastAbove R close (i - 1)),
      close i / close (i - 1) := by
  rw [Finset.prod_filter]
  induction t with
  | zero => simp [equity_zero]
  | succ t ih =>
    rw [equity_succ,ih,Finset.prod_range_succ _ (t + 1),mul_assoc]
    congr 2
    simp

theorem agreeTo_compare (h : AgreeTo t close close') (r : ℚ → ℚ → Bool) :
    AgreeTo t (compareBy r (sma5 R close) (sma20 R close))
      (compareBy r (sma5 R close') (sma20 R close')) :=
  (R.agreeTo h smaFast).compareBy (R.agreeTo h smaSlow)

theorem agreeTo_position (h : AgreeTo t close close') :
    AgreeTo t (position R close) (position R close') := by
  intro i hi
  have hmeans := agreeTo_compare (R := R) h (fun a b => decide (b < a)) i hi
  rw [position_eq,position_eq]
  simp only [← bullish_iff,bullish,hmeans]

/-- No bar after `t` has a part in the equity at `t`. -/
theorem agreeTo_equity (h : AgreeTo t close close') (capital : ℚ) :
    AgreeTo t (equity R close capital) (equity R close' capital) := by
  have hreturn : AgreeTo t (strategyReturn R close) (strategyReturn R close') := by
    intro i hi
    have hmove := h.pctChange i hi
    have hheld := (agreeTo_position (R := R) h).shift 0 i hi
    rw [strategyReturn,strategyReturn,hheld,fillna,fillna,hmove]
  have hgrowth := (hreturn.pointwise (fun _ x => 1 + x)).cumprod
  exact hgrowth.pointwise (fun _ x => capital * x)

end Bars

theorem agreeTo_closeSeries {closes closes' : List ℚ} {t : ℕ}
    (h : closes.take (t + 1) = closes'.take (t + 1)) :
    AgreeTo t (closeSeries closes) (closeSeries closes') := by
  intro i hi
  have hget := congrArg (fun l => l[i]?) h
  simp only [List.getElem?_take,Nat.lt_succ_of_le hi,if_true] at hget
  simp only [closeSeries,List.getD_eq_getElem?_getD,hget]

structure Trade where
  entry : ℚ
  exit : ℚ

def Trade.growth (trade : Trade) : ℚ := trade.exit / trade.entry

/-- The completed trades, and the price at which the open one was entered. -/
structure TradeBook where
  completed : List Trade
  openedAt : Option ℚ

/-- A bar opens a trade at its close, completes one at its close, or does neither. -/
def TradeBook.bar (held : Bool) (price : ℚ) (b : TradeBook) : TradeBook :=
  match b.openedAt, held with
  | none, true => { b with openedAt := some price }
  | some entry, false => ⟨b.completed ++ [⟨entry,price⟩],none⟩
  | _, _ => b

/-- The trades of a trader who holds while the fast mean is above the slow one. -/
def bookAt (R : Rolling ℚ) (close : ℕ → ℚ) : ℕ → TradeBook
  | 0 => TradeBook.bar (FastAbove R close 0) (close 0) ⟨[],none⟩
  | t + 1 => (bookAt R close t).bar (FastAbove R close (t + 1)) (close (t + 1))

/-- The completed trades and the open one, valued at the close of the bar. -/
def tradesTo (R : Rolling ℚ) (close : ℕ → ℚ) (t : ℕ) : List Trade :=
  (bookAt R close t).completed ++
    ((bookAt R close t).openedAt.map (fun entry => ⟨entry,close t⟩)).toList

def TradeBook.growth (b : TradeBook) (price : ℚ) : ℚ :=
  (b.completed.map Trade.growth).prod * (b.openedAt.map (fun entry => price / entry)).getD 1

theorem tradesTo_growth (R : Rolling ℚ) (close : ℕ → ℚ) (t : ℕ) :
    ((tradesTo R close t).map Trade.growth).prod = (bookAt R close t).growth (close t) := by
  unfold tradesTo TradeBook.growth
  rw [List.map_append,List.prod_append]
  cases (bookAt R close t).openedAt with
  | none => simp
  | some entry => simp [Trade.growth]

theorem bar_openedAt (b : TradeBook) (held : Bool) (price : ℚ) :
    (b.bar held price).openedAt.isSome = held := by
  obtain ⟨completed,openedAt⟩ := b
  cases openedAt <;> cases held <;> rfl

theorem bookAt_openedAt (R : Rolling ℚ) (close : ℕ → ℚ) (t : ℕ) :
    (bookAt R close t).openedAt.isSome = true ↔ FastAbove R close t := by
  cases t with
  | zero => rw [bookAt,bar_openedAt,decide_eq_true_iff]
  | succ t => rw [bookAt,bar_openedAt,decide_eq_true_iff]

/-- A bar moves the growth of an open trade and of nothing else. -/
theorem bar_growth {b : TradeBook} {price price' : ℚ} (hprice : price ≠ 0) (hprice' : price' ≠ 0)
    (held : Bool) : (b.bar held price').growth price' =
      b.growth price * if b.openedAt.isSome then price' / price else 1 := by
  obtain ⟨completed,openedAt⟩ := b
  cases openedAt with
  | none => cases held <;> simp [TradeBook.bar,TradeBook.growth,hprice']
  | some entry =>
    have hmove : price / entry * (price' / price) = price' / entry := by
      rw [mul_comm,div_mul_div_cancel₀ hprice]
    cases held with
    | true => simp [TradeBook.bar,TradeBook.growth,mul_assoc,hmove]
    | false => simp [TradeBook.bar,TradeBook.growth,Trade.growth,mul_assoc,hmove]

/-- Bar by bar and trade by trade give the same equity. -/
theorem equity_trades (R : Rolling ℚ) {close : ℕ → ℚ} (capital : ℚ) {t : ℕ}
    (hclose : ∀ i ≤ t, close i ≠ 0) :
    equity R close capital t = capital * ((tradesTo R close t).map Trade.growth).prod := by
  rw [tradesTo_growth]
  induction t with
  | zero => simp [equity_zero,bookAt,TradeBook.bar,TradeBook.growth,not_fastAbove_zero]
  | succ t ih =>
    have hprev := ih (fun i hi => hclose i (by omega))
    have hgrowth := bar_growth (b := bookAt R close t) (hclose t (by omega))
      (hclose (t + 1) (le_refl _)) (FastAbove R close (t + 1))
    rw [equity_succ,hprev,bookAt,hgrowth,mul_assoc]
    simp only [bookAt_openedAt]

theorem runBacktest_of_rows (R : Rolling ℚ) {ticker : String} {closes : List ℚ} {capital : ℚ}
    (hbars : smaSlow ≤ closes.length) : runBacktest R ticker (some closes) capital =
      if capital = 0 then .error .zeroDivision else .ok (backtestResult R ticker closes capital) := by
  cases closes with
  | nil => exact absurd hbars (by decide)
  | cons c closes => simp only [runBacktest,if_neg (not_lt.mpr hbars)]

theorem rows_of_runBacktest {R : Rolling ℚ} {ticker : String} {closes : List ℚ} {capital : ℚ}
    {r : BacktestResult} (hrun : runBacktest R ticker (some closes) capital = .ok r) :
    smaSlow ≤ closes.length ∧ r = backtestResult R ticker closes capital := by
  cases closes with
  | nil => cases hrun
  | cons c closes =>
    simp only [runBacktest] at hrun
    split at hrun
    · cases hrun
    · rename_i hrows
      split at hrun
      · cases hrun
      · cases hrun
        exact ⟨not_lt.mp hrows,rfl⟩

/-- What the result reports of the pipeline. -/
structure ReportLaw (R : Rolling ℚ) (closes : List ℚ) (capital : ℚ) (r : BacktestResult) : Prop where
  curve : r.equityCurve = (List.range closes.length).map
    (fun t => pyRound 4 (equity R (closeSeries closes) capital t))
  finalValue : r.finalValue = equity R (closeSeries closes) capital (closes.length - 1)
  finalReturn : r.finalValue / r.initialValue =
    ((tradesTo R (closeSeries closes) (closes.length - 1)).map Trade.growth).prod
  reportedReturn : r.totalReturnPct = pyRound 3
    ((((tradesTo R (closeSeries closes) (closes.length - 1)).map Trade.growth).prod - 1) * 100)

/-- The pipeline read bar by bar and trade by trade, and the outcome of the run. -/
structure BacktestLaw (R : Rolling ℚ) (closes : List ℚ) (capital : ℚ)
    (outcome : Except BacktestError BacktestResult) : Prop where
  positions : ∀ t < closes.length,
    position R (closeSeries closes) t = if FastAbove R (closeSeries closes) t then 1 else 0
  equities : ∀ t < closes.length, equity R (closeSeries closes) capital t = capital *
    ∏ i ∈ (Finset.range (t + 1)).filter (fun i => 0 < i ∧ FastAbove R (closeSeries closes) (i - 1)),
      closeSeries closes i / closeSeries closes (i - 1)
  noLookAhead : ∀ closes' t, closes'.take (t + 1) = closes.take (t + 1) →
    ∀ i ≤ t, equity R (closeSeries closes') capital i = equity R (closeSeries closes) capital i
  finalEquity : equity R (closeSeries closes) capital (closes.length - 1) = capital *
    ((tradesTo R (closeSeries closes) (closes.length - 1)).map Trade.growth).prod
  report : capital ≠ 0 → ∃ r, outcome = .ok r ∧ ReportLaw R closes capital r
  noCapital : capital = 0 → outcome = .error .zeroDivision

/-- Every backtest of at least twenty positive closes keeps the law, however the rolling means are
computed. -/
theorem backtest_law (R : Rolling ℚ) (ticker : String) (closes : List ℚ) (capital : ℚ)
    (hbars : smaSlow ≤ closes.length) (hpos : ∀ c ∈ closes, 0 < c) :
    BacktestLaw R closes capital (runBacktest R ticker (some closes) capital) := by
  have hclose : ∀ i ≤ closes.length - 1, closeSeries closes i ≠ 0 := by
    intro i hi
    have hlt : i < closes.length := by
      have hslow : 0 < smaSlow := by decide
      omega
    rw [closeSeries,List.getD_eq_getElem _ _ hlt]
    exact (hpos _ (List.getElem_mem hlt)).ne'
  have htrades := equity_trades R capital hclose
  refine ⟨fun t _ => position_eq R _ t,fun t _ => equity_eq R _ capital t,?_,htrades,?_,?_⟩
  · intro closes' t htake
    exact agreeTo_equity (agreeTo_closeSeries htake) capital
  · intro hcapital
    have hfinal : equity R (closeSeries closes) capital (closes.length - 1) / capital =
        ((tradesTo R (closeSeries closes) (closes.length - 1)).map Trade.growth).prod := by
      rw [htrades,mul_div_cancel_left₀ _ hcapital]
    rw [runBacktest_of_rows R hbars,if_neg hcapital]
    refine ⟨_,rfl,rfl,rfl,hfinal,?_⟩
    rw [← hfinal]
    rfl
  · intro hcapital
    rw [runBacktest_of_rows R hbars,if_pos hcapital]

/-- Twenty flat bars, three rising ones and four falling. -/
def riseAndFall : List ℚ := List.replicate 20 100 ++ [110,120,130,90,80,80,80]

theorem backtest_law_riseAndFall :
    ((tradesTo .exact (closeSeries riseAndFall) 26).map (fun trade => (trade.entry,trade.exit)) =
      [(110,80)]) ∧
    BacktestLaw .exact riseAndFall 10000000 (runBacktest .exact "AAPL" (some riseAndFall) 10000000) :=
  ⟨by decide +kernel,backtest_law .exact "AAPL" riseAndFall 10000000 (by decide +kernel)
    (by decide +kernel)⟩

end MacroInvest.Quant
