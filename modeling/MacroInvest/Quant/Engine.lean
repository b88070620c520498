import MacroInvest.Library.Root
import MacroInvest.Quant.Backtest

/-! # The engine of the live signals

The engine looks at the last two pairs of moving averages for the crosses, at the spread of
the last pair for the momentum, and at two windows of closes for the volatility. The averages are
those of the library that computes them; standard deviations are kept as roots.
-/
namespace MacroInvest.Quant
open Broker Series

inductive MarketStatus where
  | STABLE
  | WATCH
  deriving DecidableEq

structure QuantResult where
  ticker : String
  momentumScore : ℚ
  volatility : Root
  volRatio : Root
  status : MarketStatus
  sma5Last : ℚ
  sma20Last : ℚ
  crossoverBull : Bool
  goldenCross : Bool
  deadCross : Bool
  volSpike : Bool
  volSpikePenalty : ℚ
  deriving DecidableEq

/-- What the branch for a kind of ticker decides: spike, penalty and threshold. -/
structure SpikeRule where
  volSpike : Bool
  penalty : ℚ
  effectiveThreshold : Root

def etfTickers : List String := ["QQQ","BND","GLD"]
def recentVolWindow : ℕ := 5
def atrWindow : ℕ := 14
def normFactor : ℚ := 5

/-- `np.clip(x, 0.0, 1.0)` -/
def clip (x : ℚ) : ℚ := min (max x 0) 1

/-- `l[-n:]` -/
def tail (n : ℕ) (l : List ℚ) : List ℚ := l.drop (l.length - n)

def mean (l : List ℚ) : ℚ := l.sum / l.length

def variance (l : List ℚ) : ℚ := (l.map (fun x => (x - mean l) ^ 2)).sum / (l.length - 1 : ℕ)

theorem variance_nonneg (l : List ℚ) : 0 ≤ variance l := by
  refine div_nonneg (List.sum_nonneg ?_) (Nat.cast_nonneg _)
  intro x hx
  obtain ⟨y,_,rfl⟩ := List.mem_map.mp hx
  exact sq_nonneg _

/-- The standard deviation of a sample. -/
def std (l : List ℚ) : Root := ⟨variance l,variance_nonneg l⟩

/-- The absolute moves from close to close. -/
def absReturns (closes : List ℚ) : List ℚ :=
  List.zipWith (fun prev next => |next / prev - 1|) closes closes.tail

/-- `rolling(window=14, min_periods=2).mean()` -/
def atrSeries (returns : List ℚ) : List (Option ℚ) :=
  (List.range returns.length).map (fun t =>
    if t = 0 then none else some (mean (tail atrWindow (returns.take (t + 1)))))

/-- A mean leaves the missing values out. -/
def meanOfPresent (l : List (Option ℚ)) : ℚ := mean (l.filterMap id)

def meanOfLast (n : ℕ) (l : List (Option ℚ)) : ℚ := meanOfPresent (l.drop (l.length - n))

/-- Spikes of an ETF are those of its average range. -/
def etfRule (closes : List ℚ) : SpikeRule :=
  let atr := atrSeries (absReturns closes)
  let baselineAtr := if atrWindow ≤ atr.length then meanOfLast atrWindow atr else meanOfPresent atr
  let recentAtr := if recentVolWindow ≤ atr.length then meanOfLast recentVolWindow atr
    else baselineAtr
  let volSpike := decide (1.3 * max baselineAtr 1e-10 < recentAtr)
  ⟨volSpike,if volSpike then 0.1 else 0,.ofRat 0.025⟩

/-- Spikes of a stock are those of its standard deviation. -/
def stockRule (closes : List ℚ) (volatility : Root) : SpikeRule :=
  let recentTail := tail recentVolWindow closes
  let recentVol := if 2 ≤ recentTail.length then std recentTail else volatility
  let volSpike := ((Root.ofRat 1.5).mul (volatility.max (.ofRat 1e-10))).lt recentVol
  ⟨volSpike,if volSpike then 0.15 else 0,.ofRat 0.05⟩

def spikeRule (ticker : String) (closes : List ℚ) (volatility : Root) : SpikeRule :=
  if ticker ∈ etfTickers then etfRule closes else stockRule closes volatility

section Crosses
variable (R : Rolling ℚ) (close : ℕ → ℚ) (last : ℕ)

/-- The fast mean is above the slow one at the last bar and not at the bar before. -/
def lastGolden : Bool :=
  compareBy (fun a b => decide (b < a)) (sma5 R close) (sma20 R close) last &&
    compareBy (fun a b => decide (a ≤ b)) (sma5 R close) (sma20 R close) (last - 1)

def lastDead : Bool :=
  compareBy (fun a b => decide (a < b)) (sma5 R close) (sma20 R close) last &&
    compareBy (fun a b => decide (b ≤ a)) (sma5 R close) (sma20 R close) (last - 1)

end Crosses

/-- `_compute` on a frame of at least twenty closes. -/
def compute (R : Rolling ℚ) (ticker : String) (closes : List ℚ) : QuantResult :=
  let close := closeSeries closes
  let last := closes.length - 1
  let lastSma5 := (sma5 R close last).getD 0
  let lastSma20 := (sma20 R close last).getD 0
  let spreadRatio := (lastSma5 - lastSma20) / max |lastSma20| 1e-8
  let rawMomentum := clip (0.5 + spreadRatio * normFactor)
  let tail20 := tail smaSlow closes
  let volatility := std tail20
  let volRatio := volatility.div (.ofRat (max (mean tail20) 1e-8))
  let rule := spikeRule ticker closes volatility
  { ticker := ticker
    momentumScore := clip (rawMomentum - rule.penalty)
    volatility := volatility
    volRatio := volRatio
    status := if rule.effectiveThreshold.lt volRatio || rule.volSpike then .WATCH else .STABLE
    sma5Last := lastSma5
    sma20Last := lastSma20
    crossoverBull := decide (lastSma20 < lastSma5)
    goldenCross := lastGolden R close last
    deadCross := lastDead R close last
    volSpike := rule.volSpike
    volSpikePenalty := rule.penalty }

def neutral (ticker : String) : QuantResult :=
  ⟨ticker,0.5,.ofRat 0,.ofRat 0,.STABLE,0,0,false,false,false,false,0⟩

/-- `analyze`: neutral where `_compute` raises, on a frame too short or without closes. -/
def analyze (R : Rolling ℚ) (ticker : String) (priceDf : Option (List ℚ)) : QuantResult :=
  match priceDf with
  | none => neutral ticker
  | some closes => if closes.length < smaSlow then neutral ticker else compute R ticker closes

def rsiPeriod : ℕ := 14

/-- `_compute_rsi`: a plain mean over the first period, then Wilder's smoothing. -/
def computeRsi (close : List ℚ) : ℚ :=
  if close.length < rsiPeriod + 1 then 50
  else
    let delta := List.zipWith (fun prev next => next - prev) close close.tail
    let gains := delta.map (fun d => max d 0)
    let losses := delta.map (fun d => max (-d) 0)
    let smooth := fun avg x : ℚ => (avg * (rsiPeriod - 1 : ℕ) + x) / rsiPeriod
    let avgGain := (gains.drop rsiPeriod).foldl smooth (mean (gains.take rsiPeriod))
    let avgLoss := (losses.drop rsiPeriod).foldl smooth (mean (losses.take rsiPeriod))
    if avgLoss < 1e-10 then 100
    else
      let rs := avgGain / avgLoss
      100 - 100 / (1 + rs)

/-- The columns of a risk matrix row that come from the quant engine. -/
structure QuantColumns where
  momentum : MarketStatus
  quantScore : ℚ
  volSpike : Bool
  deriving DecidableEq

/-- `build_intelligence_row`, as far as it reads the quant engine. -/
def quantColumns (quant : QuantResult) : QuantColumns :=
  let crossoverEvent := quant.goldenCross || quant.deadCross
  { momentum := if quant.status = .WATCH || crossoverEvent then .WATCH else .STABLE
    quantScore := pyRound 3 quant.momentumScore
    volSpike := quant.volSpike }

/-- The executable test for a spike is the one on the real deviations. -/
theorem stockRule_volSpike (closes : List ℚ) (volatility : Root)
    (hrecent : 2 ≤ (tail recentVolWindow closes).length) :
    (stockRule closes volatility).volSpike = true ↔
      1.5 * max volatility.toReal 1e-10 < (std (tail recentVolWindow closes)).toReal := by
  have hratio := Root.toReal_ofRat (show (0 : ℚ) ≤ 1.5 by norm_num)
  have hfloor := Root.toReal_ofRat (show (0 : ℚ) ≤ 1e-10 by norm_num)
  simp only [stockRule,if_pos hrecent]
  rw [Root.lt_iff,Root.toReal_mul,Root.toReal_max,hratio,hfloor]
  norm_num

/-- The executable test of the threshold is the one on the real ratio. -/
theorem volRatio_toReal (volatility : Root) (meanPrice : ℚ) :
    (volatility.div (.ofRat (max meanPrice 1e-8))).toReal =
      volatility.toReal / (max meanPrice 1e-8 : ℚ) := by
  have hpos : (0 : ℚ) ≤ max meanPrice 1e-8 := le_trans (by norm_num) (le_max_right _ _)
  rw [Root.toReal_div,Root.toReal_ofRat hpos]

end MacroInvest.Quant
