import MacroInvest.Quant.Sentiment
import MacroInvest.Live.QuantView
import MacroInvest.Live.RegimeAlerts

/-! # The payload of a tick

Every tick runs the engines on each ticker's closes and headlines, makes one row of a ticker,
and sums the rows up: a label of the regime, a health score and the three surest signals.
-/
namespace MacroInvest.Live
open Broker Quant Rounding Series

section Rows

structure RiskRow where
  ticker : String
  momentum : MarketStatus
  regime : MarketStatus
  rates : MarketStatus
  sentiment : MarketStatus
  sigScore : Signal
  quantScore : ℚ
  sentimentScore : ℚ
  sigConfidence : ℚ
  confidence : ℚ
  regimeSwitch : Bool
  volSpike : Bool
  marginOfSafetyLock : Bool
  rsi : ℚ

/-- `str.upper`, with the characters whose upper case holds an ASCII letter. -/
def upperChar (c : Char) : List Char :=
  match [('ß',['S','S']),('ŉ',['ʼ','N']),('ẖ',['H','\u0331']),('ǰ',['J','\u030c']),
      ('ẗ',['T','\u0308']),('ẘ',['W','\u030a']),('ẙ',['Y','\u030a']),('ẚ',['A','ʾ']),
      ('ﬀ',['F','F']),('ﬁ',['F','I']),('ﬂ',['F','L']),('ﬃ',['F','F','I']),
      ('ﬄ',['F','F','L']),('ﬅ',['S','T']),('ﬆ',['S','T']),('ı',['I']),('ſ',['S'])].lookup c with
  | some cs => cs
  | none => [c.toUpper]

/-- A phase that names a late cycle or a contraction. -/
def macroWatch (macroPhase : String) : Bool :=
  let phase := macroPhase.toList.flatMap upperChar
  "LATE".toList <:+: phase ∨ "CONTRACT".toList <:+: phase

def watchIf (b : Bool) : MarketStatus := if b then .WATCH else .STABLE

def buildIntelligenceRow (R : Rolling ℚ) (A : Arithmetic) (ticker : String) (priceDf : List ℚ)
    (news : List String) (macroPhase : String) (persona : PersonaProfile) : RiskRow :=
  let sent := sentimentScore A ticker news
  let result := personaAnalyze R persona ticker (some priceDf) sent
  let columns := quantColumns result.quant
  let rateStatus := watchIf (macroWatch macroPhase || sent.regimeSwitch)
  { ticker := (displayNames.lookup ticker).getD ticker
    momentum := columns.momentum
    regime := rateStatus
    rates := rateStatus
    sentiment := watchIf (sent.sentimentScore < A.fl (-0.1) || sent.regimeSwitch)
    sigScore := result.signal
    quantScore := columns.quantScore
    sentimentScore := pyRound 3 sent.sentimentScore
    sigConfidence := pyRound 3 result.confidence
    confidence := result.confidence
    regimeSwitch := sent.regimeSwitch
    volSpike := columns.volSpike
    marginOfSafetyLock := result.marginOfSafetyLock
    rsi := result.rsi }

end Rows

section Payload

/-- What a tick finds: the frame of every ticker, the two stores of headlines, the cached
regime and phase. -/
structure TickInputs where
  frames : String → List ℚ
  liveNews : String → List String
  tickerNews : String → List String
  cache : RegimeCache
  macroPhase : String
  persona : PersonaProfile

structure ActiveSignal where
  action : Signal
  strategy : String
  probability : ℚ

structure Payload where
  healthScore : ℚ
  regimeName : String
  marketPhase : String
  confidenceScore : ℚ
  activeSignals : List ActiveSignal
  riskMatrix : List RiskRow

namespace TickInputs
variable (R : Rolling ℚ) (A : Arithmetic) (i : TickInputs)

/-- `_LIVE_NEWS_CACHE.get(ticker) or _TICKER_NEWS.get(ticker, [])` -/
def news (ticker : String) : List String :=
  if i.liveNews ticker = [] then i.tickerNews ticker else i.liveNews ticker

def row (ticker : String) : RiskRow :=
  buildIntelligenceRow R A ticker (i.frames ticker) (i.news ticker) i.macroPhase i.persona

def rows : List (String × RiskRow) := tickers.map fun t => (t,i.row R A t)

/-- `sorted(…, key=lambda t: t[2], reverse=True)` -/
def sortedRows : List (String × RiskRow) :=
  (i.rows R A).insertionSort (fun a b => b.2.confidence ≤ a.2.confidence)

end TickInputs

def statusText : MarketStatus → String
  | .WATCH => "WATCH"
  | .STABLE => "STABLE"

def activeSignal (p : String × RiskRow) : ActiveSignal where
  action := p.2.sigScore
  strategy := (displayNames.lookup p.1).getD p.1 ++ ": " ++ statusText p.2.momentum ++
    " momentum, " ++ statusText p.2.sentiment ++ " sentiment" ++
    (if p.2.marginOfSafetyLock then " [MoS-LOCK]" else "")
  probability := pyRound 3 p.2.confidence

def buildPayload (R : Rolling ℚ) (A : Arithmetic) (i : TickInputs) : Payload :=
  let anyRegimeSwitch := (i.rows R A).any (·.2.regimeSwitch)
  let anyVolSpike := (i.rows R A).any (·.2.volSpike)
  { healthScore := pyRound 1 (Quant.mean ((i.rows R A).map (·.2.confidence)) * 100)
    regimeName := liveRegimeName anyRegimeSwitch anyVolSpike i.cache
    marketPhase := i.macroPhase
    confidenceScore := if anyRegimeSwitch then 0.95 else if anyVolSpike then 0.88
      else i.cache.confidenceScore
    activeSignals := ((i.sortedRows R A).take 3).map activeSignal
    riskMatrix := (i.rows R A).map (·.2) }

end Payload

section Law
variable (R : Rolling ℚ) (A : Arithmetic) (i : TickInputs)

/-- Three crisis words among the headlines, or more than three in a hundred words. -/
def InCrisis (texts : List String) : Prop :=
  3 ≤ crisisCount texts ∨ 3 * (bag texts).length < 100 * crisisCount texts

theorem row_regimeSwitch (t : String) :
    (i.row R A t).regimeSwitch = true ↔ InCrisis (i.news t) :=
  (sentiment_law A t (i.news t)).switched

theorem row_confidence (t : String) :
    0 ≤ (i.row R A t).confidence ∧ (i.row R A t).confidence ≤ 1 := by
  have hclip (x : ℚ) : 0 ≤ clip x ∧ clip x ≤ 1 :=
    ⟨le_min (le_max_right _ _) (by norm_num),min_le_right _ _⟩
  exact hclip _

theorem mean_bounds {l : List ℚ} (h : ∀ x ∈ l, 0 ≤ x ∧ x ≤ 1) :
    0 ≤ Quant.mean l ∧ Quant.mean l ≤ 1 := by
  have hnonneg : 0 ≤ l.sum := List.sum_nonneg fun x hx => (h x hx).1
  have hle : l.sum ≤ l.length := by
    simpa using List.sum_le_card_nsmul l 1 fun x hx => (h x hx).2
  constructor
  · exact div_nonneg hnonneg (Nat.cast_nonneg _)
  · exact div_le_one_of_le₀ hle (Nat.cast_nonneg _)

/-- What is promised of a payload. -/
structure PayloadLaw (p : Payload) : Prop where
  health : 0 ≤ p.healthScore ∧ p.healthScore ≤ 100
  crisis : (∃ t ∈ tickers, InCrisis (i.news t)) →
    p.regimeName = "CRISIS_MODE" ∧ p.confidenceScore = 0.95
  calm : (∀ t ∈ tickers, ¬InCrisis (i.news t)) →
    p.regimeName = "VOLATILITY_REGIME" ∧ p.confidenceScore = 0.88 ∨
      p.regimeName = i.cache.regimeName ∧ p.confidenceScore = i.cache.confidenceScore
  matrix : p.riskMatrix = tickers.map (i.row R A)
  watch : ∀ t, InCrisis (i.news t) → (i.row R A t).regime = .WATCH ∧
    (i.row R A t).rates = .WATCH ∧ (i.row R A t).sentiment = .WATCH
  signals : ∃ top rest : List (String × RiskRow),(top ++ rest).Perm (i.rows R A) ∧
    top.length = 3 ∧ p.activeSignals = top.map activeSignal ∧
    top.Pairwise (fun a b => b.2.confidence ≤ a.2.confidence) ∧
    ∀ a ∈ top, ∀ b ∈ rest, b.2.confidence ≤ a.2.confidence

theorem sortedRows_pairwise :
    (i.sortedRows R A).Pairwise (fun a b => b.2.confidence ≤ a.2.confidence) := by
  have htotal : Std.Total (fun a b : String × RiskRow => b.2.confidence ≤ a.2.confidence) :=
    ⟨fun a b => le_total _ _⟩
  have htrans : IsTrans (String × RiskRow) (fun a b => b.2.confidence ≤ a.2.confidence) :=
    ⟨fun _ _ _ hab hbc => le_trans hbc hab⟩
  exact List.pairwise_insertionSort _ _

theorem any_regimeSwitch :
    (i.rows R A).any (·.2.regimeSwitch) = true ↔ ∃ t ∈ tickers, InCrisis (i.news t) := by
  simp only [List.any_eq_true,TickInputs.rows,List.mem_map]
  constructor
  · rintro ⟨_,⟨t,ht,rfl⟩,hs⟩
    exact ⟨t,ht,(row_regimeSwitch R A i t).mp hs⟩
  · rintro ⟨t,ht,hs⟩
    exact ⟨_,⟨t,ht,rfl⟩,(row_regimeSwitch R A i t).mpr hs⟩

end Law

end MacroInvest.Live
