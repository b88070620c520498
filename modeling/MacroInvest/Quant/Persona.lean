import MacroInvest.Quant.Engine

/-! # The persona adapter

A persona blends the momentum of the engine with the sentiment of the headlines and compares
the blend with its own thresholds. A conservative investor is kept from buying what the relative
strength calls overbought.
-/
namespace MacroInvest.Quant
open Broker

inductive PersonaProfile where
  | AGGRESSIVE
  | BALANCED
  | CONSERVATIVE
  deriving DecidableEq

inductive Signal where
  | BUY
  | SELL
  | HOLD
  deriving DecidableEq

structure Weights where
  quant : ℚ
  sentiment : ℚ

structure Thresholds where
  buy : ℚ
  sell : ℚ

def personaWeights : PersonaProfile → Weights
  | .AGGRESSIVE => ⟨0.7,0.3⟩
  | .BALANCED => ⟨0.5,0.5⟩
  | .CONSERVATIVE => ⟨0.3,0.7⟩

def personaThresholds : PersonaProfile → Thresholds
  | .AGGRESSIVE => ⟨0.1,-0.1⟩
  | .BALANCED => ⟨0.15,-0.15⟩
  | .CONSERVATIVE => ⟨0.25,-0.25⟩

structure SentimentResult where
  ticker : String
  sentimentScore : ℚ
  positiveRatio : ℚ
  negativeRatio : ℚ
  sampleSize : ℕ
  regimeSwitch : Bool
  crisisKeywordCount : ℕ

/-- What the sentiment engine returns for no headlines. -/
def noSentiment (ticker : String) : SentimentResult := ⟨ticker,0,0,0,0,false,0⟩

def displayNames : List (String × String) :=
  [("AAPL","AAPL"),("MSFT","MSFT"),("TSLA","TSLA"),("005930","삼성전자"),("000660","SK하이닉스"),
    ("035420","NAVER"),("051910","LG화학"),("006400","삼성SDI"),("122630","KODEX LEV"),
    ("005380","현대차"),("207940","삼성바이오로직스"),("005490","POSCO홀딩스"),("105560","KB금융"),
    ("QQQ","QQQ ETF"),("BND","BND ETF"),("GLD","GLD ETF")]

/-- `f"{x:+.2f}"` -/
def formatSigned (x : ℚ) : String :=
  let hundredths := (pyRound 2 |x| * 100).floor.toNat
  (if x < 0 then "-" else "+") ++ toString (hundredths / 100) ++ "." ++
    (if hundredths % 100 < 10 then "0" else "") ++ toString (hundredths % 100)

/-- `f"{x:.1%}"` -/
def formatPercentTenths (x : Root) : String :=
  let tenths := x.nearest 1000
  toString (tenths / 10) ++ "." ++ toString (tenths % 10) ++ "%"

def strategyText (ticker : String) (signal : Signal) (quant : QuantResult)
    (sentiment : SentimentResult) : String :=
  let name := (displayNames.lookup ticker).getD ticker
  let score := formatSigned sentiment.sentimentScore
  let vol := formatPercentTenths quant.volRatio
  let spikeNote := if quant.volSpike then " [VOL-SPIKE: Dalio-WATCH]" else ""
  let regimeNote := if sentiment.regimeSwitch then " [REGIME-SWITCH: Simons-MODE]" else ""
  match signal with
  | .BUY =>
    let cross := if quant.goldenCross then "Golden Cross — "
      else if quant.crossoverBull then "SMA5>SMA20 — " else ""
    name ++ ": " ++ cross ++ "momentum surge, sentiment " ++ score ++ spikeNote ++ regimeNote
  | .SELL =>
    let cross := if quant.deadCross then "Dead Cross — "
      else if !quant.crossoverBull then "SMA5<SMA20 — " else ""
    name ++ ": " ++ cross ++ "momentum deteriorating, sentiment drag " ++ score ++ ", vol=" ++
      vol ++ spikeNote ++ regimeNote
  | .HOLD => name ++ ": Neutral posture — monitoring SMA convergence, vol=" ++ vol ++
      spikeNote ++ regimeNote

structure PersonaResult where
  ticker : String
  signal : Signal
  confidence : ℚ
  strategy : String
  persona : PersonaProfile
  quant : QuantResult
  sentiment : SentimentResult
  rsi : ℚ
  marginOfSafetyLock : Bool

def rsiOverbought : ℚ := 70

/-- The closes that the margin of safety is checked on: those of a buy that a conservative
investor would make, where there are enough for a relative strength. -/
def checkedCloses (persona : PersonaProfile) (signal : Signal) (marketData : Option (List ℚ)) :
    Option (List ℚ) :=
  marketData.filter (fun closes =>
    decide (persona = .CONSERVATIVE ∧ signal = .BUY ∧ rsiPeriod + 1 ≤ closes.length))

def composite (persona : PersonaProfile) (quant : QuantResult) (sentiment : SentimentResult) : ℚ :=
  (personaWeights persona).quant * ((quant.momentumScore - 0.5) * 2) +
    (personaWeights persona).sentiment * sentiment.sentimentScore

def rawSignal (persona : PersonaProfile) (score : ℚ) : Signal :=
  if (personaThresholds persona).buy < score then .BUY
  else if score < (personaThresholds persona).sell then .SELL
  else .HOLD

/-- `PersonaAdapterEngine.analyze`; a frame without the column of closes is `none`. -/
def personaAnalyze (R : Series.Rolling ℚ) (persona : PersonaProfile) (ticker : String)
    (marketData : Option (List ℚ)) (sentiment : SentimentResult) : PersonaResult :=
  let quant := analyze R ticker marketData
  let score := composite persona quant sentiment
  let unchecked := rawSignal persona score
  let rsiValue := ((checkedCloses persona unchecked marketData).map computeRsi).getD 50
  let marginOfSafetyLock :=
    (checkedCloses persona unchecked marketData).isSome && decide (rsiOverbought ≤ rsiValue)
  let signal := if marginOfSafetyLock then .HOLD else unchecked
  { ticker := ticker
    signal := signal
    confidence := clip |score|
    strategy := strategyText ticker signal quant sentiment
    persona := persona
    quant := quant
    sentiment := sentiment
    rsi := pyRound 2 rsiValue
    marginOfSafetyLock := marginOfSafetyLock }

end MacroInvest.Quant
