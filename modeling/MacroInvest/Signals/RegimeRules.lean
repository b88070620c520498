import MacroInvest.Macro.Regime
import MacroInvest.Signals.Engine

/-! # The regime signal map

Every regime label has its own list of calls on asset classes, each with a base confidence and
with the drivers on both sides of it.
-/
namespace MacroInvest.Signals
open Macro

inductive TrendDirection where
  | up
  | down
  | neutral
  | unknown
  deriving DecidableEq

structure RegimeSignalRule where
  signalId : String
  assetClass : String
  signalDirection : SignalType
  signalStrength : SignalStrength
  signalConfidence : ℚ
  trend : TrendDirection
  supportingRegime : String
  supportingDrivers : List String := []
  conflictingDrivers : List String := []
  regimeRationale : String := ""

section Map

def goldilocksRules : List RegimeSignalRule :=
  [{ signalId := "goldilocks_equities_buy"
     assetClass := "equities"
     signalDirection := .buy
     signalStrength := .strong
     signalConfidence := 0.80
     trend := .up
     supportingRegime := "goldilocks"
     supportingDrivers := ["growth_accelerating","inflation_cooling",
       "policy_neutral","financial_conditions_neutral"]
     conflictingDrivers := []
     regimeRationale :=
       "Goldilocks: growth accelerating with inflation cooling and neutral policy. " ++
         "Risk-on environment strongly favours equity exposure. " ++
         "Cyclical and quality factors preferred; reduce defensive tilt." },
   { signalId := "goldilocks_bonds_hold"
     assetClass := "bonds"
     signalDirection := .hold
     signalStrength := .moderate
     signalConfidence := 0.55
     trend := .neutral
     supportingRegime := "goldilocks"
     supportingDrivers := ["inflation_cooling","policy_neutral"]
     conflictingDrivers := ["growth_accelerating"]
     regimeRationale :=
       "Goldilocks: neutral policy stance reduces duration risk but growth " ++
         "momentum limits bond upside. Maintain existing allocation; " ++
         "prefer shorter-duration instruments." }]

def disinflationRules : List RegimeSignalRule :=
  [{ signalId := "disinflation_bonds_buy"
     assetClass := "bonds"
     signalDirection := .buy
     signalStrength := .strong
     signalConfidence := 0.75
     trend := .up
     supportingRegime := "disinflation"
     supportingDrivers := ["inflation_cooling","policy_easing_potential"]
     conflictingDrivers := ["growth_mixed"]
     regimeRationale :=
       "Disinflation: inflation cooling reduces rate pressure and raises the " ++
         "probability of a policy pivot. Duration-extending environment for bonds. " ++
         "Favour high-quality sovereign duration." },
   { signalId := "disinflation_equities_hold"
     assetClass := "equities"
     signalDirection := .hold
     signalStrength := .moderate
     signalConfidence := 0.50
     trend := .neutral
     supportingRegime := "disinflation"
     supportingDrivers := ["inflation_cooling"]
     conflictingDrivers := ["growth_slowing","growth_mixed"]
     regimeRationale :=
       "Disinflation: growth is mixed or slowing, limiting equity upside. " ++
         "Maintain current exposure; rotate toward quality and dividend defensives." }]

def reflationRules : List RegimeSignalRule :=
  [{ signalId := "reflation_commodities_buy"
     assetClass := "commodities"
     signalDirection := .buy
     signalStrength := .strong
     signalConfidence := 0.80
     trend := .up
     supportingRegime := "reflation"
     supportingDrivers := ["inflation_reaccelerating","growth_recovering","policy_easing"]
     conflictingDrivers := []
     regimeRationale :=
       "Reflation: re-accelerating inflation with growth recovery and easing policy. " ++
         "Commodity and inflation-linked assets are strongly favoured. " ++
         "Energy and materials sectors preferred." },
   { signalId := "reflation_equities_buy"
     assetClass := "equities"
     signalDirection := .buy
     signalStrength := .moderate
     signalConfidence := 0.65
     trend := .up
     supportingRegime := "reflation"
     supportingDrivers := ["growth_recovering","policy_easing"]
     conflictingDrivers := ["inflation_reaccelerating"]
     regimeRationale :=
       "Reflation: easing policy and improving growth support equity multiples " ++
         "despite rising inflation. Cyclical and value tilts preferred. " ++
         "Financials and industrials favoured." },
   { signalId := "reflation_bonds_sell"
     assetClass := "bonds"
     signalDirection := .sell
     signalStrength := .moderate
     signalConfidence := 0.65
     trend := .down
     supportingRegime := "reflation"
     supportingDrivers := ["inflation_reaccelerating"]
     conflictingDrivers := ["policy_easing"]
     regimeRationale :=
       "Reflation: re-accelerating inflation erodes real bond returns. " ++
         "Reduce nominal duration; prefer inflation-linked or floating-rate instruments." }]

def slowdownRules : List RegimeSignalRule :=
  [{ signalId := "slowdown_equities_hold"
     assetClass := "equities"
     signalDirection := .hold
     signalStrength := .moderate
     signalConfidence := 0.55
     trend := .down
     supportingRegime := "slowdown"
     supportingDrivers := ["growth_slowing","labor_softening"]
     conflictingDrivers := ["inflation_not_yet_cooling"]
     regimeRationale :=
       "Slowdown: growth decelerating with softening labour market. " ++
         "Reduce cyclical risk; rotate toward defensive and quality factors. " ++
         "Avoid adding new equity risk until a policy pivot materialises." },
   { signalId := "slowdown_bonds_buy"
     assetClass := "bonds"
     signalDirection := .buy
     signalStrength := .moderate
     signalConfidence := 0.60
     trend := .up
     supportingRegime := "slowdown"
     supportingDrivers := ["growth_slowing","labor_softening"]
     conflictingDrivers := ["inflation_sticky"]
     regimeRationale :=
       "Slowdown: decelerating growth raises probability of policy pivot. " ++
         "Moderate duration extension attractive, particularly in high-quality sovereigns." }]

def stagflationRiskRules : List RegimeSignalRule :=
  [{ signalId := "stagflation_equities_sell"
     assetClass := "equities"
     signalDirection := .sell
     signalStrength := .strong
     signalConfidence := 0.80
     trend := .down
     supportingRegime := "stagflation_risk"
     supportingDrivers := ["growth_slowing","inflation_reaccelerating","labor_weakening"]
     conflictingDrivers := []
     regimeRationale :=
       "Stagflation risk: slowing growth with re-accelerating inflation and " ++
         "weakening labour market — the worst combination for equity risk premia. " ++
         "Materially reduce equity exposure; rotate to real assets and cash." },
   { signalId := "stagflation_bonds_sell"
     assetClass := "bonds"
     signalDirection := .sell
     signalStrength := .moderate
     signalConfidence := 0.65
     trend := .down
     supportingRegime := "stagflation_risk"
     supportingDrivers := ["inflation_reaccelerating"]
     conflictingDrivers := ["growth_slowing"]
     regimeRationale :=
       "Stagflation risk: inflation re-acceleration limits nominal bond upside. " ++
         "Prefer inflation-linked; reduce nominal duration significantly." },
   { signalId := "stagflation_commodities_buy"
     assetClass := "commodities"
     signalDirection := .buy
     signalStrength := .moderate
     signalConfidence := 0.60
     trend := .up
     supportingRegime := "stagflation_risk"
     supportingDrivers := ["inflation_reaccelerating"]
     conflictingDrivers := ["growth_slowing"]
     regimeRationale :=
       "Stagflation risk: real assets and commodities provide partial inflation hedge " ++
         "in a growth-challenged environment. Selective commodity exposure preferred." }]

def contractionRules : List RegimeSignalRule :=
  [{ signalId := "contraction_equities_sell"
     assetClass := "equities"
     signalDirection := .sell
     signalStrength := .veryStrong
     signalConfidence := 0.90
     trend := .down
     supportingRegime := "contraction"
     supportingDrivers := ["growth_contracting","financial_conditions_tight","labor_weak"]
     conflictingDrivers := []
     regimeRationale :=
       "Contraction: broad growth contraction with tight financial conditions and " ++
         "weak labour market — maximum risk-off. Materially reduce equity exposure. " ++
         "Favour defensive sectors; avoid cyclicals and small caps." },
   { signalId := "contraction_bonds_buy"
     assetClass := "bonds"
     signalDirection := .buy
     signalStrength := .strong
     signalConfidence := 0.80
     trend := .up
     supportingRegime := "contraction"
     supportingDrivers := ["growth_contracting","policy_easing_expected"]
     conflictingDrivers := ["financial_conditions_tight"]
     regimeRationale :=
       "Contraction: flight-to-safety and expected policy easing strongly support " ++
         "government bonds. Extend duration in high-quality sovereigns. " ++
         "Avoid credit risk — spread widening expected." },
   { signalId := "contraction_cash_hold"
     assetClass := "cash"
     signalDirection := .hold
     signalStrength := .strong
     signalConfidence := 0.75
     trend := .neutral
     supportingRegime := "contraction"
     supportingDrivers := ["risk_off","drawdown_protection"]
     conflictingDrivers := []
     regimeRationale :=
       "Contraction: elevated cash allocation reduces drawdown risk while " ++
         "awaiting a clearer inflection signal or confirmed policy pivot." }]

def policyTighteningDragRules : List RegimeSignalRule :=
  [{ signalId := "policy_drag_equities_hold"
     assetClass := "equities"
     signalDirection := .hold
     signalStrength := .moderate
     signalConfidence := 0.55
     trend := .down
     supportingRegime := "policy_tightening_drag"
     supportingDrivers := ["policy_restrictive","financial_conditions_tight"]
     conflictingDrivers := ["growth_not_yet_contracting"]
     regimeRationale :=
       "Policy tightening drag: restrictive policy and tight financial conditions " ++
         "compress multiples. Limit new equity risk; prefer short-duration growth " ++
         "and dividend defensives. Avoid rate-sensitive sectors." },
   { signalId := "policy_drag_bonds_sell"
     assetClass := "bonds"
     signalDirection := .sell
     signalStrength := .moderate
     signalConfidence := 0.60
     trend := .down
     supportingRegime := "policy_tightening_drag"
     supportingDrivers := ["policy_restrictive","yields_elevated"]
     conflictingDrivers := []
     regimeRationale :=
       "Policy tightening drag: elevated yields reflect restrictive stance. " ++
         "Avoid extending duration until policy pivot is confirmed. " ++
         "Prefer money-market instruments or floating-rate credit." }]

def mixedRules : List RegimeSignalRule :=
  [{ signalId := "mixed_equities_hold"
     assetClass := "equities"
     signalDirection := .hold
     signalStrength := .weak
     signalConfidence := 0.30
     trend := .neutral
     supportingRegime := "mixed"
     supportingDrivers := []
     conflictingDrivers := ["conflicting_growth_signals","conflicting_inflation_signals"]
     regimeRationale :=
       "Mixed regime: opposing macro signals across growth, inflation, labour, " ++
         "and financial conditions reduce the reliability of any directional call. " ++
         "Maintain a balanced, diversified allocation and wait for clearer regime." }]

def unclearRules : List RegimeSignalRule :=
  [{ signalId := "unclear_neutral"
     assetClass := "all"
     signalDirection := .neutral
     signalStrength := .veryWeak
     signalConfidence := 0.10
     trend := .unknown
     supportingRegime := "unclear"
     supportingDrivers := []
     conflictingDrivers := ["data_insufficient","data_stale"]
     regimeRationale :=
       "Unclear regime: insufficient or stale macro data prevents reliable " ++
         "regime classification. No actionable signal. " ++
         "Refresh data sources and re-evaluate before acting." }]

/-- `REGIME_SIGNAL_MAP` has every label, so the rules of the unclear one are never fallen back
to. -/
def getRegimeSignalRules : RegimeLabel → List RegimeSignalRule
  | .goldilocks => goldilocksRules
  | .disinflation => disinflationRules
  | .reflation => reflationRules
  | .slowdown => slowdownRules
  | .stagflationRisk => stagflationRiskRules
  | .contraction => contractionRules
  | .policyTighteningDrag => policyTighteningDragRules
  | .mixed => mixedRules
  | .unclear => unclearRules

end Map

section MapLaws
variable (l : RegimeLabel)

/-- A call to buy or to sell. -/
def Directional : SignalType → Prop
  | .buy => True
  | .sell => True
  | _ => False

instance : DecidablePred Directional := fun t =>
  match t with
  | .buy => isTrue trivial
  | .sell => isTrue trivial
  | .hold => isFalse id
  | .neutral => isFalse id

theorem confidence_mem : ∀ rule ∈ getRegimeSignalRules l,
    0 < rule.signalConfidence ∧ rule.signalConfidence ≤ 1 := by
  cases l <;> decide +kernel

/-- The labels of poor data make no call. -/
theorem not_directional (h : l ∈ [RegimeLabel.mixed,.unclear]) :
    ∀ rule ∈ getRegimeSignalRules l, ¬Directional rule.signalDirection := by
  cases l
  case mixed => decide +kernel
  case unclear => decide +kernel
  all_goals exact absurd h (by decide)

/-- A label calls each asset class once. -/
theorem assetClass_nodup : ((getRegimeSignalRules l).map (·.assetClass)).Nodup := by
  cases l <;> decide +kernel

theorem signalId_nodup : ((getRegimeSignalRules l).map (·.signalId)).Nodup := by
  cases l <;> decide +kernel

/-- The texts of a call that a route would replace if they were empty. -/
theorem texts_ne_empty : ∀ rule ∈ getRegimeSignalRules l,
    rule.signalId ≠ "" ∧ rule.regimeRationale ≠ "" := by
  cases l <;> decide +kernel

end MapLaws

end MacroInvest.Signals
