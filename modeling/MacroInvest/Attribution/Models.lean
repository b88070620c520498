import MacroInvest.Events.Models

/-! # Events, rules and attribution results

An attribution rule links an event type to an indicator within a window of days. Event and
indicator types are compared as texts, so rules may name types that no event has. Instants are
counted in microseconds.
-/
namespace MacroInvest.Attribution
open Events (ExternalEventType)

inductive AttributionConfidence where
  | high
  | medium
  | low
  | unattributed
  deriving DecidableEq, Repr

def AttributionConfidence.value : AttributionConfidence → String
  | .high => "high"
  | .medium => "medium"
  | .low => "low"
  | .unattributed => "unattributed"

inductive AttributionMatchStatus where
  | matched
  | partialMatch
  | noMatch
  deriving DecidableEq, Repr

structure AttributionRule where
  ruleId : String
  eventType : String
  indicatorType : String
  maxLagDays : ℕ
  isActive : Bool := true
  eventTypeNamed : 1 ≤ eventType.length
  indicatorTypeNamed : 1 ≤ indicatorType.length
  deriving DecidableEq

inductive ChangeDirection where
  | increased
  | decreased
  | unchanged
  | noPrior
  deriving DecidableEq, Repr

structure FeatureDelta where
  indicatorType : String
  delta : Option ℚ
  direction : ChangeDirection
  deriving DecidableEq

structure CandidateEventContext where
  eventId : String
  eventType : String
  title : String
  source : String
  occurredAt : ℤ
  lagDays : ℤ
  matchStatus : AttributionMatchStatus
  reliabilityTier : String
  deriving DecidableEq

structure CatalystContext where
  indicatorType : String
  candidateEventId : Option String
  candidateEventTitle : Option String
  candidateEventType : Option String
  lagDays : Option ℤ
  confidence : AttributionConfidence
  advisoryNote : String
  ruleId : Option String
  deriving DecidableEq

structure ChangeAttribution where
  indicatorType : String
  direction : ChangeDirection
  delta : Option ℚ
  confidence : AttributionConfidence
  candidates : List CandidateEventContext
  catalystContext : CatalystContext
  deriving DecidableEq

def ChangeAttribution.bestCandidate (a : ChangeAttribution) : Option CandidateEventContext :=
  a.candidates.head?

def heuristicFallback : List (String × List String) :=
  [("central_bank_decision",["interest_rate","policy_rate","10y_yield","yield_10y",
      "inflation","cpi","core_cpi","pce"]),
   ("policy_announcement",["interest_rate","policy_rate","gdp","retail_sales"]),
   ("macro_release",["gdp","cpi","core_cpi","unemployment","unemployment_rate",
      "retail_sales","pmi","manufacturing_pmi","services_pmi",
      "10y_yield","yield_10y","inflation","pce"]),
   ("geopolitical_development",["oil_price","commodities","fx","equity_risk_premium"]),
   ("market_catalyst",["credit_spreads","vix","equity_risk_premium"]),
   ("earnings_event",["equity_earnings","earnings_growth"])]

def builtinRule (ruleId : String) (eventType : ExternalEventType) (indicatorType : String)
    (maxLagDays : ℕ) (h : 1 ≤ indicatorType.length := by decide) : AttributionRule where
  ruleId := ruleId
  eventType := eventType.value
  indicatorType := indicatorType
  maxLagDays := maxLagDays
  eventTypeNamed := by cases eventType <;> decide
  indicatorTypeNamed := h

def defaultAttributionRules : List AttributionRule :=
  [builtinRule "builtin-cbd-rate" .centralBankDecision "interest_rate" 14,
   builtinRule "builtin-cbd-10y" .centralBankDecision "10y_yield" 21,
   builtinRule "builtin-cbd-cpi" .centralBankDecision "cpi" 30,
   builtinRule "builtin-mr-cpi" .macroRelease "cpi" 3,
   builtinRule "builtin-mr-unemployment" .macroRelease "unemployment_rate" 3,
   builtinRule "builtin-mr-gdp" .macroRelease "gdp" 5,
   builtinRule "builtin-mr-retail-sales" .macroRelease "retail_sales" 3,
   builtinRule "builtin-mr-pmi" .macroRelease "pmi" 3,
   builtinRule "builtin-geo-10y" .geopoliticalDevelopment "10y_yield" 14]

end MacroInvest.Attribution
