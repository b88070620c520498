import MacroInvest.Macro.Calendar

/-! # Macro snapshots

A snapshot holds one categorical state for each macro dimension, how fresh and how complete
its inputs were, and the indicators that were missing.
-/
namespace MacroInvest.Macro

inductive FreshnessStatus where
  | fresh
  | late
  | stale
  | unknown
  deriving DecidableEq, Repr

inductive DegradedStatus where
  | none
  | partialData
  | missing
  | sourceUnavailable
  | unknown
  deriving DecidableEq, Repr

inductive GrowthState where
  | accelerating
  | slowing
  | mixed
  | unknown
  deriving DecidableEq, Repr

inductive InflationState where
  | cooling
  | sticky
  | reaccelerating
  | unknown
  deriving DecidableEq, Repr

inductive LaborState where
  | tight
  | softening
  | weak
  | unknown
  deriving DecidableEq, Repr

inductive PolicyState where
  | restrictive
  | neutral
  | easingBias
  | unknown
  deriving DecidableEq, Repr

inductive FinancialConditionsState where
  | tight
  | neutral
  | loose
  | unknown
  deriving DecidableEq, Repr

def GrowthState.value : GrowthState → String
  | .accelerating => "accelerating"
  | .slowing => "slowing"
  | .mixed => "mixed"
  | .unknown => "unknown"

def InflationState.value : InflationState → String
  | .cooling => "cooling"
  | .sticky => "sticky"
  | .reaccelerating => "reaccelerating"
  | .unknown => "unknown"

def LaborState.value : LaborState → String
  | .tight => "tight"
  | .softening => "softening"
  | .weak => "weak"
  | .unknown => "unknown"

def PolicyState.value : PolicyState → String
  | .restrictive => "restrictive"
  | .neutral => "neutral"
  | .easingBias => "easing_bias"
  | .unknown => "unknown"

def FinancialConditionsState.value : FinancialConditionsState → String
  | .tight => "tight"
  | .neutral => "neutral"
  | .loose => "loose"
  | .unknown => "unknown"

structure MacroSnapshotState where
  snapshotId : String
  asOfDate : Date
  snapshotTimestamp : ℤ
  freshnessStatus : FreshnessStatus
  degradedStatus : DegradedStatus
  growthState : GrowthState
  inflationState : InflationState
  laborState : LaborState
  policyState : PolicyState
  financialConditionsState : FinancialConditionsState
  missingIndicators : List String
  deriving DecidableEq

/-- `str(state)` of the five category states. -/
def MacroSnapshotState.states (snapshot : MacroSnapshotState) : List String :=
  [snapshot.growthState.value,snapshot.inflationState.value,snapshot.laborState.value,
   snapshot.policyState.value,snapshot.financialConditionsState.value]

def isUnknown (state : String) : Bool := "unknown".toList.isSuffixOf state.toList

def MacroSnapshotState.unknownCount (snapshot : MacroSnapshotState) : ℕ :=
  snapshot.states.countP isUnknown

end MacroInvest.Macro
