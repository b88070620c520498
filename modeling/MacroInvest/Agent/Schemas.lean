import MacroInvest.Features.DateTime

/-! # Agent requests and responses

Three kinds of request and their responses, with what their schemas check as fields. A request
may name a session; an empty name counts as none.
-/
namespace MacroInvest.Agent
open Features

structure SignalReviewRequest where
  requestId : String
  timestamp : ℤ
  sessionId : Option String := none
  signalIds : List String
  country : String := "US"
  identified : requestId ≠ ""
  signalsGiven : signalIds ≠ []
  signalsNamed : ∀ s ∈ signalIds, s ≠ ""

structure MacroSnapshotSummaryRequest where
  requestId : String
  timestamp : ℤ
  sessionId : Option String := none
  country : String := "US"
  identified : requestId ≠ ""

structure PriorFeatureInput where
  indicatorType : String
  value : ℚ

structure SnapshotComparisonRequest where
  requestId : String
  timestamp : ℤ
  sessionId : Option String := none
  country : String := "US"
  priorSnapshotLabel : String
  priorFeatures : List PriorFeatureInput := []
  identified : requestId ≠ ""
  labelled : priorSnapshotLabel ≠ ""

inductive AgentRequest where
  | signalReview (r : SignalReviewRequest)
  | snapshotSummary (r : MacroSnapshotSummaryRequest)
  | snapshotComparison (r : SnapshotComparisonRequest)

namespace AgentRequest

def sessionId : AgentRequest → Option String
  | signalReview r => r.sessionId
  | snapshotSummary r => r.sessionId
  | snapshotComparison r => r.sessionId

def country : AgentRequest → String
  | signalReview r => r.country
  | snapshotSummary r => r.country
  | snapshotComparison r => r.country

def priorSnapshotLabel : AgentRequest → Option String
  | snapshotComparison r => some r.priorSnapshotLabel
  | _ => none

/-- `type(request).__name__`. -/
def typeName : AgentRequest → String
  | signalReview _ => "SignalReviewRequest"
  | snapshotSummary _ => "MacroSnapshotSummaryRequest"
  | snapshotComparison _ => "SnapshotComparisonRequest"

/-- The session of a request; an empty name is false in a condition. -/
def session (request : AgentRequest) : Option String :=
  match request.sessionId with
  | none => none
  | some name => if name = "" then none else some name

end AgentRequest

/-- The fields all responses share; a failure explains itself. -/
structure AgentResponse where
  requestId : String
  timestamp : ℤ
  success : Bool := true
  errorMessage : Option String := none
  summary : String := ""
  isDegraded : Bool := false
  failureCategory : Option String := none
  explained : success = false → errorMessage.getD "" ≠ ""

theorem AgentResponse.success_explained : true = false → (none : Option String).getD "" ≠ "" :=
  nofun

structure SignalReviewResponse extends AgentResponse where
  engineRunId : String := ""
  signalsGenerated : ℕ := 0
  buySignals : ℕ := 0
  sellSignals : ℕ := 0
  holdSignals : ℕ := 0
  executionTimeMs : ℚ := 0
  elapsed : 0 ≤ executionTimeMs

theorem SignalReviewResponse.elapsed_zero : (0 : ℚ) ≤ 0 := le_rfl

structure MacroSnapshotSummaryResponse extends AgentResponse where
  country : String := ""
  snapshotTimestamp : Option DateTime := none
  featuresCount : ℕ := 0

structure SnapshotComparisonResponse extends AgentResponse where
  country : String := ""
  priorSnapshotLabel : String := ""
  currentSnapshotTimestamp : Option DateTime := none
  changedCount : ℕ := 0
  unchangedCount : ℕ := 0
  noPriorCount : ℕ := 0

inductive AgentReply where
  | signalReview (r : SignalReviewResponse)
  | snapshotSummary (r : MacroSnapshotSummaryResponse)
  | snapshotComparison (r : SnapshotComparisonResponse)

/-- The shared fields of a reply. -/
def AgentReply.base : AgentReply → AgentResponse
  | signalReview r => r.toAgentResponse
  | snapshotSummary r => r.toAgentResponse
  | snapshotComparison r => r.toAgentResponse

end MacroInvest.Agent
