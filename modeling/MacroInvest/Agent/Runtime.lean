import MacroInvest.Agent.Context
import MacroInvest.Library.Fallible

/-! # The agent runtime

A request is dispatched to the service, a successful response gets its summary from the
prompt, and the result is validated before it is returned. The context hint is given to the
prompt; a request that raises leaves no turn.
-/
namespace MacroInvest.Agent
open Features Fallible FixedWidth

abbrev ServiceError := String

/-- The answers of the service at one time. -/
structure AgentService where
  reviewSignals : SignalReviewRequest → Except ServiceError SignalReviewResponse
  summarizeMacroSnapshot :
    MacroSnapshotSummaryRequest → Except ServiceError MacroSnapshotSummaryResponse
  compareSnapshots : SnapshotComparisonRequest → Except ServiceError SnapshotComparisonResponse

inductive RuntimeError where
  | service (exc : ServiceError)
  | template (exc : TemplateError)
  | outputValidation (detail : String)
  | valueError (message : String)
  deriving DecidableEq

/-- The type with the highest count, ties in the order of the cases. -/
def dominantSignalType (buySignals sellSignals holdSignals : ℕ) : String :=
  if buySignals = 0 ∧ sellSignals = 0 ∧ holdSignals = 0 then "none"
  else if sellSignals ≤ buySignals ∧ holdSignals ≤ buySignals then "BUY"
  else if holdSignals ≤ sellSignals then "SELL"
  else "HOLD"

/-- `strftime("%Y-%m-%dT%H:%M:%SZ")`. -/
def zuluTime (t : DateTime) : String :=
  String.ofList (fixedDigits 4 t.civil.year ++ '-' :: (fixedDigits 2 t.civil.month ++
    '-' :: (fixedDigits 2 t.civil.day ++ 'T' :: (fixedDigits 2 t.civil.hour ++
    ':' :: (fixedDigits 2 t.civil.minute ++ ':' :: (fixedDigits 2 t.civil.second ++ ['Z']))))))

section Reformat

def signalReviewWith (response : SignalReviewResponse) (newSummary : String) :
    SignalReviewResponse where
  requestId := response.requestId
  timestamp := response.timestamp
  success := true
  summary := newSummary
  explained := AgentResponse.success_explained
  engineRunId := response.engineRunId
  signalsGenerated := response.signalsGenerated
  buySignals := response.buySignals
  sellSignals := response.sellSignals
  holdSignals := response.holdSignals
  executionTimeMs := response.executionTimeMs
  elapsed := response.elapsed

def reformatSignalReview (response : SignalReviewResponse) (request : SignalReviewRequest)
    (contextHint : String) : Except TemplateError SignalReviewResponse :=
  (renderSignalReviewSummary (joinText ", " request.signalIds) request.country
    response.signalsGenerated response.buySignals response.sellSignals response.holdSignals
    (dominantSignalType response.buySignals response.sellSignals response.holdSignals)
    response.engineRunId (formatFixed 1 response.executionTimeMs) contextHint).map
      (signalReviewWith response)

def snapshotSummaryWith (response : MacroSnapshotSummaryResponse) (newSummary : String) :
    MacroSnapshotSummaryResponse where
  requestId := response.requestId
  timestamp := response.timestamp
  success := true
  summary := newSummary
  explained := AgentResponse.success_explained
  country := response.country
  snapshotTimestamp := response.snapshotTimestamp
  featuresCount := response.featuresCount

/-- The time of a snapshot as the summary names it. -/
def tsStr : Option DateTime → String
  | some t => zuluTime t
  | none => "unknown"

def reformatSnapshotSummary (response : MacroSnapshotSummaryResponse) (contextHint : String) :
    Except TemplateError MacroSnapshotSummaryResponse :=
  (renderSnapshotSummary response.country response.featuresCount
    (tsStr response.snapshotTimestamp) contextHint).map (snapshotSummaryWith response)

def snapshotComparisonWith (response : SnapshotComparisonResponse) (newSummary : String) :
    SnapshotComparisonResponse where
  requestId := response.requestId
  timestamp := response.timestamp
  success := true
  summary := newSummary
  explained := AgentResponse.success_explained
  country := response.country
  priorSnapshotLabel := response.priorSnapshotLabel
  currentSnapshotTimestamp := response.currentSnapshotTimestamp
  changedCount := response.changedCount
  unchangedCount := response.unchangedCount
  noPriorCount := response.noPriorCount

def reformatComparisonSummary (response : SnapshotComparisonResponse) (contextHint : String) :
    Except TemplateError SnapshotComparisonResponse :=
  (renderSnapshotComparisonSummary response.country response.priorSnapshotLabel
    response.changedCount response.unchangedCount response.noPriorCount contextHint).map
      (snapshotComparisonWith response)

end Reformat

def serviceResult {α : Type} : Except ServiceError α → Except RuntimeError α
  | .error exc => .error (.service exc)
  | .ok a => .ok a

def templateResult {α : Type} : Except TemplateError α → Except RuntimeError α
  | .error exc => .error (.template exc)
  | .ok a => .ok a

/-- Await the service and reformat a successful response. -/
def invokeWith {R : Type} (reply : R → AgentReply) (answer : Except ServiceError R)
    (reformat : R → Except TemplateError R) : Except RuntimeError AgentReply := do
  let response ← serviceResult answer
  let response ← if (reply response).base.success then templateResult (reformat response)
    else pure response
  return reply response

def dispatch (service : AgentService) (contextHint : String) :
    AgentRequest → Except RuntimeError AgentReply
  | .signalReview r => invokeWith .signalReview (service.reviewSignals r)
      (fun response => reformatSignalReview response r contextHint)
  | .snapshotSummary r => invokeWith .snapshotSummary (service.summarizeMacroSnapshot r)
      (fun response => reformatSnapshotSummary response contextHint)
  | .snapshotComparison r => invokeWith .snapshotComparison (service.compareSnapshots r)
      (fun response => reformatComparisonSummary response contextHint)

/-- The counts of a signal review add up; a reply built by its schema passes the rest. -/
def validateRuntimeResult : AgentReply → Except RuntimeError AgentReply
  | .signalReview r =>
    let expectedTotal := r.buySignals + r.sellSignals + r.holdSignals
    if r.success ∧ r.signalsGenerated ≠ expectedTotal then
      .error (.outputValidation ("signals_generated (" ++ toString r.signalsGenerated ++
        ") does not equal buy + sell + hold (" ++ toString expectedTotal ++ ")"))
    else .ok (.signalReview r)
  | reply => .ok reply

/-- The result of a request under a context hint. -/
def answer (service : AgentService) (contextHint : String) (request : AgentRequest) :
    Except RuntimeError AgentReply := do
  let reply ← dispatch service contextHint request
  validateRuntimeResult reply

def extractParameters (request : AgentRequest) : AnalysisParameters where
  country := some request.country
  comparisonTarget := request.priorSnapshotLabel

def turnOf (request : AgentRequest) (reply : AgentReply) : ConversationTurn where
  requestType := request.typeName
  requestSnapshot := request
  responseSummary := reply.base.summary
  success := reply.base.success
  activeParameters := extractParameters request
  typed := rfl

/-- One request after another in one context. -/
def ConversationContext.invoke (ctx : ConversationContext) (service : AgentService)
    (request : AgentRequest) : ConversationContext × Except RuntimeError AgentReply :=
  match answer service ctx.contextSummary request with
  | .error exc => (ctx,.error exc)
  | .ok reply => (ctx.addTurn (turnOf request reply),.ok reply)

def AgentRequest.prompt : AgentRequest → Prompt
  | signalReview _ => signalReviewPrompt
  | snapshotSummary _ => snapshotSummaryPrompt
  | snapshotComparison _ => snapshotComparisonPrompt

end MacroInvest.Agent
