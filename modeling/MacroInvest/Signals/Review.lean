import MacroInvest.Agent.Runtime
import MacroInvest.Broker.Schema
import MacroInvest.Features.Persistence
import MacroInvest.Signals.Engine

/-! # The signal review

The tool resolves the ids of a request, fetches the snapshot and runs the engine; the service
makes the review of its response. The response counts three of the four signal types, so a
neutral definition is generated and counted nowhere.
-/
namespace MacroInvest.Agent
open Features Signals Broker

/-- What the macro service raises, with the text of the exception. -/
inductive SnapshotError where
  | providerTimeout (text : String)
  | providerHttp (text : String)
  | providerNetwork (text : String)
  | provider (text : String)
  | staleData (text : String)
  | other

inductive FailureCategory where
  | providerTimeout
  | providerHttp
  | providerNetwork
  | staleData
  | unknown

structure RunSignalEngineRequest where
  requestId : String
  signalIds : List String
  country : String := "US"
  useLatestSnapshot : Bool := true

structure RunSignalEngineResponse where
  requestId : String
  success : Bool := true
  errorMessage : Option String := none
  failureCategory : Option FailureCategory := none
  isDegraded : Bool := false
  engineRunId : String
  signalsGenerated : ℕ := 0
  buySignals : ℕ := 0
  sellSignals : ℕ := 0
  holdSignals : ℕ := 0
  executionTimeMs : NNRat := 0

theorem RunSignalEngineResponse.elapsed (response : RunSignalEngineResponse) :
    0 ≤ (response.executionTimeMs : ℚ) := response.executionTimeMs.2

/-- What one call finds: the registry, the macro service, the id drawn for the run, the time the
run takes and the time of its response. -/
structure EngineCall where
  registry : SignalRegistry
  getSnapshot : String → Except SnapshotError MacroSnapshot
  runId : String
  executionMs : NNRat
  now : ℤ

section Handler

/-- An error response, under no run id. -/
def toolFailure (request : RunSignalEngineRequest) (text : String)
    (category : Option FailureCategory) (degraded : Bool) : RunSignalEngineResponse where
  requestId := request.requestId
  success := false
  errorMessage := some text
  failureCategory := category
  isDegraded := degraded
  engineRunId := ""

def snapshotFailure (request : RunSignalEngineRequest) : SnapshotError → RunSignalEngineResponse
  | .providerTimeout text => toolFailure request text (some .providerTimeout) false
  | .providerHttp text => toolFailure request text (some .providerHttp) false
  | .providerNetwork text => toolFailure request text (some .providerNetwork) false
  | .provider text => toolFailure request text (some .unknown) false
  | .staleData text => toolFailure request text (some .staleData) true
  | .other => toolFailure request "Failed to fetch macro snapshot." (some .unknown) false

theorem roundedMs_nonneg (t : NNRat) : 0 ≤ pyRound 3 (t : ℚ) := pyRound_nonneg 3 t.2

/-- `round(execution_ms, 3)` -/
def roundedMs (t : NNRat) : NNRat :=
  ⟨pyRound 3 (t : ℚ),roundedMs_nonneg t⟩

def handleRunSignalEngine (call : EngineCall) (request : RunSignalEngineRequest) :
    RunSignalEngineResponse :=
  if request.signalIds = [] then toolFailure request "signal_ids must not be empty." none false
  else if request.useLatestSnapshot = false then
    toolFailure request ("use_latest_snapshot=False is not yet supported; " ++
      "only live snapshot fetching is available.") none false
  else
    let signalDefinitions := request.signalIds.filterMap call.registry.get
    let unknownIds := request.signalIds.filter (fun i => (call.registry.get i).isNone)
    if unknownIds ≠ [] then
      toolFailure request ("Unknown signal ID(s): " ++
        joinText ", " (unknownIds.map (fun i => "'" ++ i ++ "'")) ++ ".") none false
    else match call.getSnapshot request.country with
      | .error exc => snapshotFailure request exc
      | .ok snapshot => match runEngine call.runId signalDefinitions snapshot with
        | .error _ => toolFailure request "Signal engine execution failed." (some .unknown) false
        | .ok result => {
            requestId := request.requestId
            engineRunId := result.runId
            signalsGenerated := result.signals.length
            buySignals := (result.getSignalsByType .buy).length
            sellSignals := (result.getSignalsByType .sell).length
            holdSignals := (result.getSignalsByType .hold).length
            executionTimeMs := roundedMs call.executionMs }

end Handler

section Service

/-- `MCPAdapter.run_signal_engine`: the error message of the tool error it raises, or the
response. -/
def runSignalEngine (call : EngineCall) (requestId : String) (signalIds : List String)
    (country : String) : Except String RunSignalEngineResponse :=
  let response := handleRunSignalEngine call {requestId,signalIds,country}
  if response.success = false then
    .error (if response.errorMessage.getD "" = "" then "unknown error"
      else response.errorMessage.getD "")
  else .ok response

def formatSignalReviewError (rawError requestId : String) : String :=
  "Signal review could not be completed (request_id=" ++ requestId ++ "). " ++
    "Detail: " ++ rawError

theorem formatSignalReviewError_ne (rawError requestId : String) :
    formatSignalReviewError rawError requestId ≠ "" := by
  unfold formatSignalReviewError
  simp only [ne_eq,String.append_eq_empty_iff]
  rintro ⟨⟨⟨⟨hlead,-⟩,-⟩,-⟩,-⟩
  exact absurd hlead (by decide)

theorem formatSignalReviewError_explains (rawError requestId : String) :
    false = false → (some (formatSignalReviewError rawError requestId)).getD "" ≠ "" :=
  fun _ => formatSignalReviewError_ne rawError requestId

def formatSignalReviewSummary (response : RunSignalEngineResponse) (signalIds : List String)
    (country : String) : String :=
  "Signal review for [" ++ joinText ", " signalIds ++ "] (country=" ++ country ++ "): " ++
    toString response.signalsGenerated ++ " signal(s) generated (BUY=" ++
    toString response.buySignals ++ ", SELL=" ++ toString response.sellSignals ++ ", HOLD=" ++
    toString response.holdSignals ++ "). Dominant signal direction: " ++
    dominantSignalType response.buySignals response.sellSignals response.holdSignals ++
    ". Engine run ID: " ++ response.engineRunId ++ ". Execution time: " ++
    FixedWidth.formatFixed 1 response.executionTimeMs ++ "ms."

def reviewSignals (call : EngineCall) (request : SignalReviewRequest) : SignalReviewResponse :=
  match runSignalEngine call request.requestId request.signalIds request.country with
  | .error text => {
      requestId := request.requestId
      timestamp := call.now
      success := false
      errorMessage := some (formatSignalReviewError text request.requestId)
      explained := formatSignalReviewError_explains text request.requestId
      elapsed := SignalReviewResponse.elapsed_zero }
  | .ok response => {
      requestId := request.requestId
      timestamp := call.now
      success := true
      summary := formatSignalReviewSummary response request.signalIds request.country
      explained := AgentResponse.success_explained
      engineRunId := response.engineRunId
      signalsGenerated := response.signalsGenerated
      buySignals := response.buySignals
      sellSignals := response.sellSignals
      holdSignals := response.holdSignals
      executionTimeMs := response.executionTimeMs
      elapsed := response.elapsed }

end Service

section Counts
variable {call : EngineCall} {request : RunSignalEngineRequest}

/-- What a request needs to get past the checks of the tool. -/
def Runnable (call : EngineCall) (request : RunSignalEngineRequest) : Prop :=
  request.signalIds ≠ [] ∧ request.useLatestSnapshot = true ∧
    (∀ i ∈ request.signalIds, (call.registry.get i).isSome) ∧
    ∃ snapshot, call.getSnapshot request.country = .ok snapshot

/-- The types of the definitions that a request names. -/
def requestedTypes (call : EngineCall) (request : RunSignalEngineRequest) : List SignalType :=
  (request.signalIds.filterMap call.registry.get).map SignalDefinition.signalType

theorem length_requestedTypes (h : ∀ i ∈ request.signalIds, (call.registry.get i).isSome) :
    (requestedTypes call request).length = request.signalIds.length := by
  rw [requestedTypes,List.length_map]
  exact List.filterMap_length_eq_length.mpr h

theorem mem_requestedTypes {signalType : SignalType} : signalType ∈ requestedTypes call request ↔
    ∃ i ∈ request.signalIds, ∃ d, call.registry.get i = some d ∧ d.signalType = signalType := by
  simp only [requestedTypes,List.mem_map,List.mem_filterMap]
  exact ⟨fun ⟨d,⟨i,hi,hd⟩,htype⟩ => ⟨i,hi,d,hd,htype⟩,
    fun ⟨i,hi,d,hd,htype⟩ => ⟨d,⟨i,hi,hd⟩,htype⟩⟩

/-- A request that is refused somewhere gets an error response. -/
theorem handle_refused (h : ¬Runnable call request) :
    (handleRunSignalEngine call request).success = false := by
  unfold handleRunSignalEngine
  by_cases hids : request.signalIds = []
  · rw [if_pos hids]
    rfl
  by_cases hlatest : request.useLatestSnapshot = false
  · rw [if_neg hids,if_pos hlatest]
    rfl
  rw [if_neg hids,if_neg hlatest]
  dsimp only
  split
  · rfl
  · rename_i hunknown
    have hknown : ∀ i ∈ request.signalIds, (call.registry.get i).isSome := by
      intro i hi
      by_contra hnone
      refine hunknown (List.ne_nil_of_mem (List.mem_filter.mpr ⟨hi,?_⟩))
      simpa using hnone
    cases hfetch : call.getSnapshot request.country with
    | error exc => cases exc <;> rfl
    | ok snapshot =>
      exact absurd ⟨hids,Bool.eq_true_of_not_eq_false hlatest,hknown,snapshot,hfetch⟩ h

/-- A request that passes is answered with the counts of the types it names. -/
theorem handle_runnable (h : Runnable call request) :
    let response := handleRunSignalEngine call request
    let types := requestedTypes call request
    response.success = true ∧ response.signalsGenerated = request.signalIds.length ∧
      response.buySignals = types.count .buy ∧ response.sellSignals = types.count .sell ∧
      response.holdSignals = types.count .hold := by
  obtain ⟨hids,hlatest,hknown,snapshot,hfetch⟩ := h
  have hunknown : request.signalIds.filter (fun i => (call.registry.get i).isNone) = [] := by
    rw [List.filter_eq_nil_iff]
    intro i hi
    rw [Option.isNone_iff_eq_none]
    exact Option.isSome_iff_ne_none.mp (hknown i hi)
  have hdefinitions : request.signalIds.filterMap call.registry.get ≠ [] := by
    have hlength := length_requestedTypes hknown
    rw [requestedTypes,List.length_map] at hlength
    exact List.ne_nil_of_length_pos (hlength ▸ List.length_pos_iff.mpr hids)
  obtain ⟨result,hresult,-,htypes⟩ :=
    runEngine_ok call.runId snapshot hdefinitions
  have hlength : result.signals.length = request.signalIds.length := by
    rw [← length_requestedTypes hknown,requestedTypes,← htypes,List.length_map]
  unfold handleRunSignalEngine
  rw [if_neg hids,if_neg (by rw [hlatest]; decide)]
  simp only [hunknown,ne_eq,not_true_eq_false,if_false,hfetch,hresult]
  exact ⟨trivial,hlength,length_getSignalsByType htypes .buy,length_getSignalsByType htypes .sell,
    length_getSignalsByType htypes .hold⟩

/-- A successful response counts every requested id, and each under one of the three types. -/
structure CountsAddUp (call : EngineCall) (request : RunSignalEngineRequest) : Prop where
  generated : (handleRunSignalEngine call request).success = true →
    (handleRunSignalEngine call request).signalsGenerated = request.signalIds.length
  split : (handleRunSignalEngine call request).success = true →
    (handleRunSignalEngine call request).signalsGenerated =
      (handleRunSignalEngine call request).buySignals +
        (handleRunSignalEngine call request).sellSignals +
        (handleRunSignalEngine call request).holdSignals

/-- The review of the service passes the validation of its result. -/
def ReviewAccepted (call : EngineCall) (review : SignalReviewRequest) : Prop :=
  validateRuntimeResult (.signalReview (reviewSignals call review)) =
    .ok (.signalReview (reviewSignals call review))

/-- The request of the tool that a review makes. -/
def engineRequest (review : SignalReviewRequest) : RunSignalEngineRequest where
  requestId := review.requestId
  signalIds := review.signalIds
  country := review.country

/-- A request that passes names no neutral definition. -/
def NeutralFree (call : EngineCall) (request : RunSignalEngineRequest) : Prop :=
  Runnable call request → ∀ i ∈ request.signalIds, ∀ d, call.registry.get i = some d →
    d.signalType ≠ .neutral

theorem neutral_not_mem_iff : SignalType.neutral ∉ requestedTypes call request ↔
    ∀ i ∈ request.signalIds, ∀ d, call.registry.get i = some d → d.signalType ≠ .neutral := by
  rw [mem_requestedTypes]
  push Not
  rfl

/-- The counts of a request that passes add up exactly where nothing in it is neutral. -/
theorem handle_split_iff (h : Runnable call request) :
    (handleRunSignalEngine call request).signalsGenerated =
        (handleRunSignalEngine call request).buySignals +
          (handleRunSignalEngine call request).sellSignals +
          (handleRunSignalEngine call request).holdSignals ↔
      ∀ i ∈ request.signalIds, ∀ d, call.registry.get i = some d → d.signalType ≠ .neutral := by
  obtain ⟨-,hgenerated,hbuy,hsell,hhold⟩ := handle_runnable h
  rw [hgenerated,hbuy,hsell,hhold,← neutral_not_mem_iff,← length_eq_counts_iff,
    length_requestedTypes h.2.2.1]

theorem countsAddUp_iff : CountsAddUp call request ↔ NeutralFree call request := by
  constructor
  · intro hcounts hrunnable
    exact (handle_split_iff hrunnable).mp (hcounts.split (handle_runnable hrunnable).1)
  · intro hfree
    by_cases hrunnable : Runnable call request
    · exact ⟨fun _ => (handle_runnable hrunnable).2.1,
        fun _ => (handle_split_iff hrunnable).mpr (hfree hrunnable)⟩
    · have hfailed := handle_refused hrunnable
      constructor
      · exact fun hsuccess => absurd (hfailed ▸ hsuccess) (by decide)
      · exact fun hsuccess => absurd (hfailed ▸ hsuccess) (by decide)

/-- The validation accepts a review exactly where it failed or its counts add up. -/
theorem validate_review_iff (response : SignalReviewResponse) :
    validateRuntimeResult (.signalReview response) = .ok (.signalReview response) ↔
      (response.success = true → response.signalsGenerated =
        response.buySignals + response.sellSignals + response.holdSignals) := by
  simp only [validateRuntimeResult]
  split
  · rename_i hdiffer
    exact iff_of_false nofun (fun h => hdiffer.2 (h hdiffer.1))
  · rename_i hagree
    refine iff_of_true rfl ?_
    intro hsuccess
    by_contra hcounts
    exact hagree ⟨hsuccess,hcounts⟩

theorem reviewAccepted_iff (call : EngineCall) (review : SignalReviewRequest) :
    ReviewAccepted call review ↔ NeutralFree call (engineRequest review) := by
  rw [ReviewAccepted,validate_review_iff]
  by_cases hrunnable : Runnable call (engineRequest review)
  · have hsuccess := (handle_runnable hrunnable).1
    have hreview : runSignalEngine call review.requestId review.signalIds review.country =
        .ok (handleRunSignalEngine call (engineRequest review)) :=
      if_neg (fun hfailed => Bool.false_ne_true (hfailed.symm.trans hsuccess))
    simp only [reviewSignals,hreview,NeutralFree,handle_split_iff hrunnable,hrunnable,
      true_implies]
  · obtain ⟨text,hreview⟩ : ∃ text,
        runSignalEngine call review.requestId review.signalIds review.country = .error text :=
      ⟨_,if_pos (handle_refused hrunnable)⟩
    simp only [reviewSignals,hreview]
    exact iff_of_true nofun (fun h => absurd h hrunnable)

end Counts

/-- The counts add up, and the review is accepted, exactly where no request that passes the checks
of the tool names a neutral definition. -/
theorem counts_add_up_iff (call : EngineCall) :
    (∀ request, CountsAddUp call request ↔ NeutralFree call request) ∧
      ∀ review, ReviewAccepted call review ↔ NeutralFree call (engineRequest review) :=
  ⟨fun _ => countsAddUp_iff,reviewAccepted_iff call⟩

def borderlineRule : SignalRule where
  name := "pmi_borderline"
  condition := "pmi > 45 AND pmi < 55"
  weighted := FloatValue.zero_atMost_one

/-- A neutral definition under the id `mixed`. -/
def neutralRegistry : SignalRegistry :=
  SignalRegistry.register ⟨.empty⟩
    ⟨"mixed","Mixed Signal",.neutral,[borderlineRule],List.cons_ne_nil _ _⟩

def unemploymentSnapshot : MacroSnapshot where
  features := [regionalUnemployment]
  snapshotTime := regionalUnemployment.timestamp
  nonEmpty := List.cons_ne_nil _ _

def neutralCall : EngineCall where
  registry := neutralRegistry
  getSnapshot := fun _ => .ok unemploymentSnapshot
  runId := "run-1"
  executionMs := 1
  now := 0

/-- One signal is generated and none is counted. -/
theorem neutral_uncounted :
    (handleRunSignalEngine neutralCall {requestId := "req-1",signalIds := ["mixed"]}).success ∧
      (handleRunSignalEngine neutralCall
        {requestId := "req-1",signalIds := ["mixed"]}).signalsGenerated = 1 ∧
      ¬CountsAddUp neutralCall {requestId := "req-1",signalIds := ["mixed"]} := by
  refine ⟨by decide +kernel,by decide +kernel,?_⟩
  intro hcounts
  have hsplit := hcounts.split (by decide +kernel)
  exact absurd hsplit (by decide +kernel)

end MacroInvest.Agent
