import MacroInvest.Macro.StartupSeeder
import MacroInvest.Signals.NarrativeLaw

/-! # The explanation registry

The signals route registers one explanation for each of its signals, the narrative route one for
the regime it tells of, and both are read again by their ids and by the ids of their runs. The
registry is a dictionary in memory, so an id has the explanation that came last under it.
-/
namespace MacroInvest.Signals
open Macro Features FixedWidth

section Texts

def SignalType.value : SignalType → String
  | .buy => "buy"
  | .sell => "sell"
  | .hold => "hold"
  | .neutral => "neutral"

def SignalStrength.value : SignalStrength → String
  | .veryWeak => "very_weak"
  | .weak => "weak"
  | .moderate => "moderate"
  | .strong => "strong"
  | .veryStrong => "very_strong"

def ConflictStatus.value : ConflictStatus → String
  | .clean => "clean"
  | .tension => "tension"
  | .mixed => "mixed"
  | .lowConviction => "low_conviction"

/-- `text or default` -/
def orText (text default : String) : String := if text = "" then default else text

/-- What the routes write scores with; here they are exact, there the scores are floats. -/
structure Formats where
  twoPlaces : ℚ → String
  threePlaces : FloatValue → String

def FloatValue.format (decimals : ℕ) : FloatValue → String
  | .number value => formatFixed decimals value
  | .infinite => "inf"
  | .nan => "nan"

/-- The formats of the program, for scores that floats hold exactly. -/
def exactFormats : Formats := ⟨formatFixed 2,FloatValue.format 3⟩

end Texts

section Registry

structure ExplanationResponse where
  explanationId : String
  runId : String
  signalId : Option String := none
  summary : String
  rationalePoints : List String
  caveats : List String := []
  dataQualityNotes : List String := []
  regimeLabel : Option String := none
  regimeContext : List (String × String) := []
  reasoningChain : List ReasoningStep := []
  whatChanged : Option WhatChanged := none
  analystWorkflow : Option (List ReasoningStep) := none
  conflictStatus : String := "clean"
  conflictNote : Option String := none
  quantSupportLevel : String := "unknown"
  generatedAt : ℤ
  trust : TrustMetadata

/-- `InMemoryExplanationStore` -/
structure ExplanationStore where
  store : Dict String ExplanationResponse := .empty

namespace ExplanationStore

def save (repository : ExplanationStore) (explanation : ExplanationResponse) : ExplanationStore :=
  ⟨repository.store.set explanation.explanationId explanation⟩

def getById (repository : ExplanationStore) (explanationId : String) :
    Option ExplanationResponse :=
  repository.store.get? explanationId

def sortedByTime (explanations : List ExplanationResponse) : List ExplanationResponse :=
  explanations.insertionSort (fun a b => a.generatedAt ≤ b.generatedAt)

def listByRunId (repository : ExplanationStore) (runId : String) : List ExplanationResponse :=
  sortedByTime (repository.store.values.filter (fun e => decide (e.runId = runId)))

end ExplanationStore

/-- The id that `build_and_register_explanation` gives. -/
def explanationId (runId : String) (signalId : Option String) : String :=
  match signalId with
  | none => runId
  | some signalId => if signalId = "" then runId else runId ++ ":" ++ signalId

/-- What `build_and_register_explanation` builds. -/
def buildExplanation (runId : String) (signalId : Option String) (summary : String)
    (rationalePoints : List String) (regimeLabel : Option String)
    (regimeContext : List (String × String)) (conflictStatus : String)
    (conflictNote : Option String) (quantSupportLevel : String) (generatedAt : ℤ) :
    ExplanationResponse where
  explanationId := explanationId runId signalId
  runId := runId
  signalId := signalId
  summary := summary
  rationalePoints := rationalePoints
  regimeLabel := regimeLabel
  regimeContext := regimeContext
  conflictStatus := conflictStatus
  conflictNote := conflictNote
  quantSupportLevel := quantSupportLevel
  generatedAt := generatedAt
  trust := ⟨"fresh","full",false⟩

end Registry

section SignalsRoute

/-- What a request to the signals route meets: the regime that the service has, the macro data of
the fallback, the id drawn for the run, its time, and the clock at each registration. -/
structure SignalsQuery where
  country : String
  signalIds : List String := []
  regime : Option MacroRegime
  snapshot : Except String MacroSnapshot
  runId : String
  now : ℤ
  stamps : ℕ → ℤ

def signalRationalePoints (formats : Formats) (regime : MacroRegime)
    (signal : RegimeSignalOutput) : List String :=
  ["Regime: " ++ regime.regimeLabel.value ++ " (" ++ regime.regimeFamily.value ++ ")",
    "Confidence: " ++ regime.confidence.value,
    "Asset class: " ++ orText signal.assetClass "all",
    "Signal direction: " ++ signal.signalType.value,
    "Strength: " ++ signal.strength.value,
    "Score: " ++ formats.twoPlaces signal.score.val] ++
  (if signal.supportingDrivers = [] then [] else
    ["Supporting drivers: " ++ ", ".intercalate signal.supportingDrivers]) ++
  (if signal.conflictingDrivers = [] then [] else
    ["Conflicting drivers: " ++ ", ".intercalate signal.conflictingDrivers]) ++
  (if signal.caveat.getD "" = "" then [] else ["Caveat: " ++ signal.caveat.getD ""])

def signalExplanation (formats : Formats) (regime : MacroRegime) (runId : String)
    (signal : RegimeSignalOutput) (generatedAt : ℤ) : ExplanationResponse :=
  buildExplanation runId (some signal.signalId)
    (orText signal.rationale ("Signal " ++ signal.signalId ++ " evaluated successfully."))
    (signalRationalePoints formats regime signal) (some regime.regimeLabel.value)
    [("label",regime.regimeLabel.value),
      ("family",regime.regimeFamily.value),
      ("confidence",regime.confidence.value),
      ("transition",regime.transition.transitionType.value),
      ("freshness",regime.freshnessStatus.value),
      ("degraded_status",regime.degradedStatus.value)]
    signal.conflict.conflictStatus.value signal.conflict.conflictNote
    signal.conflict.quantSupportLevel generatedAt

/-- What the loop over the signals of a regime registers. -/
def groundedExplanations (formats : Formats) (regime : MacroRegime) (query : SignalsQuery) :
    List ExplanationResponse :=
  (runRegimeGroundedEngine query.runId query.now regime).signals.mapIdx
    (fun i signal => signalExplanation formats regime query.runId signal (query.stamps i))

def rulesPassed (signal : SignalOutput) : ℕ := signal.ruleResults.values.countP id

def fallbackExplanation (formats : Formats) (runId : String) (signal : SignalOutput)
    (generatedAt : ℤ) : ExplanationResponse :=
  buildExplanation runId (some signal.signalId)
    (orText signal.rationale ("Signal " ++ signal.signalId ++ " evaluated (degraded)."))
    ["Fallback: no persisted regime available",
      "signal_type=" ++ signal.signalType.value,
      "strength=" ++ signal.strength.value,
      "score=" ++ formats.threePlaces signal.score,
      "rules_passed=" ++ toString (rulesPassed signal) ++ "/" ++
        toString signal.ruleResults.entries.length]
    none [] "clean" none "unknown" generatedAt

/-- What the fallback registers; a run without signals has one explanation of its own. -/
def fallbackExplanations (formats : Formats) (query : SignalsQuery) (result : SignalResult) :
    List ExplanationResponse :=
  if result.signals = [] then
    [buildExplanation result.runId none
      ("No signals generated for country=" ++ query.country ++ ". No regime available.")
      ["The signal engine completed with an empty result set (no regime)."]
      none [] "clean" none "unknown" (query.stamps 0)]
  else result.signals.mapIdx
    (fun i signal => fallbackExplanation formats result.runId signal (query.stamps i))

def SignalRegistry.listIds (registry : SignalRegistry) : List String := registry.definitions.keys

/-- The definitions that the fallback evaluates. -/
def fallbackDefinitions (registry : SignalRegistry)
    (signalIds : List String) : Except HttpError (List SignalDefinition) :=
  if signalIds = [] then .ok (registry.listIds.filterMap registry.get)
  else
    let missing := signalIds.filter (fun signalId => (registry.get signalId).isNone)
    if missing ≠ [] then
      .error ⟨422,"Unknown signal IDs: " ++ pyReprList missing ++ ". Available: " ++
        pyReprList registry.listIds⟩
    else .ok (signalIds.filterMap registry.get)

/-- The run of the fallback; none where the registry is empty and nothing is run. -/
def fallbackRun (registry : SignalRegistry) (query : SignalsQuery) :
    Except HttpError (Option SignalResult) :=
  match fallbackDefinitions registry query.signalIds with
  | .error e => .error e
  | .ok definitions =>
    if definitions = [] then .ok none
    else
      match query.snapshot with
      | .error e => .error ⟨502,"Macro data service unavailable: " ++ e⟩
      | .ok snapshot =>
        match runEngine query.runId definitions snapshot with
        | .error e => .error ⟨502,"Signal engine error: " ++ e⟩
        | .ok result => .ok (some result)

inductive SignalsAnswer where
  | grounded (response : SignalsLatestResponse)
  | fallback (result : Option SignalResult)
  | failed (error : HttpError)

end SignalsRoute

section NarrativeRoute

/-- A request fails with an answer of its own, or an exception leaves the route. -/
inductive RouteFailure where
  | http (error : HttpError)
  | valueError (text : String)
  deriving DecidableEq

/-- `FreshnessStatus(value)` of the API, which has three of the four members. -/
def apiFreshnessStatus (status : FreshnessStatus) : Except RouteFailure String :=
  match status with
  | .late => .error (.valueError ("'late' is not a valid FreshnessStatus"))
  | status => .ok status.value

/-- The status, the note and the support level of a regime. -/
def regimeConflict (regime : MacroRegime) : String × Option String × String :=
  match quantSupport regime with
  | none => ("clean",none,"unknown")
  | some overallSupport =>
    let quantSupportLevel := quantSupportLabel (some overallSupport)
    if overallSupport < 0.35 then
      ("low_conviction",some ("Quant support is very weak (" ++ quantSupportLevel ++ "). " ++
        "Regime may not be backed by sufficient macroeconomic evidence."),quantSupportLevel)
    else if overallSupport < 0.40 then
      ("tension",some ("Quant support is moderate (" ++ quantSupportLevel ++ "). " ++
        "Some analytical uncertainty in the current classification."),quantSupportLevel)
    else ("clean",none,quantSupportLevel)

/-- The explanation of a regime, where its freshness has a name in the API. -/
def explainRegime (regime : MacroRegime) (generatedAt : ℤ) :
    Except RouteFailure ExplanationResponse := do
  let narrative := buildRegimeNarrative regime
  let conflict := regimeConflict regime
  let reasoningChain := buildReasoningChain narrative conflict.1 conflict.2.1 conflict.2.2
  let freshnessStatus ← apiFreshnessStatus regime.freshnessStatus
  return {
    explanationId := "regime:" ++ regime.regimeId
    runId := regime.regimeId
    summary := narrative.summary
    rationalePoints := narrative.rationalePoints
    caveats := narrative.caveats
    dataQualityNotes := narrative.dataQualityNotes
    regimeLabel := some narrative.regimeLabel
    regimeContext := narrative.regimeContext
    reasoningChain := reasoningChain
    whatChanged := buildWhatChanged regime.transition
    analystWorkflow := some reasoningChain
    conflictStatus := conflict.1
    conflictNote := conflict.2.1
    quantSupportLevel := conflict.2.2
    generatedAt := generatedAt
    trust := ⟨freshnessStatus,
      if regime.degradedStatus = .none then "full" else "partial",
      decide (regime.freshnessStatus ∈ [.stale,.unknown]) ||
        decide (regime.degradedStatus ≠ .none)⟩ }

/-- `GET /api/explanations/regime/latest`, from what the regime service answers. -/
def getRegimeExplanation (latest : Except String (Option MacroRegime)) (generatedAt : ℤ) :
    Except RouteFailure ExplanationResponse :=
  match latest with
  | .error e => .error (.http ⟨502,e⟩)
  | .ok none =>
    .error (.http ⟨404,"No persisted regime available for narrative explanation."⟩)
  | .ok (some regime) => explainRegime regime generatedAt

/-- `GET /api/explanations/{explanation_id}` -/
def getExplanation (repository : ExplanationStore) (id : String) :
    Except HttpError ExplanationResponse :=
  match repository.getById id with
  | none => .error ⟨404,"Explanation '" ++ id ++ "' not found."⟩
  | some explanation => .ok explanation

end NarrativeRoute

section Calls

inductive ExplanationCall where
  | latestSignals (query : SignalsQuery)
  | regimeExplanation (latest : Except String (Option MacroRegime)) (generatedAt : ℤ)
  | getExplanation (explanationId : String)
  | listExplanationsByRun (runId : String)

inductive ExplanationAnswer where
  | signals (answer : SignalsAnswer)
  | regime (answer : Except RouteFailure ExplanationResponse)
  | explanation (answer : Except HttpError ExplanationResponse)
  | explanations (answer : List ExplanationResponse)

namespace ExplanationStore
variable (formats : Formats) (registry : SignalRegistry)

def saveAll (repository : ExplanationStore) (explanations : List ExplanationResponse) :
    ExplanationStore :=
  explanations.foldl save repository

/-- `GET /api/signals/latest` with its registrations. -/
def latestSignals (repository : ExplanationStore) (query : SignalsQuery) :
    ExplanationStore × SignalsAnswer :=
  match query.regime with
  | some regime => (repository.saveAll (groundedExplanations formats regime query),
      .grounded (groundedResponse regime query.country query.runId query.now))
  | none =>
    match fallbackRun registry query with
    | .error e => (repository,.failed e)
    | .ok none => (repository,.fallback none)
    | .ok (some result) =>
      (repository.saveAll (fallbackExplanations formats query result),.fallback (some result))

def step (repository : ExplanationStore) :
    ExplanationCall → ExplanationStore × ExplanationAnswer
  | .latestSignals query =>
    let answered := repository.latestSignals formats registry query
    (answered.1,.signals answered.2)
  | .regimeExplanation latest generatedAt =>
    match getRegimeExplanation latest generatedAt with
    | .error e => (repository,.regime (.error e))
    | .ok explanation => (repository.save explanation,.regime (.ok explanation))
  | .getExplanation explanationId =>
    (repository,.explanation (Signals.getExplanation repository explanationId))
  | .listExplanationsByRun runId => (repository,.explanations (repository.listByRunId runId))

end ExplanationStore

end Calls

end MacroInvest.Signals
