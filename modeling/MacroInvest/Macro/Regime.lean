import MacroInvest.Macro.Scoring

/-! # Macro regimes

A regime names the label its snapshot maps to by rules tried in order. It carries the label's
family and a named snapshot as fields, so a regime that its schema would refuse is not a value.
-/
namespace MacroInvest.Macro

inductive RegimeLabel where
  | goldilocks
  | disinflation
  | slowdown
  | reflation
  | stagflationRisk
  | contraction
  | policyTighteningDrag
  | mixed
  | unclear
  deriving DecidableEq, Repr

inductive RegimeFamily where
  | expansion
  | inflationTransition
  | lateCycle
  | downshift
  | contraction
  | uncertain
  deriving DecidableEq, Repr

inductive RegimeConfidence where
  | high
  | medium
  | low
  deriving DecidableEq, Repr

inductive RegimeTransitionType where
  | initial
  | unchanged
  | shift
  | weakening
  | strengthening
  | unknown
  deriving DecidableEq, Repr

def RegimeLabel.value : RegimeLabel → String
  | .goldilocks => "goldilocks"
  | .disinflation => "disinflation"
  | .slowdown => "slowdown"
  | .reflation => "reflation"
  | .stagflationRisk => "stagflation_risk"
  | .contraction => "contraction"
  | .policyTighteningDrag => "policy_tightening_drag"
  | .mixed => "mixed"
  | .unclear => "unclear"

theorem RegimeLabel.value_injective : Function.Injective RegimeLabel.value := by
  intro a b h
  cases a <;> cases b <;> first | rfl | exact absurd h (by decide)

def regimeFamilyForLabel : RegimeLabel → RegimeFamily
  | .goldilocks => .expansion
  | .disinflation => .inflationTransition
  | .slowdown => .downshift
  | .reflation => .inflationTransition
  | .stagflationRisk => .lateCycle
  | .contraction => .contraction
  | .policyTighteningDrag => .lateCycle
  | .mixed => .uncertain
  | .unclear => .uncertain

structure RegimeTransition where
  transitionFromPrior : Option String := none
  transitionType : RegimeTransitionType := .unknown
  changed : Bool := false
  deriving DecidableEq, Repr

structure MacroRegime where
  regimeId : String
  asOfDate : Date
  regimeTimestamp : ℤ
  regimeLabel : RegimeLabel
  regimeFamily : RegimeFamily
  supportingSnapshotId : String
  supportingStates : List (String × String)
  confidence : RegimeConfidence
  freshnessStatus : FreshnessStatus
  degradedStatus : DegradedStatus
  missingInputs : List String
  quantScores : Option QuantScoreBundle
  transition : RegimeTransition := {}
  rationaleSummary : String
  warnings : List String
  metadata : List (String × String) := []
  labelFamilyAligned : regimeFamily = regimeFamilyForLabel regimeLabel
  snapshotNamed : supportingSnapshotId ≠ ""
  deriving DecidableEq

def hasUnknownState (snapshot : MacroSnapshotState) : Bool := snapshot.states.any isUnknown

def mapSnapshotToRegimeLabel (s : MacroSnapshotState) : RegimeLabel :=
  if s.degradedStatus ∈ [.missing,.sourceUnavailable] then .unclear
  else if s.freshnessStatus ∈ [.stale,.unknown] then .unclear
  else if hasUnknownState s then .mixed
  else if s.growthState = .accelerating ∧ s.inflationState = .cooling ∧
      s.laborState ∈ [.tight,.softening] ∧ s.policyState ∈ [.neutral,.easingBias] ∧
      s.financialConditionsState ∈ [.neutral,.loose] then .goldilocks
  else if s.inflationState = .cooling ∧ s.growthState ∈ [.mixed,.slowing] then .disinflation
  else if s.growthState = .slowing ∧ s.laborState = .weak ∧ s.policyState = .restrictive ∧
      s.financialConditionsState = .tight then .contraction
  else if s.policyState = .restrictive ∧ s.financialConditionsState = .tight ∧
      s.growthState ∈ [.slowing,.mixed] then .policyTighteningDrag
  else if s.growthState = .slowing ∧ s.inflationState = .reaccelerating ∧
      s.laborState ∈ [.softening,.weak] then .stagflationRisk
  else if s.inflationState = .reaccelerating ∧ s.growthState ∈ [.accelerating,.mixed] ∧
      s.policyState = .easingBias then .reflation
  else if s.growthState = .slowing ∧ s.laborState ∈ [.softening,.weak] ∧
      s.inflationState ∈ [.sticky,.cooling] then .slowdown
  else .mixed

def mapSnapshotToRegime (snapshot : MacroSnapshotState) : RegimeLabel × RegimeFamily :=
  let label := mapSnapshotToRegimeLabel snapshot
  (label,regimeFamilyForLabel label)

def buildRegimeRationale (snapshot : MacroSnapshotState) (label : RegimeLabel) : String :=
  "growth=" ++ snapshot.growthState.value ++ ", inflation=" ++ snapshot.inflationState.value ++
    ", labor=" ++ snapshot.laborState.value ++ ", policy=" ++ snapshot.policyState.value ++
    ", financial_conditions=" ++ snapshot.financialConditionsState.value ++
    ", label=" ++ label.value

/-- The level before labels and scores are looked at; unknown states override the caps. -/
def inputConfidence (snapshot : MacroSnapshotState) : RegimeConfidence :=
  if snapshot.unknownCount = 1 then .medium
  else if 0 < snapshot.unknownCount then .low
  else if snapshot.degradedStatus = .partialData ∨ snapshot.freshnessStatus = .late then .medium
  else .high

def downgrade : RegimeConfidence → RegimeConfidence
  | .high => .medium
  | _ => .low

/-- Narrow coverage caps at medium, weak support takes one more level off. -/
def adjustConfidence (scores : QuantScoreBundle) (confidence : RegimeConfidence) :
    RegimeConfidence :=
  let capped := if scores.breadth.val < 0.60 ∧ confidence = .high then .medium else confidence
  if scores.overallSupport.val < 0.40 then downgrade capped else capped

def deriveRegimeConfidence (snapshot : MacroSnapshotState) (label : RegimeLabel)
    (quantScores : Option QuantScoreBundle) : RegimeConfidence :=
  if snapshot.degradedStatus ∈ [.missing,.sourceUnavailable] then .low
  else if snapshot.freshnessStatus ∈ [.stale,.unknown] then .low
  else if label ∈ [.mixed,.unclear] then .low
  else
    let confidence := inputConfidence snapshot
    match quantScores with
    | none => confidence
    | some scores => if confidence = .low then .low else adjustConfidence scores confidence

def deriveRegimeMissingInputs (snapshot : MacroSnapshotState) : List String :=
  snapshot.missingIndicators

def freshnessWarnings : FreshnessStatus → List String
  | .stale => ["Stale data: underlying indicators are older than the expected " ++
      "update window.  This regime classification may be outdated."]
  | .late => ["Late data: some indicators have not been updated within their " ++
      "expected window.  Regime accuracy may be reduced."]
  | .unknown => ["Data freshness unknown: unable to confirm whether underlying " ++
      "indicators are current.  Treat this regime with caution."]
  | .fresh => []

def degradedWarnings : DegradedStatus → List String
  | .missing => ["Critical data missing: the regime was derived from a severely " ++
      "incomplete snapshot.  Classification accuracy is significantly reduced."]
  | .partialData => ["Partial data: some indicators were missing when this regime was " ++
      "built.  Classification may be less reliable than usual."]
  | .sourceUnavailable => ["Data source unavailable: regime reflects the last available " ++
      "snapshot.  Real-time conditions may have changed."]
  | .none => []
  | .unknown => []

def missingInputWarnings (missingInputs : List String) : List String :=
  let count := missingInputs.length
  let suffix := if 3 < count then " and " ++ toString (count - 3) ++ " more" else ""
  if missingInputs.isEmpty then [] else
    ["Missing " ++ toString count ++ " indicator(s): " ++
      ", ".intercalate (missingInputs.take 3) ++ suffix ++ ". " ++
      "Regime derived from partial evidence."]

def deriveRegimeWarnings (snapshot : MacroSnapshotState) (label : RegimeLabel)
    (confidence : RegimeConfidence) (missingInputs : List String) (isSeeded : Bool) :
    List String :=
  (if isSeeded then ["Bootstrap data: this regime was generated from synthetic seed data " ++
    "and does not reflect a real ingestion pipeline run."] else []) ++
  freshnessWarnings snapshot.freshnessStatus ++ degradedWarnings snapshot.degradedStatus ++
  missingInputWarnings missingInputs ++
  (if confidence = .low then ["Low confidence: conflicting or insufficient signals reduce the " ++
    "reliability of this regime label.  Do not base high-conviction " ++
    "decisions on this classification alone."] else []) ++
  (if label ∈ [.mixed,.unclear] then [
    "Non-directional regime (mixed/unclear): no asset-level signals " ++
    "can be derived with meaningful confidence from this classification."] else [])

def confidenceRank : RegimeConfidence → ℕ
  | .low => 1
  | .medium => 2
  | .high => 3

def deriveRegimeTransition (current : MacroRegime) (previous : Option MacroRegime) :
    RegimeTransition :=
  match previous with
  | none => ⟨none,.initial,false⟩
  | some previous =>
    if current.regimeLabel ≠ previous.regimeLabel then
      ⟨some previous.regimeLabel.value,.shift,true⟩
    else if confidenceRank previous.confidence < confidenceRank current.confidence then
      ⟨some previous.regimeLabel.value,.strengthening,true⟩
    else if confidenceRank current.confidence < confidenceRank previous.confidence then
      ⟨some previous.regimeLabel.value,.weakening,true⟩
    else ⟨some previous.regimeLabel.value,.unchanged,false⟩

def MacroRegime.setTransition (regime : MacroRegime) (transition : RegimeTransition) :
    MacroRegime := { regime with transition := transition }

/-- A transition depends on the current regime through its label and its confidence. -/
theorem deriveRegimeTransition_congr {a b : MacroRegime} (hlabel : a.regimeLabel = b.regimeLabel)
    (hconfidence : a.confidence = b.confidence) (previous : Option MacroRegime) :
    deriveRegimeTransition a previous = deriveRegimeTransition b previous := by
  cases previous with
  | none => rfl
  | some previous => simp only [deriveRegimeTransition,hlabel,hconfidence]

end MacroInvest.Macro
