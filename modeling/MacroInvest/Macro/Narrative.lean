import MacroInvest.Macro.ChangeDetection

/-! # The narrative of a regime

A regime is told in a summary, in points, in caveats and in notes on its data, and the reasoning
chain is read off the narrative. The chain finds the states among the points by the names of the
dimensions; one of these names is spelled differently in the two.
-/
namespace MacroInvest.Macro

section Narrative

def labelSummary : RegimeLabel → String
  | .goldilocks =>
    "The macro environment is in a Goldilocks regime: growth is accelerating, " ++
      "inflation is cooling, and monetary policy is broadly neutral. " ++
      "This is the most favourable backdrop for risk assets."
  | .disinflation =>
    "A Disinflation regime is underway: inflation is retreating while growth " ++
      "remains mixed or slowing. Rate pressure is easing, benefiting duration assets, " ++
      "but growth momentum is insufficient to strongly support equities."
  | .reflation =>
    "A Reflation regime is emerging: inflation is re-accelerating alongside " ++
      "improving growth and accommodative policy. This supports cyclical assets, " ++
      "commodities, and inflation-linked instruments while pressuring nominal bonds."
  | .slowdown =>
    "A Slowdown regime is in effect: growth is decelerating and the labour market " ++
      "is softening. The risk of a further growth deterioration is elevated. " ++
      "Defensive positioning and duration extension are favoured."
  | .stagflationRisk =>
    "Stagflation risk is elevated: growth is slowing while inflation is re-accelerating " ++
      "and the labour market is weakening. This is the most challenging regime for " ++
      "traditional portfolios — both equities and bonds face headwinds."
  | .contraction =>
    "A Contraction regime has been identified: broad growth is contracting, " ++
      "financial conditions are tight, and the labour market is weak. " ++
      "Maximum risk-off posture is warranted; flight to quality and duration extension " ++
      "are appropriate."
  | .policyTighteningDrag =>
    "Policy Tightening Drag is the prevailing regime: restrictive monetary policy " ++
      "and tight financial conditions are weighing on growth. " ++
      "Multiples are compressed; avoid extending duration or adding cyclical risk " ++
      "until a policy pivot is confirmed."
  | .mixed =>
    "Mixed macro signals are preventing a clear regime classification. " ++
      "Opposing forces across growth, inflation, labour, and financial conditions " ++
      "reduce the reliability of any directional call. " ++
      "Maintain a balanced, diversified allocation until the picture clarifies."
  | .unclear =>
    "The macro regime is unclear. Insufficient or stale data is preventing reliable " ++
      "classification. No high-conviction signal can be derived from the current " ++
      "macro state. Refresh data sources and re-evaluate before acting."

def confidenceNarrative : RegimeConfidence → String
  | .high =>
    "Regime confidence is HIGH — all key indicators are fresh and non-conflicting."
  | .medium =>
    "Regime confidence is MEDIUM — some indicators are late or partially missing, " ++
      "introducing moderate uncertainty."
  | .low =>
    "Regime confidence is LOW — significant data gaps, staleness, or conflicting " ++
      "signals reduce the reliability of this classification."

def freshnessNote : FreshnessStatus → String
  | .fresh => "All underlying data is fresh."
  | .late => "Some underlying data is late; results may not reflect the latest releases."
  | .stale => "Underlying data is stale; this regime classification may be outdated."
  | .unknown => "Data freshness is unknown; treat this regime with caution."

def degradedNote : DegradedStatus → String
  | .none => ""
  | .partialData => "Some indicators are missing; the regime is derived from partial data."
  | .missing =>
    "Critical indicators are missing; this regime is derived from a degraded snapshot."
  | .sourceUnavailable =>
    "Data source is unavailable; the regime reflects the last available snapshot only."
  | .unknown => "Degraded status is unknown."

/-- The names of the narrative; the chain has its own. -/
def narrativeStateLabels : List (String × String) :=
  [("growth_state","Growth"),("inflation_state","Inflation"),("labor_state","Labour"),
    ("policy_state","Policy"),("financial_conditions_state","Financial Conditions")]

structure RegimeNarrative where
  summary : String
  rationalePoints : List String
  caveats : List String
  dataQualityNotes : List String
  regimeLabel : String
  regimeContext : List (String × String)

def narrativeSummary (regime : MacroRegime) : String :=
  let note := degradedNote regime.degradedStatus
  " ".intercalate [labelSummary regime.regimeLabel,confidenceNarrative regime.confidence,
    if note ≠ "" then note else freshnessNote regime.freshnessStatus]

def transitionPoint (transition : RegimeTransition) : String :=
  match transition.transitionFromPrior with
  | some prior => "Transition from prior: " ++ prior ++ " (" ++ transition.transitionType.value ++ ")"
  | none => "Transition: " ++ transition.transitionType.value

def narrativePoints (regime : MacroRegime) : List String :=
  ["Regime: " ++ regime.regimeLabel.value ++ " (family: " ++ regime.regimeFamily.value ++ ")",
    "As of date: " ++ regime.asOfDate.isoformat] ++
  narrativeStateLabels.map (fun p =>
    p.2 ++ ": " ++ (regime.supportingStates.lookup p.1).getD "unknown") ++
  ["Confidence: " ++ regime.confidence.value,transitionPoint regime.transition]

def narrativeCaveats (regime : MacroRegime) : List String :=
  (if regime.transition.transitionType.value = "initial" then
    ["No prior regime baseline available — transition analysis cannot be performed."] else []) ++
  (if regime.confidence = .low then
    ["Low confidence classification — treat this regime as indicative only. " ++
      "Do not base high-conviction trades on this signal alone."] else []) ++
  (if regime.regimeLabel ∈ [.mixed,.unclear] then
    ["This is a non-directional regime (mixed/unclear) — no asset-level signals " ++
      "can be derived with meaningful confidence."] else []) ++
  (if regime.missingInputs = [] then [] else
    ["Regime derived from partial data (" ++ toString regime.missingInputs.length ++
      " missing indicators). " ++ "Classification accuracy may be lower than usual."])

def narrativeNotes (regime : MacroRegime) : List String :=
  (if regime.freshnessStatus ≠ .fresh then
    ["Data freshness: " ++ regime.freshnessStatus.value ++ ". " ++
      freshnessNote regime.freshnessStatus] else []) ++
  (if regime.degradedStatus ∈ [.none,.unknown] then [] else
    ["Snapshot quality: " ++ regime.degradedStatus.value ++ ". " ++
      degradedNote regime.degradedStatus]) ++
  (if regime.missingInputs = [] then [] else
    ["Missing inputs: " ++ ", ".intercalate regime.missingInputs ++ ". " ++
      "These indicators were not available when the regime was classified."]) ++
  (if regime.metadata.lookup "seeded" = some "true" then
    ["Bootstrap data: this regime was generated from synthetic seed data by the " ++
      "startup seeder. It does not reflect a real ingestion pipeline run."] else [])

def narrativeContext (regime : MacroRegime) : List (String × String) :=
  [("regime_id",regime.regimeId),
    ("label",regime.regimeLabel.value),
    ("family",regime.regimeFamily.value),
    ("confidence",regime.confidence.value),
    ("transition",regime.transition.transitionType.value),
    ("freshness",regime.freshnessStatus.value),
    ("degraded_status",regime.degradedStatus.value),
    ("supporting_snapshot_id",regime.supportingSnapshotId),
    ("transition_from_prior",regime.transition.transitionFromPrior.getD ""),
    ("is_seeded",(regime.metadata.lookup "seeded").getD "false"),
    ("data_source",(regime.metadata.lookup "source").getD "")]

def buildRegimeNarrative (regime : MacroRegime) : RegimeNarrative where
  summary := narrativeSummary regime
  rationalePoints := narrativePoints regime
  caveats := narrativeCaveats regime
  dataQualityNotes := narrativeNotes regime
  regimeLabel := regime.regimeLabel.value
  regimeContext := narrativeContext regime

end Narrative

section Chain

structure ReasoningStep where
  step : ℕ
  key : String
  label : String
  value : String
  detail : Option String
  deriving DecidableEq

def reasoningStepKeys : List String :=
  ["current_state","why","confidence","conflict","caveats","what_changed"]

/-- The names of the chain. -/
def chainStateLabels : List (String × String) :=
  [("growth_state","Growth"),("inflation_state","Inflation"),("labor_state","Labor"),
    ("policy_state","Policy"),("financial_conditions_state","Financial Conditions")]

/-- `sub in text` -/
def contains (text sub : String) : Bool := decide (sub.toList <:+: text.toList)

/-- A point that names a dimension. -/
def namesState (point : String) : Bool :=
  chainStateLabels.any (fun p => contains point p.2)

/-- The states of the context, and the points that name a dimension where it has none. -/
def stateParts (narrative : RegimeNarrative) : List String :=
  let parts := chainStateLabels.filterMap (fun p =>
    (narrative.regimeContext.lookup p.1).map (fun state => p.2 ++ ": " ++ state))
  if parts = [] then narrative.rationalePoints.filter namesState else parts

def confidenceDetail (confidence : String) : String :=
  (([("high","All key indicators are fresh and non-conflicting."),
    ("medium","Some indicators are late or partially missing."),
    ("low","Significant data gaps, staleness, or conflicting signals present.")] :
      List (String × String)).lookup confidence).getD "Confidence level uncertain."

def buildReasoningChain (narrative : RegimeNarrative) (conflictStatus : String)
    (conflictNote : Option String) (quantSupportLevel : String) : List ReasoningStep :=
  let get := fun key default => (narrative.regimeContext.lookup key).getD default
  let label := get "label" "unknown"
  let confidence := get "confidence" "unknown"
  let transition := get "transition" "initial"
  let prior := get "transition_from_prior" ""
  let parts := stateParts narrative
  let conflictDetail := if conflictNote = none ∧ conflictStatus ≠ "clean" then
    some ("Quant support: " ++ quantSupportLevel ++ ".") else conflictNote
  let initial := transition = "initial" ∨ prior = ""
  let opening := String.ofList (narrative.summary.toList.take 200)
  [{ step := 1, key := "current_state", label := "Current State"
     value := label ++ " (" ++ get "family" "unknown" ++ " family)"
     detail := if opening = "" then none else some opening },
   { step := 2, key := "why", label := "Why"
     value := "Regime: " ++ label
     detail := some (if parts = [] then "See rationale points." else "; ".intercalate parts) },
   { step := 3, key := "confidence", label := "Confidence"
     value := confidence
     detail := some (confidenceDetail confidence) },
   { step := 4, key := "conflict", label := "Conflict"
     value := conflictStatus
     detail := conflictDetail },
   { step := 5, key := "caveats", label := "Caveats"
     value := if narrative.caveats = [] then "none"
       else toString narrative.caveats.length ++ " caveat(s)"
     detail := if narrative.caveats = [] then none
       else some (" | ".intercalate narrative.caveats) },
   { step := 6, key := "what_changed", label := "What Changed"
     value := if initial then "initial (no prior baseline)"
       else transition ++ " from " ++ prior
     detail := some (if initial then
         "No prior regime available — transition analysis cannot be performed."
       else "Regime transitioned from '" ++ prior ++ "' (" ++ transition ++
         "). Current label: '" ++ label ++ "'.") }]

end Chain

section Points

theorem contains_false {text sub : String} {c : Char} (hsub : c ∈ sub.toList)
    (htext : c ∉ text.toList) : contains text sub = false := by
  rw [contains,decide_eq_false_iff_not]
  exact fun h => htext (h.subset hsub)

/-- The first letters of the dimensions. -/
def initials : List Char := ['G','I','L','P','F']

/-- A text without these letters, which can name no dimension. -/
def Plain (text : String) : Prop := ∀ c ∈ initials, c ∉ text.toList

theorem plain_of_all {text : String}
    (h : initials.all (fun c => !text.toList.contains c) = true) : Plain text := by
  intro c hc
  simpa using List.all_eq_true.mp h c hc

theorem Plain.append {a b : String} (ha : Plain a) (hb : Plain b) : Plain (a ++ b) := by
  intro c hc hmem
  rw [String.toList_append] at hmem
  exact (List.mem_append.mp hmem).elim (ha c hc) (hb c hc)

theorem Plain.unnamed {point : String} (h : Plain point) : namesState point = false := by
  simp only [namesState,chainStateLabels,List.any_cons,List.any_nil]
  rw [contains_false (c := 'G') (by decide) (h _ (by decide)),
    contains_false (c := 'I') (by decide) (h _ (by decide)),
    contains_false (c := 'L') (by decide) (h _ (by decide)),
    contains_false (c := 'P') (by decide) (h _ (by decide)),
    contains_false (c := 'F') (by decide) (h _ (by decide))]
  rfl

theorem plain_digits (width n : ℕ) : Plain (Date.digits width n) := by
  have hlist : (toString n).toList = Nat.toDigits 10 n := Nat.toList_repr
  intro c hc hmem
  rw [Date.digits,String.toList_append,List.mem_append,String.toList_ofList,hlist] at hmem
  rcases hmem with hzero | hdigit
  · rw [List.eq_of_mem_replicate hzero] at hc
    exact absurd hc (by decide)
  · have hisDigit := Nat.isDigit_of_mem_toDigits (by decide) (by decide) hdigit
    fin_cases hc <;> exact absurd hisDigit (by decide)

theorem plain_isoformat (d : Date) : Plain d.isoformat := by
  have hdash : Plain "-" := plain_of_all (by decide)
  exact ((((plain_digits _ _).append hdash).append (plain_digits _ _)).append hdash).append
    (plain_digits _ _)

theorem plain_label (l : RegimeLabel) : Plain l.value := by
  cases l <;> exact plain_of_all (by decide)

theorem plain_family (f : RegimeFamily) : Plain f.value := by
  cases f <;> exact plain_of_all (by decide)

theorem plain_confidence (c : RegimeConfidence) : Plain c.value := by
  cases c <;> exact plain_of_all (by decide)

theorem plain_transitionType (t : RegimeTransitionType) : Plain t.value := by
  cases t <;> exact plain_of_all (by decide)

/-- A transition from a label, or from nothing, names no dimension. -/
theorem plain_transition {t : RegimeTransition}
    (h : t.transitionFromPrior = none ∨ ∃ l : RegimeLabel, t.transitionFromPrior = some l.value) :
    Plain (transitionPoint t) := by
  have htype := plain_transitionType t.transitionType
  rcases h with hnone | ⟨l,hprior⟩
  · rw [transitionPoint,hnone]
    exact (plain_of_all (by decide)).append htype
  · rw [transitionPoint,hprior]
    exact ((((plain_of_all (by decide)).append (plain_label l)).append
      (plain_of_all (by decide))).append htype).append (plain_of_all (by decide))

theorem derived_prior (current : MacroRegime) (prior : Option MacroRegime) :
    (deriveRegimeTransition current prior).transitionFromPrior =
      prior.map (fun p => p.regimeLabel.value) := by
  cases prior with
  | none => rfl
  | some p =>
    unfold deriveRegimeTransition
    dsimp only
    split_ifs <;> rfl

variable {s : MacroSnapshotState} {regime : MacroRegime}

/-- What the context is keyed by; no state is among it. -/
def contextKeys : List String :=
  ["regime_id","label","family","confidence","transition","freshness","degraded_status",
    "supporting_snapshot_id","transition_from_prior","is_seeded","data_source"]

/-- The states that a regime of this snapshot carries. -/
def statesOf (s : MacroSnapshotState) : List (String × String) :=
  [("growth_state",s.growthState.value),("inflation_state",s.inflationState.value),
    ("labor_state",s.laborState.value),("policy_state",s.policyState.value),
    ("financial_conditions_state",s.financialConditionsState.value)]

theorem statePoints (hstates : regime.supportingStates = statesOf s) :
    narrativeStateLabels.map (fun p =>
      p.2 ++ ": " ++ (regime.supportingStates.lookup p.1).getD "unknown") =
    ["Growth: " ++ s.growthState.value,"Inflation: " ++ s.inflationState.value,
      "Labour: " ++ s.laborState.value,"Policy: " ++ s.policyState.value,
      "Financial Conditions: " ++ s.financialConditionsState.value] := by
  rw [hstates]
  rfl

/-- Of the five state points the chain finds all but that of labour. -/
theorem namedPoints (s : MacroSnapshotState) :
    ["Growth: " ++ s.growthState.value,"Inflation: " ++ s.inflationState.value,
      "Labour: " ++ s.laborState.value,"Policy: " ++ s.policyState.value,
      "Financial Conditions: " ++ s.financialConditionsState.value].filter namesState =
    ["Growth: " ++ s.growthState.value,"Inflation: " ++ s.inflationState.value,
      "Policy: " ++ s.policyState.value,
      "Financial Conditions: " ++ s.financialConditionsState.value] := by
  have hgrowth : namesState ("Growth: " ++ s.growthState.value) = true := by
    cases s.growthState <;> decide +kernel
  have hinflation : namesState ("Inflation: " ++ s.inflationState.value) = true := by
    cases s.inflationState <;> decide +kernel
  have hlabor : namesState ("Labour: " ++ s.laborState.value) = false := by
    cases s.laborState <;> decide +kernel
  have hpolicy : namesState ("Policy: " ++ s.policyState.value) = true := by
    cases s.policyState <;> decide +kernel
  have hfinancial :
      namesState ("Financial Conditions: " ++ s.financialConditionsState.value) = true := by
    cases s.financialConditionsState <;> decide +kernel
  simp [hgrowth,hinflation,hlabor,hpolicy,hfinancial]

theorem context_lacks {key : String} (h : key ∉ contextKeys) :
    (narrativeContext regime).lookup key = none := by
  rw [List.lookup_eq_none_iff]
  intro p hp
  have hkey : p.1 ∈ contextKeys := List.mem_map_of_mem (f := Prod.fst) hp
  simpa using fun heq : key = p.1 => h (heq ▸ hkey)

theorem chainStates_foreign : ∀ p ∈ chainStateLabels, p.1 ∉ contextKeys := by
  decide +kernel

/-- What the chain finds of the states of a regime that the service built. -/
theorem stateParts_eq (hstates : regime.supportingStates = statesOf s)
    (hprior : regime.transition.transitionFromPrior = none ∨
      ∃ l : RegimeLabel, regime.transition.transitionFromPrior = some l.value) :
    stateParts (buildRegimeNarrative regime) =
      ["Growth: " ++ s.growthState.value,"Inflation: " ++ s.inflationState.value,
        "Policy: " ++ s.policyState.value,
        "Financial Conditions: " ++ s.financialConditionsState.value] := by
  have hcontext : chainStateLabels.filterMap (fun p =>
      ((narrativeContext regime).lookup p.1).map (fun state => p.2 ++ ": " ++ state)) = [] := by
    refine List.filterMap_eq_nil_iff.mpr ?_
    intro p hp
    rw [context_lacks (chainStates_foreign p hp),Option.map_none]
  simp only [stateParts,buildRegimeNarrative,hcontext,if_true,narrativePoints,statePoints hstates]
  rw [List.filter_append,List.filter_append,namedPoints]
  have hregime : Plain "Regime: " := plain_of_all (by decide)
  have hopen : Plain " (family: " := plain_of_all (by decide)
  have hclose : Plain ")" := plain_of_all (by decide)
  have hasOf : Plain "As of date: " := plain_of_all (by decide)
  have hlevel : Plain "Confidence: " := plain_of_all (by decide)
  have hlabel := ((((hregime.append (plain_label regime.regimeLabel)).append hopen).append
    (plain_family regime.regimeFamily)).append hclose).unnamed
  have hdate := (hasOf.append (plain_isoformat regime.asOfDate)).unnamed
  have hconfidence := (hlevel.append (plain_confidence regime.confidence)).unnamed
  simp only [List.filter_cons,List.filter_nil,hlabel,hdate,hconfidence,
    (plain_transition hprior).unnamed]
  simp

end Points

end MacroInvest.Macro
