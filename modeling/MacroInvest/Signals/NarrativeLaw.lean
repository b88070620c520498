import MacroInvest.Macro.Narrative
import MacroInvest.Signals.RegimeGrounded

/-! # What the narrative of a regime tells

The confidence of a label with a direction is a table of two bits: whether the data is late or
partial, and whether the quant support is weak. The chain tells of four of the five states, and
it tells of no caveats where there is a baseline, some confidence and nothing missing.
-/
namespace MacroInvest.Signals
open Macro CallRun

section Confidence
variable {s : MacroSnapshotState}

/-- The data is late or partial. -/
def Worn (s : MacroSnapshotState) : Prop :=
  s.degradedStatus = .partialData ∨ s.freshnessStatus = .late

/-- The support of the scores is below the lower bound of a moderate one. -/
def WeaklySupported (s : MacroSnapshotState) : Prop := (scoreSnapshot s).overallSupport.val < 0.40

instance (s : MacroSnapshotState) : Decidable (Worn s) := inferInstanceAs (Decidable (_ ∨ _))
instance (s : MacroSnapshotState) : Decidable (WeaklySupported s) :=
  inferInstanceAs (Decidable (_ < _))

theorem breadth_of_usable (h : Usable s) : (scoreSnapshot s).breadth.val = 1 := by
  obtain ⟨hgrowth,hinflation,hlabor,hpolicy,hfinancial⟩ := states_known h
  have hg : (growthScores s.growthState).isSome := by
    revert hgrowth
    cases s.growthState <;> simp [growthScores]
  have hi : (inflationScores s.inflationState).isSome := by
    revert hinflation
    cases s.inflationState <;> simp [inflationScores]
  have hl : (laborScores s.laborState).isSome := by
    revert hlabor
    cases s.laborState <;> simp [laborScores]
  have hp : (policyScores s.policyState).isSome := by
    revert hpolicy
    cases s.policyState <;> simp [policyScores]
  have hf : (finConditionsScores s.financialConditionsState).isSome := by
    revert hfinancial
    cases s.financialConditionsState <;> simp [finConditionsScores]
  simp [scoreSnapshot,computeBreadth,fraction,knownScores,scoreGrowth,scoreInflation,scoreLabor,
    scorePolicy,scoreFinancialConditions,dimensionScore,hg,hi,hl,hp,hf]

theorem inputConfidence_of_usable (h : Usable s) :
    inputConfidence s = if Worn s then .medium else .high := by
  have hcount : s.unknownCount = 0 := by
    have hnone := h.2.2
    rw [hasUnknownState,List.any_eq_false] at hnone
    exact List.countP_eq_zero.mpr hnone
  unfold inputConfidence
  rw [hcount]
  simp only [zero_ne_one,if_false,lt_irrefl]
  rfl

/-- The table of the confidence of a label with a direction. -/
theorem confidence_table (hlabel : mapSnapshotToRegimeLabel s ∉ [RegimeLabel.mixed,.unclear]) :
    snapshotConfidence s =
      if Worn s then if WeaklySupported s then .low else .medium
      else if WeaklySupported s then .medium else .high := by
  have hs := usable_of_label hlabel
  have hbreadth : ¬(scoreSnapshot s).breadth.val < 0.60 := by
    rw [breadth_of_usable hs]
    norm_num
  rw [confidence_of_usable hs hlabel,inputConfidence_of_usable hs]
  by_cases hworn : Worn s <;> by_cases hweak : WeaklySupported s
  all_goals
    have hlow := hweak
    unfold WeaklySupported at hlow
    simp [adjustConfidence,downgrade,hworn,hweak,hbreadth,hlow]

end Confidence

section Told
variable {s : MacroSnapshotState}

/-- The value of a step of the chain. -/
def stepValue (chain : List ReasoningStep) (key : String) : Option String :=
  (chain.find? (fun step => step.key = key)).map (·.value)

def stepDetail (chain : List ReasoningStep) (key : String) : Option String :=
  (chain.find? (fun step => step.key = key)).bind (·.detail)

/-- What narrative and chain tell of a regime built from this snapshot after this baseline. -/
structure Told (s : MacroSnapshotState) (prior : Option MacroRegime) (regime : MacroRegime)
    (chain : List ReasoningStep) : Prop where
  keys : chain.map (·.key) = reasoningStepKeys
  steps : chain.map (·.step) = [1,2,3,4,5,6]
  why : stepDetail chain "why" = some ("; ".intercalate
    ["Growth: " ++ s.growthState.value,"Inflation: " ++ s.inflationState.value,
      "Policy: " ++ s.policyState.value,
      "Financial Conditions: " ++ s.financialConditionsState.value])
  labour : "Labour: " ++ s.laborState.value ∈ (buildRegimeNarrative regime).rationalePoints
  confidence : stepValue chain "confidence" = some (snapshotConfidence s).value
  high : snapshotConfidence s = .high ↔
    mapSnapshotToRegimeLabel s ∉ [RegimeLabel.mixed,.unclear] ∧ ¬Worn s ∧ ¬WeaklySupported s
  medium : snapshotConfidence s = .medium ↔
    mapSnapshotToRegimeLabel s ∉ [RegimeLabel.mixed,.unclear] ∧ (Worn s ↔ ¬WeaklySupported s)
  clear : stepValue chain "caveats" = some "none" ↔
    prior ≠ none ∧ snapshotConfidence s ≠ .low ∧ s.missingIndicators = []
  quality : (buildRegimeNarrative regime).dataQualityNotes = [] ↔
    s.freshnessStatus = .fresh ∧ s.degradedStatus ∈ [.none,.unknown] ∧ s.missingIndicators = []
  initial : stepValue chain "what_changed" = some "initial (no prior baseline)" ↔ prior = none
  changed : ∀ p, prior = some p → stepValue chain "what_changed" =
    some (regime.transition.transitionType.value ++ " from " ++ p.regimeLabel.value)

theorem low_of_poorLabel (h : mapSnapshotToRegimeLabel s ∈ [RegimeLabel.mixed,.unclear]) :
    snapshotConfidence s = .low := low_of_poor (.inr (.inr h))

theorem high_iff : snapshotConfidence s = .high ↔
    mapSnapshotToRegimeLabel s ∉ [RegimeLabel.mixed,.unclear] ∧ ¬Worn s ∧ ¬WeaklySupported s := by
  by_cases hlabel : mapSnapshotToRegimeLabel s ∈ [RegimeLabel.mixed,.unclear]
  · simp [low_of_poorLabel hlabel,hlabel]
  · rw [confidence_table hlabel]
    by_cases hworn : Worn s <;> by_cases hweak : WeaklySupported s <;> simp [hworn,hweak,hlabel]

theorem medium_iff : snapshotConfidence s = .medium ↔
    mapSnapshotToRegimeLabel s ∉ [RegimeLabel.mixed,.unclear] ∧
      (Worn s ↔ ¬WeaklySupported s) := by
  by_cases hlabel : mapSnapshotToRegimeLabel s ∈ [RegimeLabel.mixed,.unclear]
  · simp [low_of_poorLabel hlabel,hlabel]
  · rw [confidence_table hlabel]
    by_cases hworn : Worn s <;> by_cases hweak : WeaklySupported s <;> simp [hworn,hweak,hlabel]

section Steps
variable (narrative : RegimeNarrative) (conflictStatus : String) (conflictNote : Option String)
  (quantSupportLevel : String)

theorem chain_why : stepDetail
    (buildReasoningChain narrative conflictStatus conflictNote quantSupportLevel) "why" =
      some (if stateParts narrative = [] then "See rationale points."
        else "; ".intercalate (stateParts narrative)) := rfl

theorem chain_confidence : stepValue
    (buildReasoningChain narrative conflictStatus conflictNote quantSupportLevel) "confidence" =
      some ((narrative.regimeContext.lookup "confidence").getD "unknown") := rfl

theorem chain_caveats : stepValue
    (buildReasoningChain narrative conflictStatus conflictNote quantSupportLevel) "caveats" =
      some (if narrative.caveats = [] then "none"
        else toString narrative.caveats.length ++ " caveat(s)") := rfl

theorem chain_changed : stepValue
    (buildReasoningChain narrative conflictStatus conflictNote quantSupportLevel) "what_changed" =
      some (if (narrative.regimeContext.lookup "transition").getD "initial" = "initial" ∨
          (narrative.regimeContext.lookup "transition_from_prior").getD "" = "" then
        "initial (no prior baseline)"
      else (narrative.regimeContext.lookup "transition").getD "initial" ++ " from " ++
        (narrative.regimeContext.lookup "transition_from_prior").getD "") := rfl

end Steps

section Regime
variable {regime : MacroRegime}

theorem context_confidence :
    (narrativeContext regime).lookup "confidence" = some regime.confidence.value := rfl

theorem context_transition : (narrativeContext regime).lookup "transition" =
    some regime.transition.transitionType.value := rfl

theorem context_prior : (narrativeContext regime).lookup "transition_from_prior" =
    some (regime.transition.transitionFromPrior.getD "") := rfl

theorem guarded_eq_nil {α : Type} {p : Prop} [Decidable p] (a : α) :
    (if p then [a] else []) = [] ↔ ¬p := by
  by_cases hp : p <;> simp [hp]

theorem guarded_eq_nil' {α : Type} {p : Prop} [Decidable p] (a : α) :
    (if p then [] else [a]) = [] ↔ p := by
  by_cases hp : p <;> simp [hp]

theorem caveats_eq_nil_iff : narrativeCaveats regime = [] ↔
    ((regime.transition.transitionType.value ≠ "initial" ∧ regime.confidence ≠ .low) ∧
      regime.regimeLabel ∉ [RegimeLabel.mixed,.unclear]) ∧ regime.missingInputs = [] := by
  rw [narrativeCaveats,List.append_eq_nil_iff,List.append_eq_nil_iff,List.append_eq_nil_iff,
    guarded_eq_nil,guarded_eq_nil,guarded_eq_nil,guarded_eq_nil']

theorem notes_eq_nil_iff : narrativeNotes regime = [] ↔
    ((regime.freshnessStatus = .fresh ∧ regime.degradedStatus ∈ [.none,.unknown]) ∧
      regime.missingInputs = []) ∧ regime.metadata.lookup "seeded" ≠ some "true" := by
  rw [narrativeNotes,List.append_eq_nil_iff,List.append_eq_nil_iff,List.append_eq_nil_iff,
    guarded_eq_nil,guarded_eq_nil',guarded_eq_nil',guarded_eq_nil,not_not]

theorem caveatCount_ne (n : ℕ) : toString n ++ " caveat(s)" ≠ "none" := by
  intro h
  have hlast := congrArg (fun t : String => t.toList.getLast?) h
  simp only [String.toList_append] at hlast
  rw [List.getLast?_append_of_ne_nil _ (by decide)] at hlast
  exact absurd hlast (by decide)

theorem changed_ne (t : RegimeTransitionType) (l : RegimeLabel) :
    t.value ++ " from " ++ l.value ≠ "initial (no prior baseline)" := by
  intro h
  have hmem : ')' ∈ (t.value ++ " from " ++ l.value).toList := by
    rw [h]
    decide
  cases t <;> cases l <;> exact absurd hmem (by decide)

end Regime

end Told

section Derivation
variable {s : MacroSnapshotState} {prior : Option MacroRegime} {regime : MacroRegime}

theorem DerivedFrom.states (h : DerivedFrom regime s prior) :
    regime.supportingStates = statesOf s ∧ regime.missingInputs = s.missingIndicators := by
  obtain ⟨fresh,built,hbuilt,rfl⟩ := h
  unfold regimeOfSnapshot at hbuilt
  simp only at hbuilt
  split_ifs at hbuilt
  cases hbuilt
  exact ⟨rfl,rfl⟩

theorem DerivedFrom.prior_label (h : DerivedFrom regime s prior) :
    regime.transition.transitionFromPrior = prior.map (fun p => p.regimeLabel.value) := by
  obtain ⟨fresh,built,-,rfl⟩ := h
  exact derived_prior built prior

/-- A transition is initial where there was no baseline. -/
theorem DerivedFrom.initial_iff (h : DerivedFrom regime s prior) :
    regime.transition.transitionType.value = "initial" ↔ prior = none := by
  obtain ⟨fresh,built,-,rfl⟩ := h
  change (deriveRegimeTransition built prior).transitionType.value = "initial" ↔ prior = none
  cases prior with
  | none => simp [deriveRegimeTransition,RegimeTransitionType.value]
  | some p =>
    unfold deriveRegimeTransition
    dsimp only
    split_ifs <;> simp [RegimeTransitionType.value]

/-- The chain finds every state but that of labour. -/
theorem DerivedFrom.parts (h : DerivedFrom regime s prior) :
    stateParts (buildRegimeNarrative regime) =
      ["Growth: " ++ s.growthState.value,"Inflation: " ++ s.inflationState.value,
        "Policy: " ++ s.policyState.value,
        "Financial Conditions: " ++ s.financialConditionsState.value] := by
  refine stateParts_eq h.states.1 ?_
  rw [h.prior_label]
  cases prior with
  | none => exact .inl rfl
  | some p => exact .inr ⟨p.regimeLabel,rfl⟩

theorem DerivedFrom.labour_mem (h : DerivedFrom regime s prior) :
    "Labour: " ++ s.laborState.value ∈ (buildRegimeNarrative regime).rationalePoints := by
  have hmem : "Labour: " ++ s.laborState.value ∈ narrativeStateLabels.map (fun p =>
      p.2 ++ ": " ++ (regime.supportingStates.lookup p.1).getD "unknown") := by
    rw [statePoints h.states.1]
    simp
  exact List.mem_append_left _ (List.mem_append_right _ hmem)

/-- A label without a direction leaves no confidence, so its caveat never stands alone. -/
theorem DerivedFrom.caveats_iff (h : DerivedFrom regime s prior) : narrativeCaveats regime = [] ↔
    prior ≠ none ∧ snapshotConfidence s ≠ .low ∧ s.missingIndicators = [] := by
  rw [caveats_eq_nil_iff,Ne,h.initial_iff,h.states.2,h.builtFrom.confidence,h.builtFrom.label]
  constructor
  · rintro ⟨⟨⟨hprior,hlow⟩,-⟩,hmissing⟩
    exact ⟨hprior,hlow,hmissing⟩
  · rintro ⟨hprior,hlow,hmissing⟩
    exact ⟨⟨⟨hprior,hlow⟩,fun hpoor => hlow (low_of_poorLabel hpoor)⟩,hmissing⟩

theorem DerivedFrom.notes_iff (h : DerivedFrom regime s prior) : narrativeNotes regime = [] ↔
    s.freshnessStatus = .fresh ∧ s.degradedStatus ∈ [.none,.unknown] ∧
      s.missingIndicators = [] := by
  rw [notes_eq_nil_iff,h.builtFrom.freshness,h.builtFrom.degraded,h.states.2,h.builtFrom.unseeded,
    ← and_assoc]
  have hseeded : ([] : List (String × String)).lookup "seeded" ≠ some "true" := by decide
  exact and_iff_left hseeded

section Chain
variable (conflictStatus : String) (conflictNote : Option String) (quantSupportLevel : String)

theorem DerivedFrom.clear_iff (h : DerivedFrom regime s prior) :
    stepValue (buildReasoningChain (buildRegimeNarrative regime) conflictStatus conflictNote
      quantSupportLevel) "caveats" = some "none" ↔
    prior ≠ none ∧ snapshotConfidence s ≠ .low ∧ s.missingIndicators = [] := by
  rw [chain_caveats,← h.caveats_iff]
  change some (if narrativeCaveats regime = [] then "none" else _) = some "none" ↔ _
  by_cases hempty : narrativeCaveats regime = []
  · rw [if_pos hempty]
    exact iff_of_true rfl hempty
  · rw [if_neg hempty]
    exact iff_of_false (fun heq => caveatCount_ne _ (Option.some.inj heq)) hempty

theorem DerivedFrom.changed_eq {p : MacroRegime} (h : DerivedFrom regime s (some p)) :
    stepValue (buildReasoningChain (buildRegimeNarrative regime) conflictStatus conflictNote
      quantSupportLevel) "what_changed" =
    some (regime.transition.transitionType.value ++ " from " ++ p.regimeLabel.value) := by
  have hnot : regime.transition.transitionType.value ≠ "initial" := by
    rw [Ne,h.initial_iff]
    exact Option.some_ne_none p
  have hvalue : p.regimeLabel.value ≠ "" := value_ne_empty p.regimeLabel
  rw [chain_changed,buildRegimeNarrative,context_transition,context_prior,h.prior_label]
  simp only [Option.getD_some,Option.map_some]
  rw [if_neg (fun hor => hor.elim hnot hvalue)]

theorem DerivedFrom.unchanged_iff (h : DerivedFrom regime s prior) :
    stepValue (buildReasoningChain (buildRegimeNarrative regime) conflictStatus conflictNote
      quantSupportLevel) "what_changed" = some "initial (no prior baseline)" ↔ prior = none := by
  cases prior with
  | none =>
    have hfirst : ((narrativeContext regime).lookup "transition").getD "initial" = "initial" := by
      rw [context_transition]
      exact h.initial_iff.mpr rfl
    rw [chain_changed]
    exact iff_of_true (congrArg some (if_pos (.inl hfirst))) rfl
  | some p =>
    rw [h.changed_eq]
    exact iff_of_false (fun heq => changed_ne _ _ (Option.some.inj heq)) (Option.some_ne_none p)

/-- What is told of a regime that the service built and compared with a baseline. -/
theorem DerivedFrom.told (h : DerivedFrom regime s prior) : Told s prior regime
    (buildReasoningChain (buildRegimeNarrative regime) conflictStatus conflictNote
      quantSupportLevel) where
  keys := rfl
  steps := rfl
  why := by rw [chain_why,h.parts,if_neg (List.cons_ne_nil _ _)]
  labour := h.labour_mem
  confidence := by
    rw [chain_confidence,buildRegimeNarrative,context_confidence,h.builtFrom.confidence]
    rfl
  high := high_iff
  medium := medium_iff
  clear := h.clear_iff conflictStatus conflictNote quantSupportLevel
  quality := h.notes_iff
  initial := h.unchanged_iff conflictStatus conflictNote quantSupportLevel
  changed := by
    rintro p rfl
    exact h.changed_eq conflictStatus conflictNote quantSupportLevel

end Chain

end Derivation

section Run

/-- After any run of the service, what is told of a stored regime is told of a saved snapshot
and of a stored baseline. -/
theorem narratives_told (calls : List MacroCall) (regime : MacroRegime)
    (h : regime ∈ (final MacroStores.step {} calls).regimes.regimes)
    (conflictStatus : String) (conflictNote : Option String) (quantSupportLevel : String) :
    ∃ s ∈ (final MacroStores.step {} calls).snapshots.snapshots, ∃ prior : Option MacroRegime,
      (∀ p ∈ prior, p ∈ (final MacroStores.step {} calls).regimes.regimes) ∧
      Told s prior regime (buildReasoningChain (buildRegimeNarrative regime) conflictStatus
        conflictNote quantSupportLevel) := by
  obtain ⟨s,hs,prior,hprior,hderived⟩ := run_derived calls regime h
  exact ⟨s,hs,prior,hprior,hderived.told conflictStatus conflictNote quantSupportLevel⟩

/-- The regime of the second day, when the economy contracts after a calm first one. -/
theorem narratives_told_turn : ∃ regime ∈ turned.regimes.regimes,
    ∃ s ∈ turned.snapshots.snapshots, ∃ prior : Option MacroRegime,
      (∀ p ∈ prior, p ∈ turned.regimes.regimes) ∧
      Told s prior regime (buildReasoningChain (buildRegimeNarrative regime) "clean" none
        "strong") ∧
      stepValue (buildReasoningChain (buildRegimeNarrative regime) "clean" none "strong")
        "what_changed" = some "shift from goldilocks" := by
  have hmem := List.get_mem turned.regimes.regimes ⟨1,by decide +kernel⟩
  obtain ⟨s,hs,prior,hprior,htold⟩ := narratives_told turnRun _ hmem "clean" none "strong"
  exact ⟨_,hmem,s,hs,prior,hprior,htold,by decide +kernel⟩

end Run

end MacroInvest.Signals
