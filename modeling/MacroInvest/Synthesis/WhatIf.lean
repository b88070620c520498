import MacroInvest.Synthesis.Engine

/-! # What-if scenarios

A scenario replaces some of the inputs of the synthesis and compares the view it projects with a
baseline. Without an override the projection is the view of the inputs themselves.
-/
namespace MacroInvest.Synthesis
open Rounding

/-- `None` keeps the input. -/
structure WhatIfScenario where
  label : String
  regimeLabelOverride : Option String := none
  macroConfidenceOverride : Option ℚ := none
  quantSupportOverride : Option String := none
  conflictStatusOverride : Option String := none
  avgVar95Override : Option ℚ := none
  worstMddPctOverride : Option ℚ := none
  confidenceValid : ∀ x ∈ macroConfidenceOverride, 0 ≤ x ∧ x ≤ 1
  varValid : ∀ x ∈ avgVar95Override, 0 ≤ x
  mddValid : ∀ x ∈ worstMddPctOverride, x ≤ 0

structure WhatIfResult where
  scenarioLabel : String
  baseline : SynthesisView
  projected : SynthesisView
  statusChanged : Bool
  convictionDelta : ℚ

/-- `override or current` -/
def overrideText (replacement : Option String) (current : String) : String :=
  match replacement with
  | none => current
  | some s => if s = "" then current else s

def WhatIfScenario.apply (scenario : WhatIfScenario) (i : SynthesisInputs) : SynthesisInputs where
  regimeLabel := overrideText scenario.regimeLabelOverride i.regimeLabel
  macroConfidence := scenario.macroConfidenceOverride.getD i.macroConfidence
  quantOverallSupport := overrideText scenario.quantSupportOverride i.quantOverallSupport
  conflictStatus := overrideText scenario.conflictStatusOverride i.conflictStatus
  avgVar95 := scenario.avgVar95Override.getD i.avgVar95
  worstMddPct := scenario.worstMddPctOverride.getD i.worstMddPct

def computeWhatifResult (A : Arithmetic) (scenario : WhatIfScenario) (baseline : SynthesisView)
    (i : SynthesisInputs) : WhatIfResult :=
  let projected := computeSynthesisView A (scenario.apply i)
  { scenarioLabel := scenario.label
    baseline := baseline
    projected := projected
    statusChanged := projected.synthesisStatus ≠ baseline.synthesisStatus
    convictionDelta := A.round 4 (A.sub projected.convictionScore baseline.convictionScore) }

/-- A scenario without an override changes no input. -/
structure WhatIfScenario.NoOverride (scenario : WhatIfScenario) : Prop where
  regimeLabel : scenario.regimeLabelOverride = none
  macroConfidence : scenario.macroConfidenceOverride = none
  quantSupport : scenario.quantSupportOverride = none
  conflictStatus : scenario.conflictStatusOverride = none
  avgVar95 : scenario.avgVar95Override = none
  worstMddPct : scenario.worstMddPctOverride = none

theorem WhatIfScenario.NoOverride.apply {scenario : WhatIfScenario} (h : scenario.NoOverride)
    (i : SynthesisInputs) : scenario.apply i = i := by
  simp only [WhatIfScenario.apply,h.regimeLabel,h.macroConfidence,h.quantSupport,
    h.conflictStatus,h.avgVar95,h.worstMddPct,overrideText,Option.getD_none]

/-- Against the view of the same inputs such a scenario changes nothing. -/
theorem WhatIfScenario.NoOverride.unchanged {scenario : WhatIfScenario} (h : scenario.NoOverride)
    (A : Arithmetic) (i : SynthesisInputs) :
    (computeWhatifResult A scenario (computeSynthesisView A i) i).statusChanged = false ∧
      (computeWhatifResult A scenario (computeSynthesisView A i) i).convictionDelta = 0 := by
  simp only [computeWhatifResult,h.apply,Arithmetic.sub,sub_self,A.fl_zero,A.round_zero]
  exact ⟨decide_eq_false (not_not.mpr rfl),trivial⟩

end MacroInvest.Synthesis
