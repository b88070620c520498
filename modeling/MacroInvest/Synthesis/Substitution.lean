import MacroInvest.Synthesis.WhatIf

/-! # Scenarios as substitutions

A number that overrides an input replaces it, zero included. A text does so unless it is empty:
`override or current` keeps the current text then. What the view shows of the difference decides
whether the projection is the view of the substituted inputs.
-/
namespace MacroInvest.Synthesis
open Rounding

section Substituted

/-- The inputs with every override that is given in the place of the input. -/
def WhatIfScenario.substituted (scenario : WhatIfScenario) (i : SynthesisInputs) :
    SynthesisInputs where
  regimeLabel := scenario.regimeLabelOverride.getD i.regimeLabel
  macroConfidence := scenario.macroConfidenceOverride.getD i.macroConfidence
  quantOverallSupport := scenario.quantSupportOverride.getD i.quantOverallSupport
  conflictStatus := scenario.conflictStatusOverride.getD i.conflictStatus
  avgVar95 := scenario.avgVar95Override.getD i.avgVar95
  worstMddPct := scenario.worstMddPctOverride.getD i.worstMddPct

/-- No input is overridden by both. -/
structure WhatIfScenario.Disjoint (s t : WhatIfScenario) : Prop where
  regimeLabel : s.regimeLabelOverride = none ∨ t.regimeLabelOverride = none
  macroConfidence : s.macroConfidenceOverride = none ∨ t.macroConfidenceOverride = none
  quantSupport : s.quantSupportOverride = none ∨ t.quantSupportOverride = none
  conflictStatus : s.conflictStatusOverride = none ∨ t.conflictStatusOverride = none
  avgVar95 : s.avgVar95Override = none ∨ t.avgVar95Override = none
  worstMddPct : s.worstMddPctOverride = none ∨ t.worstMddPctOverride = none

/-- An empty text in the place of one that is not. -/
def Blanks (replacement : Option String) (current : String) : Prop :=
  replacement = some "" ∧ current ≠ ""

instance (replacement : Option String) (current : String) : Decidable (Blanks replacement current) :=
  inferInstanceAs (Decidable (_ ∧ _))

variable {replacement : Option String} {current : String}

theorem overrideText_eq_iff :
    overrideText replacement current = replacement.getD current ↔ ¬Blanks replacement current := by
  cases replacement with
  | none => simp [overrideText,Blanks]
  | some s =>
    by_cases hs : s = ""
    · simp [overrideText,Blanks,hs]
    · simp [overrideText,Blanks,hs]

theorem overrideText_of_blanks (h : Blanks replacement current) :
    overrideText replacement current = current ∧ replacement.getD current = "" := by
  rw [h.1]
  exact ⟨rfl,rfl⟩

theorem overrideText_comm {a b : Option String} (h : a = none ∨ b = none) (current : String) :
    overrideText b (overrideText a current) = overrideText a (overrideText b current) := by
  rcases h with rfl | rfl
  · rfl
  · rfl

theorem getD_comm {α : Type} {a b : Option α} (h : a = none ∨ b = none) (current : α) :
    b.getD (a.getD current) = a.getD (b.getD current) := by
  rcases h with rfl | rfl
  · rfl
  · rfl

/-- Disjoint scenarios are applied in either order. -/
theorem WhatIfScenario.Disjoint.apply_comm {s t : WhatIfScenario} (h : s.Disjoint t)
    (i : SynthesisInputs) : t.apply (s.apply i) = s.apply (t.apply i) := by
  simp only [WhatIfScenario.apply,overrideText_comm h.regimeLabel,getD_comm h.macroConfidence,
    overrideText_comm h.quantSupport,overrideText_comm h.conflictStatus,getD_comm h.avgVar95,
    getD_comm h.worstMddPct]

end Substituted

section Shown

/-- `text or "no_data"` -/
def orNoData (text : String) : String := if text = "" then "no_data" else text

/-- The same numbers, and every text the same or empty. -/
structure Blanked (k z : SynthesisInputs) : Prop where
  macroConfidence : z.macroConfidence = k.macroConfidence
  avgVar95 : z.avgVar95 = k.avgVar95
  worstMddPct : z.worstMddPct = k.worstMddPct
  regimeLabel : z.regimeLabel = k.regimeLabel ∨ z.regimeLabel = ""
  quantOverallSupport : z.quantOverallSupport = k.quantOverallSupport ∨ z.quantOverallSupport = ""
  conflictStatus : z.conflictStatus = k.conflictStatus ∨ z.conflictStatus = ""

variable {A : Arithmetic} {k z : SynthesisInputs}

/-- An empty text counts for no engine. -/
theorem Blanked.countEngines_le (h : Blanked k z) : countEngines z ≤ countEngines k := by
  have hpart : ∀ {a b : String} (placeholders : List String), a = b ∨ a = "" →
      (if a ≠ "" ∧ a ∉ placeholders then 1 else 0) ≤
        if b ≠ "" ∧ b ∉ placeholders then 1 else 0 := by
    rintro a b placeholders (rfl | rfl)
    · exact le_rfl
    · simp
  rw [countEngines,countEngines,h.avgVar95]
  gcongr ?_ + ?_ + ?_ + _
  · exact hpart _ h.regimeLabel
  · exact hpart _ h.quantOverallSupport
  · exact hpart _ h.conflictStatus

/-- With too few engines the view shows the two labels only. -/
theorem few_view_eq_iff (hk : countEngines k < 2) (hz : countEngines z < 2) :
    computeSynthesisView A k = computeSynthesisView A z ↔
      orNoData k.quantOverallSupport = orNoData z.quantOverallSupport ∧
        orNoData k.conflictStatus = orNoData z.conflictStatus := by
  unfold computeSynthesisView
  rw [if_pos hk,if_pos hz]
  simp only [SynthesisView.mk.injEq,orNoData,true_and,and_true]

theorem labels_of_view (h : ¬countEngines k < 2) :
    (computeSynthesisView A k).quantSupport = k.quantOverallSupport ∧
      (computeSynthesisView A k).conflictStatus = k.conflictStatus ∧
      (computeSynthesisView A k).synthesisStatus ≠ .insufficientData := by
  unfold computeSynthesisView
  rw [if_neg h]
  split_ifs
  all_goals exact ⟨rfl,rfl,nofun⟩

theorem few_of_insufficientData (h : (computeSynthesisView A k).synthesisStatus = .insufficientData) :
    countEngines k < 2 := by
  by_contra hk
  exact (labels_of_view hk).2.2 h

/-- The view shows no regime label but in its note. -/
theorem Blanked.view_eq (h : Blanked k z) (hquant : z.quantOverallSupport = k.quantOverallSupport)
    (hconflict : z.conflictStatus = k.conflictStatus) (status : SynthesisStatus)
    (concern : Option String) (note : String) :
    k.view A status concern note = z.view A status concern note := by
  simp only [SynthesisInputs.view,h.macroConfidence,h.avgVar95,h.worstMddPct,hquant,hconflict]

theorem leaning_cases (k : SynthesisInputs) : leaning k = .alignedBullish ∨
    leaning k = .alignedCautious ∨ leaning k = .mixedSignals := by
  unfold leaning
  split
  · exact .inl rfl
  · split
    · exact .inr (.inl rfl)
    · exact .inr (.inr rfl)

theorem leaning_bullish (h : leaning k = .alignedBullish) : k.regimeLabel ∈ bullishRegimes := by
  unfold leaning at h
  split at h
  · rename_i hbullish
    exact hbullish.1
  · split at h <;> cases h

theorem note_of_cautious (h : ¬countEngines k < 2) (hmild : ¬Severe k.avgVar95 k.worstMddPct)
    (hlean : leaning k = .alignedCautious) : (computeSynthesisView A k).note =
      "Signals lean cautious (regime: " ++ k.regimeLabel ++ ", quant: " ++
        k.quantOverallSupport ++ "). Reduce position size." := by
  unfold leaning at hlean
  unfold computeSynthesisView
  rw [if_neg h,if_neg hmild]
  split at hlean
  · cases hlean
  · rename_i hbullish
    split at hlean
    · rename_i hcautious
      rw [if_neg hbullish,if_pos hcautious]
      rfl
    · cases hlean

theorem view_of_mixed (h : ¬countEngines k < 2) (hmild : ¬Severe k.avgVar95 k.worstMddPct)
    (hlean : leaning k = .mixedSignals) : computeSynthesisView A k = k.view A .mixedSignals
      (some (if conflictHigh ≤ parseConflictLevel k.conflictStatus then "mixed_conflict"
        else "mixed_macro_signals"))
      "Macro, quant, and risk signals are mixed. Low directional conviction." := by
  unfold leaning at hlean
  unfold computeSynthesisView
  rw [if_neg h,if_neg hmild]
  split at hlean
  · cases hlean
  · rename_i hbullish
    split at hlean
    · cases hlean
    · rename_i hcautious
      rw [if_neg hbullish,if_neg hcautious]

/-- Without a regime label nothing is added to the reasons for a lean. -/
theorem Blanked.leaning_mixed (h : Blanked k z)
    (hquant : z.quantOverallSupport = k.quantOverallSupport)
    (hconflict : z.conflictStatus = k.conflictStatus) (hlean : leaning k = .mixedSignals) :
    leaning z = .mixedSignals := by
  have hempty : ("" : String) ∉ bullishRegimes ∧ "" ∉ cautiousRegimes := by decide
  rcases h.regimeLabel with hregime | hregime
  · unfold leaning
    rw [hregime,hquant,hconflict]
    exact hlean
  · unfold leaning at hlean ⊢
    rw [hregime,hquant,hconflict,if_neg (fun hbullish => hempty.1 hbullish.1)]
    split at hlean
    · cases hlean
    · split at hlean
      · cases hlean
      · rename_i hcautious
        refine if_neg fun hweak => hcautious ⟨.inr ?_,hweak.2⟩
        exact hweak.1.resolve_left hempty.2

theorem Blanked.severe_view_eq (h : Blanked k z) (hk : ¬countEngines k < 2)
    (hz : ¬countEngines z < 2) (hquant : z.quantOverallSupport = k.quantOverallSupport)
    (hconflict : z.conflictStatus = k.conflictStatus)
    (hsevere : Severe k.avgVar95 k.worstMddPct) :
    computeSynthesisView A k = computeSynthesisView A z := by
  have hsevere' : Severe z.avgVar95 z.worstMddPct := by rwa [h.avgVar95,h.worstMddPct]
  unfold computeSynthesisView
  rw [if_neg hk,if_neg hz,if_pos hsevere,if_pos hsevere',h.view_eq hquant hconflict,h.avgVar95,
    h.worstMddPct]

/-- A lean of the status depends on the regime label or quotes it in the note. -/
theorem Blanked.regime_of_lean (h : Blanked k z) (hk : ¬countEngines k < 2)
    (hz : ¬countEngines z < 2) (hquant : z.quantOverallSupport = k.quantOverallSupport)
    (hmild : ¬Severe k.avgVar95 k.worstMddPct)
    (heq : computeSynthesisView A k = computeSynthesisView A z) (hlean : leaning k ≠ .mixedSignals) :
    z.regimeLabel = k.regimeLabel := by
  rcases h.regimeLabel with hregime | hblank
  · exact hregime
  have hmild' : ¬Severe z.avgVar95 z.worstMddPct := by rwa [h.avgVar95,h.worstMddPct]
  have hsame : leaning k = leaning z := by
    rw [← status_of_mild hk hmild,← status_of_mild hz hmild',heq]
  rcases leaning_cases k with hstatus | hstatus | hstatus
  · have hbullish := leaning_bullish (hsame ▸ hstatus)
    rw [hblank] at hbullish
    exact absurd hbullish (by decide)
  · have hnote := note_of_cautious (A := A) hk hmild hstatus
    rw [heq,note_of_cautious hz hmild' (hsame ▸ hstatus),hblank,hquant] at hnote
    have hlength := congrArg String.length hnote
    simp only [String.length_append,String.length_empty] at hlength
    have hzero : k.regimeLabel.length = 0 := by omega
    exact hblank.trans (String.length_eq_zero_iff.mp hzero).symm
  · exact absurd hstatus hlean

/-- With enough engines a blanked regime label shows unless the risk or mixed signals decide. -/
theorem Blanked.enough_view_eq_iff (h : Blanked k z) (hk : ¬countEngines k < 2)
    (hz : ¬countEngines z < 2) : computeSynthesisView A k = computeSynthesisView A z ↔
      z.quantOverallSupport = k.quantOverallSupport ∧ z.conflictStatus = k.conflictStatus ∧
        (z.regimeLabel = k.regimeLabel ∨ Severe k.avgVar95 k.worstMddPct ∨
          leaning k = .mixedSignals) := by
  constructor
  · intro heq
    obtain ⟨hquantView,hconflictView,-⟩ := labels_of_view hk
    obtain ⟨hquantView',hconflictView',-⟩ := labels_of_view hz
    rw [heq] at hquantView hconflictView
    have hquant := hquantView'.symm.trans hquantView
    refine ⟨hquant,hconflictView'.symm.trans hconflictView,?_⟩
    by_contra! hshown
    exact hshown.1 (h.regime_of_lean hk hz hquant hshown.2.1 heq hshown.2.2)
  · rintro ⟨hquant,hconflict,hregime | hsevere | hlean⟩
    · have hkz : k = z := by
        obtain ⟨⟩ := k
        obtain ⟨⟩ := z
        simp only [SynthesisInputs.mk.injEq]
        exact ⟨hregime.symm,h.macroConfidence.symm,hquant.symm,hconflict.symm,h.avgVar95.symm,
          h.worstMddPct.symm⟩
      rw [hkz]
    · exact h.severe_view_eq hk hz hquant hconflict hsevere
    · by_cases hsevere : Severe k.avgVar95 k.worstMddPct
      · exact h.severe_view_eq hk hz hquant hconflict hsevere
      · have hmild' : ¬Severe z.avgVar95 z.worstMddPct := by rwa [h.avgVar95,h.worstMddPct]
        rw [view_of_mixed hk hsevere hlean,
          view_of_mixed hz hmild' (h.leaning_mixed hquant hconflict hlean),
          h.view_eq hquant hconflict,hconflict]

end Shown

section Law

/-- The projection of a scenario is the view of the substituted inputs, disjoint scenarios are
projected in either order, and a scenario without an override changes nothing. -/
structure IsSubstitution (A : Arithmetic) (scenario : WhatIfScenario) (i : SynthesisInputs) :
    Prop where
  substituted : (computeWhatifResult A scenario (computeSynthesisView A i) i).projected =
    computeSynthesisView A (scenario.substituted i)
  commutes : ∀ other, scenario.Disjoint other →
    (computeWhatifResult A other (computeSynthesisView A (scenario.apply i))
        (scenario.apply i)).projected =
      (computeWhatifResult A scenario (computeSynthesisView A (other.apply i))
        (other.apply i)).projected
  unchanged : scenario.NoOverride →
    (computeWhatifResult A scenario (computeSynthesisView A i) i).projected =
        computeSynthesisView A i ∧
    (computeWhatifResult A scenario (computeSynthesisView A i) i).convictionDelta = 0 ∧
    (computeWhatifResult A scenario (computeSynthesisView A i) i).statusChanged = false

/-- No text is blanked, or what is blanked does not show: with too few engines in the first place
only labels that read as missing data are, and with enough engines left only the regime label is
and the risk or mixed signals decide. -/
def BlankUnseen (scenario : WhatIfScenario) (i : SynthesisInputs) : Prop :=
  (countEngines (scenario.apply i) < 2 ∧
    (Blanks scenario.quantSupportOverride i.quantOverallSupport →
      i.quantOverallSupport = "no_data") ∧
    (Blanks scenario.conflictStatusOverride i.conflictStatus → i.conflictStatus = "no_data")) ∨
  (2 ≤ countEngines (scenario.substituted i) ∧
    ¬Blanks scenario.quantSupportOverride i.quantOverallSupport ∧
    ¬Blanks scenario.conflictStatusOverride i.conflictStatus ∧
    (¬Blanks scenario.regimeLabelOverride i.regimeLabel ∨
      Severe (scenario.apply i).avgVar95 (scenario.apply i).worstMddPct ∨
      leaning (scenario.apply i) = .mixedSignals))

variable {A : Arithmetic} {scenario : WhatIfScenario} {i : SynthesisInputs}

theorem getD_of_override (replacement : Option String) (current : String) :
    replacement.getD current = overrideText replacement current ∨ replacement.getD current = "" := by
  by_cases h : Blanks replacement current
  · exact .inr (overrideText_of_blanks h).2
  · exact .inl (overrideText_eq_iff.mpr h).symm

theorem blanked (scenario : WhatIfScenario) (i : SynthesisInputs) :
    Blanked (scenario.apply i) (scenario.substituted i) where
  macroConfidence := rfl
  avgVar95 := rfl
  worstMddPct := rfl
  regimeLabel := getD_of_override _ _
  quantOverallSupport := getD_of_override _ _
  conflictStatus := getD_of_override _ _

theorem orNoData_override_iff {replacement : Option String} {current : String} :
    orNoData (overrideText replacement current) = orNoData (replacement.getD current) ↔
      (Blanks replacement current → current = "no_data") := by
  by_cases h : Blanks replacement current
  · obtain ⟨hkept,hempty⟩ := overrideText_of_blanks h
    rw [hkept,hempty,orNoData,if_neg h.2]
    simp [orNoData,h]
  · rw [overrideText_eq_iff.mpr h]
    simp [h]

/-- Where nothing is blanked the condition holds either way. -/
theorem projected_eq_iff : computeSynthesisView A (scenario.apply i) =
    computeSynthesisView A (scenario.substituted i) ↔ BlankUnseen scenario i := by
  have hblanked := blanked scenario i
  have hle := hblanked.countEngines_le
  have hsame : ∀ (replacement : Option String) (current : String),
      replacement.getD current = overrideText replacement current ↔
        ¬Blanks replacement current := fun _ _ => eq_comm.trans overrideText_eq_iff
  by_cases hk : countEngines (scenario.apply i) < 2
  · have hz : countEngines (scenario.substituted i) < 2 := hle.trans_lt hk
    rw [few_view_eq_iff hk hz,BlankUnseen]
    simp only [hk,not_le.mpr hz,true_and,false_and,or_false]
    exact and_congr orNoData_override_iff orNoData_override_iff
  · by_cases hz : countEngines (scenario.substituted i) < 2
    · refine iff_of_false ?_ ?_
      · intro heq
        apply hk
        apply few_of_insufficientData
        rw [heq]
        exact (view_of_few hz).2.2
      · simp [BlankUnseen,hk,not_le.mpr hz]
    · rw [hblanked.enough_view_eq_iff hk hz,BlankUnseen]
      simp only [hk,not_lt.mp hz,true_and,false_and,false_or]
      exact and_congr (hsame _ _) (and_congr (hsame _ _) (or_congr_left (hsame _ _)))

theorem substitution_law (A : Arithmetic) (scenario : WhatIfScenario) (i : SynthesisInputs) :
    IsSubstitution A scenario i ↔ BlankUnseen scenario i := by
  rw [← projected_eq_iff]
  constructor
  · intro h
    exact h.substituted
  · intro h
    constructor
    · exact h
    · intro other hdisjoint
      simp only [computeWhatifResult,hdisjoint.apply_comm i]
    · intro hnone
      obtain ⟨hstatus,hdelta⟩ := hnone.unchanged A i
      refine ⟨?_,hdelta,hstatus⟩
      simp only [computeWhatifResult,hnone.apply]

theorem noConfidence_valid : ∀ x ∈ (none : Option ℚ), 0 ≤ x ∧ x ≤ 1 := by simp

theorem noVar_valid : ∀ x ∈ (none : Option ℚ), 0 ≤ x := by simp

theorem noMdd_valid : ∀ x ∈ (none : Option ℚ), x ≤ 0 := by simp

/-- A scenario that takes the quant support away. -/
def withoutQuant : WhatIfScenario where
  label := "no quant"
  quantSupportOverride := some ""
  confidenceValid := noConfidence_valid
  varValid := noVar_valid
  mddValid := noMdd_valid

/-- An empty text does not take an input away: the view still shows it. -/
theorem emptyText_kept : ¬ ∀ scenario i, IsSubstitution .double scenario i := by
  intro h
  have heq := (h withoutQuant ⟨"expansion",0.75,"strong_positive","low",2,-12⟩).substituted
  have hlabel := congrArg SynthesisView.quantSupport heq
  exact absurd hlabel (by decide +kernel)

end Law

end MacroInvest.Synthesis
