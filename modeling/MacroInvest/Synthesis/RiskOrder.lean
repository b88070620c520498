import MacroInvest.Synthesis.Engine

/-! # More risk and the synthesis view

A penalty grows with the value at risk and with the depth of the drawdown, and rounding keeps
the order. The number of engines that have data does not change as long as some value at risk
is measured, so the view moves one way only.
-/
namespace MacroInvest.Synthesis
open Rounding

/-- `j` is `i` with at least the same value at risk and drawdown and at most its confidence. -/
structure Riskier (i j : SynthesisInputs) : Prop where
  regimeLabel : j.regimeLabel = i.regimeLabel
  quantOverallSupport : j.quantOverallSupport = i.quantOverallSupport
  conflictStatus : j.conflictStatus = i.conflictStatus
  measured : 0 < i.avgVar95
  avgVar95 : i.avgVar95 ≤ j.avgVar95
  worstMddPct : j.worstMddPct ≤ i.worstMddPct
  macroConfidence : j.macroConfidence ≤ i.macroConfidence

section Parts
variable (A : Arithmetic)

/-- A weight is a share of its range, cut off below and at one half. -/
theorem weight_mono {start scale x y : ℚ} (hscale : 0 < scale) (h : x ≤ y) :
    min (1 / 2) (max 0 (A.div (A.sub x start) scale)) ≤
      min (1 / 2) (max 0 (A.div (A.sub y start) scale)) := by
  have hdiff : A.sub x start ≤ A.sub y start := A.mono (sub_le_sub_right h start)
  apply min_le_min_left
  apply max_le_max_left
  apply A.mono
  gcongr

theorem computeRiskPenalty_mono {v v' d d' : ℚ} (hvar : v ≤ v') (hmdd : d' ≤ d) :
    computeRiskPenalty A v d ≤ computeRiskPenalty A v' d' := by
  unfold computeRiskPenalty
  apply min_le_min_left
  apply A.round_mono
  apply A.mono
  apply add_le_add
  · exact weight_mono A (by norm_num [varPenaltyScale]) hvar
  · exact weight_mono A (by norm_num [mddPenaltyScale]) (neg_le_neg hmdd)

theorem baseConviction_mono {c c' : ℚ} (h : c' ≤ c) : baseConviction c' ≤ baseConviction c :=
  max_le_max_left 0 (min_le_min_left 1 h)

theorem convictionAfter_mono {c c' p p' : ℚ} (hconfidence : c' ≤ c) (hpenalty : p ≤ p') :
    convictionAfter A c' p' ≤ convictionAfter A c p := by
  apply max_le_max_left
  apply A.round_mono
  apply A.mono
  exact sub_le_sub (baseConviction_mono hconfidence) hpenalty

theorem Severe.mono {v v' d d' : ℚ} (h : Severe v d) (hvar : v ≤ v') (hmdd : d' ≤ d) :
    Severe v' d' := by
  rcases h with h | h
  · exact .inl (h.trans hvar)
  · exact .inr (hmdd.trans h)

end Parts

section View
variable {i j : SynthesisInputs}

theorem Riskier.countEngines_eq (h : Riskier i j) : countEngines j = countEngines i := by
  have hj : 0 < j.avgVar95 := h.measured.trans_le h.avgVar95
  simp only [countEngines,h.regimeLabel,h.quantOverallSupport,h.conflictStatus,h.measured,hj]

/-- With more risk the score is no larger, the penalty no smaller, and a view that the risk
dominates stays dominated; scores and penalties lie between zero and one for all inputs. -/
theorem risk_order_law (A : Arithmetic) (h : Riskier i j) :
    (computeSynthesisView A j).convictionScore ≤ (computeSynthesisView A i).convictionScore ∧
    (computeSynthesisView A i).riskPenalty ≤ (computeSynthesisView A j).riskPenalty ∧
    ((computeSynthesisView A i).synthesisStatus = .riskDominant →
      (computeSynthesisView A j).synthesisStatus = .riskDominant) ∧
    ∀ k, (0 ≤ (computeSynthesisView A k).convictionScore ∧
        (computeSynthesisView A k).convictionScore ≤ 1) ∧
      0 ≤ (computeSynthesisView A k).riskPenalty ∧ (computeSynthesisView A k).riskPenalty ≤ 1 := by
  have hbounds : ∀ k, (0 ≤ (computeSynthesisView A k).convictionScore ∧
      (computeSynthesisView A k).convictionScore ≤ 1) ∧
      0 ≤ (computeSynthesisView A k).riskPenalty ∧ (computeSynthesisView A k).riskPenalty ≤ 1 :=
    fun k => ⟨(computeSynthesisView A k).conviction,(computeSynthesisView A k).penalty⟩
  have hpenalty := computeRiskPenalty_mono A h.avgVar95 h.worstMddPct
  by_cases hi : countEngines i < 2
  · obtain ⟨hscore,hzero,hstatus⟩ := view_of_few hi
    obtain ⟨hscore',hzero',-⟩ := view_of_few (h.countEngines_eq ▸ hi)
    refine ⟨by rw [hscore,hscore'],by rw [hzero,hzero'],?_,hbounds⟩
    rw [hstatus]
    nofun
  · have hj : ¬countEngines j < 2 := h.countEngines_eq ▸ hi
    rw [convictionScore_eq hi,convictionScore_eq hj,riskPenalty_eq hi,riskPenalty_eq hj,
      riskDominant_iff hi,riskDominant_iff hj]
    exact ⟨convictionAfter_mono A h.macroConfidence hpenalty,hpenalty,
      fun hsevere => hsevere.mono h.avgVar95 h.worstMddPct,hbounds⟩

end View

/-- An expansion with a value at risk of two percent that falls into a crisis. -/
theorem risk_order_law_crisis :
    (computeSynthesisView .double ⟨"expansion",0.5,"neutral","low",8,-45⟩).convictionScore ≤
        (computeSynthesisView .double ⟨"expansion",0.75,"neutral","low",2,-12⟩).convictionScore ∧
      (computeSynthesisView .double ⟨"expansion",0.75,"neutral","low",2,-12⟩).riskPenalty ≤
        (computeSynthesisView .double ⟨"expansion",0.5,"neutral","low",8,-45⟩).riskPenalty := by
  have h : Riskier ⟨"expansion",0.75,"neutral","low",2,-12⟩
      ⟨"expansion",0.5,"neutral","low",8,-45⟩ :=
    ⟨rfl,rfl,rfl,by norm_num,by norm_num,by norm_num,by norm_num⟩
  exact ⟨(risk_order_law .double h).1,(risk_order_law .double h).2.1⟩

end MacroInvest.Synthesis
