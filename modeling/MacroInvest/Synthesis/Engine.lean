import MacroInvest.Library.Arithmetic
import MacroInvest.Library.FixedWidth

/-! # The synthesis engine

Six inputs of four engines become a status and a conviction. The two risk inputs decide the
status alone where they are severe, and otherwise only take a penalty off the confidence. Differences,
shares and sums are rounded as the arithmetic rounds them.
-/
namespace MacroInvest.Synthesis
open FixedWidth Rounding

inductive SynthesisStatus where
  | alignedBullish
  | alignedCautious
  | mixedSignals
  | riskDominant
  | insufficientData
  deriving DecidableEq

structure SynthesisView where
  synthesisStatus : SynthesisStatus
  convictionScore : ℚ
  riskPenalty : ℚ
  quantSupport : String
  conflictStatus : String
  dominantConcern : Option String
  note : String
  conviction : 0 ≤ convictionScore ∧ convictionScore ≤ 1
  penalty : 0 ≤ riskPenalty ∧ riskPenalty ≤ 1
  deriving DecidableEq

/-- The keyword arguments of the engine. -/
structure SynthesisInputs where
  regimeLabel : String
  macroConfidence : ℚ
  quantOverallSupport : String
  conflictStatus : String
  avgVar95 : ℚ
  worstMddPct : ℚ

section Thresholds

def varDominantThreshold : ℚ := 5
def mddDominantThreshold : ℚ := -40
def varPenaltyStart : ℚ := 1
def varPenaltyScale : ℚ := 10
def mddPenaltyStart : ℚ := -10
def mddPenaltyScale : ℚ := 60
def conflictLow : ℕ := 1
def conflictHigh : ℕ := 2

def bullishRegimes : List String := ["expansion","recovery"]
def cautiousRegimes : List String := ["contraction","slowdown","stagflation"]
def strongQuant : List String := ["strong_positive","moderate_positive"]
def weakQuant : List String := ["strong_negative","moderate_negative","neutral"]

end Thresholds

/-- `c.lower()` as far as it can yield a letter of a keyword. -/
def lower (c : Char) : List Char :=
  if c = 'İ' then ['i','\u0307'] else if c = '\u212a' then ['k'] else [c.toLower]

/-- `any(k in s for k in keywords)` -/
def mentions (s : List Char) (keywords : List String) : Bool :=
  keywords.any (fun k => k.toList <:+: s)

def parseConflictLevel (conflictStatus : String) : ℕ :=
  let s := conflictStatus.toList.flatMap lower
  if mentions s ["critical","high","severe"] then 3
  else if mentions s ["medium","moderate","elevated"] then 2
  else if mentions s ["low"] then 1
  else 0

def countEngines (i : SynthesisInputs) : ℕ :=
  (if i.regimeLabel ≠ "" ∧ i.regimeLabel ∉ ["unknown","insufficient_data"] then 1 else 0) +
  (if i.quantOverallSupport ≠ "" ∧ i.quantOverallSupport ∉ ["unknown","no_data"] then 1 else 0) +
  (if i.conflictStatus ≠ "" ∧ i.conflictStatus ∉ ["unknown","no_data"] then 1 else 0) +
  (if 0 < i.avgVar95 then 1 else 0)

section Penalty
variable (A : Arithmetic)

def computeRiskPenalty (avgVar95 worstMddPct : ℚ) : ℚ :=
  let varWeight := min (1 / 2) (max 0 (A.div (A.sub avgVar95 varPenaltyStart) varPenaltyScale))
  let mddWeight := min (1 / 2) (max 0 (A.div (A.sub (-worstMddPct) (-mddPenaltyStart))
    mddPenaltyScale))
  min 1 (A.round 4 (A.add varWeight mddWeight))

theorem computeRiskPenalty_bounds (avgVar95 worstMddPct : ℚ) :
    0 ≤ computeRiskPenalty A avgVar95 worstMddPct ∧
      computeRiskPenalty A avgVar95 worstMddPct ≤ 1 := by
  refine ⟨le_min zero_le_one (A.round_nonneg 4 (A.fl_nonneg (add_nonneg ?_ ?_))),min_le_left _ _⟩
  · exact le_min (by norm_num) (le_max_left _ _)
  · exact le_min (by norm_num) (le_max_left _ _)

/-- The macro confidence between zero and one. -/
def baseConviction (macroConfidence : ℚ) : ℚ := max 0 (min 1 macroConfidence)

/-- What is left of the confidence after the penalty. -/
def convictionAfter (macroConfidence riskPenalty : ℚ) : ℚ :=
  max 0 (A.round 4 (A.sub (baseConviction macroConfidence) riskPenalty))

theorem convictionAfter_bounds (macroConfidence : ℚ) {riskPenalty : ℚ} (h : 0 ≤ riskPenalty) :
    0 ≤ convictionAfter A macroConfidence riskPenalty ∧
      convictionAfter A macroConfidence riskPenalty ≤ 1 := by
  have hbase : baseConviction macroConfidence ≤ 1 := max_le zero_le_one (min_le_left _ _)
  refine ⟨le_max_left _ _,max_le zero_le_one ?_⟩
  exact A.round_le_one 4 (A.fl_le_one (by linarith))

end Penalty

/-- The view of inputs with enough data. -/
def SynthesisInputs.view (A : Arithmetic) (i : SynthesisInputs) (status : SynthesisStatus)
    (concern : Option String) (note : String) : SynthesisView where
  synthesisStatus := status
  convictionScore :=
    convictionAfter A i.macroConfidence (computeRiskPenalty A i.avgVar95 i.worstMddPct)
  riskPenalty := computeRiskPenalty A i.avgVar95 i.worstMddPct
  quantSupport := i.quantOverallSupport
  conflictStatus := i.conflictStatus
  dominantConcern := concern
  note := note
  conviction := convictionAfter_bounds A _ (computeRiskPenalty_bounds A _ _).1
  penalty := computeRiskPenalty_bounds A _ _

/-- The risk decides the status by itself. -/
def Severe (avgVar95 worstMddPct : ℚ) : Prop :=
  varDominantThreshold ≤ avgVar95 ∨ worstMddPct ≤ mddDominantThreshold

instance (avgVar95 worstMddPct : ℚ) : Decidable (Severe avgVar95 worstMddPct) :=
  inferInstanceAs (Decidable (_ ∨ _))

theorem zero_bounds : (0 : ℚ) ≤ 0 ∧ (0 : ℚ) ≤ 1 := ⟨le_rfl,zero_le_one⟩

def computeSynthesisView (A : Arithmetic) (i : SynthesisInputs) : SynthesisView :=
  let conflictLevel := parseConflictLevel i.conflictStatus
  if countEngines i < 2 then
    { synthesisStatus := .insufficientData
      convictionScore := 0
      riskPenalty := 0
      quantSupport := if i.quantOverallSupport = "" then "no_data" else i.quantOverallSupport
      conflictStatus := if i.conflictStatus = "" then "no_data" else i.conflictStatus
      dominantConcern := some "insufficient_engine_data"
      note := "Fewer than two engines have contributed data; synthesis deferred."
      conviction := zero_bounds
      penalty := zero_bounds }
  else if Severe i.avgVar95 i.worstMddPct then
    i.view A .riskDominant
      (some (if varDominantThreshold ≤ i.avgVar95 then "elevated_var" else "severe_drawdown"))
      ("Risk metrics are severe (VaR " ++ formatFixed 1 i.avgVar95 ++ "%, MDD " ++
        formatFixed 1 i.worstMddPct ++ "%). Capital preservation takes priority.")
  else if i.regimeLabel ∈ bullishRegimes ∧ i.quantOverallSupport ∈ strongQuant ∧
      conflictLevel ≤ conflictLow then
    i.view A .alignedBullish none
      ("Macro (" ++ i.regimeLabel ++ "), quant (" ++ i.quantOverallSupport ++
        "), and risk are all constructive. High conviction.")
  else if (i.regimeLabel ∈ cautiousRegimes ∨ i.quantOverallSupport ∈ weakQuant) ∧
      conflictLevel < conflictHigh then
    i.view A .alignedCautious
      (some (if i.regimeLabel ∈ cautiousRegimes then "cautious_macro" else "weak_quant"))
      ("Signals lean cautious (regime: " ++ i.regimeLabel ++ ", quant: " ++
        i.quantOverallSupport ++ "). Reduce position size.")
  else
    i.view A .mixedSignals
      (some (if conflictHigh ≤ conflictLevel then "mixed_conflict" else "mixed_macro_signals"))
      "Macro, quant, and risk signals are mixed. Low directional conviction."

section Risk
variable {A : Arithmetic} {i : SynthesisInputs}

theorem convictionScore_eq (h : ¬countEngines i < 2) : (computeSynthesisView A i).convictionScore =
    convictionAfter A i.macroConfidence (computeRiskPenalty A i.avgVar95 i.worstMddPct) := by
  unfold computeSynthesisView
  rw [if_neg h]
  split_ifs <;> rfl

theorem riskPenalty_eq (h : ¬countEngines i < 2) : (computeSynthesisView A i).riskPenalty =
    computeRiskPenalty A i.avgVar95 i.worstMddPct := by
  unfold computeSynthesisView
  rw [if_neg h]
  split_ifs <;> rfl

theorem view_of_few (h : countEngines i < 2) :
    (computeSynthesisView A i).convictionScore = 0 ∧ (computeSynthesisView A i).riskPenalty = 0 ∧
      (computeSynthesisView A i).synthesisStatus = .insufficientData := by
  unfold computeSynthesisView
  rw [if_pos h]
  exact ⟨rfl,rfl,rfl⟩

theorem riskDominant_iff (h : ¬countEngines i < 2) :
    (computeSynthesisView A i).synthesisStatus = .riskDominant ↔
      Severe i.avgVar95 i.worstMddPct := by
  unfold computeSynthesisView
  rw [if_neg h]
  by_cases hsevere : Severe i.avgVar95 i.worstMddPct
  · rw [if_pos hsevere]
    exact iff_of_true rfl hsevere
  · rw [if_neg hsevere]
    refine iff_of_false ?_ hsevere
    split_ifs <;> nofun

/-- The status that the inputs other than the risk lean to. -/
def leaning (i : SynthesisInputs) : SynthesisStatus :=
  if i.regimeLabel ∈ bullishRegimes ∧ i.quantOverallSupport ∈ strongQuant ∧
      parseConflictLevel i.conflictStatus ≤ conflictLow then .alignedBullish
  else if (i.regimeLabel ∈ cautiousRegimes ∨ i.quantOverallSupport ∈ weakQuant) ∧
      parseConflictLevel i.conflictStatus < conflictHigh then .alignedCautious
  else .mixedSignals

theorem status_of_mild (h : ¬countEngines i < 2) (hmild : ¬Severe i.avgVar95 i.worstMddPct) :
    (computeSynthesisView A i).synthesisStatus = leaning i := by
  unfold computeSynthesisView leaning
  rw [if_neg h,if_neg hmild]
  split_ifs <;> rfl

end Risk

end MacroInvest.Synthesis
