import MacroInvest.Synthesis.WhatIf
import MacroInvest.Risk.Allocation
import MacroInvest.Market.Feeds

/-! # Baselines of the synthesis

Four handlers compute a view of the same caches. Three of them measure the risk on the stored
prices, the scenario tool takes two constants for it. Its baseline is theirs exactly when the
measured risk is not severe and takes the same off the confidence as the constants, whatever
the figures of the risk engine are and however numbers are rounded.
-/
namespace MacroInvest.Synthesis
open Broker Risk Rounding

/-- `_REGIME_CACHE` as far as the synthesis reads it; `none` is an absent key. -/
structure RegimeCache where
  regimeName : Option String
  confidenceScore : Option ℚ

/-- `compute_risk_summary`: of closes, held values and sectors. -/
abbrev RiskEngine := PriceTable → List (String × ℚ) → List (String × String) → RiskSummary

/-- The caches, the stored closes of each ticker oldest first, and the portfolio. -/
structure ServerState where
  regimeCache : RegimeCache
  macroCache : String → Option ℚ
  historicalPrices : String → List Close
  portfolioHoldings : List Holding
  priceState : Prices

section Labels

/-- `c.upper()` as far as it can yield a letter of a regime name. -/
def upper (c : Char) : List Char :=
  match c with
  | 'ſ' => ['S']
  | 'ı' => ['I']
  | 'ß' => ['S','S']
  | '\ufb00' => ['F','F']
  | '\ufb01' => ['F','I']
  | '\ufb02' => ['F','L']
  | '\ufb03' => ['F','F','I']
  | '\ufb04' => ['F','F','L']
  | '\ufb05' => ['S','T']
  | '\ufb06' => ['S','T']
  | c => [c.toUpper]

def synthesisRegimeMap : List (String × String) :=
  [("EXPANSION","expansion"),("RECOVERY","recovery"),("POLICY_EASING","expansion"),
   ("EARLY_CYCLE","expansion"),("MID_CYCLE","expansion"),("LATE_CYCLE","slowdown"),
   ("POLICY_TIGHTENING","slowdown"),("SLOWDOWN","slowdown"),("CONTRACTION","contraction"),
   ("RECESSION","contraction"),("CRISIS_MODE","contraction"),("VOLATILITY_REGIME","stagflation"),
   ("STAGFLATION","stagflation")]

def deriveQuantSupport (vix spread : ℚ) : String :=
  if vix < 15 ∧ 0.5 < spread then "strong_positive"
  else if vix < 20 ∧ 0 < spread then "moderate_positive"
  else if 30 < vix ∨ spread < -0.5 then "strong_negative"
  else if 25 < vix ∨ spread < 0 then "moderate_negative"
  else "neutral"

def deriveConflictStatus (regimeLabel : String) (vix spread : ℚ) : String :=
  if regimeLabel = "contraction" ∧ 25 < vix then "high_conflict"
  else if 20 < vix ∨ spread < 0 then "medium_conflict"
  else "low_conflict"

end Labels

/-- `TICKER_GROUPS` -/
def tickerGroups : List (String × String) :=
  [("AAPL","TECH"),("MSFT","TECH"),("TSLA","TECH"),("005930","KR_TECH"),("000660","KR_TECH"),
   ("035420","KR_TECH"),("051910","KR_CHEM"),("006400","KR_CHEM"),("122630","KR_ETF"),
   ("005380","KR_AUTO"),("207940","KR_BIO"),("005490","KR_STEEL"),("105560","KR_FINANCE"),
   ("QQQ","ETF_TECH"),("BND","ETF_BOND"),("GLD","ETF_COMMODITY")]

namespace ServerState
variable (A : Arithmetic) (engine : RiskEngine) (s : ServerState)

def regimeName : String := s.regimeCache.regimeName.getD "unknown"

def regimeLabel : String :=
  (synthesisRegimeMap.lookup (String.ofList (s.regimeName.toList.flatMap upper))).getD "unknown"

def vix : ℚ := (s.macroCache "VIX").getD 20

def spread : ℚ :=
  A.round 4 (A.sub ((s.macroCache "T10Y").getD (A.fl 4.35)) ((s.macroCache "T3M").getD (A.fl 5.28)))

/-- The inputs that all handlers take from the caches, with a risk. -/
def inputs (avgVar95 worstMddPct : ℚ) : SynthesisInputs where
  regimeLabel := s.regimeLabel
  macroConfidence := s.regimeCache.confidenceScore.getD 0.5
  quantOverallSupport := deriveQuantSupport s.vix (s.spread A)
  conflictStatus := deriveConflictStatus s.regimeLabel s.vix (s.spread A)
  avgVar95 := avgVar95
  worstMddPct := worstMddPct

/-- The last 500 closes of every live ticker that has any. -/
def pricesByTicker : PriceTable where
  series := (Market.liveTickers.map (fun p => (p.1,(s.historicalPrices p.1).rtake 500))).filter
    (fun p => p.2 ≠ [])
  distinct := by
    have hkeys : (Market.liveTickers.map Prod.fst).Nodup := by decide +kernel
    refine List.Nodup.sublist (List.filter_sublist.map Prod.fst) ?_
    rw [List.map_map]
    exact hkeys

/-- The average value at risk and the worst drawdown; zero without a contributing ticker. -/
def measuredRisk : ℚ × ℚ :=
  if s.pricesByTicker.series = [] then (0,0)
  else
    let holdings := heldValues A s.priceState s.portfolioHoldings
    let tickerRisks := (engine s.pricesByTicker holdings tickerGroups).tickerRisks
    if tickerRisks = [] then (0,0)
    else
      let varVals := tickerRisks.map (fun p => p.2.var95Pct)
      let mddVals := tickerRisks.map (fun p => p.2.maxDrawdownPct)
      (A.round 4 (A.div (A.sum varVals) varVals.length),A.round 4 (mddVals.min?.getD 0))

end ServerState

section Handlers
variable (A : Arithmetic) (engine : RiskEngine) (s : ServerState)

structure SynthesisReport where
  regimeName : String
  avgVar95 : ℚ
  worstMddPct : ℚ
  view : SynthesisView

def synthesisView : SynthesisReport :=
  let risk := s.measuredRisk A engine
  { regimeName := s.regimeName
    avgVar95 := risk.1
    worstMddPct := risk.2
    view := computeSynthesisView A (s.inputs A risk.1 risk.2) }

def getSynthesisViewTool : SynthesisView × String :=
  let risk := s.measuredRisk A engine
  (computeSynthesisView A (s.inputs A risk.1 risk.2),s.regimeName)

/-- `_WHATIF_PRESETS` -/
def whatifPresets : List (String × WhatIfScenario) :=
  [("vix_spike",
      { label := "vix_spike"
        quantSupportOverride := some "strong_negative"
        avgVar95Override := some 6.5
        confidenceValid := by simp
        varValid := by norm_num
        mddValid := by simp }),
   ("yield_inversion",
      { label := "yield_inversion"
        quantSupportOverride := some "moderate_negative"
        conflictStatusOverride := some "medium_conflict"
        confidenceValid := by simp
        varValid := by simp
        mddValid := by simp }),
   ("market_crash",
      { label := "market_crash"
        quantSupportOverride := some "strong_negative"
        avgVar95Override := some 8
        worstMddPctOverride := some (-45)
        conflictStatusOverride := some "high_conflict"
        confidenceValid := by simp
        varValid := by norm_num
        mddValid := by norm_num }),
   ("soft_landing",
      { label := "soft_landing"
        regimeLabelOverride := some "expansion"
        quantSupportOverride := some "strong_positive"
        conflictStatusOverride := some "low_conflict"
        avgVar95Override := some (A.fl 0.8)
        confidenceValid := by simp
        varValid := by simpa using A.fl_nonneg (by norm_num)
        mddValid := by simp }),
   ("stagflation",
      { label := "stagflation"
        regimeLabelOverride := some "stagflation"
        quantSupportOverride := some "strong_negative"
        conflictStatusOverride := some "high_conflict"
        avgVar95Override := some 5.5
        confidenceValid := by simp
        varValid := by norm_num
        mddValid := by simp })]

def unknownScenario (scenario : String) : String :=
  "unknown scenario '" ++ scenario ++ "'. Available: ['vix_spike', 'yield_inversion', " ++
    "'market_crash', 'soft_landing', 'stagflation']"

def synthesisWhatif (scenario : String) : Except String WhatIfResult :=
  match (whatifPresets A).lookup scenario with
  | none => .error (unknownScenario scenario)
  | some preset =>
    let risk := s.measuredRisk A engine
    let i := s.inputs A risk.1 risk.2
    .ok (computeWhatifResult A preset (computeSynthesisView A i) i)

/-- The arguments of the scenario tool with their defaults. -/
structure ScenarioArgs where
  preset : String := ""
  regimeOverride : String := ""
  confidenceOverride : ℚ := -1
  quantOverride : String := ""
  conflictOverride : String := ""
  varOverride : ℚ := -1
  mddOverride : ℚ := 0

structure ScenarioReport where
  scenario : String
  baselineStatus : SynthesisStatus
  projectedStatus : SynthesisStatus
  statusChanged : Bool
  convictionDelta : ℚ
  baselineConviction : ℚ
  projectedConviction : ℚ
  projectedNote : String
  dominantConcern : Option String
  baselineRegime : String

/-- The presets of the scenario tool. -/
def scenarioPresets : List (String × WhatIfScenario) :=
  let preset (label regime : String) (confidence : ℚ) (quant conflict : String) (var mdd : ℚ)
      (hconfidence : confidence ∈ Set.Icc 0 1) (hvar : 0 ≤ var) (hmdd : mdd ≤ 0) :
      WhatIfScenario :=
    { label := label
      regimeLabelOverride := some regime
      macroConfidenceOverride := some (A.fl confidence)
      quantSupportOverride := some quant
      conflictStatusOverride := some conflict
      avgVar95Override := some (A.fl var)
      worstMddPctOverride := some mdd
      confidenceValid := by simpa using ⟨A.fl_nonneg hconfidence.1,A.fl_le_one hconfidence.2⟩
      varValid := by simpa using A.fl_nonneg hvar
      mddValid := by simpa using hmdd }
  [("goldilocks",preset "골디락스" "expansion" 0.85 "strong_positive" "low" 1.5 (-8.0)
      (by norm_num) (by norm_num) (by norm_num)),
   ("crisis",preset "공황 리스크" "contraction" 0.3 "strong_negative" "high" 8.0 (-45.0)
      (by norm_num) (by norm_num) (by norm_num)),
   ("stagflation",preset "스태그플레이션" "stagflation" 0.55 "moderate_negative" "elevated" 4.5 (-28.0)
      (by norm_num) (by norm_num) (by norm_num)),
   ("fed_tightening",preset "연준 긴축" "policy_tightening_drag" 0.6 "neutral" "moderate" 3.2 (-20.0)
      (by norm_num) (by norm_num) (by norm_num)),
   ("soft_landing",preset "소프트랜딩" "recovery" 0.72 "moderate_positive" "low" 2.0 (-12.0)
      (by norm_num) (by norm_num) (by norm_num))]

/-- `text or None` -/
def textOrNone (text : String) : Option String := if text = "" then none else some text

/-- The scenario of the overrides; `none` when a confidence above one does not validate. -/
def customScenario (args : ScenarioArgs) : Option WhatIfScenario :=
  if hconfidence : args.confidenceOverride ≤ 1 then some
    { label := "custom: " ++
        (if args.regimeOverride = "" then s.regimeLabel else args.regimeOverride)
      regimeLabelOverride := textOrNone args.regimeOverride
      macroConfidenceOverride :=
        if 0 ≤ args.confidenceOverride then some args.confidenceOverride else none
      quantSupportOverride := textOrNone args.quantOverride
      conflictStatusOverride := textOrNone args.conflictOverride
      avgVar95Override := if 0 ≤ args.varOverride then some args.varOverride else none
      worstMddPctOverride := if args.mddOverride < 0 then some args.mddOverride else none
      confidenceValid := by
        intro x hx
        obtain ⟨h0,⟨⟩⟩ := Option.ite_none_right_eq_some.mp hx
        exact ⟨h0,hconfidence⟩
      varValid := by
        intro x hx
        obtain ⟨h0,⟨⟩⟩ := Option.ite_none_right_eq_some.mp hx
        exact h0
      mddValid := by
        intro x hx
        obtain ⟨h0,⟨⟩⟩ := Option.ite_none_right_eq_some.mp hx
        exact h0.le }
  else none

/-- The risk of the scenario tool. -/
def curVar : ℚ := 2.5
def curMdd : ℚ := -15

/-- The named preset, or the scenario of the overrides. -/
def chosenScenario (args : ScenarioArgs) : Option WhatIfScenario :=
  match (scenarioPresets A).lookup args.preset with
  | some scenario => some scenario
  | none => customScenario s args

def scenarioReport (scenario : WhatIfScenario) : ScenarioReport :=
  let i := s.inputs A curVar curMdd
  let baseline := computeSynthesisView A i
  let result := computeWhatifResult A scenario baseline i
  { scenario := result.scenarioLabel
    baselineStatus := result.baseline.synthesisStatus
    projectedStatus := result.projected.synthesisStatus
    statusChanged := result.statusChanged
    convictionDelta := result.convictionDelta
    baselineConviction := result.baseline.convictionScore
    projectedConviction := result.projected.convictionScore
    projectedNote := result.projected.note
    dominantConcern := result.projected.dominantConcern
    baselineRegime := s.regimeName }

/-- `none` when the scenario does not validate. -/
def runScenarioTool (args : ScenarioArgs) : Option ScenarioReport :=
  (chosenScenario A s args).map (scenarioReport A s)

end Handlers

section Law
variable {A : Arithmetic} {engine : RiskEngine} {s : ServerState}

/-- What is compared of a view. -/
def SynthesisView.shown (v : SynthesisView) : SynthesisStatus × ℚ :=
  (v.synthesisStatus,v.convictionScore)

def ScenarioReport.baselineShown (r : ScenarioReport) : SynthesisStatus × ℚ :=
  (r.baselineStatus,r.baselineConviction)

/-- No preset is named and every override is left at a value that keeps the input. -/
structure ScenarioArgs.NoOverride (A : Arithmetic) (args : ScenarioArgs) : Prop where
  preset : (scenarioPresets A).lookup args.preset = none
  regime : args.regimeOverride = ""
  confidence : args.confidenceOverride < 0
  quant : args.quantOverride = ""
  conflict : args.conflictOverride = ""
  var : args.varOverride < 0
  mdd : 0 ≤ args.mddOverride

/-- All handlers report one baseline, and a scenario without an override changes nothing. -/
structure OneBaseline (A : Arithmetic) (engine : RiskEngine) (s : ServerState) : Prop where
  view : ∀ args report, runScenarioTool A s args = some report →
    report.baselineShown = (synthesisView A engine s).view.shown
  tool : ∀ args report, runScenarioTool A s args = some report →
    report.baselineShown = (getSynthesisViewTool A engine s).1.shown
  whatif : ∀ args report, runScenarioTool A s args = some report →
    ∀ scenario result, synthesisWhatif A engine s scenario = .ok result →
      report.baselineShown = result.baseline.shown
  unchanged : ∀ args, args.NoOverride A → ∃ report, runScenarioTool A s args = some report ∧
    report.convictionDelta = 0 ∧ report.statusChanged = false

/-- What three of the handlers show. -/
def measuredShown (A : Arithmetic) (engine : RiskEngine) (s : ServerState) : SynthesisStatus × ℚ :=
  (computeSynthesisView A
    (s.inputs A (s.measuredRisk A engine).1 (s.measuredRisk A engine).2)).shown

theorem synthesisView_shown : (synthesisView A engine s).view.shown = measuredShown A engine s := by
  simp only [synthesisView,measuredShown]

theorem getSynthesisViewTool_shown :
    (getSynthesisViewTool A engine s).1.shown = measuredShown A engine s := by
  simp only [getSynthesisViewTool,measuredShown]

theorem synthesisWhatif_shown {scenario : String} {result : WhatIfResult}
    (h : synthesisWhatif A engine s scenario = .ok result) :
    result.baseline.shown = measuredShown A engine s := by
  unfold synthesisWhatif at h
  split at h
  · cases h
  · obtain rfl := Except.ok.inj h
    simp only [computeWhatifResult,measuredShown]

/-- Every handler has two engines at least: labels for quant and conflict are always given. -/
theorem two_engines (avgVar95 worstMddPct : ℚ) :
    ¬countEngines (s.inputs A avgVar95 worstMddPct) < 2 := by
  have hquant : ∀ vix spread, deriveQuantSupport vix spread ≠ "" ∧
      deriveQuantSupport vix spread ∉ ["unknown","no_data"] := by
    intro vix spread
    unfold deriveQuantSupport
    split_ifs <;> decide
  have hconflict : ∀ label vix spread, deriveConflictStatus label vix spread ≠ "" ∧
      deriveConflictStatus label vix spread ∉ ["unknown","no_data"] := by
    intro label vix spread
    unfold deriveConflictStatus
    split_ifs <;> decide
  rw [countEngines,ServerState.inputs,if_pos (hquant _ _),if_pos (hconflict _ _ _)]
  omega

theorem not_severe_constants : ¬Severe curVar curMdd := by decide +kernel

theorem status_inputs_eq_iff (avgVar95 worstMddPct : ℚ) :
    (computeSynthesisView A (s.inputs A curVar curMdd)).synthesisStatus =
        (computeSynthesisView A (s.inputs A avgVar95 worstMddPct)).synthesisStatus ↔
      ¬Severe avgVar95 worstMddPct := by
  constructor
  · intro h hsevere
    rw [(riskDominant_iff (two_engines avgVar95 worstMddPct)).mpr hsevere] at h
    exact not_severe_constants ((riskDominant_iff (two_engines curVar curMdd)).mp h)
  · intro hmild
    rw [status_of_mild (two_engines curVar curMdd) not_severe_constants,
      status_of_mild (two_engines avgVar95 worstMddPct) hmild]
    rfl

/-- What a risk leaves of the confidence in the regime. -/
def ServerState.left (A : Arithmetic) (s : ServerState) (avgVar95 worstMddPct : ℚ) : ℚ :=
  convictionAfter A (s.regimeCache.confidenceScore.getD 0.5)
    (computeRiskPenalty A avgVar95 worstMddPct)

theorem shown_inputs_eq_iff (avgVar95 worstMddPct : ℚ) :
    (computeSynthesisView A (s.inputs A curVar curMdd)).shown =
        (computeSynthesisView A (s.inputs A avgVar95 worstMddPct)).shown ↔
      ¬Severe avgVar95 worstMddPct ∧ s.left A avgVar95 worstMddPct = s.left A curVar curMdd := by
  rw [SynthesisView.shown,SynthesisView.shown,Prod.mk.injEq,status_inputs_eq_iff,
    convictionScore_eq (two_engines curVar curMdd),
    convictionScore_eq (two_engines avgVar95 worstMddPct),eq_comm (a := convictionAfter A _ _)]
  rfl

theorem runScenarioTool_some {args : ScenarioArgs} {report : ScenarioReport}
    (h : runScenarioTool A s args = some report) : report.baselineShown =
      (computeSynthesisView A (s.inputs A curVar curMdd)).shown := by
  obtain ⟨scenario,-,rfl⟩ := Option.map_eq_some_iff.mp h
  rfl

theorem customScenario_noOverride {args : ScenarioArgs} (h : args.NoOverride A) :
    ∃ scenario, customScenario s args = some scenario ∧ scenario.NoOverride := by
  have hle : args.confidenceOverride ≤ 1 := h.confidence.le.trans zero_le_one
  rw [customScenario,dif_pos hle]
  exact ⟨_,rfl,
    { regimeLabel := if_pos h.regime
      macroConfidence := if_neg h.confidence.not_ge
      quantSupport := if_pos h.quant
      conflictStatus := if_pos h.conflict
      avgVar95 := if_neg h.var.not_ge
      worstMddPct := if_neg h.mdd.not_gt }⟩

theorem runScenarioTool_noOverride {args : ScenarioArgs} (h : args.NoOverride A) :
    ∃ report, runScenarioTool A s args = some report ∧
      report.convictionDelta = 0 ∧ report.statusChanged = false := by
  obtain ⟨scenario,hscenario,hnone⟩ := customScenario_noOverride (s := s) h
  obtain ⟨hstatus,hdelta⟩ := hnone.unchanged A (s.inputs A curVar curMdd)
  have hchosen : chosenScenario A s args = some scenario := by
    rw [chosenScenario,h.preset]
    exact hscenario
  exact ⟨scenarioReport A s scenario,by rw [runScenarioTool,hchosen,Option.map_some],hdelta,
    hstatus⟩

theorem defaults_noOverride (A : Arithmetic) : ({} : ScenarioArgs).NoOverride A where
  preset := rfl
  regime := rfl
  confidence := by decide +kernel
  quant := rfl
  conflict := rfl
  var := by decide +kernel
  mdd := le_rfl

end Law

/-- The handlers have one baseline exactly when the risk measured on the stored prices is not
severe and leaves the same of the confidence as the risk of the scenario tool. -/
theorem one_baseline_law (A : Arithmetic) (engine : RiskEngine) (s : ServerState) :
    OneBaseline A engine s ↔
      ¬Severe (s.measuredRisk A engine).1 (s.measuredRisk A engine).2 ∧
        s.left A (s.measuredRisk A engine).1 (s.measuredRisk A engine).2 =
          s.left A curVar curMdd := by
  rw [← shown_inputs_eq_iff,← measuredShown]
  constructor
  · intro h
    obtain ⟨report,hreport,-⟩ := h.unchanged {} (defaults_noOverride A)
    have hview := h.view {} report hreport
    rwa [runScenarioTool_some hreport,synthesisView_shown] at hview
  · intro h
    constructor
    · intro args report hreport
      rw [runScenarioTool_some hreport,h,synthesisView_shown]
    · intro args report hreport
      rw [runScenarioTool_some hreport,h,getSynthesisViewTool_shown]
    · intro args report hreport scenario result hresult
      rw [runScenarioTool_some hreport,h,synthesisWhatif_shown hresult]
    · exact fun args hargs => runScenarioTool_noOverride hargs

/-- The caches as the server starts with them, before any price is stored. -/
def startup : ServerState where
  regimeCache := ⟨some "POLICY_TIGHTENING",some (Arithmetic.double.fl 0.85)⟩
  macroCache key := ([("T10Y",4.35),("T3M",5.28),("VIX",18.5),("FED_RATE",5.33)].lookup key).map
    Arithmetic.double.fl
  historicalPrices _ := []
  portfolioHoldings := []
  priceState _ := none

/-- Without a stored price the scenario tool still takes its constants off the confidence. -/
theorem startup_two_baselines :
    ¬ ∀ s, OneBaseline .double (computeRiskSummary .double) s := by
  intro h
  obtain ⟨report,hreport,-⟩ := (h startup).unchanged {} (defaults_noOverride .double)
  have hview := (h startup).view {} report hreport
  have hrisk : startup.measuredRisk .double (computeRiskSummary .double) = (0,0) := by
    decide +kernel
  rw [runScenarioTool_some hreport,synthesisView_shown,measuredShown,hrisk] at hview
  exact absurd hview (by decide +kernel)

end MacroInvest.Synthesis
