import MacroInvest.Macro.History
import MacroInvest.Macro.TransitionChain
import MacroInvest.Signals.Conflict
import MacroInvest.Signals.RegimeRules

/-! # Regime-grounded signals

The calls of the stored regime's label, with their scores reduced by weak confidence and weak
support. A snapshot of worse data has no call to buy or to sell that the better one does not
have at least as boldly, and every such call comes from a saved snapshot of usable data.
-/
namespace MacroInvest.Signals
open Macro FirstMax CallRun

section Engine

def confidenceMultiplier : RegimeConfidence → ℚ
  | .high => 1.00
  | .medium => 0.85
  | .low => 0.65

theorem clamp_mem (x : ℚ) : max 0 (min 1 x) ∈ Set.Icc (0 : ℚ) 1 :=
  ⟨le_max_left _ _,max_le zero_le_one (min_le_left _ _)⟩

/-- `_adjust_signal_score` -/
def adjustSignalScore (baseScore : ℚ) (regimeConfidence : RegimeConfidence)
    (quantOverallSupport : Option ℚ) : UnitScore :=
  let score := baseScore * confidenceMultiplier regimeConfidence
  let score := if QuantWeak quantOverallSupport then score * 0.85 else score
  ⟨max 0 (min 1 score),clamp_mem score⟩

/-- The `SignalOutput` of this engine, with the fields that only it fills. -/
structure RegimeSignalOutput where
  signalId : String
  signalType : SignalType
  strength : SignalStrength
  score : UnitScore
  triggeredAt : ℤ
  trend : TrendDirection
  rationale : String
  ruleResults : List (String × Bool)
  assetClass : String
  supportingRegime : String
  supportingDrivers : List String
  conflictingDrivers : List String
  isDegraded : Bool
  caveat : Option String
  conflict : ConflictSurface

structure RegimeSignalResult where
  runId : String
  timestamp : ℤ
  signals : List RegimeSignalOutput
  success : Bool := true

def isSeeded (regime : MacroRegime) : Bool := regime.metadata.lookup "seeded" = some "true"

def regimeIsDegraded (regime : MacroRegime) : Bool :=
  isSeeded regime || decide (regime.freshnessStatus ∈ [.stale,.unknown]) ||
    decide (regime.degradedStatus ∈ [.partialData,.missing,.sourceUnavailable]) ||
    decide (regime.confidence = .low) || decide (regime.regimeLabel ∈ [.mixed,.unclear])

def regimeCaveat (regime : MacroRegime) : Option String :=
  if isSeeded regime then
    some ("Signal derived from bootstrap/synthetic regime data. " ++
      "This is not a production signal.")
  else if regime.regimeLabel ∈ [.mixed,.unclear] then
    some ("Grounding regime is non-directional (" ++ regime.regimeLabel.value ++ "). " ++
      "No asset-level signal can be derived with meaningful confidence.")
  else if regime.freshnessStatus = .stale then
    some ("Grounding regime is stale (freshness=" ++
      regime.freshnessStatus.value ++ "). " ++
      "Signal may not reflect current market conditions.")
  else if regime.freshnessStatus = .unknown then
    some ("Regime data freshness is unknown. " ++ "Signal confidence is reduced.")
  else if regime.degradedStatus ∈ [.missing,.sourceUnavailable] then
    some ("Grounding regime has degraded inputs " ++
      "(status=" ++ regime.degradedStatus.value ++ "). " ++
      "Signal derived from incomplete macro evidence.")
  else if regime.degradedStatus = .partialData then
    some ("Grounding regime was built from partial indicator data. " ++
      "Signal confidence may be lower than stated.")
  else if regime.confidence = .low then
    some ("Grounding regime confidence is LOW. " ++
      "Signal direction is indicative only — do not act with high conviction.")
  else none

def quantSupport (regime : MacroRegime) : Option ℚ :=
  regime.quantScores.map (·.overallSupport.val)

/-- What the loop over the rules makes of one of them. -/
def signalOfRule (regime : MacroRegime) (now : ℤ) (rule : RegimeSignalRule) :
    RegimeSignalOutput where
  signalId := rule.signalId
  signalType := rule.signalDirection
  strength := rule.signalStrength
  score := adjustSignalScore rule.signalConfidence regime.confidence (quantSupport regime)
  triggeredAt := now
  trend := rule.trend
  rationale := rule.regimeRationale
  ruleResults := [("regime_rule",true)]
  assetClass := rule.assetClass
  supportingRegime := rule.supportingRegime
  supportingDrivers := rule.supportingDrivers
  conflictingDrivers := rule.conflictingDrivers
  isDegraded := regimeIsDegraded regime
  caveat := regimeCaveat regime
  conflict := deriveConflict rule.supportingDrivers rule.conflictingDrivers (quantSupport regime)
    (regimeIsDegraded regime)

def runRegimeGroundedEngine (runId : String) (now : ℤ) (regime : MacroRegime) :
    RegimeSignalResult :=
  ⟨runId,now,(getRegimeSignalRules regime.regimeLabel).map (signalOfRule regime now),true⟩

def strongestSignal (result : RegimeSignalResult) : Option RegimeSignalOutput :=
  firstMax (fun s => s.score.val) result.signals

end Engine

section Route

/-- The trust block, without its timestamps and sources. -/
structure TrustMetadata where
  freshnessStatus : String
  availability : String
  isDegraded : Bool

/-- The placeholder snapshot of this engine has one feature. -/
def buildTrustFromSignalResult (result : RegimeSignalResult) : TrustMetadata where
  freshnessStatus := "fresh"
  availability := if !result.success then "unavailable"
    else if result.signals.isEmpty then "partial" else "full"
  isDegraded := !result.success

structure SignalsLatestResponse where
  country : String
  runId : String
  signals : List RegimeSignalOutput
  signalsCount : ℕ
  buyCount : ℕ
  sellCount : ℕ
  holdCount : ℕ
  strongestSignalId : Option String
  trust : TrustMetadata
  regimeLabel : String
  asOfDate : String
  isRegimeGrounded : Bool
  status : String

def countOf (signals : List RegimeSignalOutput) (t : SignalType) : ℕ :=
  signals.countP (fun s => s.signalType = t)

/-- The answer of the route from a stored regime. -/
def groundedResponse (regime : MacroRegime) (country runId : String) (now : ℤ) :
    SignalsLatestResponse :=
  let result := runRegimeGroundedEngine runId now regime
  { country := country
    runId := result.runId
    signals := result.signals
    signalsCount := result.signals.length
    buyCount := countOf result.signals .buy
    sellCount := countOf result.signals .sell
    holdCount := countOf result.signals .hold
    strongestSignalId := (strongestSignal result).map (·.signalId)
    trust := buildTrustFromSignalResult result
    regimeLabel := regime.regimeLabel.value
    asOfDate := regime.asOfDate.isoformat
    isRegimeGrounded := true
    status := if result.signals.any (·.isDegraded) then "degraded"
      else if result.signals.isEmpty then "empty" else "success" }

/-- `get_latest_signals`; without a stored regime the route falls back to the signal engine over
a live snapshot. -/
def getLatestSignals (service : MacroRegimeService) (today : Date) (country runId : String)
    (now : ℤ) : Option SignalsLatestResponse := do
  let regimes ← service.regimeRepository
  let regime ← regimes.getLatestOnOrBefore today
  return groundedResponse regime country runId now

end Route

section DataQuality
variable {s t : MacroSnapshotState}

/-- Data from which a label with a direction can come. -/
def Usable (s : MacroSnapshotState) : Prop :=
  s.degradedStatus ∉ [.missing,.sourceUnavailable] ∧ s.freshnessStatus ∉ [.stale,.unknown] ∧
    hasUnknownState s = false

/-- The data of `t` is no better than that of `s`: states may have become unknown, and both
grades are the same, or the best in `s`, or one of the worst in `t`. -/
structure NoBetter (t s : MacroSnapshotState) : Prop where
  growth : t.growthState = s.growthState ∨ t.growthState = .unknown
  inflation : t.inflationState = s.inflationState ∨ t.inflationState = .unknown
  labor : t.laborState = s.laborState ∨ t.laborState = .unknown
  policy : t.policyState = s.policyState ∨ t.policyState = .unknown
  financialConditions : t.financialConditionsState = s.financialConditionsState ∨
    t.financialConditionsState = .unknown
  freshness : s.freshnessStatus = .fresh ∨ t.freshnessStatus = s.freshnessStatus ∨
    t.freshnessStatus ∈ [.stale,.unknown]
  completeness : s.degradedStatus = .none ∨ t.degradedStatus = s.degradedStatus ∨
    t.degradedStatus ∈ [.missing,.sourceUnavailable]

theorem usable_of_label (h : mapSnapshotToRegimeLabel s ∉ [RegimeLabel.mixed,.unclear]) :
    Usable s := by
  unfold mapSnapshotToRegimeLabel at h
  refine ⟨?_,?_,?_⟩
  · intro hdegraded
    simp [hdegraded] at h
  · intro hfresh
    split_ifs at h <;> simp_all
  · by_contra hunknown
    split_ifs at h <;> simp_all

/-- No state of usable data is written as an unknown one. -/
theorem state_known (h : Usable s) {text : String} (htext : text ∈ s.states) :
    isUnknown text = false := by
  have hnone := h.2.2
  rw [hasUnknownState,List.any_eq_false] at hnone
  simpa using hnone text htext

theorem ne_unknown {S : Type} (value : S → String) {unknown state : S}
    (hunknown : isUnknown (value unknown) = true) (h : isUnknown (value state) = false) :
    state ≠ unknown := by
  rintro rfl
  rw [h] at hunknown
  cases hunknown

/-- The five states of usable data are known. -/
theorem states_known (h : Usable s) : s.growthState ≠ .unknown ∧ s.inflationState ≠ .unknown ∧
    s.laborState ≠ .unknown ∧ s.policyState ≠ .unknown ∧
    s.financialConditionsState ≠ .unknown := by
  refine ⟨?_,?_,?_,?_,?_⟩
  · exact ne_unknown GrowthState.value (by decide)
      (state_known h (by simp [MacroSnapshotState.states]))
  · exact ne_unknown InflationState.value (by decide)
      (state_known h (by simp [MacroSnapshotState.states]))
  · exact ne_unknown LaborState.value (by decide)
      (state_known h (by simp [MacroSnapshotState.states]))
  · exact ne_unknown PolicyState.value (by decide)
      (state_known h (by simp [MacroSnapshotState.states]))
  · exact ne_unknown FinancialConditionsState.value (by decide)
      (state_known h (by simp [MacroSnapshotState.states]))

/-- Two snapshots of the same five states. -/
def SameStates (t s : MacroSnapshotState) : Prop :=
  t.growthState = s.growthState ∧ t.inflationState = s.inflationState ∧
    t.laborState = s.laborState ∧ t.policyState = s.policyState ∧
    t.financialConditionsState = s.financialConditionsState

theorem NoBetter.sameStates (h : NoBetter t s) (ht : Usable t) : SameStates t s := by
  obtain ⟨hgrowth,hinflation,hlabor,hpolicy,hfinancial⟩ := states_known ht
  exact ⟨h.growth.resolve_right hgrowth,h.inflation.resolve_right hinflation,
    h.labor.resolve_right hlabor,h.policy.resolve_right hpolicy,
    h.financialConditions.resolve_right hfinancial⟩

theorem SameStates.states_eq (h : SameStates t s) : t.states = s.states := by
  obtain ⟨hgrowth,hinflation,hlabor,hpolicy,hfinancial⟩ := h
  simp [MacroSnapshotState.states,hgrowth,hinflation,hlabor,hpolicy,hfinancial]

theorem SameStates.scores_eq (h : SameStates t s) : scoreSnapshot t = scoreSnapshot s := by
  obtain ⟨hgrowth,hinflation,hlabor,hpolicy,hfinancial⟩ := h
  simp [scoreSnapshot,scoreGrowth,scoreInflation,scoreLabor,scorePolicy,
    scoreFinancialConditions,hgrowth,hinflation,hlabor,hpolicy,hfinancial]

/-- What is usable in the worse data was so in the better. -/
theorem NoBetter.usable (h : NoBetter t s) (ht : Usable t) : Usable s := by
  have hstates := (h.sameStates ht).states_eq
  obtain ⟨hdegraded,hfresh,hknown⟩ := ht
  refine ⟨?_,?_,?_⟩
  · rcases h.completeness with hs | hs | hs
    · simp [hs]
    · rwa [← hs]
    · exact absurd hs hdegraded
  · rcases h.freshness with hs | hs | hs
    · simp [hs]
    · rwa [← hs]
    · exact absurd hs hfresh
  · rwa [hasUnknownState,← hstates]

theorem SameStates.label_eq (h : SameStates t s) (ht : Usable t) (hs : Usable s) :
    mapSnapshotToRegimeLabel t = mapSnapshotToRegimeLabel s := by
  obtain ⟨hgrowth,hinflation,hlabor,hpolicy,hfinancial⟩ := h
  unfold mapSnapshotToRegimeLabel
  simp only [ht.1,ht.2.1,ht.2.2,hs.1,hs.2.1,hs.2.2,hgrowth,hinflation,hlabor,hpolicy,hfinancial]

/-- The grades left over for usable data: complete and fresh, or capped. -/
theorem NoBetter.inputConfidence_le (h : NoBetter t s) (ht : Usable t) :
    confidenceRank (inputConfidence t) ≤ confidenceRank (inputConfidence s) := by
  have hcount : t.unknownCount = s.unknownCount := by
    rw [MacroSnapshotState.unknownCount,MacroSnapshotState.unknownCount,
      (h.sameStates ht).states_eq]
  have hcap : s.degradedStatus = .partialData ∨ s.freshnessStatus = .late →
      t.degradedStatus = .partialData ∨ t.freshnessStatus = .late := by
    rintro (hs | hs)
    · left
      rcases h.completeness with hnone | heq | hpoor
      · simp [hs] at hnone
      · rw [heq,hs]
      · exact absurd hpoor ht.1
    · right
      rcases h.freshness with hnone | heq | hpoor
      · simp [hs] at hnone
      · rw [heq,hs]
      · exact absurd hpoor ht.2.1
  unfold inputConfidence
  rw [hcount]
  split_ifs with hone hmany hbad hgood hgood
  any_goals exact le_rfl
  · decide
  · exact absurd (hcap hgood) hbad

theorem downgrade_le {a b : RegimeConfidence} (h : confidenceRank a ≤ confidenceRank b) :
    confidenceRank (downgrade a) ≤ confidenceRank (downgrade b) := by
  cases a <;> cases b <;> revert h <;> decide

theorem adjustConfidence_le (scores : QuantScoreBundle) {a b : RegimeConfidence}
    (h : confidenceRank a ≤ confidenceRank b) :
    confidenceRank (adjustConfidence scores a) ≤ confidenceRank (adjustConfidence scores b) := by
  have hcap : ∀ narrow : Prop, [Decidable narrow] →
      confidenceRank (if narrow ∧ a = .high then .medium else a) ≤
        confidenceRank (if narrow ∧ b = .high then .medium else b) := by
    intro narrow _
    by_cases hnarrow : narrow <;> cases a <;> cases b <;> simp_all [confidenceRank]
  unfold adjustConfidence
  simp only
  by_cases hweak : scores.overallSupport.val < 0.40
  · rw [if_pos hweak,if_pos hweak]
    exact downgrade_le (hcap _)
  · rw [if_neg hweak,if_neg hweak]
    exact hcap _

theorem confidence_of_usable (hs : Usable s) (hlabel : mapSnapshotToRegimeLabel s ∉
    [RegimeLabel.mixed,.unclear]) : snapshotConfidence s =
      if inputConfidence s = .low then .low
      else adjustConfidence (scoreSnapshot s) (inputConfidence s) := by
  have hregime : (mapSnapshotToRegime s).1 ∉ [RegimeLabel.mixed,.unclear] := hlabel
  rw [snapshotConfidence,deriveRegimeConfidence,if_neg hs.1,if_neg hs.2.1,if_neg hregime]

theorem low_of_le {a b : RegimeConfidence} (h : confidenceRank a ≤ confidenceRank b)
    (hb : b = .low) : a = .low := by
  subst hb
  cases a <;> revert h <;> decide

theorem low_le (c : RegimeConfidence) : confidenceRank .low ≤ confidenceRank c := by
  cases c <;> decide

/-- Worse data with a label of a direction gives no more confidence. -/
theorem NoBetter.confidence_le (h : NoBetter t s)
    (hlabel : mapSnapshotToRegimeLabel t ∉ [RegimeLabel.mixed,.unclear]) :
    confidenceRank (snapshotConfidence t) ≤ confidenceRank (snapshotConfidence s) := by
  have ht := usable_of_label hlabel
  have hs := h.usable ht
  have hsame := h.sameStates ht
  have hinput := h.inputConfidence_le ht
  rw [confidence_of_usable ht hlabel,
    confidence_of_usable hs (hsame.label_eq ht hs ▸ hlabel),hsame.scores_eq]
  split_ifs with hlow hlow'
  · exact le_rfl
  · exact low_le _
  · rename_i hlow'
    exact absurd (low_of_le hinput hlow') hlow
  · exact adjustConfidence_le _ hinput

theorem confidenceMultiplier_mem (c : RegimeConfidence) :
    0 ≤ confidenceMultiplier c ∧ confidenceMultiplier c ≤ 1 := by
  cases c <;> norm_num [confidenceMultiplier]

theorem confidenceMultiplier_le {a b : RegimeConfidence}
    (h : confidenceRank a ≤ confidenceRank b) :
    confidenceMultiplier a ≤ confidenceMultiplier b := by
  cases a <;> cases b <;> revert h <;> norm_num [confidenceMultiplier,confidenceRank]

theorem clamp_le {x y : ℚ} (h : x ≤ y) : max 0 (min 1 x) ≤ max 0 (min 1 y) :=
  max_le_max le_rfl (min_le_min le_rfl h)

/-- Less confidence gives no higher score. -/
theorem adjustSignalScore_le {base : ℚ} (hbase : 0 ≤ base) {a b : RegimeConfidence}
    (h : confidenceRank a ≤ confidenceRank b) (q : Option ℚ) :
    (adjustSignalScore base a q).val ≤ (adjustSignalScore base b q).val := by
  have hmul := mul_le_mul_of_nonneg_left (confidenceMultiplier_le h) hbase
  apply clamp_le
  split_ifs
  · exact mul_le_mul_of_nonneg_right hmul (by norm_num)
  · exact hmul

/-- No score is above that of its rule. -/
theorem adjustSignalScore_le_base {base : ℚ} (hbase : 0 ≤ base) (c : RegimeConfidence)
    (q : Option ℚ) : (adjustSignalScore base c q).val ≤ base := by
  obtain ⟨hlo,hhi⟩ := confidenceMultiplier_mem c
  have hmul := mul_le_of_le_one_right hbase hhi
  have hpos := mul_nonneg hbase hlo
  apply max_le hbase (min_le_of_right_le _)
  split_ifs
  · linarith
  · exact hmul

end DataQuality

section Calls
variable {s t : MacroSnapshotState} {fresh fresh' : Fresh} {regime regime' : MacroRegime}

/-- What a call keeps of the regime: where its snapshot, label and scores come from. -/
structure BuiltFrom (regime : MacroRegime) (s : MacroSnapshotState) : Prop where
  asOfDate : regime.asOfDate = s.asOfDate
  label : regime.regimeLabel = mapSnapshotToRegimeLabel s
  confidence : regime.confidence = snapshotConfidence s
  freshness : regime.freshnessStatus = s.freshnessStatus
  degraded : regime.degradedStatus = s.degradedStatus
  scores : regime.quantScores = some (scoreSnapshot s)
  unseeded : regime.metadata = []

theorem builtFrom_of_ok (h : regimeOfSnapshot fresh s = .ok regime) : BuiltFrom regime s := by
  unfold regimeOfSnapshot at h
  simp only at h
  split_ifs at h
  cases h
  constructor <;> rfl

theorem mem_signals {runId : String} {now : ℤ} {call : RegimeSignalOutput} :
    call ∈ (runRegimeGroundedEngine runId now regime).signals ↔
      ∃ rule ∈ getRegimeSignalRules regime.regimeLabel, signalOfRule regime now rule = call :=
  List.mem_map

/-- A call with a direction is never of a label of poor data. -/
theorem label_of_directional {rule : RegimeSignalRule} {l : RegimeLabel}
    (hrule : rule ∈ getRegimeSignalRules l) (hdirectional : Directional rule.signalDirection) :
    l ∉ [RegimeLabel.mixed,.unclear] :=
  fun hpoor => not_directional l hpoor rule hrule hdirectional

/-- The call `a` is as `b`, and at most as bold. -/
structure NoBolder (a b : RegimeSignalOutput) : Prop where
  signalId : a.signalId = b.signalId
  signalType : a.signalType = b.signalType
  assetClass : a.assetClass = b.assetClass
  strength : a.strength = b.strength
  score : a.score.val ≤ b.score.val
  conflict : a.conflict = b.conflict
  degraded : b.isDegraded = true → a.isDegraded = true

theorem NoBetter.degraded (h : NoBetter t s) (ht : BuiltFrom regime' t) (hs : BuiltFrom regime s)
    (hlabel : mapSnapshotToRegimeLabel t ∉ [RegimeLabel.mixed,.unclear])
    (hdegraded : regimeIsDegraded regime = true) : regimeIsDegraded regime' = true := by
  have hut := usable_of_label hlabel
  have hus := h.usable hut
  have hlabels := (h.sameStates hut).label_eq hut hus
  simp only [regimeIsDegraded,isSeeded,hs.unseeded,ht.unseeded,hs.label,ht.label,hs.freshness,
    ht.freshness,hs.degraded,ht.degraded,hs.confidence,ht.confidence,List.lookup_nil,reduceCtorEq,
    decide_false,Bool.false_or,Bool.or_eq_true,decide_eq_true_eq] at hdegraded ⊢
  rcases hdegraded with ((hfresh | hpart) | hlow) | hpoor
  · exact absurd hfresh hus.2.1
  · left; left; right
    rcases h.completeness with hnone | heq | hworst
    · simp [hnone] at hpart
    · rwa [heq]
    · exact absurd hworst hut.1
  · left; right
    exact low_of_le (h.confidence_le hlabel) hlow
  · exact absurd hpoor (hlabels ▸ hlabel)

/-- Worse data makes no call to buy or to sell that better data does not make as boldly. -/
theorem never_bolder (h : NoBetter t s) (hs : regimeOfSnapshot fresh s = .ok regime)
    (ht : regimeOfSnapshot fresh' t = .ok regime') (runId runId' : String) (now now' : ℤ) :
    ∀ call ∈ (runRegimeGroundedEngine runId' now' regime').signals,
      Directional call.signalType →
      ∃ bold ∈ (runRegimeGroundedEngine runId now regime).signals, NoBolder call bold := by
  intro call hcall hdirectional
  have hbs := builtFrom_of_ok hs
  have hbt := builtFrom_of_ok ht
  obtain ⟨rule,hrule,rfl⟩ := mem_signals.mp hcall
  have hlabel := label_of_directional hrule hdirectional
  rw [hbt.label] at hlabel
  have hut := usable_of_label hlabel
  have hsame := h.sameStates hut
  have hlabels := hsame.label_eq hut (h.usable hut)
  rw [hbt.label,hlabels,← hbs.label] at hrule
  have hsupport : quantSupport regime' = quantSupport regime := by
    rw [quantSupport,quantSupport,hbt.scores,hbs.scores,hsame.scores_eq]
  refine ⟨_,mem_signals.mpr ⟨rule,hrule,rfl⟩,rfl,rfl,rfl,rfl,?_,?_,?_⟩
  · have hconfidence := h.confidence_le hlabel
    rw [← hbt.confidence,← hbs.confidence] at hconfidence
    simp only [signalOfRule,hsupport]
    exact adjustSignalScore_le (confidence_mem _ rule hrule).1.le hconfidence _
  · simp only [signalOfRule,hsupport,deriveConflict]
  · exact h.degraded hbt hbs hlabel

/-- The calm snapshot again, from late and partial data. -/
def lateSnapshot : MacroSnapshotState where
  snapshotId := "l"
  asOfDate := newYear
  snapshotTimestamp := 0
  freshnessStatus := .late
  degradedStatus := .partialData
  growthState := .accelerating
  inflationState := .cooling
  laborState := .tight
  policyState := .neutral
  financialConditionsState := .neutral
  missingIndicators := []

theorem lateSnapshot_noBetter : NoBetter lateSnapshot calmSnapshot := by
  constructor <;> simp [lateSnapshot,calmSnapshot]

theorem never_bolder_late : ∃ regime regime',
    regimeOfSnapshot ⟨"a",1⟩ calmSnapshot = .ok regime ∧
      regimeOfSnapshot ⟨"b",2⟩ lateSnapshot = .ok regime' ∧
      ∃ call ∈ (runRegimeGroundedEngine "s" 2 regime').signals, call.signalType = .buy ∧
        ∃ bold ∈ (runRegimeGroundedEngine "r" 1 regime).signals, NoBolder call bold := by
  obtain ⟨regime,hs,-⟩ := regimeOfSnapshot_ok ⟨"a",1⟩ (show calmSnapshot.snapshotId ≠ "" by decide)
  obtain ⟨regime',ht,-,hlabel,-⟩ :=
    regimeOfSnapshot_ok ⟨"b",2⟩ (show lateSnapshot.snapshotId ≠ "" by decide)
  have hgoldilocks : mapSnapshotToRegimeLabel lateSnapshot = .goldilocks := by decide +kernel
  have hrule : goldilocksRules.head (by decide) ∈ getRegimeSignalRules regime'.regimeLabel := by
    rw [hlabel,hgoldilocks]
    exact List.head_mem _
  refine ⟨regime,regime',hs,ht,_,mem_signals.mpr ⟨_,hrule,rfl⟩,rfl,?_⟩
  exact never_bolder lateSnapshot_noBetter hs ht "r" "s" 1 2 _ (mem_signals.mpr ⟨_,hrule,rfl⟩)
    (show Directional .buy from trivial)

end Calls

section Response
variable {s : MacroSnapshotState} {regime : MacroRegime}

/-- What an answer of the route says about the snapshot under it. -/
structure Grounded (response : SignalsLatestResponse) (s : MacroSnapshotState) : Prop where
  asOfDate : response.asOfDate = s.asOfDate.isoformat
  label : response.regimeLabel = (mapSnapshotToRegimeLabel s).value
  calls : ∀ call ∈ response.signals, ∃ rule ∈ getRegimeSignalRules (mapSnapshotToRegimeLabel s),
    call.signalId = rule.signalId ∧ call.signalType = rule.signalDirection ∧
      call.score.val ≤ rule.signalConfidence
  usable : (∃ call ∈ response.signals, Directional call.signalType) → Usable s
  once : (response.signals.map (·.assetClass)).Nodup
  counted : response.signalsCount = response.buyCount + response.sellCount +
    response.holdCount + countOf response.signals .neutral
  caveat : ∀ call ∈ response.signals, call.caveat.isSome = call.isDegraded
  status : response.status = "success" ∧ snapshotConfidence s ≠ .low ∧
      s.degradedStatus ≠ .partialData ∨
    response.status = "degraded" ∧ (snapshotConfidence s = .low ∨
      s.degradedStatus = .partialData)
  strongest : ∃ call ∈ response.signals, response.strongestSignalId = some call.signalId ∧
    ∀ other ∈ response.signals, other.score.val ≤ call.score.val
  trusted : response.trust.isDegraded = false

theorem caveat_isSome (regime : MacroRegime) :
    (regimeCaveat regime).isSome = regimeIsDegraded regime := by
  unfold regimeCaveat regimeIsDegraded
  split_ifs <;> simp_all

theorem countOf_sum (signals : List RegimeSignalOutput) : signals.length =
    countOf signals .buy + countOf signals .sell + countOf signals .hold +
      countOf signals .neutral := by
  induction signals with
  | nil => rfl
  | cons call signals ih =>
    simp only [countOf,List.countP_cons,List.length_cons] at ih ⊢
    cases call.signalType <;> simp <;> omega

/-- Poor data of any kind leaves no confidence. -/
theorem low_of_poor (h : s.freshnessStatus ∈ [.stale,.unknown] ∨
    s.degradedStatus ∈ [.missing,.sourceUnavailable] ∨
    mapSnapshotToRegimeLabel s ∈ [RegimeLabel.mixed,.unclear]) :
    snapshotConfidence s = .low := by
  have hlabel : (mapSnapshotToRegime s).1 = mapSnapshotToRegimeLabel s := rfl
  rw [snapshotConfidence,deriveRegimeConfidence,hlabel]
  by_cases hdegraded : s.degradedStatus ∈ [.missing,.sourceUnavailable]
  · rw [if_pos hdegraded]
  rw [if_neg hdegraded]
  by_cases hfresh : s.freshnessStatus ∈ [.stale,.unknown]
  · rw [if_pos hfresh]
  rw [if_neg hfresh,if_pos ((h.resolve_left hfresh).resolve_left hdegraded)]

theorem BuiltFrom.degraded_iff (h : BuiltFrom regime s) : regimeIsDegraded regime = true ↔
    snapshotConfidence s = .low ∨ s.degradedStatus = .partialData := by
  simp only [regimeIsDegraded,isSeeded,h.unseeded,h.freshness,h.degraded,h.confidence,h.label,
    List.lookup_nil,reduceCtorEq,decide_false,Bool.false_or,Bool.or_eq_true,decide_eq_true_eq]
  constructor
  · rintro (((hfresh | hpart) | hlow) | hpoor)
    · exact .inl (low_of_poor (.inl hfresh))
    · rcases List.mem_cons.mp hpart with hpart | hworst
      · exact .inr hpart
      · exact .inl (low_of_poor (.inr (.inl hworst)))
    · exact .inl hlow
    · exact .inl (low_of_poor (.inr (.inr hpoor)))
  · rintro (hlow | hpart)
    · exact .inl (.inr hlow)
    · exact .inl (.inl (.inr (by simp [hpart])))

theorem getRegimeSignalRules_ne_nil (l : RegimeLabel) : getRegimeSignalRules l ≠ [] := by
  cases l <;> exact List.cons_ne_nil _ _

theorem strongest_of_ne_nil {result : RegimeSignalResult} (h : result.signals ≠ []) :
    ∃ call ∈ result.signals, strongestSignal result = some call ∧
      ∀ other ∈ result.signals, other.score.val ≤ call.score.val := by
  have hne : strongestSignal result ≠ none := fun hnone => h (firstMax_eq_none.mp hnone)
  obtain ⟨call,hcall⟩ := Option.ne_none_iff_exists'.mp hne
  exact ⟨call,firstMax_mem hcall,hcall,fun other hother => le_firstMax hcall hother⟩

/-- Every call of a regime carries the regime's own flag. -/
theorem any_degraded (regime : MacroRegime) (runId : String) (now : ℤ) :
    (runRegimeGroundedEngine runId now regime).signals.any (·.isDegraded) =
      regimeIsDegraded regime := by
  have hrules := getRegimeSignalRules_ne_nil regime.regimeLabel
  rw [Bool.eq_iff_iff,List.any_eq_true]
  constructor
  · rintro ⟨call,hcall,hdegraded⟩
    obtain ⟨rule,-,rfl⟩ := mem_signals.mp hcall
    exact hdegraded
  · intro hdegraded
    obtain ⟨rule,hrule⟩ := List.exists_mem_of_ne_nil _ hrules
    exact ⟨_,mem_signals.mpr ⟨rule,hrule,rfl⟩,hdegraded⟩

theorem signals_ne_nil (regime : MacroRegime) (runId : String) (now : ℤ) :
    (runRegimeGroundedEngine runId now regime).signals ≠ [] := by
  simp [runRegimeGroundedEngine,getRegimeSignalRules_ne_nil]

theorem mem_response {country runId : String} {now : ℤ} {call : RegimeSignalOutput} :
    call ∈ (groundedResponse regime country runId now).signals ↔
      ∃ rule ∈ getRegimeSignalRules regime.regimeLabel, signalOfRule regime now rule = call :=
  List.mem_map

/-- The answer from the regime of a snapshot. -/
theorem grounded_of_builtFrom (h : BuiltFrom regime s) (country runId : String) (now : ℤ) :
    Grounded (groundedResponse regime country runId now) s where
  asOfDate := by rw [groundedResponse,h.asOfDate]
  label := by rw [groundedResponse,h.label]
  calls := by
    intro call hcall
    obtain ⟨rule,hrule,rfl⟩ := mem_response.mp hcall
    exact ⟨rule,h.label ▸ hrule,rfl,rfl,
      adjustSignalScore_le_base (confidence_mem _ rule hrule).1.le _ _⟩
  usable := by
    rintro ⟨call,hcall,hdirectional⟩
    obtain ⟨rule,hrule,rfl⟩ := mem_response.mp hcall
    exact usable_of_label (h.label ▸ label_of_directional hrule hdirectional)
  once := by
    have hnodup := assetClass_nodup regime.regimeLabel
    simpa [groundedResponse,runRegimeGroundedEngine,signalOfRule,Function.comp_def] using hnodup
  counted := countOf_sum _
  caveat := by
    intro call hcall
    obtain ⟨rule,-,rfl⟩ := mem_response.mp hcall
    exact caveat_isSome regime
  status := by
    have hany := any_degraded regime runId now
    have hempty := List.isEmpty_eq_false_iff.mpr
      (signals_ne_nil regime runId now)
    simp only [groundedResponse,hany,hempty]
    cases hdegraded : regimeIsDegraded regime with
    | false =>
      have hgood := mt h.degraded_iff.mpr (Bool.not_eq_true _ ▸ hdegraded)
      exact .inl ⟨rfl,not_or.mp hgood⟩
    | true => exact .inr ⟨rfl,h.degraded_iff.mp hdegraded⟩
  strongest := by
    obtain ⟨call,hcall,hstrongest,hmax⟩ := strongest_of_ne_nil
      (signals_ne_nil regime runId now)
    exact ⟨call,hcall,by rw [groundedResponse,hstrongest]; rfl,hmax⟩
  trusted := rfl

end Response

section Run

/-- A regime is built from this snapshot and compared with this baseline. -/
def DerivedFrom (regime : MacroRegime) (s : MacroSnapshotState) (prior : Option MacroRegime) :
    Prop :=
  ∃ fresh built, regimeOfSnapshot fresh s = .ok built ∧
    regime = built.setTransition (deriveRegimeTransition built prior)

/-- Every stored regime was built from a saved snapshot and compared with a stored regime. -/
def Derived (stores : MacroStores) : Prop :=
  ∀ regime ∈ stores.regimes.regimes, ∃ s ∈ stores.snapshots.snapshots,
    ∃ prior : Option MacroRegime, (∀ p ∈ prior, p ∈ stores.regimes.regimes) ∧
      DerivedFrom regime s prior

theorem buildAndSaveRegime_derived {service : MacroRegimeService}
    {regimes saved : MacroRegimeStore} (hregimes : service.regimeRepository = some regimes)
    {fresh : Fresh} {asOfDate : Date} {regime : MacroRegime}
    (h : service.buildAndSaveRegime fresh asOfDate = .ok (regime,saved)) :
    saved = regimes.saveRegime regime ∧ ∃ s ∈ service.snapshotRepository.snapshots,
      ∃ prior : Option MacroRegime, (∀ p ∈ prior, p ∈ regimes.regimes) ∧
        DerivedFrom regime s prior := by
  simp only [MacroRegimeService.buildAndSaveRegime,hregimes] at h
  obtain ⟨built,hbuilt,h⟩ := Fallible.ok_of_bind h
  obtain ⟨yesterday,-,h⟩ := Fallible.ok_of_bind h
  cases h
  refine ⟨rfl,?_⟩
  unfold MacroRegimeService.buildRegime at hbuilt
  cases hsnapshot : service.snapshotRepository.getLatestOnOrBefore asOfDate with
  | none => simp [hsnapshot] at hbuilt
  | some s =>
    simp only [hsnapshot] at hbuilt
    refine ⟨s,(DatedRows.latestOnOrBefore_mem hsnapshot).1,regimes.getLatestOnOrBefore yesterday,
      ?_,fresh,built,hbuilt,rfl⟩
    exact fun p hp => (DatedRows.latestOnOrBefore_mem hp).1

theorem step_derived (stores : MacroStores) (call : MacroCall) (h : Derived stores) :
    Derived (stores.step call).1 := by
  cases call with
  | saveSnapshot snapshot =>
    intro regime hregime
    obtain ⟨s,hs,rest⟩ := h regime hregime
    exact ⟨s,List.mem_append_left _ hs,rest⟩
  | buildAndSaveRegime asOfDate fresh =>
    simp only [MacroStores.step]
    cases hsave : stores.service.buildAndSaveRegime fresh asOfDate with
    | error e => exact h
    | ok saved =>
      obtain ⟨hstore,hnew⟩ :=
        buildAndSaveRegime_derived (show _ = some stores.regimes from rfl) hsave
      -- the log only grows, so the baselines of before are still stored
      have hgrow : ∀ p ∈ stores.regimes.regimes, p ∈ saved.2.regimes := by
        intro p hp
        rw [hstore]
        exact List.mem_append_left _ hp
      intro regime hregime
      have hsource : ∃ s ∈ stores.snapshots.snapshots, ∃ prior : Option MacroRegime,
          (∀ p ∈ prior, p ∈ stores.regimes.regimes) ∧ DerivedFrom regime s prior := by
        simp only [hstore] at hregime
        rcases List.mem_append.mp hregime with hold | hlast
        · exact h regime hold
        · rw [List.mem_singleton.mp hlast]
          exact hnew
      obtain ⟨s,hs,prior,hprior,hderived⟩ := hsource
      exact ⟨s,hs,prior,fun p hp => hgrow p (hprior p hp),hderived⟩

theorem run_derived (calls : List MacroCall) : Derived (final MacroStores.step {} calls) := by
  induction calls using List.reverseRecOn with
  | nil => exact fun regime hregime => absurd hregime List.not_mem_nil
  | append_singleton calls call ih =>
    rw [final_concat]
    exact step_derived _ call ih

/-- Every stored regime was built from a saved snapshot. -/
def Sourced (s : MacroStores) : Prop :=
  ∀ regime ∈ s.regimes.regimes, ∃ snapshot ∈ s.snapshots.snapshots, BuiltFrom regime snapshot

theorem BuiltFrom.setTransition {regime : MacroRegime} {snapshot : MacroSnapshotState}
    (h : BuiltFrom regime snapshot) (transition : RegimeTransition) :
    BuiltFrom (regime.setTransition transition) snapshot :=
  ⟨h.asOfDate,h.label,h.confidence,h.freshness,h.degraded,h.scores,h.unseeded⟩

theorem DerivedFrom.builtFrom {regime : MacroRegime} {s : MacroSnapshotState}
    {prior : Option MacroRegime} (h : DerivedFrom regime s prior) : BuiltFrom regime s := by
  obtain ⟨fresh,built,hbuilt,rfl⟩ := h
  exact (builtFrom_of_ok hbuilt).setTransition _

theorem run_sourced (calls : List MacroCall) : Sourced (final MacroStores.step {} calls) := by
  intro regime hregime
  obtain ⟨s,hs,prior,-,hderived⟩ := run_derived calls regime hregime
  exact ⟨s,hs,hderived.builtFrom⟩

/-- What the route answers is what the latest stored regime of a day up to today says. -/
theorem getLatestSignals_stores (stores : MacroStores) (today : Date) (country runId : String)
    (now : ℤ) : getLatestSignals stores.service today country runId now =
      (stores.regimes.getLatestOnOrBefore today).map
        (groundedResponse · country runId now) := by
  cases hlatest : stores.regimes.getLatestOnOrBefore today with
  | none => simp [getLatestSignals,MacroStores.service,hlatest]
  | some regime => simp [getLatestSignals,MacroStores.service,hlatest]

/-- After any run the route falls back exactly where every stored regime is dated after today, and
otherwise it answers from a snapshot that was saved for a day up to today. -/
theorem signals_grounded (calls : List MacroCall) (today : Date) (country runId : String)
    (now : ℤ) :
    (getLatestSignals (final MacroStores.step {} calls).service today country runId now = none ↔
      ∀ r ∈ (final MacroStores.step {} calls).regimes.regimes, today < r.asOfDate) ∧
    ∀ response, getLatestSignals (final MacroStores.step {} calls).service today country runId
        now = some response →
      ∃ s ∈ (final MacroStores.step {} calls).snapshots.snapshots,
        s.asOfDate ≤ today ∧ Grounded response s := by
  have hsourced := run_sourced calls
  set stores := final MacroStores.step {} calls
  rw [getLatestSignals_stores,Option.map_eq_none_iff]
  constructor
  · constructor
    · intro hnone r hr
      by_contra hle
      obtain ⟨latest,hsome⟩ := DatedRows.exists_latestOnOrBefore ⟨r,hr,not_lt.mp hle⟩
      cases hnone.symm.trans hsome
    · intro hlate
      refine Option.eq_none_iff_forall_ne_some.mpr (fun regime hsome => ?_)
      obtain ⟨hmem,hle⟩ := DatedRows.latestOnOrBefore_mem hsome
      exact absurd (hlate regime hmem) (not_lt.mpr hle)
  · intro response hresponse
    obtain ⟨regime,hlatest,rfl⟩ := Option.map_eq_some_iff.mp hresponse
    obtain ⟨hmem,hle⟩ := DatedRows.latestOnOrBefore_mem hlatest
    obtain ⟨s,hs,hbuilt⟩ := hsourced regime hmem
    exact ⟨s,hs,hbuilt.asOfDate ▸ hle,grounded_of_builtFrom hbuilt country runId now⟩

end Run

end MacroInvest.Signals
