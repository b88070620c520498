import MacroInvest.Macro.History
import MacroInvest.Macro.TransitionChain

/-! # How severe a change of regime is

The compare endpoint classifies the change between two stored regimes; the explanation endpoint
only has the transition that the later one was stored with, and classifies from that. In a log
that grows by date the two tell one story, and the shorter one never overstates it.
-/
namespace MacroInvest.Macro
open FirstMax CallRun

section Delta

inductive ChangeSeverity where
  | unchanged
  | minor
  | moderate
  | major
  deriving DecidableEq

def ChangeSeverity.value : ChangeSeverity → String
  | .unchanged => "unchanged"
  | .minor => "minor"
  | .moderate => "moderate"
  | .major => "major"

/-- `_SEVERITY_RANK` -/
def ChangeSeverity.rank : ChangeSeverity → ℕ
  | .unchanged => 0
  | .minor => 1
  | .moderate => 2
  | .major => 3

inductive ConfidenceDirection where
  | improved
  | weakened
  | unchanged
  | notApplicable
  deriving DecidableEq

def ConfidenceDirection.value : ConfidenceDirection → String
  | .improved => "improved"
  | .weakened => "weakened"
  | .unchanged => "unchanged"
  | .notApplicable => "not_applicable"

structure RegimeDelta where
  isInitial : Bool := false
  labelChanged : Bool := false
  familyChanged : Bool := false
  confidenceChanged : Bool := false
  confidenceDirection : ConfidenceDirection := .notApplicable
  severity : ChangeSeverity := .unchanged
  changedDimensions : List String := []
  priorLabel : Option String := none
  priorFamily : Option String := none
  priorConfidence : Option String := none
  currentLabel : String := ""
  currentFamily : String := ""
  currentConfidence : String := ""
  labelTransition : Option String := none
  confidenceTransition : Option String := none
  isRegimeTransition : Bool := false
  notableFlags : List String := []
  severityRationale : String := ""

def highSeverityDestinationLabels : List RegimeLabel := [.contraction,.stagflationRisk]

/-- `abs(_CONFIDENCE_RANK[a] - _CONFIDENCE_RANK[b])` -/
def rankDiff (a b : RegimeConfidence) : ℕ :=
  (confidenceRank a - confidenceRank b) + (confidenceRank b - confidenceRank a)

def classifySeverity (labelChanged familyChanged confidenceChanged : Bool)
    (currentLabel : RegimeLabel) (currentConfidence priorConfidence : RegimeConfidence)
    (notableFlags : List String) : ChangeSeverity × String :=
  if !labelChanged && !confidenceChanged then
    (.unchanged,"No label or confidence change detected.")
  else if labelChanged then
    if familyChanged then
      (.major,"Cross-family regime transition (label and family both changed). " ++
        "Heuristic severity: major (v1, not statistically calibrated).")
    else if "high_severity_destination" ∈ notableFlags then
      (.major,"Regime shifted to '" ++ currentLabel.value ++ "', a high-severity label. " ++
        "Heuristic severity: major (v1, not statistically calibrated).")
    else
      (.moderate,"Regime label changed within the same family. " ++
        "Heuristic severity: moderate (v1, not statistically calibrated).")
  else if 1 < rankDiff currentConfidence priorConfidence then
    (.moderate,"Confidence skipped a level (" ++ priorConfidence.value ++ " → " ++
      currentConfidence.value ++ "). " ++
      "Heuristic severity: moderate (v1, not statistically calibrated).")
  else
    (.minor,"Confidence changed by one level (" ++ priorConfidence.value ++ " → " ++
      currentConfidence.value ++ "). Label unchanged. " ++
      "Heuristic severity: minor (v1, not statistically calibrated).")

def detectRegimeChange (current : MacroRegime) (previous : Option MacroRegime) : RegimeDelta :=
  match previous with
  | none =>
    { isInitial := true
      currentLabel := current.regimeLabel.value
      currentFamily := current.regimeFamily.value
      currentConfidence := current.confidence.value
      severityRationale := "No prior regime available — initial state." }
  | some previous =>
    let labelChanged := decide (current.regimeLabel ≠ previous.regimeLabel)
    let familyChanged := decide (current.regimeFamily ≠ previous.regimeFamily)
    let confidenceChanged := decide (current.confidence ≠ previous.confidence)
    let notableFlags :=
      (if labelChanged && familyChanged then ["cross_family_transition"] else []) ++
      (if labelChanged && decide (current.regimeLabel ∈ highSeverityDestinationLabels) then
        ["high_severity_destination"] else []) ++
      (if confidenceChanged && decide (1 < rankDiff current.confidence previous.confidence) then
        ["confidence_jump"] else [])
    let severity := classifySeverity labelChanged familyChanged confidenceChanged
      current.regimeLabel current.confidence previous.confidence notableFlags
    { labelChanged := labelChanged
      familyChanged := familyChanged
      confidenceChanged := confidenceChanged
      confidenceDirection :=
        if !confidenceChanged then .unchanged
        else if confidenceRank previous.confidence < confidenceRank current.confidence then
          .improved
        else .weakened
      severity := severity.1
      changedDimensions := (if labelChanged then ["label"] else []) ++
        (if familyChanged then ["family"] else []) ++
        (if confidenceChanged then ["confidence"] else [])
      priorLabel := some previous.regimeLabel.value
      priorFamily := some previous.regimeFamily.value
      priorConfidence := some previous.confidence.value
      currentLabel := current.regimeLabel.value
      currentFamily := current.regimeFamily.value
      currentConfidence := current.confidence.value
      labelTransition := if labelChanged then
        some (previous.regimeLabel.value ++ " → " ++ current.regimeLabel.value) else none
      confidenceTransition := if confidenceChanged then
        some (previous.confidence.value ++ " → " ++ current.confidence.value) else none
      isRegimeTransition := labelChanged
      notableFlags := notableFlags
      severityRationale := severity.2 }

end Delta

section WhatChanged

structure WhatChanged where
  priorRegimeLabel : Option String
  transitionType : RegimeTransitionType
  changed : Bool
  severity : ChangeSeverity
  changedDimensions : List String
  confidenceDirection : ConfidenceDirection

/-- What the explanation endpoint derives from a regime's stored transition; none where there
is no baseline. -/
def buildWhatChanged (transition : RegimeTransition) : Option WhatChanged :=
  let prior := transition.transitionFromPrior.getD ""
  let type := transition.transitionType
  if type = .initial ∨ prior = "" then none
  else
    let changed := decide (type ∉ [.unchanged,.initial,.unknown])
    some
      { priorRegimeLabel := some prior
        transitionType := type
        changed := changed
        severity :=
          match type with
          | .shift => .moderate
          | .strengthening => .minor
          | .weakening => .minor
          | _ => if changed then .minor else .unchanged
        changedDimensions :=
          match type with
          | .shift => ["label"]
          | .strengthening => ["confidence"]
          | .weakening => ["confidence"]
          | _ => []
        confidenceDirection :=
          match type with
          | .strengthening => .improved
          | .weakening => .weakened
          | _ => .unchanged }

structure RegimeCompareResponse where
  asOfDate : Date
  baselineAvailable : Bool
  currentRegimeLabel : String
  priorRegimeLabel : Option String
  transitionType : RegimeTransitionType
  changed : Bool
  currentConfidence : String
  priorConfidence : Option String
  currentRationaleSummary : String
  warnings : List String
  isSeeded : Bool
  delta : Option RegimeDelta

/-- `compare_regimes`, with the error of the service in place of the 404. -/
def compareRegimes (service : MacroRegimeService) (asOfDate : Date) :
    Except ServiceError RegimeCompareResponse := do
  let (current,previous) ← service.compareLatestWithPrior asOfDate
  let delta := detectRegimeChange current previous
  return { asOfDate := current.asOfDate
           baselineAvailable := previous.isSome
           currentRegimeLabel := current.regimeLabel.value
           priorRegimeLabel := previous.map (·.regimeLabel.value)
           transitionType := current.transition.transitionType
           changed := current.transition.changed
           currentConfidence := current.confidence.value
           priorConfidence := previous.map (·.confidence.value)
           currentRationaleSummary := current.rationaleSummary
           warnings := current.warnings
           isSeeded := current.metadata.lookup "seeded" = some "true"
           delta := if previous.isSome then some delta else none }

end WhatChanged

section Agreement
variable (current p : MacroRegime)

/-- A change of family is a change of label. -/
theorem family_eq_of_label_eq {a b : MacroRegime} (h : a.regimeLabel = b.regimeLabel) :
    a.regimeFamily = b.regimeFamily := by
  rw [a.labelFamilyAligned,b.labelFamilyAligned,h]

theorem rank_eq_iff (a b : RegimeConfidence) : confidenceRank a = confidenceRank b ↔ a = b := by
  cases a <;> cases b <;> decide

theorem value_ne_empty (l : RegimeLabel) : l.value ≠ "" := by
  cases l <;> decide

/-- A label that changed: major across families and into the severe labels, else moderate. -/
theorem severity_shift (h : current.regimeLabel ≠ p.regimeLabel) :
    (detectRegimeChange current (some p)).severity =
      if current.regimeFamily ≠ p.regimeFamily ∨
        current.regimeLabel ∈ highSeverityDestinationLabels then .major else .moderate := by
  by_cases hfamily : current.regimeFamily = p.regimeFamily
  · by_cases hhigh : current.regimeLabel ∈ highSeverityDestinationLabels
    · simp [detectRegimeChange,classifySeverity,h,hfamily,hhigh]
    · simp only [detectRegimeChange,classifySeverity,hfamily,hhigh]
      split_ifs <;> simp_all
  · simp [detectRegimeChange,classifySeverity,h,hfamily]

/-- A label that stayed: the confidence alone decides. -/
theorem severity_same (h : current.regimeLabel = p.regimeLabel) :
    (detectRegimeChange current (some p)).severity =
      if current.confidence = p.confidence then .unchanged
      else if 1 < rankDiff current.confidence p.confidence then .moderate else .minor := by
  by_cases hconfidence : current.confidence = p.confidence
  · simp [detectRegimeChange,classifySeverity,h,hconfidence]
  · by_cases hjump : 1 < rankDiff current.confidence p.confidence <;>
      simp [detectRegimeChange,classifySeverity,h,hconfidence,hjump]

/-- The two views of the change from `p`: the compared one first, the stored one second. -/
structure Agrees (delta : RegimeDelta) (w : WhatChanged) : Prop where
  prior : w.priorRegimeLabel = delta.priorLabel
  changed : w.changed = true ↔ delta.severity ≠ .unchanged
  shift : w.transitionType = .shift ↔ delta.isRegimeTransition = true
  dimensions : w.changedDimensions.Sublist delta.changedDimensions
  direction : delta.labelChanged = false → w.confidenceDirection = delta.confidenceDirection
  severity_le : w.severity.rank ≤ delta.severity.rank
  severity_eq : w.severity = delta.severity ↔
    delta.severity ≠ .major ∧ (delta.labelChanged = false → delta.severity ≠ .moderate)

theorem buildWhatChanged_shift (l : RegimeLabel) : buildWhatChanged ⟨some l.value,.shift,true⟩ =
    some ⟨some l.value,.shift,true,.moderate,["label"],.unchanged⟩ := by
  simp [buildWhatChanged,value_ne_empty]

/-- The view of a kept label: the standing of the confidence says all. -/
def standingView (l : RegimeLabel) : Ordering → WhatChanged
  | .lt => ⟨some l.value,.weakening,true,.minor,["confidence"],.weakened⟩
  | .eq => ⟨some l.value,.unchanged,false,.unchanged,[],.unchanged⟩
  | .gt => ⟨some l.value,.strengthening,true,.minor,["confidence"],.improved⟩

theorem buildWhatChanged_standing (l : RegimeLabel) (o : Ordering) (changed : Bool) :
    buildWhatChanged ⟨some l.value,standingType o,changed⟩ = some (standingView l o) := by
  cases o <;> simp [buildWhatChanged,value_ne_empty,standingType,standingView]

theorem agrees_shift (h : current.regimeLabel ≠ p.regimeLabel) :
    Agrees (detectRegimeChange current (some p))
      ⟨some p.regimeLabel.value,.shift,true,.moderate,["label"],.unchanged⟩ := by
  have hseverity := severity_shift current p h
  have hlabel : (detectRegimeChange current (some p)).labelChanged = true := by
    simp [detectRegimeChange,h]
  constructor
  case prior => rfl
  case shift => simp [detectRegimeChange,h]
  case dimensions => simp [detectRegimeChange,h]
  case direction => simp [hlabel]
  all_goals
    rw [hseverity]
    split_ifs <;> simp [ChangeSeverity.rank,hlabel]

theorem agrees_standing (h : current.regimeLabel = p.regimeLabel) :
    Agrees (detectRegimeChange current (some p)) (standingView p.regimeLabel
      (compare (confidenceRank current.confidence) (confidenceRank p.confidence))) := by
  have hfamily := family_eq_of_label_eq h
  rcases hc : current.confidence <;> rcases hp : p.confidence <;>
    constructor <;>
    simp [detectRegimeChange,classifySeverity,h,hfamily,hc,hp,confidenceRank,rankDiff,
      standingView,compare,compareOfLessAndEq,ChangeSeverity.rank]

/-- The stored transition from a baseline is shown as the comparison with it shows it. -/
theorem exists_agrees : ∃ w,
    buildWhatChanged (deriveRegimeTransition current (some p)) = some w ∧
      Agrees (detectRegimeChange current (some p)) w := by
  by_cases h : current.regimeLabel = p.regimeLabel
  · rw [deriveRegimeTransition_sameLabel h]
    exact ⟨_,buildWhatChanged_standing _ _ _,agrees_standing current p h⟩
  · rw [deriveRegimeTransition_shift h]
    exact ⟨_,buildWhatChanged_shift _,agrees_shift current p h⟩

end Agreement

section Log

/-- No regime is saved for a date before one that is stored. -/
def Forwards (s : MacroStores) : MacroCall → Prop
  | .saveSnapshot _ => True
  | .buildAndSaveRegime asOfDate _ => ∀ snapshot,
      s.snapshots.getLatestOnOrBefore asOfDate = some snapshot →
      ∀ r ∈ s.regimes.regimes, r.asOfDate ≤ snapshot.asOfDate

/-- The stored dates never go back. -/
def Ascending (regimes : List MacroRegime) : Prop :=
  regimes.Pairwise (fun a b => a.asOfDate ≤ b.asOfDate)

theorem step_log (s : MacroStores) (call : MacroCall) (h : Forwards s call)
    (hs : Ascending s.regimes.regimes) : Ascending (s.step call).1.regimes.regimes := by
  cases call with
  | saveSnapshot snapshot => exact hs
  | buildAndSaveRegime asOfDate fresh =>
    by_cases hrefused : ∀ snapshot, s.snapshots.getLatestOnOrBefore asOfDate = some snapshot →
        snapshot.snapshotId = "" ∨ asOfDate.minusOneDay = none
    · rw [step_refused hrefused]
      exact hs
    · push Not at hrefused
      obtain ⟨snapshot,hsnapshot,hid,hd⟩ := hrefused
      obtain ⟨e,he⟩ := Option.ne_none_iff_exists'.mp hd
      obtain ⟨regime,hsave,hdate,-⟩ := buildAndSaveRegime_saved s.regimes fresh hsnapshot hid
        (show dayBefore asOfDate = .ok e by simp [dayBefore,he])
      simp only [MacroStores.step,MacroStores.service,hsave,MacroRegimeStore.saveRegime]
      apply List.pairwise_append.mpr
      refine ⟨hs,List.pairwise_singleton _ _,?_⟩
      intro r hr other hother
      rw [List.mem_singleton.mp hother,hdate]
      exact h snapshot hsnapshot r hr

/-- In a log by date, what follows a regime is no baseline of it. -/
theorem priorTo_front {before after : List MacroRegime} {regime : MacroRegime}
    (h : Ascending (before ++ regime :: after)) :
    priorTo (before ++ regime :: after) regime.asOfDate = priorTo before regime.asOfDate := by
  have hafter : after.filter (fun r => r.asOfDate < regime.asOfDate) = [] := by
    apply List.filter_eq_nil_iff.mpr
    intro r hr
    simpa using List.rel_of_pairwise_cons (List.pairwise_append.mp h).2.1 hr
  simp [priorTo,hafter]

/-- Each save looks back to a baseline of the chain's standing and never behind the log. -/
def Kept (s : MacroStores) (call : MacroCall) : Prop := BaselinesAgree s call ∧ Forwards s call

/-- A save for a date after all that are stored does both. -/
theorem kept_of_lt {s : MacroStores} {asOfDate : Date} {fresh : Fresh}
    (snapshot : MacroSnapshotState)
    (hsnapshot : s.snapshots.getLatestOnOrBefore asOfDate = some snapshot)
    (h : ∀ r ∈ s.regimes.regimes, r.asOfDate < snapshot.asOfDate) :
    Kept s (.buildAndSaveRegime asOfDate fresh) := by
  constructor
  · apply baselinesAgree_of_noneBetween
    intro other hother r hr hbetween
    cases hsnapshot.symm.trans hother
    exact (h r hr).not_ge hbetween.1
  · intro other hother r hr
    cases hsnapshot.symm.trans hother
    exact (h r hr).le

theorem kept_run (calls : List MacroCall) (h : Admits MacroStores.step Kept {} calls) :
    TransitionChain (final MacroStores.step {} calls).regimes.regimes ∧
      Ascending (final MacroStores.step {} calls).regimes.regimes := by
  apply run_induction (P := fun s _ => TransitionChain s.regimes.regimes ∧
    Ascending s.regimes.regimes) ⟨transitionChain_nil,by simp [Ascending]⟩ ?_ calls h
  rintro s _ call ⟨hbaselines,hforwards⟩ ⟨hchain,hascending⟩
  exact ⟨(step_transitionChain s call).mpr ⟨hchain,hbaselines⟩,
    step_log s call hforwards hascending⟩

/-- The regime that a comparison answers is one of the log. -/
theorem compareLatestWithPrior_mem {s : MacroStores} {d : Date} {current : MacroRegime}
    {previous : Option MacroRegime}
    (h : s.service.compareLatestWithPrior d = .ok (current,previous)) :
    current ∈ s.regimes.regimes := by
  simp only [MacroStores.service,MacroRegimeService.compareLatestWithPrior] at h
  cases hcurrent : s.regimes.getLatestOnOrBefore d with
  | none => simp [hcurrent] at h
  | some latest =>
    simp only [hcurrent] at h
    obtain ⟨yesterday,-,h⟩ := Fallible.ok_of_bind h
    cases h
    exact (DatedRows.latestOnOrBefore_mem hcurrent).1

theorem stored_transition {s : MacroStores} (hchain : TransitionChain s.regimes.regimes)
    (hascending : Ascending s.regimes.regimes) {d : Date} {current : MacroRegime}
    {previous : Option MacroRegime}
    (h : s.service.compareLatestWithPrior d = .ok (current,previous)) :
    current.transition = deriveRegimeTransition current previous := by
  obtain ⟨before,after,hlog⟩ := List.append_of_mem (compareLatestWithPrior_mem h)
  rw [hchain before current after hlog,compareLatestWithPrior_prior rfl h,hlog,
    priorTo_front (hlog ▸ hascending)]

theorem compareRegimes_ok {service : MacroRegimeService} {d : Date} {current : MacroRegime}
    {previous : Option MacroRegime}
    (h : service.compareLatestWithPrior d = .ok (current,previous)) :
    ∃ response, compareRegimes service d = .ok response ∧
      response.baselineAvailable = previous.isSome ∧
      response.changed = current.transition.changed ∧
      response.delta =
        if previous.isSome then some (detectRegimeChange current previous) else none := by
  refine ⟨_,by rw [compareRegimes,h]; rfl,rfl,rfl,rfl⟩

theorem deriveRegimeTransition_changed (current p : MacroRegime) :
    (deriveRegimeTransition current (some p)).changed = true ↔
      (detectRegimeChange current (some p)).severity ≠ .unchanged := by
  by_cases h : current.regimeLabel = p.regimeLabel
  · rw [deriveRegimeTransition_sameLabel h,severity_same current p h]
    by_cases hconfidence : current.confidence = p.confidence
    · simp [hconfidence]
    · have hne := fun hrank => hconfidence ((rank_eq_iff _ _).mp hrank)
      split_ifs <;> simpa using hne
  · rw [deriveRegimeTransition_shift h,severity_shift current p h]
    split_ifs <;> simp

/-- In a log kept by date the compare endpoint and the explanation tell one change: both have a
baseline or neither, the explanation names no dimension that did not change and never more
severity, and less exactly for a major change and for a jump of the confidence. -/
theorem change_views_agree (calls : List MacroCall) (h : Admits MacroStores.step Kept {} calls)
    (d : Date) (current : MacroRegime) (previous : Option MacroRegime)
    (hcompare : (final MacroStores.step {} calls).service.compareLatestWithPrior d =
      .ok (current,previous)) :
    ∃ response, compareRegimes (final MacroStores.step {} calls).service d = .ok response ∧
      response.baselineAvailable = previous.isSome ∧
      match previous with
      | none => response.delta = none ∧ response.changed = false ∧
          buildWhatChanged current.transition = none
      | some p => ∃ w, response.delta = some (detectRegimeChange current (some p)) ∧
          buildWhatChanged current.transition = some w ∧
          Agrees (detectRegimeChange current (some p)) w ∧ (response.changed = true ↔
            (detectRegimeChange current (some p)).severity ≠ .unchanged) := by
  obtain ⟨hchain,hascending⟩ := kept_run calls h
  have htransition := stored_transition hchain hascending hcompare
  obtain ⟨response,hresponse,hbaseline,hchanged,hdelta⟩ := compareRegimes_ok hcompare
  refine ⟨response,hresponse,hbaseline,?_⟩
  rw [hchanged,hdelta,htransition]
  cases previous with
  | none => exact ⟨rfl,rfl,rfl⟩
  | some p =>
    obtain ⟨w,hw,hagrees⟩ := exists_agrees current p
    exact ⟨w,rfl,hw,hagrees,deriveRegimeTransition_changed current p⟩

end Log

section TwoDays

/-- After a calm first day the economy contracts. -/
def turnSnapshot : MacroSnapshotState where
  snapshotId := "t"
  asOfDate := secondDay
  snapshotTimestamp := 1
  freshnessStatus := .fresh
  degradedStatus := .none
  growthState := .slowing
  inflationState := .sticky
  laborState := .weak
  policyState := .restrictive
  financialConditionsState := .tight
  missingIndicators := []

def turnRun : List MacroCall :=
  [.saveSnapshot calmSnapshot,.buildAndSaveRegime newYear ⟨"a",1⟩,.saveSnapshot turnSnapshot,
   .buildAndSaveRegime secondDay ⟨"b",2⟩]

def turned : MacroStores := final MacroStores.step {} turnRun

theorem turnRun_kept : Admits MacroStores.step Kept {} turnRun :=
  ⟨⟨trivial,trivial⟩,kept_of_lt calmSnapshot (by decide +kernel) (by decide +kernel),
    ⟨trivial,trivial⟩,kept_of_lt turnSnapshot (by decide +kernel) (by decide +kernel),trivial⟩

theorem change_views_agree_turn : ∃ response delta w,
    compareRegimes turned.service secondDay = .ok response ∧ response.delta = some delta ∧
      Agrees delta w ∧ delta.severity = .major ∧ w.severity = .moderate := by
  obtain ⟨response,hresponse,-,w,hdelta,hw,hagrees,-⟩ :=
    change_views_agree turnRun turnRun_kept secondDay
      (turned.regimes.regimes.get ⟨1,by decide +kernel⟩)
      (some (turned.regimes.regimes.get ⟨0,by decide +kernel⟩)) (by decide +kernel)
  refine ⟨response,_,w,hresponse,hdelta,hagrees,by decide +kernel,?_⟩
  have hseverity : (buildWhatChanged (turned.regimes.regimes.get
      ⟨1,by decide +kernel⟩).transition).map (·.severity) = some .moderate := by decide +kernel
  rw [hw] at hseverity
  exact Option.some.inj hseverity

end TwoDays

end MacroInvest.Macro
