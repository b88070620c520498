import MacroInvest.Macro.Observations
import MacroInvest.Macro.SnapshotComparison

/-! # The macro snapshot service

A snapshot is derived from the latest observation of each indicator. The category states count an
observation without a value as missing; the degraded status and the list of missing indicators
count it as present.
-/
namespace MacroInvest.Macro
open Features

/-- The state by a rule on one value, unknown where the value is missing. -/
def stateFrom {S : Type} (unknown : S) (rule : ℚ → S) (value : Option ℚ) : S :=
  (value.map rule).getD unknown

section Derive
variable (selected : Selected)

/-- The value of the selected observation, if there are both. -/
def valueOf (indicator : MacroIndicatorType) : Option ℚ :=
  (selected.get? indicator).bind NormalizedMacroObservation.value

def deriveGrowthState : GrowthState :=
  match valueOf selected .pmi, valueOf selected .retailSales with
  | some pmi, some retail =>
    if 52 ≤ pmi ∧ 0 ≤ retail then .accelerating else if pmi < 50 then .slowing else .mixed
  | _, _ => .unknown

def deriveInflationState : InflationState :=
  stateFrom .unknown
    (fun cpi => if cpi ≤ 2.5 then .cooling else if cpi ≤ 3.5 then .sticky else .reaccelerating)
    (valueOf selected .inflation)

def deriveLaborState : LaborState :=
  stateFrom .unknown
    (fun rate => if rate < 4 then .tight else if rate ≤ 5.5 then .softening else .weak)
    (valueOf selected .unemployment)

def derivePolicyState : PolicyState :=
  stateFrom .unknown
    (fun yield => if 4.5 ≤ yield then .restrictive else if 3 ≤ yield then .neutral else .easingBias)
    (valueOf selected .yield10y)

def deriveFinancialConditionsState : FinancialConditionsState :=
  let spread := valueOf selected .creditSpread
  stateFrom .unknown
    (fun yield =>
      if 4.5 ≤ yield ∨ spread.any (fun s => 2 ≤ s) then .tight
      else if yield < 3 ∧ spread.all (fun s => s < 1) then .loose
      else .neutral)
    (valueOf selected .yield10y)

def deriveFreshnessStatus : FreshnessStatus :=
  let states := selected.values.map (fun obs => obs.freshness.status)
  if selected.entries.isEmpty then .unknown
  else if .stale ∈ states then .stale
  else if .late ∈ states then .late
  else if .unknown ∈ states then .unknown
  else .fresh

def deriveDegradedStatus (requiredIndicators : List MacroIndicatorType) :
    DegradedStatus × List String :=
  let missing := (requiredIndicators.filter (fun i => (selected.get? i).isNone)).map
    MacroIndicatorType.value
  if selected.entries.isEmpty then (.missing,requiredIndicators.map MacroIndicatorType.value)
  else if missing.isEmpty then (.none,[])
  else (.partialData,missing)

def sourceSummary : Dict String ℕ :=
  selected.values.foldl (fun counts obs =>
    counts.set obs.source.value ((counts.get? obs.source.value).getD 0 + 1)) .empty

/-- `{k.value: v.value for k, v in selected.items() if v.value is not None}` -/
def indicatorValues : Dict String ℚ :=
  Dict.ofList (selected.entries.filterMap (fun p => p.2.value.map (fun v => (p.1.value,v))))

/-- The snapshot of the selected observations, under a new id and the clock's time. -/
def snapshotOf (snapshotId : String) (now : ℤ) (asOfDate : Date) : SnapshotRecord :=
  let degraded := deriveDegradedStatus selected priorityIndicators
  { snapshotId := snapshotId
    asOfDate := asOfDate
    snapshotTimestamp := now
    freshnessStatus := deriveFreshnessStatus selected
    degradedStatus := degraded.1
    growthState := deriveGrowthState selected
    inflationState := deriveInflationState selected
    laborState := deriveLaborState selected
    policyState := derivePolicyState selected
    financialConditionsState := deriveFinancialConditionsState selected
    missingIndicators := degraded.2
    sourceSummary := sourceSummary selected
    indicatorValues := indicatorValues selected }

end Derive

def buildSnapshot (snapshotId : String) (now : ℤ) (observations : List NormalizedMacroObservation)
    (asOfDate : Date) : Except TypeError SnapshotRecord :=
  (selectLatestObservations observations asOfDate).map (snapshotOf · snapshotId now asOfDate)

section States
variable {selected : Selected}

theorem stateFrom_known_iff {S : Type} {unknown : S} {rule : ℚ → S} (value : Option ℚ)
    (hrule : ∀ x, rule x ≠ unknown) : stateFrom unknown rule value ≠ unknown ↔ value.isSome := by
  cases value with
  | none => simp [stateFrom]
  | some x => simp [stateFrom,hrule x]

theorem growth_known_iff : deriveGrowthState selected ≠ .unknown ↔
    (valueOf selected .pmi).isSome ∧ (valueOf selected .retailSales).isSome := by
  unfold deriveGrowthState
  cases valueOf selected .pmi with
  | none => simp
  | some pmi =>
    cases valueOf selected .retailSales with
    | none => simp
    | some retail =>
      simp only [Option.isSome_some,and_self,iff_true]
      split_ifs <;> nofun

/-- All five states are known where each required indicator has a value. -/
theorem states_known_iff : (deriveGrowthState selected ≠ .unknown ∧
    deriveInflationState selected ≠ .unknown ∧ deriveLaborState selected ≠ .unknown ∧
    derivePolicyState selected ≠ .unknown ∧ deriveFinancialConditionsState selected ≠ .unknown) ↔
      ∀ i ∈ priorityIndicators, (valueOf selected i).isSome := by
  rw [growth_known_iff,deriveInflationState,deriveLaborState,derivePolicyState,
    deriveFinancialConditionsState,stateFrom_known_iff,stateFrom_known_iff,stateFrom_known_iff,
    stateFrom_known_iff]
  · simp only [priorityIndicators,List.forall_mem_cons]
    simp
    tauto
  all_goals
    intro x
    split_ifs <;> nofun

theorem get?_eq_none_of_empty (hempty : selected.entries.isEmpty = true)
    (i : MacroIndicatorType) : selected.get? i = none := by
  rw [Dict.get?,List.isEmpty_iff.mp hempty,List.lookup_nil]

/-- The missing indicators are the required ones that were not selected. -/
theorem deriveDegradedStatus_missing (required : List MacroIndicatorType) :
    (deriveDegradedStatus selected required).2 =
      (required.filter (fun i => (selected.get? i).isNone)).map MacroIndicatorType.value := by
  unfold deriveDegradedStatus
  dsimp only
  split
  · rename_i hempty
    simp [get?_eq_none_of_empty hempty]
  · split
    · rename_i hmissing
      exact (List.isEmpty_iff.mp hmissing).symm
    · rfl

theorem mem_missing_iff {required : List MacroIndicatorType} {i : MacroIndicatorType}
    (hi : i ∈ required) : i.value ∈ (deriveDegradedStatus selected required).2 ↔
      selected.get? i = none := by
  rw [deriveDegradedStatus_missing,List.mem_map_of_injective MacroIndicatorType.value_injective]
  simp [hi]

theorem degraded_none_iff {required : List MacroIndicatorType} (hrequired : required ≠ []) :
    (deriveDegradedStatus selected required).1 = .none ↔
      ∀ i ∈ required, selected.get? i ≠ none := by
  have hmissing : ((required.filter (fun i => (selected.get? i).isNone)).map
      MacroIndicatorType.value).isEmpty = true ↔ ∀ i ∈ required, selected.get? i ≠ none := by
    simp [List.isEmpty_iff,List.filter_eq_nil_iff]
  rw [← hmissing]
  unfold deriveDegradedStatus
  dsimp only
  split
  · rename_i hempty
    obtain ⟨i,hi⟩ := List.exists_mem_of_ne_nil required hrequired
    simp only [reduceCtorEq,false_iff,hmissing]
    exact fun h => h i hi (get?_eq_none_of_empty hempty i)
  · split
    · rename_i hnone
      simp only [hnone]
    · rename_i hsome
      simp only [reduceCtorEq,false_iff]
      exact hsome

end States

/-- A snapshot without degradation has no unknown state, and every required indicator that no
observation gives a value of is reported missing. -/
structure Honest (asOfDate : Date) (observations : List NormalizedMacroObservation)
    (snapshot : SnapshotRecord) : Prop where
  known : snapshot.degradedStatus = .none → snapshot.growthState ≠ .unknown ∧
    snapshot.inflationState ≠ .unknown ∧ snapshot.laborState ≠ .unknown ∧
    snapshot.policyState ≠ .unknown ∧ snapshot.financialConditionsState ≠ .unknown
  missing : ∀ i ∈ priorityIndicators,
    (∀ obs ∈ observationsOf asOfDate i observations, obs.value = none) →
      i.value ∈ snapshot.missingIndicators

/-- An indicator that is required is given by a value where it is given at all, and if all of
them are given, then each by its latest observation. -/
structure ValuesGiven (asOfDate : Date) (observations : List NormalizedMacroObservation) :
    Prop where
  latest : (∀ i ∈ priorityIndicators, observationsOf asOfDate i observations ≠ []) →
    ∀ i ∈ priorityIndicators, ∃ obs, latestOf asOfDate i observations = some obs ∧
      obs.value ≠ none
  given : ∀ i ∈ priorityIndicators, observationsOf asOfDate i observations ≠ [] →
    ∃ obs ∈ observationsOf asOfDate i observations, obs.value ≠ none

section Health
variable {asOfDate : Date} {observations : List NormalizedMacroObservation} {selected : Selected}

theorem latestOf_eq_none_iff {i : MacroIndicatorType} :
    latestOf asOfDate i observations = none ↔ observationsOf asOfDate i observations = [] :=
  Champion.champion_eq_none

/-- The health of the snapshot of a selection, in terms of the observations. -/
theorem honest_iff
    (hselected : ∀ i, selected.get? i = latestOf asOfDate i observations) (snapshotId : String)
    (now : ℤ) : Honest asOfDate observations (snapshotOf selected snapshotId now asOfDate) ↔
      ValuesGiven asOfDate observations := by
  have hpresent : (snapshotOf selected snapshotId now asOfDate).degradedStatus = .none ↔
      ∀ i ∈ priorityIndicators, observationsOf asOfDate i observations ≠ [] := by
    have hrequired : priorityIndicators ≠ [] := by decide
    simp only [snapshotOf,degraded_none_iff hrequired,hselected,Ne,latestOf_eq_none_iff]
  have hvalues : ∀ i, (valueOf selected i).isSome = true ↔
      ∃ obs, latestOf asOfDate i observations = some obs ∧ obs.value ≠ none := by
    intro i
    rw [valueOf,hselected]
    cases latestOf asOfDate i observations with
    | none => simp
    | some obs => simp [Option.isSome_iff_ne_none]
  have hmissing : ∀ i ∈ priorityIndicators,
      (i.value ∈ (snapshotOf selected snapshotId now asOfDate).missingIndicators ↔
        observationsOf asOfDate i observations = []) := by
    intro i hi
    rw [← latestOf_eq_none_iff,← hselected]
    exact mem_missing_iff hi
  constructor
  · rintro ⟨hknown,hreported⟩
    refine ⟨?_,?_⟩
    · intro hall i hi
      exact (hvalues i).mp (states_known_iff.mp (hknown (hpresent.mpr hall)) i hi)
    · intro i hi hne
      by_contra! hnone
      exact hne ((hmissing i hi).mp (hreported i hi hnone))
  · rintro ⟨hlatest,hgiven⟩
    refine ⟨?_,?_⟩
    · intro hnone
      have hall := hlatest (hpresent.mp hnone)
      exact states_known_iff.mpr (fun i hi => (hvalues i).mpr (hall i hi))
    · intro i hi hnone
      rw [hmissing i hi]
      by_contra hne
      obtain ⟨obs,hobs,hvalue⟩ := hgiven i hi hne
      exact hvalue (hnone obs hobs)

end Health

/-- The snapshots of a list are honest exactly where no snapshot can be built of it or values
are given. -/
theorem snapshot_honest_iff (snapshotId : String) (now : ℤ)
    (observations : List NormalizedMacroObservation) (asOfDate : Date) :
    (∀ snapshot, buildSnapshot snapshotId now observations asOfDate = .ok snapshot →
      Honest asOfDate observations snapshot) ↔
    ¬OneKind asOfDate observations ∨ ValuesGiven asOfDate observations := by
  have hspec := select_spec asOfDate observations
  by_cases hkind : OneKind asOfDate observations
  · obtain ⟨selected,hok,hselected⟩ := hspec.oneKind hkind
    rw [buildSnapshot,hok,← honest_iff hselected snapshotId now]
    simp [Except.map,hkind]
  · rw [buildSnapshot,hspec.mixed hkind]
    simp [Except.map,hkind]

/-- The first of January 2026 in UTC. -/
def newYearStart : DateTime where
  civil := ⟨2026,1,1,0,0,0,0⟩
  tzinfo := some .utc
  valid := by decide

def newYearMicros : ℤ := newYearStart.civil.micros

theorem newYearStart_before : ∀ t, newYearStart.instant = some t → t ≤ newYearMicros := by
  intro t ht
  cases ht
  decide +kernel

/-- An observation of that day, fetched at once. -/
def newYearReading (indicator : MacroIndicatorType) (value : Option ℚ) (revisionNumber : ℕ) :
    NormalizedMacroObservation where
  snapshotId := ⟨"snap-1",by decide⟩
  indicatorId := indicator
  observationDate := newYearStart
  fetchedAt := newYearMicros
  source := .fred
  value := value
  releaseDate := newYearStart
  unit := "index"
  frequency := .monthly
  sourceSeriesId := none
  region := "US"
  freshness := freshnessOf 0 le_rfl
  revisionStatus := .unknown
  revisionNumber := revisionNumber
  metadata := []
  observedBefore := newYearStart_before
  releasedBefore := newYearStart_before

def endOfJanuary : Date := ⟨739647,by decide,by decide⟩

/-- Five required indicators, one of them without a value. -/
def valuelessCpi : List NormalizedMacroObservation :=
  [newYearReading .inflation none 0,newYearReading .unemployment (some 4.1) 0,
    newYearReading .yield10y (some 4.2) 0,newYearReading .pmi (some 53) 0,
    newYearReading .retailSales (some 0.4) 0]

/-- A snapshot without an inflation value counts as complete. -/
theorem valuelessCpi_complete :
    (buildSnapshot "snap-1" 0 valuelessCpi endOfJanuary).toOption.map
      (fun s => (s.degradedStatus,s.inflationState,s.missingIndicators)) =
        some (.none,.unknown,[]) ∧
    ¬∀ snapshot, buildSnapshot "snap-1" 0 valuelessCpi endOfJanuary = .ok snapshot →
      Honest endOfJanuary valuelessCpi snapshot := by
  have hbuilt : (buildSnapshot "snap-1" 0 valuelessCpi endOfJanuary).toOption.map
      (fun s => (s.degradedStatus,s.inflationState,s.missingIndicators)) =
        some (.none,.unknown,[]) := by decide +kernel
  refine ⟨hbuilt,?_⟩
  intro h
  obtain ⟨snapshot,hsnapshot,hstates⟩ := Option.map_eq_some_iff.mp hbuilt
  obtain ⟨hdegraded,hinflation,-⟩ := Prod.ext_iff.mp hstates |>.imp_right Prod.ext_iff.mp
  cases houtcome : buildSnapshot "snap-1" 0 valuelessCpi endOfJanuary with
  | error e =>
    rw [houtcome] at hsnapshot
    cases hsnapshot
  | ok s =>
    rw [houtcome] at hsnapshot
    cases hsnapshot
    exact ((h snapshot houtcome).known hdegraded).2.1 hinflation

end MacroInvest.Macro
