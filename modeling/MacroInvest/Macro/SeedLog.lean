import MacroInvest.Library.Simulation
import MacroInvest.Macro.StartupSeeder

/-! # What the seeder's readers see

A run of the seeder is told by the log of the calls that seeded, each with the call whose snapshot
its regime was built from, the first of its day, and the label of the day before. The stores
answer every call and every read as the log does.
-/
namespace MacroInvest.Macro
open Features DatedRows CallRun Fallible

section Values

theorem fetchRealValues_key {rows : Option (List (String × Option ℚ))} {i : MacroIndicatorType}
    (h : (fetchRealValues rows).get? i ≠ none) : i ∈ seriesToIndicator.map Prod.snd := by
  unfold fetchRealValues at h
  generalize rows.getD [] = answered at h
  induction answered using List.reverseRecOn with
  | nil => exact absurd rfl h
  | append_singleton answered row ih =>
    rw [List.foldl_concat] at h
    split at h
    · rename_i indicator value hlookup _
      rw [Dict.get?_set] at h
      split at h
      · rename_i hi
        subst hi
        obtain ⟨before,after,heq,-⟩ := List.lookup_eq_some_iff.mp hlookup
        rw [heq]
        simp
      · exact ih h
    · exact ih h

/-- The growth indicators are not among the series. -/
theorem values_growth (call : SeedCall) :
    call.values.get? .pmi = none ∧ call.values.get? .retailSales = none := by
  constructor <;> by_contra h <;> exact absurd (fetchRealValues_key h) (by decide)

end Values

section Snapshot

def seedFreshnessStatus (call : SeedCall) : FreshnessStatus :=
  if call.usedRealData then .fresh else .unknown

def seedDegradedStatus (call : SeedCall) : DegradedStatus :=
  if call.usedRealData then .partialData else .missing

def seedMissing (call : SeedCall) : List String :=
  (priorityIndicators.filter (fun i => (call.values.get? i).isNone)).map MacroIndicatorType.value

/-- The label of a regime that is built from the snapshot of this call. -/
def seedLabel (call : SeedCall) : RegimeLabel := if call.usedRealData then .mixed else .unclear

/-- The snapshot that a call saves. -/
structure SnapshotOf (call : SeedCall) (s : MacroSnapshotState) : Prop where
  snapshotId : s.snapshotId = call.snapshotId.val
  asOfDate : s.asOfDate = call.asOfDate
  freshness : s.freshnessStatus = seedFreshnessStatus call
  degraded : s.degradedStatus = seedDegradedStatus call
  growth : s.growthState = .unknown
  missing : s.missingIndicators = seedMissing call

/-- What the observations of a call have in common. -/
structure SeedObservation (call : SeedCall) (p : MacroIndicatorType × ℚ)
    (obs : NormalizedMacroObservation) : Prop where
  indicator : obs.indicatorId = p.1
  observed : obs.observationDate = utcMidnight call.asOfDate
  fresh : obs.freshness.status = .fresh

theorem syntheticObservation_ok {call : SeedCall} {p : MacroIndicatorType × ℚ}
    {obs : NormalizedMacroObservation} (h : syntheticObservation call p.1 p.2 = .ok obs) :
    SeedObservation call p obs := by
  unfold syntheticObservation at h
  split at h
  · cases h
    exact ⟨rfl,rfl,by norm_num [seedFreshness,freshnessOf]⟩
  · cases h

variable {call : SeedCall} {observations : List NormalizedMacroObservation}

theorem observations_spec (h : buildSyntheticObservations call = .ok observations) :
    List.Forall₂ (SeedObservation call) call.values.entries observations :=
  (forall₂_of_mapM h).imp fun _ _ => syntheticObservation_ok

theorem oneKind_seed (h : buildSyntheticObservations call = .ok observations) :
    OneKind call.asOfDate observations := by
  have hspec := observations_spec h
  intro indicator a ha b hb
  obtain ⟨p,-,hp⟩ := exists_left hspec (mem_observationsOf.mp ha).1
  obtain ⟨q,-,hq⟩ := exists_left hspec (mem_observationsOf.mp hb).1
  rw [hp.observed,hq.observed]
  rfl

/-- An indicator is selected where it has a value. -/
theorem latestOf_seed (h : buildSyntheticObservations call = .ok observations)
    (i : MacroIndicatorType) : latestOf call.asOfDate i observations = none ↔
      call.values.get? i = none := by
  have hspec := observations_spec h
  rw [latestOf_eq_none_iff,Dict.get?_eq_none_iff,List.eq_nil_iff_forall_not_mem,Dict.keys]
  constructor
  · intro hnone hi
    obtain ⟨p,hp,rfl⟩ := List.mem_map.mp hi
    obtain ⟨obs,hobs,hof⟩ := exists_right hspec hp
    refine hnone obs (mem_observationsOf.mpr ⟨hobs,?_,hof.indicator⟩)
    rw [inRange,hof.observed,utcMidnight,(midnight_spec call.asOfDate).2]
    simp
  · intro hi obs hobs
    obtain ⟨hmem,-,hindicator⟩ := mem_observationsOf.mp hobs
    obtain ⟨p,hp,hof⟩ := exists_left hspec hmem
    rw [← hindicator,hof.indicator] at hi
    exact hi (List.mem_map_of_mem hp)

theorem entries_isEmpty_iff {K V : Type} [DecidableEq K] {d : Dict K V} :
    d.entries.isEmpty = true ↔ ∀ k, d.get? k = none := by
  simp only [Dict.get?_eq_none_iff,Dict.keys]
  rw [← List.eq_nil_iff_forall_not_mem,List.map_eq_nil_iff,List.isEmpty_iff]

/-- The snapshot of a selection of the call's indicators. -/
theorem snapshotOf_seed (h : buildSyntheticObservations call = .ok observations)
    {selected : Selected}
    (hselected : ∀ i, selected.get? i = latestOf call.asOfDate i observations) (now : ℤ) :
    SnapshotOf call
      (snapshotOf selected call.snapshotId.val now call.asOfDate).toMacroSnapshotState := by
  have hget : ∀ i, selected.get? i = none ↔ call.values.get? i = none := by
    intro i
    rw [hselected,latestOf_seed h]
  have hempty : selected.entries.isEmpty = !call.usedRealData := by
    rw [SeedCall.usedRealData,Bool.not_not,Bool.eq_iff_iff,entries_isEmpty_iff,
      entries_isEmpty_iff]
    exact forall_congr' hget
  have hpmi : (selected.get? .pmi).isNone = true := by
    simp [(hget _).mpr (values_growth call).1]
  refine ⟨rfl,rfl,?_,?_,?_,?_⟩
  · have hfresh : ∀ obs ∈ selected.values, obs.freshness.status = .fresh := by
      intro obs hobs
      obtain ⟨k,hk⟩ := Dict.mem_values_iff.mp hobs
      rw [hselected] at hk
      obtain ⟨hmem,-⟩ := mem_observationsOf.mp (Champion.champion_mem hk)
      obtain ⟨p,-,hp⟩ := exists_left (observations_spec h) hmem
      exact hp.fresh
    have hstates : ∀ status ≠ FreshnessStatus.fresh,
        status ∉ selected.values.map (fun obs => obs.freshness.status) := by
      intro status hne hmem
      obtain ⟨obs,hobs,rfl⟩ := List.mem_map.mp hmem
      exact hne (hfresh obs hobs)
    simp only [snapshotOf,deriveFreshnessStatus,hempty,hstates .stale (by decide),
      hstates .late (by decide),hstates .unknown (by decide),if_false,seedFreshnessStatus]
    cases call.usedRealData <;> rfl
  · have hmissing : ((priorityIndicators.filter (fun i => (selected.get? i).isNone)).map
        MacroIndicatorType.value).isEmpty = false := by
      rw [List.isEmpty_eq_false_iff]
      exact List.ne_nil_of_mem (List.mem_map_of_mem
        (List.mem_filter.mpr ⟨show MacroIndicatorType.pmi ∈ _ by decide,hpmi⟩))
    simp only [snapshotOf,deriveDegradedStatus,hempty,hmissing,seedDegradedStatus]
    cases call.usedRealData <;> rfl
  · by_contra hknown
    have hvalue := (growth_known_iff.mp hknown).1
    rw [valueOf,Option.isNone_iff_eq_none.mp hpmi] at hvalue
    cases hvalue
  · simp only [snapshotOf,deriveDegradedStatus_missing,seedMissing]
    refine congrArg (List.map _) (List.filter_congr ?_)
    intro i _
    rw [Bool.eq_iff_iff,Option.isNone_iff_eq_none,Option.isNone_iff_eq_none]
    exact hget i

theorem buildSnapshot_seed (h : buildSyntheticObservations call = .ok observations) (now : ℤ) :
    ∃ built, buildSnapshot call.snapshotId.val now observations call.asOfDate = .ok built ∧
      SnapshotOf call built.toMacroSnapshotState := by
  obtain ⟨selected,hok,hselected⟩ :=
    (select_spec call.asOfDate observations).oneKind (oneKind_seed h)
  refine ⟨_,?_,snapshotOf_seed h hselected now⟩
  rw [buildSnapshot,hok]
  rfl

end Snapshot

section Regime
variable {source : SeedCall} {s : MacroSnapshotState}

theorem SnapshotOf.label_eq (h : SnapshotOf source s) :
    mapSnapshotToRegimeLabel s = seedLabel source := by
  have hunknown : hasUnknownState s = true := by
    rw [hasUnknownState,MacroSnapshotState.states,h.growth,List.any_cons]
    rw [show isUnknown GrowthState.unknown.value = true by decide,Bool.true_or]
  unfold mapSnapshotToRegimeLabel
  rw [h.degraded,h.freshness,hunknown,seedDegradedStatus,seedFreshnessStatus,seedLabel]
  cases source.usedRealData <;> rfl

theorem SnapshotOf.confidence_eq (h : SnapshotOf source s) : snapshotConfidence s = .low := by
  have hlabel : (mapSnapshotToRegime s).1 = seedLabel source := h.label_eq
  rw [snapshotConfidence,hlabel,deriveRegimeConfidence,h.degraded,h.freshness,seedDegradedStatus,
    seedFreshnessStatus,seedLabel]
  cases source.usedRealData <;> rfl

end Regime

section Log

/-- A call that seeded, the call whose snapshot its regime was built from, and the label of the
regime it was compared with. -/
structure Seeding where
  call : SeedCall
  source : SeedCall
  prior : Option RegimeLabel

def Seeding.asOfDate (g : Seeding) : Date := g.call.asOfDate

def Seeding.label (g : Seeding) : RegimeLabel := seedLabel g.source

/-- The call of the same day that seeded first, the given one if none did. -/
def dayFirst (log : List Seeding) (call : SeedCall) : SeedCall :=
  (firstAt SeedCall.asOfDate (log.map Seeding.call) call.asOfDate).getD call

/-- The seeder, told by its log. -/
def seedStep (log : List Seeding) (call : SeedCall) :
    List Seeding × Except ServiceError SeedStatus :=
  let existing := if call.forceRefresh then none
    else latestOnOrBefore Seeding.asOfDate log call.asOfDate
  match existing with
  | some g =>
    (log,.ok {success := true, skipped := true, regimeId := some g.call.fresh.regimeId})
  | none =>
    if call.usedRealData ∧ call.fetchedAt < dayStart call.asOfDate then
      (log,.error observationTooEarly)
    else
      match call.asOfDate.minusOneDay with
      | none =>
        (log,.ok {success := false, error := some (.snapshotBuild "date value out of range")})
      | some yesterday =>
        (log ++ [⟨call,dayFirst log call,
            (latestOnOrBefore Seeding.asOfDate log yesterday).map Seeding.label⟩],
          .ok {success := true, regimeId := some call.fresh.regimeId})

def seedTransition (label : RegimeLabel) : Option RegimeLabel → RegimeTransition
  | none => ⟨none,.initial,false⟩
  | some prior =>
    if label ≠ prior then ⟨some prior.value,.shift,true⟩
    else ⟨some prior.value,.unchanged,false⟩

/-- The warnings of a regime, from the snapshot of its own call. -/
def SeedWarnings (g : Seeding) (warnings : List String) : Prop :=
  ∃ own, SnapshotOf g.call own ∧ warnings = deriveRegimeWarnings own g.label .low
    (seedMissing g.source) !g.call.usedRealData

/-- The regime that a seeding leaves in the store. -/
structure RegimeOf (g : Seeding) (regime : MacroRegime) : Prop where
  regimeId : regime.regimeId = g.call.fresh.regimeId
  asOfDate : regime.asOfDate = g.asOfDate
  timestamp : regime.regimeTimestamp = g.call.fresh.now
  label : regime.regimeLabel = g.label
  confidence : regime.confidence = .low
  snapshotId : regime.supportingSnapshotId = g.source.snapshotId.val
  freshness : regime.freshnessStatus = seedFreshnessStatus g.source
  degraded : regime.degradedStatus = seedDegradedStatus g.source
  missing : regime.missingInputs = seedMissing g.source
  metadata : regime.metadata = seedMetadata g.call.usedRealData
  transition : regime.transition = seedTransition g.label g.prior
  warnings : SeedWarnings g regime.warnings

/-- The stores hold what the log says, and the snapshot behind a regime is the first of its
day. -/
structure Follows (stores : SeededStores) (log : List Seeding) : Prop where
  snapshots : List.Forall₂ SnapshotOf (log.map Seeding.call)
    (stores.snapshots.map (·.toMacroSnapshotState))
  regimes : List.Forall₂ RegimeOf log stores.regimes.regimes
  first : ∀ g ∈ log, firstAt SeedCall.asOfDate (log.map Seeding.call) g.asOfDate = some g.source

variable {stores : SeededStores} {log : List Seeding}

/-- The regime that leads a day in the store is that of the seeding that leads it in the log. -/
theorem Follows.latest (h : Follows stores log) (d : Date) :
    Option.Rel RegimeOf (latestOnOrBefore Seeding.asOfDate log d)
      (stores.regimes.getLatestOnOrBefore d) :=
  forall₂_latest (fun _ _ hregime => hregime.asOfDate.symm) h.regimes d

theorem buildSyntheticObservations_eq (call : SeedCall) :
    if call.usedRealData ∧ call.fetchedAt < dayStart call.asOfDate then
      buildSyntheticObservations call = .error observationTooEarly
    else ∃ observations, buildSyntheticObservations call = .ok observations := by
  unfold buildSyntheticObservations SeedCall.usedRealData
  by_cases hbegun : dayStart call.asOfDate ≤ call.fetchedAt
  · rw [if_neg (by simp [hbegun])]
    induction call.values.entries with
    | nil => exact ⟨[],rfl⟩
    | cons p entries ih =>
      obtain ⟨observations,hobs⟩ := ih
      obtain ⟨obs,hone⟩ : ∃ obs, syntheticObservation call p.1 p.2 = .ok obs := by
        rw [syntheticObservation,dif_pos hbegun]
        exact ⟨_,rfl⟩
      refine ⟨obs :: observations,?_⟩
      rw [List.mapM_cons,hone,hobs]
      rfl
  · cases call.values.entries with
    | nil => exact ⟨[],rfl⟩
    | cons p entries =>
      rw [if_pos (by simpa using hbegun),List.mapM_cons,syntheticObservation,dif_neg hbegun]
      rfl

/-- Where a snapshot is saved, it is the call's, and nothing else changes. -/
theorem buildAndSaveSnapshot_seed {call : SeedCall}
    {observations : List NormalizedMacroObservation}
    (h : buildSyntheticObservations call = .ok observations) (snapshots : List SnapshotRecord)
    (now : ℤ) :
    match call.asOfDate.minusOneDay with
    | none => buildAndSaveSnapshot snapshots call.snapshotId.val now observations
        call.asOfDate = .error "date value out of range"
    | some _ => ∃ snapshot, SnapshotOf call snapshot.toMacroSnapshotState ∧
        buildAndSaveSnapshot snapshots call.snapshotId.val now observations call.asOfDate =
          .ok (snapshot,snapshots ++ [snapshot]) := by
  obtain ⟨built,hbuilt,hof⟩ := buildSnapshot_seed h now
  unfold buildAndSaveSnapshot
  rw [hbuilt]
  cases call.asOfDate.minusOneDay with
  | none => rfl
  | some yesterday =>
    let comparison := compareSnapshotStates built
      (latestOnOrBefore (·.asOfDate) snapshots yesterday)
    exact ⟨{built with
      comparison := comparison
      keyIndicatorChanges := comparison.changedIndicators},hof,rfl⟩

/-- A regime of the snapshot of a call. -/
theorem regimeOfSnapshot_seed {source : SeedCall} {s : MacroSnapshotState}
    (h : SnapshotOf source s) (fresh : Fresh) : ∃ regime,
      regimeOfSnapshot fresh s = .ok regime ∧ regime.regimeId = fresh.regimeId ∧
      regime.asOfDate = source.asOfDate ∧ regime.regimeTimestamp = fresh.now ∧
      regime.regimeLabel = seedLabel source ∧ regime.confidence = .low ∧
      regime.supportingSnapshotId = source.snapshotId.val ∧
      regime.freshnessStatus = seedFreshnessStatus source ∧
      regime.degradedStatus = seedDegradedStatus source ∧
      regime.missingInputs = seedMissing source := by
  have hid : s.snapshotId ≠ "" := h.snapshotId ▸ source.snapshotId.given
  rw [regimeOfSnapshot]
  simp only [dif_neg hid]
  exact ⟨_,rfl,rfl,h.asOfDate,rfl,h.label_eq,h.confidence_eq,h.snapshotId,h.freshness,h.degraded,
    h.missing⟩

theorem seedTransition_eq {current : MacroRegime} (hlow : current.confidence = .low)
    {prior : Option MacroRegime} (hprior : ∀ p, prior = some p → p.confidence = .low) :
    deriveRegimeTransition current prior =
      seedTransition current.regimeLabel (prior.map MacroRegime.regimeLabel) := by
  cases prior with
  | none => rfl
  | some p =>
    simp [deriveRegimeTransition,seedTransition,hlow,hprior p rfl]

theorem dayFirst_asOfDate (log : List Seeding) (call : SeedCall) :
    (dayFirst log call).asOfDate = call.asOfDate := by
  unfold dayFirst
  cases h : firstAt SeedCall.asOfDate (log.map Seeding.call) call.asOfDate with
  | none => rfl
  | some first => simpa using List.find?_some h

theorem firstAt_dayFirst (log : List Seeding) (call : SeedCall) :
    firstAt SeedCall.asOfDate (log.map Seeding.call ++ [call]) call.asOfDate =
      some (dayFirst log call) := firstAt_concat _ call

/-- What leads the day in the snapshots, once the call has saved its own, is the snapshot of the
call that seeded first. -/
theorem latest_snapshot (h : Follows stores log) {call : SeedCall} {snapshot : SnapshotRecord}
    (hof : SnapshotOf call snapshot.toMacroSnapshotState) :
    ∃ s, latestOnOrBefore MacroSnapshotState.asOfDate
        ((stores.snapshots ++ [snapshot]).map (·.toMacroSnapshotState)) call.asOfDate = some s ∧
      SnapshotOf (dayFirst log call) s := by
  have haligned : List.Forall₂ SnapshotOf (log.map Seeding.call ++ [call])
      ((stores.snapshots ++ [snapshot]).map (·.toMacroSnapshotState)) := by
    rw [List.map_append]
    exact List.rel_append h.snapshots (.cons hof .nil)
  have hdates : ∀ a b, SnapshotOf a b → a.asOfDate = b.asOfDate := fun _ _ hs => hs.asOfDate.symm
  have hlead := forall₂_latest hdates haligned call.asOfDate
  rw [latestOnOrBefore_of_firstAt (firstAt_dayFirst log call)] at hlead
  generalize latestOnOrBefore MacroSnapshotState.asOfDate _ _ = latest at hlead ⊢
  cases hlead with
  | some hs => exact ⟨_,rfl,hs⟩

/-- The baseline in the store has the label that the log tells, at low confidence. -/
theorem latest_label (h : Follows stores log) (d : Date) :
    (stores.regimes.getLatestOnOrBefore d).map MacroRegime.regimeLabel =
      (latestOnOrBefore Seeding.asOfDate log d).map Seeding.label ∧
    ∀ p, stores.regimes.getLatestOnOrBefore d = some p → p.confidence = .low := by
  refine ⟨(map_eq_of_rel (h.latest d) fun _ _ hregime => hregime.label.symm).symm,?_⟩
  intro p hp
  obtain ⟨g,-,hregime⟩ := rel_some (h.latest d) hp
  exact hregime.confidence

/-- The regime that is built after a call has saved its snapshot. -/
theorem buildAndSaveRegime_seed (h : Follows stores log) {call : SeedCall}
    {snapshot : SnapshotRecord} (hof : SnapshotOf call snapshot.toMacroSnapshotState)
    {yesterday : Date} (hday : call.asOfDate.minusOneDay = some yesterday) :
    ∃ regime saved, MacroRegimeService.buildAndSaveRegime
        ⟨⟨(stores.snapshots ++ [snapshot]).map (·.toMacroSnapshotState)⟩,some stores.regimes⟩
        call.fresh call.asOfDate = .ok (regime,saved) ∧
      RegimeOf ⟨call,dayFirst log call,
          (latestOnOrBefore Seeding.asOfDate log yesterday).map Seeding.label⟩
        (stampSeed snapshot.toMacroSnapshotState call.usedRealData regime) := by
  obtain ⟨s,hs,hsource⟩ := latest_snapshot h hof
  obtain ⟨regime,hregime,hid,hdate,htime,hlabel,hlow,hsnapshot,hfresh,hdegraded,hmissing⟩ :=
    regimeOfSnapshot_seed hsource call.fresh
  obtain ⟨hpriorLabel,hpriorLow⟩ := latest_label h yesterday
  let related := regime.setTransition (deriveRegimeTransition regime
    (stores.regimes.getLatestOnOrBefore yesterday))
  refine ⟨related,stores.regimes.saveRegime related,?_,?_⟩
  · simp only [MacroRegimeService.buildAndSaveRegime,MacroRegimeService.buildRegime,
      MacroSnapshotStore.getLatestOnOrBefore,hs,hregime,dayBefore,hday]
    rfl
  · refine ⟨hid,hdate.trans (dayFirst_asOfDate log call),htime,hlabel,hlow,hsnapshot,hfresh,
      hdegraded,hmissing,rfl,?_,_,hof,?_⟩
    · show deriveRegimeTransition regime _ = _
      rw [seedTransition_eq hlow hpriorLow,hpriorLabel,hlabel]
      rfl
    · show deriveRegimeWarnings _ regime.regimeLabel regime.confidence regime.missingInputs _ = _
      rw [hlabel,hlow,hmissing]
      rfl

/-- One call: the stores answer it as the log does and keep following it. -/
theorem seed_follows (stores : SeededStores) (log : List Seeding) (call : SeedCall)
    (h : Follows stores log) : (stores.seed call).2 = (seedStep log call).2 ∧
      Follows (stores.seed call).1 (seedStep log call).1 := by
  have hexisting : Option.Rel RegimeOf
      (if call.forceRefresh then none else latestOnOrBefore Seeding.asOfDate log call.asOfDate)
      (if call.forceRefresh then none else stores.regimes.getLatestOnOrBefore call.asOfDate) := by
    split
    · exact .none
    · exact h.latest call.asOfDate
  unfold SeededStores.seed seedStep
  simp only
  generalize (if call.forceRefresh then none
    else latestOnOrBefore Seeding.asOfDate log call.asOfDate) = g at hexisting ⊢
  generalize (if call.forceRefresh then none
    else stores.regimes.getLatestOnOrBefore call.asOfDate) = regime at hexisting ⊢
  cases hexisting with
  | some hregime =>
    simp only [hregime.regimeId]
    exact ⟨trivial,h⟩
  | none =>
    have hobservations := buildSyntheticObservations_eq call
    by_cases hearly : call.usedRealData ∧ call.fetchedAt < dayStart call.asOfDate
    · rw [if_pos hearly] at hobservations
      simp only [hobservations,if_pos hearly]
      exact ⟨trivial,h⟩
    · rw [if_neg hearly] at hobservations
      obtain ⟨observations,hbuilt⟩ := hobservations
      have hsnapshot := buildAndSaveSnapshot_seed hbuilt stores.snapshots call.snapshotTimestamp
      simp only [hbuilt,if_neg hearly]
      cases hday : call.asOfDate.minusOneDay with
      | none =>
        simp only [hday] at hsnapshot
        simp only [hsnapshot]
        exact ⟨trivial,h⟩
      | some yesterday =>
        simp only [hday] at hsnapshot
        obtain ⟨snapshot,hof,hsaved⟩ := hsnapshot
        obtain ⟨regime,saved,hregime,hnew⟩ := buildAndSaveRegime_seed h hof hday
        simp only [hsaved,SeededStores.service,hregime]
        refine ⟨?_,?_,?_,?_⟩
        · simp only [hnew.regimeId]
        · rw [List.map_append,List.map_append]
          exact List.rel_append h.snapshots (.cons hof .nil)
        · exact List.rel_append h.regimes (.cons hnew .nil)
        · intro g hg
          rw [List.map_append]
          rcases List.mem_append.mp hg with hold | hnew
          · exact firstAt_append (h.first g hold) _
          · rw [List.mem_singleton.mp hnew]
            exact firstAt_dayFirst log call

/-- The seeding that leads a day was built from its own snapshot. -/
theorem Follows.own (h : Follows stores log) {d : Date} {g : Seeding}
    (hg : latestOnOrBefore Seeding.asOfDate log d = some g) : g.source = g.call := by
  have hfirst := h.first g (latestOnOrBefore_mem hg).1
  have hown : firstAt SeedCall.asOfDate (log.map Seeding.call) g.asOfDate = some g.call := by
    have hat := firstAt_of_latest hg
    rw [firstAt] at hat
    rw [firstAt,List.find?_map]
    exact congrArg (Option.map Seeding.call) hat
  exact Option.some_inj.mp (hfirst.symm.trans hown)

end Log

section Run

/-- After any run the stores follow the log, and have answered as it does. -/
theorem run_follows (calls : List SeedCall) :
    Follows (final SeededStores.seed {} calls) (final seedStep [] calls) ∧
      trace SeededStores.seed {} calls = trace seedStep [] calls :=
  simulation seed_follows ⟨.nil,.nil,fun _ hg => absurd hg List.not_mem_nil⟩ calls

/-- What the route answers about a day led by this seeding. -/
structure Shows (g : Seeding) (response : RegimeLatestResponse) : Prop where
  asOfDate : response.asOfDate = g.asOfDate
  regimeId : response.regimeId = g.call.fresh.regimeId
  timestamp : response.regimeTimestamp = g.call.fresh.now
  snapshotId : response.supportingSnapshotId = g.call.snapshotId.val
  label : response.regimeLabel = (seedLabel g.call).value
  family : response.regimeFamily = "uncertain"
  confidence : response.confidence = "low"
  freshness : response.freshnessStatus = (seedFreshnessStatus g.call).value
  degraded : response.degradedStatus = (seedDegradedStatus g.call).value
  missing : response.missingInputs = seedMissing g.call
  growth : "pmi" ∈ response.missingInputs ∧ "retail_sales" ∈ response.missingInputs
  prior : response.transitionFromPrior = g.prior.map RegimeLabel.value
  changed : response.changed = true ↔ ∃ l, g.prior = some l ∧ l ≠ seedLabel g.call
  warnings : SeedWarnings g response.warnings
  status : response.status = if g.call.usedRealData then "degraded" else "bootstrap"
  isSeeded : response.isSeeded = !g.call.usedRealData
  dataSource : response.dataSource =
    if g.call.usedRealData then "real_data_seed" else "no_data_available"

theorem growth_missing (call : SeedCall) :
    "pmi" ∈ seedMissing call ∧ "retail_sales" ∈ seedMissing call := by
  obtain ⟨hpmi,hretail⟩ := values_growth call
  constructor
  · exact List.mem_map_of_mem (f := MacroIndicatorType.value)
      (List.mem_filter.mpr ⟨show MacroIndicatorType.pmi ∈ _ by decide,by simp [hpmi]⟩)
  · exact List.mem_map_of_mem (f := MacroIndicatorType.value)
      (List.mem_filter.mpr ⟨show MacroIndicatorType.retailSales ∈ _ by decide,by simp [hretail]⟩)

theorem RegimeOf.shows {g : Seeding} {regime : MacroRegime} (h : RegimeOf g regime)
    (hown : g.source = g.call) : Shows g (toLatestResponse regime) where
  asOfDate := h.asOfDate
  regimeId := h.regimeId
  timestamp := h.timestamp
  snapshotId := by rw [toLatestResponse,h.snapshotId,hown]
  label := by rw [toLatestResponse,h.label,Seeding.label,hown]
  family := by
    rw [toLatestResponse,regime.labelFamilyAligned,h.label,Seeding.label,seedLabel]
    cases g.source.usedRealData <;> rfl
  confidence := by
    rw [toLatestResponse,h.confidence]
    rfl
  freshness := by rw [toLatestResponse,h.freshness,hown]
  degraded := by rw [toLatestResponse,h.degraded,hown]
  missing := by rw [toLatestResponse,h.missing,hown]
  growth := by
    rw [toLatestResponse,h.missing]
    exact growth_missing g.source
  prior := by
    rw [toLatestResponse,h.transition]
    cases g.prior with
    | none => rfl
    | some l =>
      simp only [seedTransition]
      split <;> rfl
  changed := by
    rw [toLatestResponse,h.transition,Seeding.label,hown]
    cases g.prior with
    | none => simp [seedTransition]
    | some l =>
      by_cases hl : seedLabel g.call = l
      · simp [seedTransition,hl]
      · simp [seedTransition,hl,Ne.symm hl]
  warnings := h.warnings
  status := by
    simp only [toLatestResponse,computeRegimeStatus,h.metadata,h.freshness,h.confidence,hown,
      seedMetadata,seedFreshnessStatus]
    cases g.call.usedRealData <;> simp
  isSeeded := by
    simp only [toLatestResponse,h.metadata,seedMetadata]
    cases g.call.usedRealData <;> simp
  dataSource := by
    simp only [toLatestResponse,h.metadata,seedMetadata]
    cases g.call.usedRealData <;> simp [List.lookup]

/-- After any run the route answers from the call that seeded the last seeded day first, whatever
the later calls of that day got from the database, or there is no such day. -/
theorem seeder_law (calls : List SeedCall) (d : Date) :
    trace SeededStores.seed {} calls = trace seedStep [] calls ∧
    match latestOnOrBefore Seeding.asOfDate (final seedStep [] calls) d with
    | none => getLatestRegime (final SeededStores.seed {} calls).service d =
        .error ⟨404,"No persisted regime available"⟩
    | some g => ∃ response, Shows g response ∧
        getLatestRegime (final SeededStores.seed {} calls).service d = .ok response := by
  obtain ⟨hfollows,htrace⟩ := run_follows calls
  refine ⟨htrace,?_⟩
  have hlatest := hfollows.latest d
  have hown := fun g => hfollows.own (d := d) (g := g)
  simp only [getLatestRegime,SeededStores.service]
  generalize latestOnOrBefore Seeding.asOfDate (final seedStep [] calls) d = g at hlatest hown ⊢
  generalize (final SeededStores.seed {} calls).regimes.getLatestOnOrBefore d = regime
    at hlatest ⊢
  cases hlatest with
  | none => rfl
  | some hregime => exact ⟨_,hregime.shows (hown _ rfl),rfl⟩

end Run

end MacroInvest.Macro
