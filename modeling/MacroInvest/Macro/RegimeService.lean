import MacroInvest.Library.CallRun
import MacroInvest.Library.Fallible
import MacroInvest.Macro.RegimeStore

/-! # The macro regime service

The service builds a regime from the latest snapshot on or before a requested date, relates it
to an earlier stored regime and saves it. The regime is stamped with the date of its snapshot;
the earlier regime is looked up from the requested date when saving and from the regime's own
date when comparing.
-/
namespace MacroInvest.Macro
open FirstMax DatedRows CallRun

inductive ServiceError where
  | valueError (message : String)
  | validationError (field message : String)
  | overflowError (message : String)
  deriving DecidableEq, Repr

/-- The generated id and the clock reading of one built regime. -/
structure Fresh where
  regimeId : String
  now : ℤ

structure MacroRegimeService where
  snapshotRepository : MacroSnapshotStore
  regimeRepository : Option MacroRegimeStore

def dayBefore (day : Date) : Except ServiceError Date :=
  match day.minusOneDay with
  | none => .error (.overflowError "date value out of range")
  | some before => .ok before

def snapshotConfidence (snapshot : MacroSnapshotState) : RegimeConfidence :=
  deriveRegimeConfidence snapshot (mapSnapshotToRegime snapshot).1 (some (scoreSnapshot snapshot))

/-- The regime of one snapshot, refused when the snapshot has no id. -/
def regimeOfSnapshot (fresh : Fresh) (snapshot : MacroSnapshotState) :
    Except ServiceError MacroRegime :=
  let label := (mapSnapshotToRegime snapshot).1
  let confidence := snapshotConfidence snapshot
  let missingInputs := deriveRegimeMissingInputs snapshot
  if h : snapshot.snapshotId = "" then
    .error (.validationError "supporting_snapshot_id" "String should have at least 1 character")
  else .ok
    { regimeId := fresh.regimeId
      asOfDate := snapshot.asOfDate
      regimeTimestamp := fresh.now
      regimeLabel := label
      regimeFamily := (mapSnapshotToRegime snapshot).2
      supportingSnapshotId := snapshot.snapshotId
      supportingStates := [("growth_state",snapshot.growthState.value),
        ("inflation_state",snapshot.inflationState.value),
        ("labor_state",snapshot.laborState.value),
        ("policy_state",snapshot.policyState.value),
        ("financial_conditions_state",snapshot.financialConditionsState.value)]
      confidence := confidence
      freshnessStatus := snapshot.freshnessStatus
      degradedStatus := snapshot.degradedStatus
      missingInputs := missingInputs
      quantScores := some (scoreSnapshot snapshot)
      rationaleSummary := buildRegimeRationale snapshot label
      warnings := deriveRegimeWarnings snapshot label confidence missingInputs false
      labelFamilyAligned := rfl
      snapshotNamed := h }

namespace MacroRegimeService

def buildRegime (service : MacroRegimeService) (fresh : Fresh) (asOfDate : Date) :
    Except ServiceError MacroRegime :=
  match service.snapshotRepository.getLatestOnOrBefore asOfDate with
  | none => .error (.valueError ("No snapshot available on or before " ++ asOfDate.isoformat))
  | some snapshot => regimeOfSnapshot fresh snapshot

def buildAndSaveRegime (service : MacroRegimeService) (fresh : Fresh) (asOfDate : Date) :
    Except ServiceError (MacroRegime × MacroRegimeStore) :=
  match service.regimeRepository with
  | none => .error (.valueError "Regime repository is not configured")
  | some regimes => do
    let regime ← service.buildRegime fresh asOfDate
    let yesterday ← dayBefore asOfDate
    let previous := regimes.getLatestOnOrBefore yesterday
    let regime := regime.setTransition (deriveRegimeTransition regime previous)
    return (regime,regimes.saveRegime regime)

def compareLatestWithPrior (service : MacroRegimeService) (asOfDate : Date) :
    Except ServiceError (MacroRegime × Option MacroRegime) :=
  match service.regimeRepository with
  | none => .error (.valueError "Regime repository is not configured")
  | some regimes =>
    match regimes.getLatestOnOrBefore asOfDate with
    | none => .error (.valueError ("No regime available on or before " ++ asOfDate.isoformat))
    | some current => do
      let yesterday ← dayBefore current.asOfDate
      return (current,regimes.getLatestOnOrBefore yesterday)

end MacroRegimeService

/-- The latest of the given regimes dated strictly before `d`, the first of equals. -/
def priorTo (regimes : List MacroRegime) (d : Date) : Option MacroRegime :=
  firstMax MacroRegime.asOfDate (regimes.filter (fun r => r.asOfDate < d))

theorem getLatestOnOrBefore_dayBefore {d e : Date} (h : dayBefore d = .ok e)
    (store : MacroRegimeStore) : store.getLatestOnOrBefore e = priorTo store.regimes d := by
  unfold dayBefore at h
  cases hd : d.minusOneDay with
  | none => rw [hd] at h; cases h
  | some before =>
    rw [hd] at h
    cases h
    unfold MacroRegimeStore.getLatestOnOrBefore latestOnOrBefore onOrBefore priorTo
    simp only [Date.le_minusOneDay hd]

/-- Comparing takes its baseline from the current regime's own date. -/
theorem compareLatestWithPrior_prior {service : MacroRegimeService} {store : MacroRegimeStore}
    (hstore : service.regimeRepository = some store) {d : Date} {current : MacroRegime}
    {previous : Option MacroRegime}
    (h : service.compareLatestWithPrior d = .ok (current,previous)) :
    previous = priorTo store.regimes current.asOfDate := by
  unfold MacroRegimeService.compareLatestWithPrior at h
  rw [hstore] at h
  cases hcurrent : store.getLatestOnOrBefore d with
  | none => simp [hcurrent] at h
  | some latest =>
    simp only [hcurrent] at h
    obtain ⟨yesterday,hyesterday,h⟩ := Fallible.ok_of_bind h
    cases h
    exact getLatestOnOrBefore_dayBefore hyesterday store

theorem regimeOfSnapshot_ok (fresh : Fresh) {snapshot : MacroSnapshotState}
    (h : snapshot.snapshotId ≠ "") : ∃ regime, regimeOfSnapshot fresh snapshot = .ok regime ∧
      regime.asOfDate = snapshot.asOfDate ∧
      regime.regimeLabel = mapSnapshotToRegimeLabel snapshot ∧
      regime.confidence = snapshotConfidence snapshot := by
  simp [regimeOfSnapshot,h,mapSnapshotToRegime]

/-- What a call that saves a regime does: it stamps the snapshot's date and looks back from
the requested one. -/
theorem buildAndSaveRegime_saved {snapshots : MacroSnapshotStore} (store : MacroRegimeStore)
    (fresh : Fresh) {d e : Date} {snapshot : MacroSnapshotState}
    (hsnapshot : snapshots.getLatestOnOrBefore d = some snapshot)
    (hid : snapshot.snapshotId ≠ "") (hd : dayBefore d = .ok e) :
    ∃ regime, MacroRegimeService.buildAndSaveRegime ⟨snapshots,some store⟩ fresh d =
        .ok (regime,store.saveRegime regime) ∧
      regime.asOfDate = snapshot.asOfDate ∧
      regime.regimeLabel = mapSnapshotToRegimeLabel snapshot ∧
      regime.confidence = snapshotConfidence snapshot ∧
      regime.transition = deriveRegimeTransition regime (priorTo store.regimes d) := by
  obtain ⟨regime,hregime,hdate,hlabel,hconfidence⟩ := regimeOfSnapshot_ok fresh hid
  rw [← getLatestOnOrBefore_dayBefore hd store]
  refine ⟨regime.setTransition (deriveRegimeTransition regime (store.getLatestOnOrBefore e)),?_,
    hdate,hlabel,hconfidence,?_⟩
  · simp only [MacroRegimeService.buildAndSaveRegime,MacroRegimeService.buildRegime,hsnapshot,
      hregime,hd]
    rfl
  · exact deriveRegimeTransition_congr rfl rfl _

end MacroInvest.Macro
