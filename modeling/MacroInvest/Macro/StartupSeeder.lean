import MacroInvest.Features.CivilDate
import MacroInvest.Macro.History
import MacroInvest.Macro.SnapshotService

/-! # The startup seeder

At startup and every hour the seeder asks the database for three series, saves a snapshot of what
it got and has a regime built and saved, which it stamps with where the data came from. The
product API reads the regimes back from the same stores.
-/
namespace MacroInvest.Macro
open Features DatedRows

/-- `_SERIES_TO_INDICATOR` -/
def seriesToIndicator : List (String × MacroIndicatorType) :=
  [("CPI",.inflation),("UNRATE",.unemployment),("T10Y",.yield10y)]

abbrev IndicatorValues := Dict MacroIndicatorType ℚ

/-- `_fetch_real_values_sync`, from the rows of its query; `none` stands for a connection or a
query that fails. -/
def fetchRealValues (rows : Option (List (String × Option ℚ))) : IndicatorValues :=
  (rows.getD []).foldl (fun result row =>
    match seriesToIndicator.lookup row.1, row.2 with
    | some indicator, some value => result.set indicator value
    | _, _ => result) .empty

/-- What one call of the seeder is given: its date, what the database answers, and the ids and
clock readings it generates. -/
structure SeedCall where
  asOfDate : Date
  rows : Option (List (String × Option ℚ))
  forceRefresh : Bool
  observationsId : RequiredText
  fetchedAt : ℤ
  snapshotId : RequiredText
  snapshotTimestamp : ℤ
  fresh : Fresh

namespace SeedCall

def values (call : SeedCall) : IndicatorValues := fetchRealValues call.rows

def usedRealData (call : SeedCall) : Bool := !call.values.entries.isEmpty

end SeedCall

theorem no_lag : (0 : ℚ) ≤ 0 := le_refl 0

def seedFreshness : FreshnessMetadata := freshnessOf 0 no_lag

theorem dayStart_le_of_begun {call : SeedCall} (h : dayStart call.asOfDate ≤ call.fetchedAt) (t : ℤ)
    (ht : (utcMidnight call.asOfDate).instant = some t) : t ≤ call.fetchedAt := by
  rw [instant_utcMidnight] at ht
  cases ht
  exact h

def observationTooEarly : ServiceError :=
  .validationError "" "Value error, observation_date cannot be later than fetched_at"

/-- The observation of one value, dated midnight in UTC; refused before that. -/
def syntheticObservation (call : SeedCall) (indicator : MacroIndicatorType) (value : ℚ) :
    Except ServiceError NormalizedMacroObservation :=
  if h : dayStart call.asOfDate ≤ call.fetchedAt then .ok
    { snapshotId := call.observationsId
      indicatorId := indicator
      observationDate := utcMidnight call.asOfDate
      fetchedAt := call.fetchedAt
      source := .fred
      value := some value
      releaseDate := utcMidnight call.asOfDate
      unit := "index"
      frequency := .monthly
      sourceSeriesId := some ("SYNTHETIC_" ++ indicator.value.toUpper)
      region := "US"
      freshness := seedFreshness
      revisionStatus := .initial
      revisionNumber := 0
      metadata := [("seeded","true")]
      observedBefore := dayStart_le_of_begun h
      releasedBefore := dayStart_le_of_begun h }
  else .error observationTooEarly

def buildSyntheticObservations (call : SeedCall) :
    Except ServiceError (List NormalizedMacroObservation) :=
  call.values.entries.mapM (fun p => syntheticObservation call p.1 p.2)

/-- `build_and_save_snapshot`; the error is the exception's text. -/
def buildAndSaveSnapshot (snapshots : List SnapshotRecord) (snapshotId : String) (now : ℤ)
    (observations : List NormalizedMacroObservation) (asOfDate : Date) :
    Except String (SnapshotRecord × List SnapshotRecord) :=
  match buildSnapshot snapshotId now observations asOfDate, asOfDate.minusOneDay with
  | .error e, _ => .error e.message
  | .ok _, none => .error "date value out of range"
  | .ok built, some yesterday =>
    let previous := latestOnOrBefore (·.asOfDate) snapshots yesterday
    let comparison := compareSnapshotStates built previous
    let snapshot := {built with
      comparison := comparison
      keyIndicatorChanges := comparison.changedIndicators}
    .ok (snapshot,snapshots ++ [snapshot])

inductive SeedError where
  /-- `Snapshot build failed: {exc}` -/
  | snapshotBuild (exc : String)
  /-- `Regime build failed: {exc}` -/
  | regimeBuild (exc : ServiceError)

structure SeedStatus where
  success : Bool
  skipped : Bool := false
  regimeId : Option String := none
  error : Option SeedError := none

/-- The metadata that a regime just built, which has none, is updated with. -/
def seedMetadata (usedRealData : Bool) : List (String × String) :=
  if usedRealData then
    [("seeded","false"),("source","real_data_seed"),("seed_version","1")]
  else [("seeded","true"),("source","no_data_available"),("seed_version","1")]

def stampSeed (snapshot : MacroSnapshotState) (usedRealData : Bool) (regime : MacroRegime) :
    MacroRegime :=
  {regime with
    metadata := seedMetadata usedRealData
    warnings := deriveRegimeWarnings snapshot regime.regimeLabel regime.confidence
      regime.missingInputs !usedRealData}

structure SeededStores where
  snapshots : List SnapshotRecord := []
  regimes : MacroRegimeStore := {}

namespace SeededStores

def service (stores : SeededStores) : MacroRegimeService :=
  ⟨⟨stores.snapshots.map (·.toMacroSnapshotState)⟩,some stores.regimes⟩

/-- `seed_regime_from_synthetic_observations`. The regime is stamped where the store keeps it; an
observation that cannot be built raises out of the call. -/
def seed (stores : SeededStores) (call : SeedCall) :
    SeededStores × Except ServiceError SeedStatus :=
  let existing := if call.forceRefresh then none
    else stores.regimes.getLatestOnOrBefore call.asOfDate
  match existing with
  | some regime => (stores,.ok {success := true, skipped := true, regimeId := some regime.regimeId})
  | none =>
    match buildSyntheticObservations call with
    | .error e => (stores,.error e)
    | .ok observations =>
      match buildAndSaveSnapshot stores.snapshots call.snapshotId.val call.snapshotTimestamp
          observations call.asOfDate with
      | .error e => (stores,.ok {success := false, error := some (.snapshotBuild e)})
      | .ok (snapshot,snapshots) =>
        let saved := {stores with snapshots := snapshots}
        match saved.service.buildAndSaveRegime call.fresh call.asOfDate with
        | .error e => (saved,.ok {success := false, error := some (.regimeBuild e)})
        | .ok (regime,_) =>
          let stamped := stampSeed snapshot.toMacroSnapshotState call.usedRealData regime
          ({saved with regimes := stores.regimes.saveRegime stamped},
            .ok {success := true, regimeId := some stamped.regimeId})

end SeededStores

section Route

structure RegimeLatestResponse where
  asOfDate : Date
  regimeId : String
  regimeTimestamp : ℤ
  regimeLabel : String
  regimeFamily : String
  confidence : String
  freshnessStatus : String
  degradedStatus : String
  missingInputs : List String
  supportingSnapshotId : String
  supportingStates : List (String × String)
  transitionFromPrior : Option String
  transitionType : String
  changed : Bool
  rationaleSummary : String
  warnings : List String
  status : String
  isSeeded : Bool
  dataSource : String

def computeRegimeStatus (regime : MacroRegime) : String :=
  if regime.metadata.lookup "seeded" = some "true" then "bootstrap"
  else if regime.freshnessStatus ∈ [.stale,.unknown] then "stale"
  else if regime.degradedStatus ∈ [.partialData,.missing,.sourceUnavailable] ∨
      regime.confidence = .low ∨ regime.regimeLabel ∈ [.mixed,.unclear] then "degraded"
  else "success"

def toLatestResponse (regime : MacroRegime) : RegimeLatestResponse where
  asOfDate := regime.asOfDate
  regimeId := regime.regimeId
  regimeTimestamp := regime.regimeTimestamp
  regimeLabel := regime.regimeLabel.value
  regimeFamily := regime.regimeFamily.value
  confidence := regime.confidence.value
  freshnessStatus := regime.freshnessStatus.value
  degradedStatus := regime.degradedStatus.value
  missingInputs := regime.missingInputs
  supportingSnapshotId := regime.supportingSnapshotId
  supportingStates := regime.supportingStates
  transitionFromPrior := regime.transition.transitionFromPrior
  transitionType := regime.transition.transitionType.value
  changed := regime.transition.changed
  rationaleSummary := regime.rationaleSummary
  warnings := regime.warnings
  status := computeRegimeStatus regime
  isSeeded := regime.metadata.lookup "seeded" = some "true"
  dataSource := (regime.metadata.lookup "source").getD ""

structure HttpError where
  statusCode : ℕ
  detail : String
  deriving DecidableEq

/-- `GET /api/regimes/latest` -/
def getLatestRegime (service : MacroRegimeService) (asOfDate : Date) :
    Except HttpError RegimeLatestResponse :=
  match service.regimeRepository with
  | none => .error ⟨502,"Regime repository is not configured"⟩
  | some regimes =>
    match regimes.getLatestOnOrBefore asOfDate with
    | none => .error ⟨404,"No persisted regime available"⟩
    | some regime => .ok (toLatestResponse regime)

end Route

end MacroInvest.Macro
