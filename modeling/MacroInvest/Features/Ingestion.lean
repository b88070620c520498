import MacroInvest.Features.Models
import MacroInvest.Library.Fallible
import MacroInvest.Library.FloatRounding
import MacroInvest.Macro.Snapshot

/-! # Ingesting macro features

An ingestion fetches features, builds the snapshot and its records and then saves them one
after the other. A save that was made stays when a later step raises, so the order of the steps
decides whether the store is changed by a failed call.
-/
namespace MacroInvest.Features
open Fallible Rounding

inductive SourceError where
  | provider (errorCode message : String)
  | other (message : String)
  deriving DecidableEq, Repr

inductive IngestError where
  | source (exc : SourceError)
  | noFeatures (country sourceId : String) (requested : List String)
  | validationError (field message : String)
  | typeError (message : String)
  deriving DecidableEq, Repr

structure MacroDataSource where
  sourceId : String
  fetchRaw : String → List String → Except SourceError (List MacroFeature)

def priorityIndicators : List MacroIndicatorType :=
  [.inflation,.unemployment,.yield10y,.pmi,.retailSales]

def defaultIndicators : List String := priorityIndicators.map MacroIndicatorType.value

/-- A text that the schema refuses when it is empty. -/
structure RequiredText where
  val : String
  given : val ≠ ""

def requireText (field text : String) : Except IngestError RequiredText :=
  if h : text = "" then .error (.validationError field "String should have at least 1 character")
  else .ok ⟨text,h⟩

structure FeatureSnapshot where
  snapshotId : String
  country : RequiredText
  sourceId : RequiredText
  ingestedAt : ℤ
  features : List MacroFeature
  featuresCount : ℕ
  nonEmpty : features ≠ []
  counted : featuresCount = features.length

structure RawFeatureRecord where
  snapshotId : RequiredText
  indicatorType : MacroIndicatorType
  sourceId : RequiredText
  fetchedAt : ℤ
  rawPayload : List (String × String)

inductive RevisionStatus where
  | initial
  | revised
  | final
  | unknown
  deriving DecidableEq, Repr

structure FreshnessMetadata where
  expectedMaxLagHours : ℕ
  observedLagHours : ℚ
  status : Macro.FreshnessStatus
  isLate : Bool
  isStale : Bool
  expectsLag : 1 ≤ expectedMaxLagHours
  observed : 0 ≤ observedLagHours
  lateFlag : status = .late → isLate = true
  staleFlag : status = .stale → isStale = true

structure NormalizedMacroObservation where
  snapshotId : RequiredText
  indicatorId : MacroIndicatorType
  observationDate : DateTime
  fetchedAt : ℤ
  source : MacroSourceType
  value : Option ℚ
  releaseDate : DateTime
  unit : String
  frequency : DataFrequency
  sourceSeriesId : Option String
  region : String
  freshness : FreshnessMetadata
  revisionStatus : RevisionStatus
  revisionNumber : ℕ
  metadata : List (String × String)
  observedBefore : ∀ t, observationDate.instant = some t → t ≤ fetchedAt
  releasedBefore : ∀ t, releaseDate.instant = some t → t ≤ fetchedAt

structure IngestionRunRecord where
  runId : String
  snapshotId : RequiredText
  sourceId : RequiredText
  country : RequiredText
  startedAt : ℤ
  finishedAt : ℤ
  requestedIndicators : List String
  fetchedCount : ℕ
  normalizedCount : ℕ
  failedCount : ℕ
  success : Bool
  errorSummary : Option String

/-- The generated ids and clock readings of one call. -/
structure IngestClock where
  snapshotId : String
  runId : String
  startedAt : ℤ
  ingestedAt : ℤ
  rawAt : ℕ → ℤ
  normalizedAt : ℕ → ℤ
  finishedAt : ℤ

/-- `max((fetched_at - timestamp).total_seconds() / 3600.0, 0.0)`. -/
def lagHours (micros : ℤ) : ℚ :=
  max (roundFloat 2 53 (roundFloat 2 53 ((micros : ℚ) / 1000000) / 3600)) 0

def freshnessOf (lag : ℚ) (h : 0 ≤ lag) : FreshnessMetadata where
  expectedMaxLagHours := 24 * 45
  observedLagHours := lag
  status := if 24 * 45 * 2 < lag then .stale else if 24 * 45 < lag then .late else .fresh
  isLate := 24 * 45 < lag
  isStale := 24 * 45 * 2 < lag
  expectsLag := by decide
  observed := h
  lateFlag := by split_ifs <;> simp_all
  staleFlag := by split_ifs <;> simp_all

def buildNormalizedObservation (snapshotId : String) (feature : MacroFeature) (now : ℤ) :
    Except IngestError NormalizedMacroObservation :=
  match hinstant : feature.timestamp.instant with
  | none => .error (.typeError "can't subtract offset-naive and offset-aware datetimes")
  | some t => do
    let named ← requireText "snapshot_id" snapshotId
    if h : t ≤ now then
      return { snapshotId := named
               indicatorId := feature.indicatorType
               observationDate := feature.timestamp
               fetchedAt := now
               source := feature.source
               value := some feature.value
               releaseDate := feature.timestamp
               unit := (feature.metadata.lookup "unit").getD "index"
               frequency := feature.frequency
               sourceSeriesId := feature.metadata.lookup "series_id"
               region := if feature.country.getD "" = "" then "US" else feature.country.getD ""
               freshness := freshnessOf (lagHours (now - t)) (le_max_right _ _)
               revisionStatus := .unknown
               revisionNumber := 0
               metadata := feature.metadata
               observedBefore := by rw [hinstant]; rintro _ ⟨⟩; exact h
               releasedBefore := by rw [hinstant]; rintro _ ⟨⟩; exact h }
    else throw (.validationError "" "Value error, observation_date cannot be later than fetched_at")

def rawFeatureRecord (snapshot : FeatureSnapshot) (sourceId : String) (feature : MacroFeature)
    (now : ℤ) : Except IngestError RawFeatureRecord := do
  let snapshotId ← requireText "snapshot_id" snapshot.snapshotId
  let sourceId ← requireText "source_id" sourceId
  return ⟨snapshotId,feature.indicatorType,sourceId,now,feature.metadata⟩

def featureSnapshot (clock : IngestClock) (country sourceId : String)
    (features : List MacroFeature) (h : features ≠ []) : Except IngestError FeatureSnapshot := do
  let country ← requireText "country" country
  let sourceId ← requireText "source_id" sourceId
  return ⟨clock.snapshotId,country,sourceId,clock.ingestedAt,features,features.length,h,rfl⟩

def ingestionRunRecord (clock : IngestClock) (snapshot : FeatureSnapshot)
    (sourceId country : String) (requested : List String) (fetched normalized : ℕ) :
    Except IngestError IngestionRunRecord := do
  let snapshotId ← requireText "snapshot_id" snapshot.snapshotId
  let sourceId ← requireText "source_id" sourceId
  let country ← requireText "country" country
  return { runId := clock.runId
           snapshotId := snapshotId
           sourceId := sourceId
           country := country
           startedAt := clock.startedAt
           finishedAt := clock.finishedAt
           requestedIndicators := requested
           fetchedCount := fetched
           normalizedCount := normalized
           failedCount := 0
           success := true
           errorSummary := none }

section Store

/-- `d.setdefault(key, []).extend(records)`. -/
def extendAt {α : Type} (key : String) (records : List α) :
    List (String × List α) → List (String × List α)
  | [] => [(key,records)]
  | p :: dict =>
    if p.1 = key then (p.1,p.2 ++ records) :: dict else p :: extendAt key records dict

/-- `d.get(key, [])`. -/
def recordsAt {α : Type} (key : String) : List (String × List α) → List α
  | [] => []
  | p :: dict => if p.1 = key then p.2 else recordsAt key dict

theorem recordsAt_extendAt {α : Type} (key other : String) (records : List α)
    (dict : List (String × List α)) : recordsAt other (extendAt key records dict) =
      recordsAt other dict ++ if key = other then records else [] := by
  induction dict with
  | nil => simp [extendAt,recordsAt]
  | cons p dict ih =>
    by_cases hkey : p.1 = key
    · subst hkey
      by_cases h : p.1 = other
      · simp [extendAt,recordsAt,h]
      · simp [extendAt,recordsAt,h]
    · by_cases h : p.1 = other
      · have hne : key ≠ other := fun heq => hkey (h.trans heq.symm)
        rw [extendAt,if_neg hkey]
        simp [recordsAt,h,hne]
      · simpa [extendAt,recordsAt,hkey,h] using ih

structure InMemoryFeatureStore where
  snapshots : List FeatureSnapshot := []
  rawRecords : List (String × List RawFeatureRecord) := []
  normalizedRecords : List (String × List NormalizedMacroObservation) := []
  ingestionRuns : List IngestionRunRecord := []

namespace InMemoryFeatureStore
variable (store : InMemoryFeatureStore)

def saveSnapshot (snapshot : FeatureSnapshot) : InMemoryFeatureStore :=
  { store with snapshots := store.snapshots ++ [snapshot] }

def saveRawRecords (snapshotId : String) (records : List RawFeatureRecord) :
    InMemoryFeatureStore :=
  { store with rawRecords := extendAt snapshotId records store.rawRecords }

def saveNormalizedRecords (snapshotId : String) (records : List NormalizedMacroObservation) :
    InMemoryFeatureStore :=
  { store with normalizedRecords := extendAt snapshotId records store.normalizedRecords }

def saveIngestionRun (run : IngestionRunRecord) : InMemoryFeatureStore :=
  { store with ingestionRuns := store.ingestionRuns ++ [run] }

end InMemoryFeatureStore

end Store

/-- The snapshot and its records, built before anything is saved. -/
structure Prepared where
  snapshot : FeatureSnapshot
  raw : List RawFeatureRecord
  normalized : List NormalizedMacroObservation

def sourceResult {α : Type} : Except SourceError α → Except IngestError α
  | .error exc => .error (.source exc)
  | .ok a => .ok a

def prepare (source : MacroDataSource) (clock : IngestClock) (country : String)
    (requested : List String) : Except IngestError Prepared := do
  let rawFeatures ← sourceResult (source.fetchRaw country requested)
  if h : rawFeatures = [] then throw (.noFeatures country source.sourceId requested)
  else
    let snapshot ← featureSnapshot clock country source.sourceId rawFeatures h
    let raw ← rawFeatures.zipIdx.mapM
      (fun p => rawFeatureRecord snapshot source.sourceId p.1 (clock.rawAt p.2))
    let normalized ← rawFeatures.zipIdx.mapM
      (fun p => buildNormalizedObservation snapshot.snapshotId p.1 (clock.normalizedAt p.2))
    return ⟨snapshot,raw,normalized⟩

/-- The saves; what was saved stays when the run record raises. -/
def persist (source : MacroDataSource) (clock : IngestClock) (country : String)
    (requested : List String) (p : Prepared) (store : InMemoryFeatureStore) :
    InMemoryFeatureStore × Except IngestError FeatureSnapshot :=
  let store := store.saveSnapshot p.snapshot
  let store := store.saveRawRecords p.snapshot.snapshotId p.raw
  let store := store.saveNormalizedRecords p.snapshot.snapshotId p.normalized
  match ingestionRunRecord clock p.snapshot source.sourceId country requested
      p.snapshot.features.length p.normalized.length with
  | .error exc => (store,.error exc)
  | .ok run => (store.saveIngestionRun run,.ok p.snapshot)

def ingest (source : MacroDataSource) (clock : IngestClock) (country : String)
    (indicators : Option (List String)) (store : InMemoryFeatureStore) :
    InMemoryFeatureStore × Except IngestError FeatureSnapshot :=
  let requested := indicators.getD defaultIndicators
  match prepare source clock country requested with
  | .error exc => (store,.error exc)
  | .ok p => persist source clock country requested p store

/-- One snapshot of the fetched features, its records under its id and its run record. -/
structure AddsSnapshot (fetched : Except SourceError (List MacroFeature))
    (before after : InMemoryFeatureStore) (snapshot : FeatureSnapshot) : Prop where
  fetched : fetched = .ok snapshot.features
  snapshots : after.snapshots = before.snapshots ++ [snapshot]
  records : ∃ raw normalized, raw.length = snapshot.features.length ∧
    normalized.length = raw.length ∧
    (∀ id, recordsAt id after.rawRecords =
      recordsAt id before.rawRecords ++ if snapshot.snapshotId = id then raw else []) ∧
    ∀ id, recordsAt id after.normalizedRecords =
      recordsAt id before.normalizedRecords ++
        if snapshot.snapshotId = id then normalized else []
  run : ∃ run, after.ingestionRuns = before.ingestionRuns ++ [run] ∧
    run.snapshotId.val = snapshot.snapshotId ∧ run.fetchedCount = snapshot.features.length ∧
    run.normalizedCount = snapshot.features.length

section Ingest
variable {source : MacroDataSource} {clock : IngestClock} {country : String}
  {requested : List String}

theorem val_of_requireText {field text : String} {t : RequiredText}
    (h : requireText field text = .ok t) : t.val = text := by
  unfold requireText at h
  split at h
  · cases h
  · cases h
    rfl

theorem sourceResult_ok {α : Type} {x : Except SourceError α} {a : α}
    (h : sourceResult x = .ok a) : x = .ok a := by
  cases x with
  | error exc => cases h
  | ok b =>
    cases h
    rfl

/-- What a preparation has checked, in particular every text of the run record. -/
structure Checked (source : MacroDataSource) (country : String) (requested : List String)
    (p : Prepared) : Prop where
  fetched : source.fetchRaw country requested = .ok p.snapshot.features
  raw : p.raw.length = p.snapshot.features.length
  normalized : p.normalized.length = p.snapshot.features.length
  snapshotId : ∃ t, requireText "snapshot_id" p.snapshot.snapshotId = .ok t
  sourceId : ∃ t, requireText "source_id" source.sourceId = .ok t
  country : ∃ t, requireText "country" country = .ok t

theorem length_of_mapM {α β : Type} {f : α → Except IngestError β} {l : List α} {l' : List β}
    (h : l.mapM f = .ok l') : l'.length = l.length :=
  (forall₂_of_mapM h).length_eq.symm

theorem checked_of_prepare {p : Prepared} (h : prepare source clock country requested = .ok p) :
    Checked source country requested p := by
  obtain ⟨features,hfetch,h⟩ := ok_of_bind h
  split at h
  · cases h
  · rename_i hne
    obtain ⟨snapshot,hsnapshot,h⟩ := ok_of_bind h
    obtain ⟨raw,hraw,h⟩ := ok_of_bind h
    obtain ⟨normalized,hnormalized,h⟩ := ok_of_bind h
    cases h
    obtain ⟨countryText,hcountry,hsnapshot⟩ := ok_of_bind hsnapshot
    obtain ⟨sourceText,hsource,hsnapshot⟩ := ok_of_bind hsnapshot
    cases hsnapshot
    obtain ⟨feature,rest,rfl⟩ := List.exists_cons_of_ne_nil hne
    -- the first raw record has checked the snapshot's id
    obtain ⟨record,-,hrecord⟩ := exists_right (forall₂_of_mapM hraw) List.mem_cons_self
    obtain ⟨named,hnamed,-⟩ := ok_of_bind hrecord
    exact
      { fetched := sourceResult_ok hfetch
        raw := by simpa using length_of_mapM hraw
        normalized := by simpa using length_of_mapM hnormalized
        snapshotId := ⟨named,hnamed⟩
        sourceId := ⟨sourceText,hsource⟩
        country := ⟨countryText,hcountry⟩ }

variable (clock) in
/-- Nothing fails once the saves have begun. -/
theorem ingestionRunRecord_ok {p : Prepared} (h : Checked source country requested p) :
    ∃ run, ingestionRunRecord clock p.snapshot source.sourceId country requested
        p.snapshot.features.length p.normalized.length = .ok run ∧
      run.snapshotId.val = p.snapshot.snapshotId ∧
      run.fetchedCount = p.snapshot.features.length ∧
      run.normalizedCount = p.snapshot.features.length := by
  obtain ⟨snapshotId,hsnapshot⟩ := h.snapshotId
  obtain ⟨sourceId,hsource⟩ := h.sourceId
  obtain ⟨countryText,hcountry⟩ := h.country
  rw [h.normalized]
  simp only [ingestionRunRecord,hsnapshot,hsource,hcountry,ok_bind]
  exact ⟨_,rfl,val_of_requireText hsnapshot,rfl,rfl⟩

variable (clock) in
theorem persist_adds {p : Prepared} (h : Checked source country requested p)
    (store : InMemoryFeatureStore) :
    ∃ after, persist source clock country requested p store = (after,.ok p.snapshot) ∧
      AddsSnapshot (source.fetchRaw country requested) store after p.snapshot := by
  obtain ⟨run,hrun,hid,hfetched,hnormalized⟩ := ingestionRunRecord_ok clock h
  simp only [persist,hrun]
  exact ⟨_,rfl,
    { fetched := h.fetched
      snapshots := rfl
      records := ⟨p.raw,p.normalized,h.raw,h.normalized.trans h.raw.symm,
        fun id => recordsAt_extendAt _ id p.raw store.rawRecords,
        fun id => recordsAt_extendAt _ id p.normalized store.normalizedRecords⟩
      run := ⟨run,rfl,hid,hfetched,hnormalized⟩ }⟩

end Ingest

/-- A call that raises leaves the store as it was; one that returns adds one snapshot of exactly
the fetched features with its records and its run. -/
theorem ingest_all_or_nothing (source : MacroDataSource) (clock : IngestClock) (country : String)
    (indicators : Option (List String)) (before : InMemoryFeatureStore) :
    match ingest source clock country indicators before with
    | (after,.error _) => after = before
    | (after,.ok snapshot) =>
      AddsSnapshot (source.fetchRaw country (indicators.getD defaultIndicators)) before after
        snapshot := by
  cases hprepare : prepare source clock country (indicators.getD defaultIndicators) with
  | error exc =>
    have hrun : ingest source clock country indicators before = (before,.error exc) := by
      simp only [ingest,hprepare]
    rw [hrun]
  | ok p =>
    obtain ⟨after,hpersist,hadds⟩ := persist_adds clock (checked_of_prepare hprepare) before
    have hrun : ingest source clock country indicators before = (after,.ok p.snapshot) := by
      simp only [ingest,hprepare,hpersist]
    rw [hrun]
    exact hadds

end MacroInvest.Features
