import MacroInvest.Features.Models
import MacroInvest.Library.Fallible

/-! # Persisted feature rows

A feature is written as a row of named values and read back field by field. The writer leaves
out the region; a row that cannot be read is skipped.
-/
namespace MacroInvest.Features
open Fallible

/-- A row by its keys; an absent key is `none`. -/
structure FeatureRow where
  indicatorType : Option String
  source : Option String
  value : Option ℚ
  timestamp : Option String
  frequency : Option String
  country : Option (Option String)
  metadata : Option (List (String × String))
  deriving DecidableEq, Repr

inductive RowError where
  | keyError (key : String)
  | valueError
  deriving DecidableEq, Repr

def featureToRow (f : MacroFeature) : FeatureRow where
  indicatorType := some f.indicatorType.value
  source := some f.source.value
  value := some f.value
  timestamp := some f.timestamp.isoformat
  frequency := some f.frequency.value
  country := some f.country
  metadata := some f.metadata

def featuresToJson (features : List MacroFeature) : List FeatureRow := features.map featureToRow

/-- `d[key]`. -/
def getKey {α : Type} (key : String) : Option α → Except RowError α
  | none => .error (.keyError key)
  | some a => .ok a

def orValueError {α : Type} : Option α → Except RowError α
  | none => .error .valueError
  | some a => .ok a

def rowToFeature (d : FeatureRow) : Except RowError MacroFeature := do
  let indicatorText ← getKey "indicator_type" d.indicatorType
  let indicator ←
    orValueError (ofValue MacroIndicatorType.value MacroIndicatorType.all indicatorText)
  let sourceText ← getKey "source" d.source
  let source ← orValueError (ofValue MacroSourceType.value MacroSourceType.all sourceText)
  let value ← getKey "value" d.value
  let timeText ← getKey "timestamp" d.timestamp
  let timestamp ← orValueError (DateTime.fromisoformat timeText)
  let frequencyText ← getKey "frequency" d.frequency
  let frequency ← orValueError (ofValue DataFrequency.value DataFrequency.all frequencyText)
  if h : -10000000000 < value ∧ value < 10000000000 then
    return { indicatorType := indicator
             source := source
             value := value
             timestamp := timestamp
             frequency := frequency
             country := d.country.getD (some "US")
             metadata := d.metadata.getD []
             bounded := h }
  else throw .valueError

/-- Rows that raise `KeyError` or `ValueError` are skipped. -/
def jsonToFeatures (rows : List FeatureRow) : List MacroFeature :=
  rows.filterMap (fun d => (rowToFeature d).toOption)

/-- What a feature becomes: its region is lost and its time is in a fixed offset. -/
def MacroFeature.reread (f : MacroFeature) : MacroFeature :=
  { f with timestamp := f.timestamp.fixed, region := none }

theorem rowToFeature_featureToRow (f : MacroFeature) :
    rowToFeature (featureToRow f) = .ok f.reread := by
  simp only [rowToFeature,featureToRow,getKey,ok_bind,ofValue_indicator,ofValue_source,
    ofValue_frequency,DateTime.fromisoformat_isoformat,orValueError]
  exact dif_pos f.bounded

theorem jsonToFeatures_featuresToJson (features : List MacroFeature) :
    jsonToFeatures (featuresToJson features) = features.map MacroFeature.reread := by
  rw [jsonToFeatures,featuresToJson,List.filterMap_map,← List.filterMap_eq_map]
  refine List.filterMap_congr fun f _ => ?_
  simp [rowToFeature_featureToRow,Except.toOption]

/-- The feature has no region and its time no offset that depends on `fold`. -/
def MacroFeature.Rereadable (f : MacroFeature) : Prop :=
  f.region = none ∧ ∀ tz, f.timestamp.tzinfo = some tz → tz.foldDependent = false

theorem reread_eq_iff (f : MacroFeature) : f.reread.eq f ↔ f.Rereadable := by
  rw [MacroFeature.Rereadable,← DateTime.fixed_eq,and_comm,@eq_comm _ f.region]
  simp only [MacroFeature.eq,MacroFeature.reread,Bool.and_eq_true,decide_eq_true_iff,
    List.isPerm_iff,List.Perm.refl,and_true,true_and]
  exact and_congr_right fun _ => decide_eq_true_iff

def RoundTrips (features : List MacroFeature) : Prop :=
  List.Forall₂ (fun a b => MacroFeature.eq a b) (jsonToFeatures (featuresToJson features)) features

/-- The rows of a list give back an equal list exactly when every feature is rereadable. -/
theorem features_round_trip_law (features : List MacroFeature) :
    RoundTrips features ↔ ∀ f ∈ features, f.Rereadable := by
  rw [RoundTrips,jsonToFeatures_featuresToJson,List.forall₂_map_left_iff,List.forall₂_same]
  exact forall₂_congr fun f _ => reread_eq_iff f

/-- A monthly reading of one US region, at midnight UTC. -/
def regionalUnemployment : MacroFeature where
  indicatorType := .unemployment
  source := .fred
  value := 4
  timestamp := ⟨⟨2024,3,1,0,0,0,0⟩,some (.timezone ⟨0,by decide⟩),by decide +kernel⟩
  frequency := .monthly
  country := some "US"
  region := some "Midwest"
  bounded := by norm_num

example : regionalUnemployment.timestamp.isoformat = "2024-03-01T00:00:00+00:00" := by
  decide +kernel

theorem region_lost : ¬ ∀ features, RoundTrips features := by
  intro h
  have hfeature := h [regionalUnemployment]
  rw [RoundTrips,jsonToFeatures_featuresToJson,List.map_cons,List.forall₂_cons,reread_eq_iff]
    at hfeature
  exact absurd hfeature.1.1 (by decide)

end MacroInvest.Features
