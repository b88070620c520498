import MacroInvest.Agent.Schemas
import MacroInvest.Features.Models
import MacroInvest.Library.Dict

/-! # Comparing a snapshot with prior values

Every feature of a snapshot is compared with the first prior value of its indicator. A snapshot
may measure one indicator several times, and then all of these features are compared with the
same value.
-/
namespace MacroInvest.Agent
open Features

inductive ChangeDirection where
  | increased
  | decreased
  | unchanged
  | noPrior
  deriving DecidableEq

structure FeatureDelta where
  indicatorType : String
  currentValue : ℚ
  priorValue : Option ℚ
  delta : Option ℚ
  direction : ChangeDirection
  deriving DecidableEq

structure SnapshotComparison where
  country : String
  priorSnapshotLabel : String
  currentSnapshotTimestamp : Option DateTime
  deltas : List FeatureDelta
  changedCount : ℕ
  unchangedCount : ℕ
  noPriorCount : ℕ

def defaultUnchangedThreshold : ℚ := 1e-9

/-- The prior values by indicator, the first of each. -/
def priorLookup (priorFeatures : List PriorFeatureInput) : Dict String ℚ :=
  priorFeatures.foldl (fun lookup p =>
    if (lookup.get? p.indicatorType).isSome then lookup
    else lookup.set p.indicatorType p.value) Dict.empty

/-- What the loop over the features has counted. -/
structure Tally where
  deltas : List FeatureDelta := []
  changed : ℕ := 0
  unchanged : ℕ := 0
  noPrior : ℕ := 0

def directionOf (unchangedThreshold deltaVal : ℚ) : ChangeDirection :=
  if |deltaVal| ≤ unchangedThreshold then .unchanged
  else if 0 < deltaVal then .increased
  else .decreased

def Tally.add (lookup : Dict String ℚ) (unchangedThreshold : ℚ) (t : Tally)
    (feature : MacroFeature) : Tally :=
  let indKey := feature.indicatorType.value
  match lookup.get? indKey with
  | none =>
    { t with
      deltas := t.deltas ++ [⟨indKey,feature.value,none,none,.noPrior⟩]
      noPrior := t.noPrior + 1 }
  | some priorVal =>
    let deltaVal := feature.value - priorVal
    let direction := directionOf unchangedThreshold deltaVal
    { t with
      deltas := t.deltas ++ [⟨indKey,feature.value,some priorVal,some deltaVal,direction⟩]
      changed := if direction = .unchanged then t.changed else t.changed + 1
      unchanged := if direction = .unchanged then t.unchanged + 1 else t.unchanged }

def compareSnapshots (current : MacroSnapshot) (priorFeatures : List PriorFeatureInput)
    (priorSnapshotLabel country : String)
    (unchangedThreshold : ℚ := defaultUnchangedThreshold) : SnapshotComparison :=
  let t := current.features.foldl (Tally.add (priorLookup priorFeatures) unchangedThreshold) {}
  { country := country
    priorSnapshotLabel := priorSnapshotLabel
    currentSnapshotTimestamp := some current.snapshotTime
    deltas := t.deltas
    changedCount := t.changed
    unchangedCount := t.unchanged
    noPriorCount := t.noPrior }

/-- The features of a snapshot as prior values. -/
def ownInputs (snapshot : MacroSnapshot) : List PriorFeatureInput :=
  snapshot.features.map (fun f => ⟨f.indicatorType.value,f.value⟩)

def DistinctIndicators (snapshot : MacroSnapshot) : Prop :=
  (snapshot.features.map MacroFeature.indicatorType).Nodup

def ChangeDirection.isChange : ChangeDirection → Bool
  | .increased | .decreased => true
  | .unchanged | .noPrior => false

/-- The direction of the comparison the other way. -/
def ChangeDirection.exchanged : ChangeDirection → ChangeDirection
  | .increased => .decreased
  | .decreased => .increased
  | .unchanged => .unchanged
  | .noPrior => .noPrior

section Lookup

/-- The dictionary keeps the first value of an indicator. -/
theorem get?_priorLookup (priorFeatures : List PriorFeatureInput) (indicator : String) :
    (priorLookup priorFeatures).get? indicator =
      (priorFeatures.find? (fun p => p.indicatorType = indicator)).map PriorFeatureInput.value := by
  induction priorFeatures using List.reverseRecOn with
  | nil => rfl
  | append_singleton priorFeatures p ih =>
    rw [priorLookup,List.foldl_append,← priorLookup,List.find?_append,Option.map_or,← ih]
    simp only [List.foldl_cons,List.foldl_nil,List.find?_singleton]
    by_cases hp : p.indicatorType = indicator
    · subst hp
      cases hfirst : (priorLookup priorFeatures).get? p.indicatorType with
      | none => simp [Dict.get?_set]
      | some v => simp [hfirst]
    · have hne : ¬indicator = p.indicatorType := Ne.symm hp
      split <;> simp [Dict.get?_set,hp,hne]

end Lookup

/-- The entry of one feature. -/
def featureDelta (lookup : Dict String ℚ) (unchangedThreshold : ℚ) (feature : MacroFeature) :
    FeatureDelta :=
  let deltaVal := (lookup.get? feature.indicatorType.value).map (feature.value - ·)
  { indicatorType := feature.indicatorType.value
    currentValue := feature.value
    priorValue := lookup.get? feature.indicatorType.value
    delta := deltaVal
    direction := (deltaVal.map (directionOf unchangedThreshold)).getD .noPrior }

section Loop
variable {lookup : Dict String ℚ} {unchangedThreshold : ℚ}

theorem directionOf_ne_noPrior (unchangedThreshold deltaVal : ℚ) :
    directionOf unchangedThreshold deltaVal ≠ .noPrior := by
  unfold directionOf
  split_ifs <;> nofun

/-- Each count is the number of entries of its directions. -/
structure Counted (t : Tally) : Prop where
  changed : t.changed = t.deltas.countP (fun d => d.direction.isChange)
  unchanged : t.unchanged = t.deltas.countP (fun d => d.direction = .unchanged)
  noPrior : t.noPrior = t.deltas.countP (fun d => d.direction = .noPrior)

theorem add_deltas (t : Tally) (feature : MacroFeature) :
    (t.add lookup unchangedThreshold feature).deltas =
      t.deltas ++ [featureDelta lookup unchangedThreshold feature] := by
  cases hprior : lookup.get? feature.indicatorType.value with
  | none => simp [Tally.add,featureDelta,hprior]
  | some priorVal => simp [Tally.add,featureDelta,hprior]

/-- An entry is counted under its direction. -/
theorem Counted.add {t : Tally} (h : Counted t) (feature : MacroFeature) :
    Counted (t.add lookup unchangedThreshold feature) := by
  obtain ⟨hchanged,hunchanged,hnoPrior⟩ := h
  cases hprior : lookup.get? feature.indicatorType.value with
  | none =>
    constructor <;>
      simp [Tally.add,hprior,List.countP_append,ChangeDirection.isChange,hchanged,hunchanged,hnoPrior]
  | some priorVal =>
    have hdirection := directionOf_ne_noPrior unchangedThreshold (feature.value - priorVal)
    cases hd : directionOf unchangedThreshold (feature.value - priorVal) with
    | noPrior => exact absurd hd hdirection
    | increased | decreased | unchanged =>
      constructor <;>
        simp [Tally.add,hprior,hd,List.countP_append,ChangeDirection.isChange,hchanged,hunchanged,
          hnoPrior]

theorem foldl_add_deltas (features : List MacroFeature) (t : Tally) :
    (features.foldl (Tally.add lookup unchangedThreshold) t).deltas =
      t.deltas ++ features.map (featureDelta lookup unchangedThreshold) := by
  induction features generalizing t with
  | nil => simp
  | cons feature features ih =>
    rw [List.foldl_cons,ih,add_deltas,List.map_cons,List.append_assoc,List.singleton_append]

theorem foldl_add_counted (features : List MacroFeature) {t : Tally} (h : Counted t) :
    Counted (features.foldl (Tally.add lookup unchangedThreshold) t) := by
  induction features generalizing t with
  | nil => exact h
  | cons feature features ih => exact ih (h.add feature)

/-- Every entry has one direction. -/
theorem Counted.sum {t : Tally} (h : Counted t) :
    t.changed + t.unchanged + t.noPrior = t.deltas.length := by
  rw [h.changed,h.unchanged,h.noPrior]
  induction t.deltas with
  | nil => rfl
  | cons d deltas ih =>
    rw [List.countP_cons,List.countP_cons,List.countP_cons,List.length_cons,← ih]
    cases hd : d.direction <;> simp [ChangeDirection.isChange] <;> omega

theorem deltas_compareSnapshots (current : MacroSnapshot) (prior : List PriorFeatureInput)
    (label country : String) (threshold : ℚ) :
    (compareSnapshots current prior label country threshold).deltas =
      current.features.map (featureDelta (priorLookup prior) threshold) := by
  rw [compareSnapshots,foldl_add_deltas,List.nil_append]

end Loop

/-- The first feature of an indicator. -/
def firstOf (snapshot : MacroSnapshot) (indicator : MacroIndicatorType) : Option MacroFeature :=
  snapshot.features.find? (fun f => f.indicatorType = indicator)

section Snapshots
variable {snapshot : MacroSnapshot}

theorem get?_ownInputs (snapshot : MacroSnapshot) (indicator : MacroIndicatorType) :
    (priorLookup (ownInputs snapshot)).get? indicator.value =
      (firstOf snapshot indicator).map MacroFeature.value := by
  have hsame : (fun p : PriorFeatureInput => decide (p.indicatorType = indicator.value)) ∘
      (fun f : MacroFeature => ⟨f.indicatorType.value,f.value⟩) =
        fun f => decide (f.indicatorType = indicator) := by
    funext f
    simp [MacroIndicatorType.value_injective.eq_iff]
  rw [get?_priorLookup,ownInputs,List.find?_map,hsame,Option.map_map,firstOf]
  rfl

theorem firstOf_isSome {f : MacroFeature} (hf : f ∈ snapshot.features) :
    ∃ g, firstOf snapshot f.indicatorType = some g := by
  rw [← Option.isSome_iff_exists,firstOf,List.find?_isSome]
  exact ⟨f,hf,by simp⟩

/-- Where no indicator comes twice, a feature is the first of its own. -/
theorem firstOf_of_distinct (hdistinct : DistinctIndicators snapshot) {f : MacroFeature}
    (hf : f ∈ snapshot.features) : firstOf snapshot f.indicatorType = some f := by
  obtain ⟨g,hg⟩ := firstOf_isSome hf
  have hsame : g.indicatorType = f.indicatorType := by simpa using List.find?_some hg
  have hmem := List.mem_of_find?_eq_some hg
  rw [hg,List.inj_on_of_nodup_map hdistinct hmem hf hsame]

/-- The entry of a feature whose indicator the other snapshot measures once. -/
theorem featureDelta_shared (hdistinct : DistinctIndicators snapshot) {f g : MacroFeature}
    (hg : g ∈ snapshot.features) (hsame : f.indicatorType = g.indicatorType) (threshold : ℚ) :
    featureDelta (priorLookup (ownInputs snapshot)) threshold f =
      { indicatorType := f.indicatorType.value
        currentValue := f.value
        priorValue := some g.value
        delta := some (f.value - g.value)
        direction := directionOf threshold (f.value - g.value) } := by
  have hprior : (priorLookup (ownInputs snapshot)).get? f.indicatorType.value = some g.value := by
    rw [get?_ownInputs,hsame,firstOf_of_distinct hdistinct hg,Option.map_some]
  simp [featureDelta,hprior]

theorem directionOf_neg {threshold : ℚ} (hthreshold : 0 ≤ threshold) (x : ℚ) :
    directionOf threshold (-x) = (directionOf threshold x).exchanged := by
  unfold directionOf
  rw [abs_neg]
  split_ifs with hsmall hneg hpos hpos
  · rfl
  · linarith
  · rfl
  · rfl
  · have hzero : x = 0 := by linarith
    rw [hzero,abs_zero] at hsmall
    exact absurd hthreshold hsmall

theorem isChange_directionOf (threshold x : ℚ) :
    (directionOf threshold x).isChange = true ↔ threshold < |x| := by
  rw [← not_le]
  unfold directionOf
  split_ifs with hsmall hpos <;> simp [ChangeDirection.isChange,hsmall]

end Snapshots

/-- The comparison of a snapshot with prior values, with itself and with another snapshot. -/
structure ComparisonLaw (current : MacroSnapshot) (threshold : ℚ) : Prop where
  entries : ∀ prior label country,
    (compareSnapshots current prior label country threshold).deltas.map
      (fun d => (d.indicatorType,d.currentValue)) =
        current.features.map (fun f => (f.indicatorType.value,f.value))
  counts : ∀ prior label country, let c := compareSnapshots current prior label country threshold
    c.changedCount + c.unchangedCount + c.noPriorCount = current.features.length
  itself : ∀ label country,
    (∀ d ∈ (compareSnapshots current (ownInputs current) label country threshold).deltas,
      d.direction.isChange = false) ↔
    ∀ f ∈ current.features, ∀ g, firstOf current f.indicatorType = some g →
      |f.value - g.value| ≤ threshold
  itselfDistinct : 0 ≤ threshold → DistinctIndicators current → ∀ label country,
    ∀ d ∈ (compareSnapshots current (ownInputs current) label country threshold).deltas,
      d.direction = .unchanged
  exchanged : 0 ≤ threshold → DistinctIndicators current → ∀ other, DistinctIndicators other →
    ∀ label country,
    ∀ d ∈ (compareSnapshots current (ownInputs other) label country threshold).deltas,
    ∀ d' ∈ (compareSnapshots other (ownInputs current) label country threshold).deltas,
      d.indicatorType = d'.indicatorType →
        (∃ x, d.delta = some x ∧ d'.delta = some (-x)) ∧ d'.direction = d.direction.exchanged

section Laws
variable {current other : MacroSnapshot} {threshold : ℚ}

/-- A feature compared with its own snapshot changes by its distance from the first feature of
its indicator. -/
theorem isChange_own {f g : MacroFeature} (hg : firstOf current f.indicatorType = some g) :
    (featureDelta (priorLookup (ownInputs current)) threshold f).direction.isChange = true ↔
      threshold < |f.value - g.value| := by
  have hprior := get?_ownInputs current f.indicatorType
  rw [hg,Option.map_some] at hprior
  simp only [featureDelta,hprior,Option.map_some,Option.getD_some]
  exact isChange_directionOf threshold _

theorem itself_iff (current : MacroSnapshot) (threshold : ℚ) (label country : String) :
    (∀ d ∈ (compareSnapshots current (ownInputs current) label country threshold).deltas,
      d.direction.isChange = false) ↔
    ∀ f ∈ current.features, ∀ g, firstOf current f.indicatorType = some g →
      |f.value - g.value| ≤ threshold := by
  rw [deltas_compareSnapshots,List.forall_mem_map]
  constructor
  · intro h f hf g hg
    have hsame := h f hf
    rw [← Bool.not_eq_true,isChange_own hg] at hsame
    exact not_lt.mp hsame
  · intro h f hf
    obtain ⟨g,hg⟩ := firstOf_isSome hf
    rw [← Bool.not_eq_true,isChange_own hg]
    exact not_lt.mpr (h f hf g hg)

theorem itself_unchanged (hthreshold : 0 ≤ threshold) (hdistinct : DistinctIndicators current)
    (label country : String) :
    ∀ d ∈ (compareSnapshots current (ownInputs current) label country threshold).deltas,
      d.direction = .unchanged := by
  rw [deltas_compareSnapshots,List.forall_mem_map]
  intro f hf
  rw [featureDelta_shared hdistinct hf rfl]
  simp [directionOf,hthreshold]

theorem exchanged_delta (hthreshold : 0 ≤ threshold) (hcurrent : DistinctIndicators current)
    (hother : DistinctIndicators other) (label country : String) :
    ∀ d ∈ (compareSnapshots current (ownInputs other) label country threshold).deltas,
    ∀ d' ∈ (compareSnapshots other (ownInputs current) label country threshold).deltas,
      d.indicatorType = d'.indicatorType →
        (∃ x, d.delta = some x ∧ d'.delta = some (-x)) ∧ d'.direction = d.direction.exchanged := by
  simp only [deltas_compareSnapshots,List.forall_mem_map]
  intro f hf g hg hsame
  have hindicator : f.indicatorType = g.indicatorType :=
    MacroIndicatorType.value_injective hsame
  have hneg : g.value - f.value = -(f.value - g.value) := by ring
  rw [featureDelta_shared hother hg hindicator,featureDelta_shared hcurrent hf hindicator.symm]
  refine ⟨⟨f.value - g.value,rfl,congrArg some hneg⟩,?_⟩
  simp only [hneg]
  exact directionOf_neg hthreshold _

end Laws

/-- Every snapshot keeps the laws of comparison, whatever the threshold is. -/
theorem comparison_law (current : MacroSnapshot) (threshold : ℚ) :
    ComparisonLaw current threshold := by
  refine ⟨?_,?_,itself_iff current threshold,?_,?_⟩
  · intro prior label country
    rw [deltas_compareSnapshots,List.map_map]
    rfl
  · intro prior label country
    have hcounted : Counted (current.features.foldl (Tally.add (priorLookup prior) threshold) {}) :=
      foldl_add_counted _ ⟨rfl,rfl,rfl⟩
    have hsum := hcounted.sum
    rw [foldl_add_deltas,List.nil_append,List.length_map] at hsum
    exact hsum
  · intro hthreshold hdistinct label country
    exact itself_unchanged hthreshold hdistinct label country
  · intro hthreshold hdistinct other hother label country
    exact exchanged_delta hthreshold hdistinct hother label country

def quarterEnd : DateTime where
  civil := ⟨2026,3,31,0,0,0,0⟩
  tzinfo := none
  valid := by decide

/-- One indicator from two sources. -/
def twoSources : MacroSnapshot where
  features := [⟨.gdp,.fred,3,quarterEnd,.quarterly,some "US",none,[],by norm_num⟩,
    ⟨.gdp,.imf,5,quarterEnd,.quarterly,some "US",none,[],by norm_num⟩]
  snapshotTime := quarterEnd
  nonEmpty := by simp

theorem twoSources_changed : ∃ d ∈
    (compareSnapshots twoSources (ownInputs twoSources) "now" "US").deltas,
      d.direction = .increased ∧ d.delta = some 2 := by
  decide +kernel

end MacroInvest.Agent
