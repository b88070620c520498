import MacroInvest.Library.FirstMax
import MacroInvest.Macro.Snapshot

/-! # Quant scores of a snapshot

Every score lies between zero and one, which the score type carries. The table values and
the means of them are taken in exact arithmetic.
-/
namespace MacroInvest.Macro
open FirstMax

/-- A score with the bounds `ge=0.0, le=1.0` of its field. -/
abbrev UnitScore := Set.Icc (0 : ℚ) 1

def unitScore (x : ℚ) (h : 0 ≤ x ∧ x ≤ 1 := by norm_num) : UnitScore := ⟨x,h⟩

inductive ScoreDimension where
  | growth
  | inflation
  | labor
  | policy
  | financialConditions
  deriving DecidableEq, Repr

inductive ScoreLevel where
  | strong
  | moderate
  | weak
  | unknown
  deriving DecidableEq, Repr

def scoreToLevel : Option UnitScore → ScoreLevel
  | none => .unknown
  | some score =>
    if 0.70 ≤ score.val then .strong
    else if 0.40 ≤ score.val then .moderate
    else .weak

structure DimensionScore where
  dimension : ScoreDimension
  score : Option UnitScore
  level : ScoreLevel
  contributingStates : List String
  deriving DecidableEq

structure QuantScoreBundle where
  growth : DimensionScore
  inflation : DimensionScore
  labor : DimensionScore
  policy : DimensionScore
  financialConditions : DimensionScore
  momentum : UnitScore
  breadth : UnitScore
  changeIntensity : UnitScore
  overallSupport : UnitScore
  deriving DecidableEq

def growthScores : GrowthState → Option UnitScore
  | .accelerating => unitScore 0.90
  | .mixed => unitScore 0.50
  | .slowing => unitScore 0.20
  | .unknown => none

def inflationScores : InflationState → Option UnitScore
  | .cooling => unitScore 0.85
  | .sticky => unitScore 0.50
  | .reaccelerating => unitScore 0.15
  | .unknown => none

def laborScores : LaborState → Option UnitScore
  | .tight => unitScore 0.90
  | .softening => unitScore 0.50
  | .weak => unitScore 0.15
  | .unknown => none

def policyScores : PolicyState → Option UnitScore
  | .easingBias => unitScore 0.85
  | .neutral => unitScore 0.60
  | .restrictive => unitScore 0.20
  | .unknown => none

def finConditionsScores : FinancialConditionsState → Option UnitScore
  | .loose => unitScore 0.90
  | .neutral => unitScore 0.55
  | .tight => unitScore 0.15
  | .unknown => none

def dimensionScore (dimension : ScoreDimension) (raw : Option UnitScore) (state : String) :
    DimensionScore := ⟨dimension,raw,scoreToLevel raw,[state]⟩

def scoreGrowth (snapshot : MacroSnapshotState) : DimensionScore :=
  dimensionScore .growth (growthScores snapshot.growthState) snapshot.growthState.value

def scoreInflation (snapshot : MacroSnapshotState) : DimensionScore :=
  dimensionScore .inflation (inflationScores snapshot.inflationState) snapshot.inflationState.value

def scoreLabor (snapshot : MacroSnapshotState) : DimensionScore :=
  dimensionScore .labor (laborScores snapshot.laborState) snapshot.laborState.value

def scorePolicy (snapshot : MacroSnapshotState) : DimensionScore :=
  dimensionScore .policy (policyScores snapshot.policyState) snapshot.policyState.value

def scoreFinancialConditions (snapshot : MacroSnapshotState) : DimensionScore :=
  dimensionScore .financialConditions (finConditionsScores snapshot.financialConditionsState)
    snapshot.financialConditionsState.value

/-- The part of `whole` that `count` makes up, and `default` of nothing. -/
def fraction (default : UnitScore) (count whole : ℕ) (h : count ≤ whole) : UnitScore :=
  if hw : whole = 0 then default else
    ⟨count / whole,by positivity,by
      have hpos : (0 : ℚ) < whole := by exact_mod_cast Nat.pos_of_ne_zero hw
      rw [div_le_one hpos]
      exact_mod_cast h⟩

def knownScores (scores : List DimensionScore) : List DimensionScore :=
  scores.filter (fun s => s.score.isSome)

def computeBreadth (scores : List DimensionScore) : UnitScore :=
  fraction (unitScore 0) (knownScores scores).length scores.length (List.length_filter_le _ _)

theorem unitScores_sum (scores : List UnitScore) :
    0 ≤ (scores.map Subtype.val).sum ∧ (scores.map Subtype.val).sum ≤ scores.length := by
  induction scores with
  | nil => simp
  | cons score scores ih =>
    obtain ⟨hlo,hhi⟩ := score.property
    simp only [List.map_cons,List.sum_cons,List.length_cons,Nat.cast_add,Nat.cast_one]
    constructor <;> linarith [ih.1,ih.2]

def knownValues (scores : List DimensionScore) : List UnitScore :=
  scores.filterMap (fun s => s.score)

def computeOverallSupport (scores : List DimensionScore) : UnitScore :=
  let known := knownValues scores
  if known.isEmpty then unitScore 0 else
    ⟨(known.map Subtype.val).sum / known.length,by
      obtain ⟨hlo,hhi⟩ := unitScores_sum known
      exact ⟨div_nonneg hlo (Nat.cast_nonneg _),div_le_one_of_le₀ hhi (Nat.cast_nonneg _)⟩⟩

def computeMomentum (scores : List DimensionScore) : UnitScore :=
  let known := knownScores scores
  fraction (unitScore 0.5)
    (known.countP (fun s => s.level == .strong || s.level == .moderate)) known.length
    List.countP_le_length

theorem spread_mem {values : List UnitScore} {hi lo : UnitScore}
    (hhi : firstMax Subtype.val values = some hi)
    (hlo : firstMax (fun v => -v.val) values = some lo) :
    min 1 (hi.val - lo.val) ∈ Set.Icc (0 : ℚ) 1 := by
  have hle := le_firstMax hhi (firstMax_mem hlo)
  constructor
  · exact le_min zero_le_one (sub_nonneg.mpr hle)
  · exact min_le_left _ _

def computeChangeIntensity (scores : List DimensionScore) : UnitScore :=
  let values := knownValues scores
  if values.length < 2 then unitScore 0 else
    match hhi : firstMax Subtype.val values, hlo : firstMax (fun v => -v.val) values with
    | some hi, some lo => ⟨min 1 (hi.val - lo.val),spread_mem hhi hlo⟩
    | _, _ => unitScore 0

def scoreSnapshot (snapshot : MacroSnapshotState) : QuantScoreBundle :=
  let growth := scoreGrowth snapshot
  let inflation := scoreInflation snapshot
  let labor := scoreLabor snapshot
  let policy := scorePolicy snapshot
  let finCond := scoreFinancialConditions snapshot
  let allScores := [growth,inflation,labor,policy,finCond]
  { growth := growth
    inflation := inflation
    labor := labor
    policy := policy
    financialConditions := finCond
    momentum := computeMomentum allScores
    breadth := computeBreadth allScores
    changeIntensity := computeChangeIntensity allScores
    overallSupport := computeOverallSupport allScores }

end MacroInvest.Macro
