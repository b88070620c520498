import MacroInvest.Library.Dict
import MacroInvest.Library.FloatRounding
import MacroInvest.Macro.Snapshot

/-! # Comparing snapshot states

A snapshot is compared with an earlier one by its category states and by the values of its
indicators. The comparison looks up each indicator of the current snapshot in the earlier one, and
an indicator that has gone since then is not looked up.
-/
namespace MacroInvest.Macro
open Rounding

structure SnapshotComparisonMetadata where
  baselineAvailable : Bool := false
  previousSnapshotId : Option String := none
  changedCategoryStates : List String := []
  changedIndicators : List String := []

/-- A snapshot with the fields that only its own service reads. -/
structure SnapshotRecord extends MacroSnapshotState where
  keyIndicatorChanges : List String := []
  sourceSummary : Dict String ℕ := .empty
  indicatorValues : Dict String ℚ := .empty
  comparison : SnapshotComparisonMetadata := {}

/-- `abs(curr_val - prev_val) > 1e-9` -/
def valueChanged (currVal prevVal : ℚ) : Bool :=
  roundFloat 2 53 1e-9 < |roundFloat 2 53 (currVal - prevVal)|

def categoryPairs (current previous : MacroSnapshotState) : List (String × String × String) :=
  [("growth_state",current.growthState.value,previous.growthState.value),
    ("inflation_state",current.inflationState.value,previous.inflationState.value),
    ("labor_state",current.laborState.value,previous.laborState.value),
    ("policy_state",current.policyState.value,previous.policyState.value),
    ("financial_conditions_state",current.financialConditionsState.value,
      previous.financialConditionsState.value)]

def changedCategories (current previous : MacroSnapshotState) : List String :=
  ((categoryPairs current previous).filter (fun p => p.2.1 ≠ p.2.2)).map Prod.fst

/-- An indicator of the current snapshot that the previous one lacks or has another value of. -/
def indicatorChanged (previous : SnapshotRecord) (p : String × ℚ) : Bool :=
  match previous.indicatorValues.get? p.1 with
  | none => true
  | some prevVal => valueChanged p.2 prevVal

def compareSnapshotStates (current : SnapshotRecord) (previous : Option SnapshotRecord) :
    SnapshotComparisonMetadata :=
  match previous with
  | none => {}
  | some previous =>
    { baselineAvailable := true
      previousSnapshotId := some previous.snapshotId
      changedCategoryStates := changedCategories current.toMacroSnapshotState
        previous.toMacroSnapshotState
      changedIndicators :=
        (current.indicatorValues.entries.filter (indicatorChanged previous)).map Prod.fst }

section Values

theorem valueChanged_comm (x y : ℚ) : valueChanged x y = valueChanged y x := by
  have hneg : x - y = -(y - x) := by ring
  rw [valueChanged,valueChanged,hneg,roundFloat_neg_eq,abs_neg]

theorem valueChanged_self (x : ℚ) : valueChanged x x = false := by
  have hbound : 0 ≤ roundFloat 2 53 (1e-9 : ℚ) :=
    roundFloat_nonneg one_lt_two (by norm_num) (by norm_num)
  rw [valueChanged,sub_self,roundFloat_zero one_lt_two,abs_zero,decide_eq_false_iff_not]
  exact not_lt.mpr hbound

theorem changedCategories_comm (a b : MacroSnapshotState) :
    changedCategories a b = changedCategories b a := by
  have hswap : categoryPairs b a = (categoryPairs a b).map (fun p => (p.1,p.2.2,p.2.1)) := rfl
  rw [changedCategories,changedCategories,hswap,List.filter_map,List.map_map]
  refine congrArg (List.map Prod.fst) (List.filter_congr ?_)
  intro p _
  simp only [Function.comp_apply,ne_comm]

theorem changedCategories_self (a : MacroSnapshotState) : changedCategories a a = [] := by
  simp [changedCategories,categoryPairs]

/-- What is reported of a pair: an indicator of the first, changed or gone from the second. -/
theorem mem_changedIndicators {a b : SnapshotRecord} {ind : String} :
    ind ∈ (compareSnapshotStates a (some b)).changedIndicators ↔
      ∃ v, a.indicatorValues.get? ind = some v ∧
        ∀ w, b.indicatorValues.get? ind = some w → valueChanged v w = true := by
  have hchanged : ∀ v, indicatorChanged b (ind,v) = true ↔
      ∀ w, b.indicatorValues.get? ind = some w → valueChanged v w = true := by
    intro v
    rw [indicatorChanged]
    cases b.indicatorValues.get? ind with
    | none => simp
    | some w => simp
  simp only [compareSnapshotStates,List.mem_map,List.mem_filter,Prod.exists,Dict.get?_eq_some_iff]
  constructor
  · rintro ⟨k,v,⟨hmem,hv⟩,rfl⟩
    exact ⟨v,hmem,by simpa only [Dict.get?_eq_some_iff] using (hchanged v).mp hv⟩
  · rintro ⟨v,hmem,hv⟩
    exact ⟨ind,v,⟨hmem,(hchanged v).mpr (by simpa only [Dict.get?_eq_some_iff] using hv)⟩,rfl⟩

end Values

def SameIndicators (a b : SnapshotRecord) : Prop :=
  ∀ ind, ind ∈ a.indicatorValues.keys ↔ ind ∈ b.indicatorValues.keys

/-- What is reported of a pair does not depend on the order of the pair. -/
structure ComparisonSymmetry (a b : SnapshotRecord) : Prop where
  categories : ∀ name, name ∈ (compareSnapshotStates a (some b)).changedCategoryStates ↔
    name ∈ (compareSnapshotStates b (some a)).changedCategoryStates
  indicators : ∀ ind, ind ∈ (compareSnapshotStates a (some b)).changedIndicators ↔
    ind ∈ (compareSnapshotStates b (some a)).changedIndicators
  onlyOne : ∀ ind, ¬(ind ∈ a.indicatorValues.keys ↔ ind ∈ b.indicatorValues.keys) →
    ind ∈ (compareSnapshotStates a (some b)).changedIndicators
  itself : (compareSnapshotStates a (some a)).changedCategoryStates = [] ∧
    (compareSnapshotStates a (some a)).changedIndicators = []

section Symmetry
variable {a b : SnapshotRecord}

theorem compareSnapshotStates_self (a : SnapshotRecord) :
    (compareSnapshotStates a (some a)).changedIndicators = [] := by
  rw [List.eq_nil_iff_forall_not_mem]
  intro ind hind
  obtain ⟨v,hv,hchanged⟩ := mem_changedIndicators.mp hind
  have hself := hchanged v hv
  rw [valueChanged_self] at hself
  cases hself

/-- A reported indicator is one of the first snapshot. -/
theorem mem_keys_of_changed {ind : String}
    (h : ind ∈ (compareSnapshotStates a (some b)).changedIndicators) :
    ind ∈ a.indicatorValues.keys := by
  obtain ⟨v,hv,-⟩ := mem_changedIndicators.mp h
  by_contra hnot
  rw [Dict.get?_eq_none_iff.mpr hnot] at hv
  cases hv

/-- Where the other snapshot has the indicator too, its change is reported both ways. -/
theorem changed_comm (hsame : SameIndicators a b) {ind : String}
    (h : ind ∈ (compareSnapshotStates a (some b)).changedIndicators) :
    ind ∈ (compareSnapshotStates b (some a)).changedIndicators := by
  have hb := (hsame ind).mp (mem_keys_of_changed h)
  obtain ⟨v,hv,hchanged⟩ := mem_changedIndicators.mp h
  cases hw : b.indicatorValues.get? ind with
  | none => exact absurd hb (Dict.get?_eq_none_iff.mp hw)
  | some w =>
    refine mem_changedIndicators.mpr ⟨w,hw,?_⟩
    intro v' hv'
    rw [hv] at hv'
    cases hv'
    rw [valueChanged_comm]
    exact hchanged w hw

/-- The report of a pair is symmetric exactly where the snapshots have the same indicators. -/
theorem comparison_symmetry_iff (a b : SnapshotRecord) :
    ComparisonSymmetry a b ↔ SameIndicators a b := by
  constructor
  · intro hlaw ind
    by_contra hdiffer
    have hone := hlaw.onlyOne ind hdiffer
    have hother := (hlaw.indicators ind).mp hone
    exact hdiffer ⟨fun _ => mem_keys_of_changed hother,fun _ => mem_keys_of_changed hone⟩
  · intro hsame
    refine ⟨?_,?_,?_,changedCategories_self _,compareSnapshotStates_self a⟩
    · intro name
      simp only [compareSnapshotStates,changedCategories_comm a.toMacroSnapshotState]
    · intro ind
      exact ⟨changed_comm hsame,changed_comm (fun ind => (hsame ind).symm)⟩
    · intro ind hdiffer
      exact absurd (hsame ind) hdiffer

end Symmetry

/-- A snapshot of one indicator. -/
def pmiSnapshot : SnapshotRecord where
  snapshotId := "prev"
  asOfDate := ⟨739625,by decide,by decide⟩
  snapshotTimestamp := 0
  freshnessStatus := .fresh
  degradedStatus := .partialData
  growthState := .unknown
  inflationState := .unknown
  laborState := .unknown
  policyState := .unknown
  financialConditionsState := .unknown
  missingIndicators := ["inflation","unemployment","yield_10y","retail_sales"]
  indicatorValues := Dict.empty.set "pmi" 49

/-- An indicator that has gone is not reported. -/
theorem pmi_gone : ¬ComparisonSymmetry { pmiSnapshot with indicatorValues := .empty } pmiSnapshot ∧
    (compareSnapshotStates { pmiSnapshot with indicatorValues := .empty }
      (some pmiSnapshot)).changedIndicators = [] ∧
    (compareSnapshotStates pmiSnapshot
      (some { pmiSnapshot with indicatorValues := .empty })).changedIndicators = ["pmi"] := by
  have hgone : (compareSnapshotStates { pmiSnapshot with indicatorValues := .empty }
      (some pmiSnapshot)).changedIndicators = [] := by decide +kernel
  refine ⟨?_,hgone,by decide +kernel⟩
  intro hlaw
  have hreported := hlaw.onlyOne "pmi" (by decide +kernel)
  rw [hgone] at hreported
  cases hreported

end MacroInvest.Macro
