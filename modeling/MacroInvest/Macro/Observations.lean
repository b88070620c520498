import MacroInvest.Features.Ingestion
import MacroInvest.Library.Champion
import MacroInvest.Library.Dict

/-! # The latest observations

One pass keeps an observation of each indicator, replaced where a later one comes. What is kept
of an indicator is the champion among its observations up to the date, under being later; dates
with and without a time zone cannot be compared, and a pass that meets both of them raises.
-/
namespace MacroInvest.Macro
open Features Champion

abbrev Selected := Dict MacroIndicatorType NormalizedMacroObservation

structure TypeError where
  message : String

def mixedZones : TypeError := ⟨"can't compare offset-naive and offset-aware datetimes"⟩

/-- `obs.observation_date.date() <= as_of_date` -/
def inRange (asOfDate : Date) (obs : NormalizedMacroObservation) : Bool :=
  obs.observationDate.civil.toordinal ≤ asOfDate.ordinal

def selectStep (asOfDate : Date) (selected : Selected) (obs : NormalizedMacroObservation) :
    Except TypeError Selected :=
  if inRange asOfDate obs then
    match selected.get? obs.indicatorId with
    | none => .ok (selected.set obs.indicatorId obs)
    | some existing =>
      if obs.observationDate.Comparable existing.observationDate then
        .ok (if obs.observationDate.later existing.observationDate then
          selected.set obs.indicatorId obs else selected)
      else .error mixedZones
  else .ok selected

def selectLatestObservations (observations : List NormalizedMacroObservation) (asOfDate : Date) :
    Except TypeError Selected :=
  observations.foldlM (selectStep asOfDate) .empty

/-- The observations of an indicator up to the date. -/
def observationsOf (asOfDate : Date) (indicator : MacroIndicatorType)
    (observations : List NormalizedMacroObservation) : List NormalizedMacroObservation :=
  observations.filter (fun obs => inRange asOfDate obs && decide (obs.indicatorId = indicator))

def laterObservation (a b : NormalizedMacroObservation) : Bool :=
  a.observationDate.later b.observationDate

/-- The observation of an indicator that is left when the list is scanned for later ones. -/
def latestOf (asOfDate : Date) (indicator : MacroIndicatorType)
    (observations : List NormalizedMacroObservation) : Option NormalizedMacroObservation :=
  champion laterObservation (observationsOf asOfDate indicator observations)

/-- No indicator has dates with and without a time zone. -/
def OneKind (asOfDate : Date) (observations : List NormalizedMacroObservation) : Prop :=
  ∀ indicator, ∀ a ∈ observationsOf asOfDate indicator observations,
    ∀ b ∈ observationsOf asOfDate indicator observations,
      a.observationDate.Comparable b.observationDate

section Selection
variable {asOfDate : Date} {observations : List NormalizedMacroObservation}

theorem mem_observationsOf {obs : NormalizedMacroObservation} {indicator : MacroIndicatorType} :
    obs ∈ observationsOf asOfDate indicator observations ↔
      obs ∈ observations ∧ inRange asOfDate obs = true ∧ obs.indicatorId = indicator := by
  rw [observationsOf,List.mem_filter,Bool.and_eq_true,decide_eq_true_eq]

theorem observationsOf_concat (obs : NormalizedMacroObservation) (indicator : MacroIndicatorType) :
    observationsOf asOfDate indicator (observations ++ [obs]) =
      observationsOf asOfDate indicator observations ++
        if inRange asOfDate obs = true ∧ obs.indicatorId = indicator then [obs] else [] := by
  simp only [observationsOf,List.filter_append,List.filter_cons,List.filter_nil,Bool.and_eq_true,
    decide_eq_true_eq]

/-- What an observation does to the kept ones: it is measured against its own indicator's. -/
theorem latestOf_concat (obs : NormalizedMacroObservation) (indicator : MacroIndicatorType) :
    latestOf asOfDate indicator (observations ++ [obs]) =
      if inRange asOfDate obs = true ∧ obs.indicatorId = indicator then
        hold laterObservation (latestOf asOfDate indicator observations) obs
      else latestOf asOfDate indicator observations := by
  rw [latestOf,observationsOf_concat]
  split
  · rw [champion_concat,← latestOf]
  · rw [List.append_nil,← latestOf]

theorem oneKind_concat_iff (obs : NormalizedMacroObservation) :
    OneKind asOfDate (observations ++ [obs]) ↔ OneKind asOfDate observations ∧
      (inRange asOfDate obs = true →
        ∀ b ∈ observationsOf asOfDate obs.indicatorId observations,
          obs.observationDate.Comparable b.observationDate) := by
  have hmem : ∀ indicator a, a ∈ observationsOf asOfDate indicator (observations ++ [obs]) ↔
      a ∈ observationsOf asOfDate indicator observations ∨
        a = obs ∧ inRange asOfDate obs = true ∧ obs.indicatorId = indicator := by
    intro indicator a
    simp only [mem_observationsOf,List.mem_append,List.mem_singleton,or_and_right]
    refine or_congr_right (and_congr_right ?_)
    rintro rfl
    rfl
  constructor
  · intro h
    refine ⟨?_,?_⟩
    · intro indicator a ha b hb
      exact h indicator a ((hmem _ _).mpr (.inl ha)) b ((hmem _ _).mpr (.inl hb))
    · intro hrange b hb
      exact h obs.indicatorId obs ((hmem _ _).mpr (.inr ⟨rfl,hrange,rfl⟩)) b
        ((hmem _ _).mpr (.inl hb))
  · rintro ⟨hbefore,hobs⟩ indicator a ha b hb
    rcases (hmem _ _).mp ha with hold | ⟨rfl,hrange,rfl⟩
    · rcases (hmem _ _).mp hb with hold' | ⟨rfl,hrange,rfl⟩
      · exact hbefore indicator a hold b hold'
      · exact (hobs hrange a hold).symm
    · rcases (hmem _ _).mp hb with hold | ⟨rfl,-,-⟩
      · exact hobs hrange b hold
      · rfl

/-- What a pass returns. -/
structure SelectionSpec (asOfDate : Date) (observations : List NormalizedMacroObservation)
    (outcome : Except TypeError Selected) : Prop where
  oneKind : OneKind asOfDate observations → ∃ selected, outcome = .ok selected ∧
    ∀ indicator, selected.get? indicator = latestOf asOfDate indicator observations
  mixed : ¬OneKind asOfDate observations → outcome = .error mixedZones

/-- An observation that comes to lead its indicator is put in. -/
theorem get?_set_of_lead {selected : Selected} {obs : NormalizedMacroObservation}
    (hselected : ∀ indicator, selected.get? indicator = latestOf asOfDate indicator observations)
    (hrange : inRange asOfDate obs = true)
    (hlead : hold laterObservation (latestOf asOfDate obs.indicatorId observations) obs = some obs)
    (indicator : MacroIndicatorType) : (selected.set obs.indicatorId obs).get? indicator =
      latestOf asOfDate indicator (observations ++ [obs]) := by
  rw [Dict.get?_set,latestOf_concat]
  by_cases hi : obs.indicatorId = indicator
  · subst hi
    rw [if_pos rfl,if_pos (And.intro hrange rfl),hlead]
  · rw [if_neg (Ne.symm hi),if_neg (fun h => hi h.2),hselected]

/-- An observation that does not is passed over. -/
theorem get?_of_kept {selected : Selected} {obs : NormalizedMacroObservation}
    (hselected : ∀ indicator, selected.get? indicator = latestOf asOfDate indicator observations)
    (hkept : inRange asOfDate obs = true →
      hold laterObservation (latestOf asOfDate obs.indicatorId observations) obs =
        latestOf asOfDate obs.indicatorId observations) (indicator : MacroIndicatorType) :
    selected.get? indicator = latestOf asOfDate indicator (observations ++ [obs]) := by
  rw [hselected,latestOf_concat]
  split
  · rename_i h
    obtain ⟨hrange,rfl⟩ := h
    rw [hkept hrange]
  · rfl

/-- One observation changes the dictionary as it changes the kept observations. -/
theorem selectStep_spec {selected : Selected} (hkind : OneKind asOfDate observations)
    (hselected : ∀ indicator,
      selected.get? indicator = latestOf asOfDate indicator observations)
    (obs : NormalizedMacroObservation) :
    SelectionSpec asOfDate (observations ++ [obs]) (selectStep asOfDate selected obs) := by
  have hconcat : OneKind asOfDate (observations ++ [obs]) ↔ _ := oneKind_concat_iff obs
  rw [selectStep]
  by_cases hrange : inRange asOfDate obs = true
  · rw [if_pos hrange,hselected]
    cases hlatest : latestOf asOfDate obs.indicatorId observations with
    | none =>
      have hnone := champion_eq_none.mp hlatest
      have hkind' : OneKind asOfDate (observations ++ [obs]) :=
        hconcat.mpr ⟨hkind,fun _ => by simp [hnone]⟩
      refine ⟨fun _ => ⟨_,rfl,get?_set_of_lead hselected hrange ?_⟩,fun h => absurd hkind' h⟩
      rw [hlatest,hold]
    | some existing =>
      have hmem := champion_mem hlatest
      dsimp only
      by_cases hcomparable : obs.observationDate.Comparable existing.observationDate
      · have hkind' : OneKind asOfDate (observations ++ [obs]) :=
          hconcat.mpr ⟨hkind,fun _ b hb => hcomparable.trans (hkind _ existing hmem b hb)⟩
        rw [if_pos hcomparable]
        refine ⟨fun _ => ⟨_,rfl,?_⟩,fun h => absurd hkind' h⟩
        split
        · rename_i hlater
          apply get?_set_of_lead hselected hrange
          rw [hlatest,hold,laterObservation,if_pos hlater]
        · rename_i hearlier
          apply get?_of_kept hselected
          intro _
          rw [hlatest,hold,laterObservation,if_neg hearlier]
      · rw [if_neg hcomparable]
        refine ⟨fun h => absurd ?_ hcomparable,fun _ => rfl⟩
        exact (hconcat.mp h).2 hrange existing hmem
  · have hsame : OneKind asOfDate (observations ++ [obs]) :=
      hconcat.mpr ⟨hkind,fun h => absurd h hrange⟩
    rw [if_neg hrange]
    refine ⟨fun _ => ⟨selected,rfl,?_⟩,fun h => absurd hsame h⟩
    exact get?_of_kept hselected (fun h => absurd h hrange)

/-- The invariant of the pass: the dictionary holds the champion of every indicator. -/
theorem select_spec (asOfDate : Date) (observations : List NormalizedMacroObservation) :
    SelectionSpec asOfDate observations (selectLatestObservations observations asOfDate) := by
  induction observations using List.reverseRecOn with
  | nil =>
    refine ⟨fun _ => ⟨.empty,rfl,fun _ => rfl⟩,fun h => absurd ?_ h⟩
    intro indicator a ha
    cases ha
  | append_singleton observations obs ih =>
    have hpass : selectLatestObservations (observations ++ [obs]) asOfDate =
        (selectLatestObservations observations asOfDate).bind (selectStep asOfDate · obs) := by
      rw [selectLatestObservations,List.foldlM_append,← selectLatestObservations]
      simp only [List.foldlM_cons,List.foldlM_nil,bind_pure]
      rfl
    rw [hpass]
    by_cases hkind : OneKind asOfDate observations
    · obtain ⟨selected,hok,hselected⟩ := ih.oneKind hkind
      rw [hok]
      exact selectStep_spec hkind hselected obs
    · have hnot : ¬OneKind asOfDate (observations ++ [obs]) := fun h =>
        hkind ((oneKind_concat_iff obs).mp h).1
      rw [ih.mixed hkind]
      exact ⟨fun h => absurd h hnot,fun _ => rfl⟩

end Selection

end MacroInvest.Macro
