import MacroInvest.Macro.SnapshotService

/-! # Snapshots and the order of observations

What a snapshot shows is fixed by the values of the selected observations. Rearranging the list
selects any of the observations that can lead it, so a snapshot is independent of the order where
all that can lead agree on the value. Dates in fixed offsets are ordered, and there the ones that
can lead are those of the latest date.
-/
namespace MacroInvest.Macro
open Features Champion

/-- The category states, the degraded status and the content of the indicator values. -/
@[ext] structure Shown where
  growthState : GrowthState
  inflationState : InflationState
  laborState : LaborState
  policyState : PolicyState
  financialConditionsState : FinancialConditionsState
  degradedStatus : DegradedStatus
  indicatorValues : String → Option ℚ

def shownOf (snapshot : SnapshotRecord) : Shown where
  growthState := snapshot.growthState
  inflationState := snapshot.inflationState
  laborState := snapshot.laborState
  policyState := snapshot.policyState
  financialConditionsState := snapshot.financialConditionsState
  degradedStatus := snapshot.degradedStatus
  indicatorValues := snapshot.indicatorValues.get?

def buildShown (observations : List NormalizedMacroObservation) (asOfDate : Date)
    (snapshotId : String) (now : ℤ) : Except TypeError Shown :=
  (buildSnapshot snapshotId now observations asOfDate).map shownOf

/-- Every list with the same observations up to the date shows the same. -/
def OrderIndependent (asOfDate : Date) (observations : List NormalizedMacroObservation) : Prop :=
  ∀ observations', (observations'.filter (inRange asOfDate)).Perm
      (observations.filter (inRange asOfDate)) →
    ∀ snapshotId now snapshotId' now', buildShown observations' asOfDate snapshotId' now' =
      buildShown observations asOfDate snapshotId now

/-- All observations of an indicator that some order of the list can leave in the lead have the
same value. -/
def LeadersAgree (asOfDate : Date) (observations : List NormalizedMacroObservation) : Prop :=
  ∀ indicator a b,
    Leads laterObservation (observationsOf asOfDate indicator observations) a →
    Leads laterObservation (observationsOf asOfDate indicator observations) b → a.value = b.value

section Shown
variable {selected selected' : Selected}

theorem get?_indicatorValues {name : String} {v : ℚ} :
    (indicatorValues selected).get? name = some v ↔
      ∃ i : MacroIndicatorType, i.value = name ∧ valueOf selected i = some v := by
  have hkeys : ((selected.entries.filterMap
      (fun p => p.2.value.map (fun v => (p.1.value,v)))).map Prod.fst).Nodup := by
    refine List.pairwise_map.mpr (List.Pairwise.filterMap _ ?_ (List.pairwise_map.mp
      selected.distinct))
    rintro p q hne x hx y hy
    obtain ⟨v,-,rfl⟩ := Option.map_eq_some_iff.mp hx
    obtain ⟨w,-,rfl⟩ := Option.map_eq_some_iff.mp hy
    exact fun h => hne (MacroIndicatorType.value_injective h)
  rw [Dict.get?_eq_some_iff,indicatorValues,Dict.entries_ofList hkeys,List.mem_filterMap]
  constructor
  · rintro ⟨p,hp,hv⟩
    obtain ⟨w,hw,heq⟩ := Option.map_eq_some_iff.mp hv
    cases heq
    refine ⟨p.1,rfl,?_⟩
    rw [valueOf,Dict.get?_eq_some_iff.mpr hp,Option.bind_some,hw]
  · rintro ⟨i,rfl,hv⟩
    obtain ⟨obs,hobs,hvalue⟩ := Option.bind_eq_some_iff.mp hv
    exact ⟨(i,obs),Dict.get?_eq_some_iff.mp hobs,by rw [hvalue,Option.map_some]⟩

theorem isEmpty_iff : selected.entries.isEmpty = true ↔ ∀ i, selected.get? i = none := by
  constructor
  · exact fun hempty i => get?_eq_none_of_empty hempty i
  · intro hnone
    cases hentries : selected.entries with
    | nil => rfl
    | cons p entries =>
      have hp : selected.get? p.1 = some p.2 :=
        Dict.get?_eq_some_iff.mpr (hentries ▸ List.mem_cons_self)
      rw [hnone] at hp
      cases hp

theorem deriveDegradedStatus_congr
    (hpresent : ∀ i, (selected.get? i).isNone = (selected'.get? i).isNone)
    (required : List MacroIndicatorType) :
    deriveDegradedStatus selected required = deriveDegradedStatus selected' required := by
  have hempty : selected.entries.isEmpty = selected'.entries.isEmpty := by
    rw [Bool.eq_iff_iff,isEmpty_iff,isEmpty_iff]
    simp only [← Option.isNone_iff_eq_none,hpresent]
  simp only [deriveDegradedStatus,hempty,hpresent]

/-- What is shown depends on which indicators are selected and on their values. -/
theorem shownOf_congr (hvalue : ∀ i, (selected.get? i).map NormalizedMacroObservation.value =
      (selected'.get? i).map NormalizedMacroObservation.value) (asOfDate : Date)
    (snapshotId snapshotId' : String) (now now' : ℤ) :
    shownOf (snapshotOf selected snapshotId now asOfDate) =
      shownOf (snapshotOf selected' snapshotId' now' asOfDate) := by
  have hvalues : ∀ i, valueOf selected i = valueOf selected' i := by
    intro i
    have hjoin := congrArg (fun o => Option.bind o id) (hvalue i)
    simp only [Option.bind_map] at hjoin
    exact hjoin
  have hpresent : ∀ i, (selected.get? i).isNone = (selected'.get? i).isNone := by
    intro i
    have h := congrArg Option.isNone (hvalue i)
    rwa [Option.isNone_map,Option.isNone_map] at h
  have hshown : ∀ name,
      (indicatorValues selected).get? name = (indicatorValues selected').get? name := by
    intro name
    refine Option.ext ?_
    intro v
    rw [get?_indicatorValues,get?_indicatorValues]
    simp only [hvalues]
  ext1
  · simp only [shownOf,snapshotOf,deriveGrowthState,hvalues]
  · simp only [shownOf,snapshotOf,deriveInflationState,hvalues]
  · simp only [shownOf,snapshotOf,deriveLaborState,hvalues]
  · simp only [shownOf,snapshotOf,derivePolicyState,hvalues]
  · simp only [shownOf,snapshotOf,deriveFinancialConditionsState,hvalues]
  · simp only [shownOf,snapshotOf,deriveDegradedStatus_congr hpresent]
  · exact funext hshown

/-- The shown value of a selected indicator is that of its observation. -/
theorem shownOf_value {i : MacroIndicatorType} {obs : NormalizedMacroObservation}
    (hobs : selected.get? i = some obs) (asOfDate : Date) (snapshotId : String) (now : ℤ) :
    (shownOf (snapshotOf selected snapshotId now asOfDate)).indicatorValues i.value = obs.value := by
  refine Option.ext ?_
  intro v
  have hvalue : valueOf selected i = obs.value := by rw [valueOf,hobs,Option.bind_some]
  rw [← hvalue]
  refine get?_indicatorValues.trans ⟨?_,fun hv => ⟨i,rfl,hv⟩⟩
  rintro ⟨j,hj,hv⟩
  rwa [MacroIndicatorType.value_injective hj] at hv

end Shown

section Order
variable {asOfDate : Date} {observations observations' : List NormalizedMacroObservation}

theorem observationsOf_eq_filter (i : MacroIndicatorType) :
    observationsOf asOfDate i observations =
      (observations.filter (inRange asOfDate)).filter (fun obs => obs.indicatorId = i) := by
  rw [observationsOf,List.filter_filter]
  simp only [Bool.and_comm]

theorem observationsOf_perm (hperm : (observations'.filter (inRange asOfDate)).Perm
      (observations.filter (inRange asOfDate))) (i : MacroIndicatorType) :
    (observationsOf asOfDate i observations').Perm (observationsOf asOfDate i observations) := by
  rw [observationsOf_eq_filter,observationsOf_eq_filter]
  exact hperm.filter _

theorem oneKind_congr (hperm : (observations'.filter (inRange asOfDate)).Perm
      (observations.filter (inRange asOfDate))) :
    OneKind asOfDate observations' ↔ OneKind asOfDate observations := by
  simp only [OneKind,(observationsOf_perm hperm _).mem_iff]

/-- Any leader of an indicator is selected from some arrangement of the list. -/
theorem exists_arrangement {i : MacroIndicatorType} {w : NormalizedMacroObservation}
    (hleads : Leads laterObservation (observationsOf asOfDate i observations) w) :
    ∃ observations', (observations'.filter (inRange asOfDate)).Perm
        (observations.filter (inRange asOfDate)) ∧
      latestOf asOfDate i observations' = some w := by
  obtain ⟨arranged,hperm,hchampion⟩ := exists_champion_iff.mpr hleads
  let keep := fun obs : NormalizedMacroObservation =>
    inRange asOfDate obs && decide (obs.indicatorId = i)
  let others := observations.filter (fun obs => !keep obs)
  have hall : (arranged ++ others).Perm observations :=
    (hperm.append_right others).trans (List.filter_append_perm keep observations)
  have harranged : arranged.filter keep = arranged := by
    rw [List.filter_eq_self]
    intro obs hobs
    exact (List.mem_filter.mp (hperm.mem_iff.mp hobs)).2
  have hothers : others.filter keep = [] := by
    rw [List.filter_eq_nil_iff]
    intro obs hobs
    simpa using (List.mem_filter.mp hobs).2
  refine ⟨arranged ++ others,hall.filter _,?_⟩
  have hscanned : observationsOf asOfDate i (arranged ++ others) = arranged := by
    rw [observationsOf,List.filter_append,harranged,hothers,List.append_nil]
  rw [latestOf,hscanned,hchampion]

/-- The snapshot of a list whose dates can be compared. -/
theorem buildShown_of_oneKind (hkind : OneKind asOfDate observations) : ∃ selected : Selected,
    (∀ i, selected.get? i = latestOf asOfDate i observations) ∧ ∀ snapshotId now,
      buildShown observations asOfDate snapshotId now =
        .ok (shownOf (snapshotOf selected snapshotId now asOfDate)) := by
  obtain ⟨selected,hok,hselected⟩ := (select_spec asOfDate observations).oneKind hkind
  refine ⟨selected,hselected,?_⟩
  intro snapshotId now
  rw [buildShown,buildSnapshot,hok]
  rfl

theorem buildShown_of_mixed (hmixed : ¬OneKind asOfDate observations) (snapshotId : String)
    (now : ℤ) : buildShown observations asOfDate snapshotId now = .error mixedZones := by
  rw [buildShown,buildSnapshot,(select_spec asOfDate observations).mixed hmixed]
  rfl

/-- The values that two arrangements select agree where the leaders agree. -/
theorem latestOf_value (hagree : LeadersAgree asOfDate observations)
    (hperm : (observations'.filter (inRange asOfDate)).Perm
      (observations.filter (inRange asOfDate))) (i : MacroIndicatorType) :
    (latestOf asOfDate i observations').map NormalizedMacroObservation.value =
      (latestOf asOfDate i observations).map NormalizedMacroObservation.value := by
  have hobservations := observationsOf_perm hperm i
  cases hlatest : latestOf asOfDate i observations with
  | none =>
    rw [latestOf_eq_none_iff] at hlatest
    rw [hlatest] at hobservations
    rw [latestOf_eq_none_iff.mpr hobservations.eq_nil]
  | some a =>
    cases hlatest' : latestOf asOfDate i observations' with
    | none =>
      rw [latestOf_eq_none_iff] at hlatest'
      rw [hlatest'] at hobservations
      rw [latestOf_eq_none_iff.mpr hobservations.symm.eq_nil] at hlatest
      cases hlatest
    | some b =>
      have ha := leads_of_champion hlatest
      have hb := exists_champion_iff.mp ⟨_,hobservations,hlatest'⟩
      rw [Option.map_some,Option.map_some,hagree i b a hb ha]

/-- Where nothing depends on the order, a leader has the value that is shown. -/
theorem leader_value (hlaw : OrderIndependent asOfDate observations)
    (hkind : OneKind asOfDate observations) {selected : Selected}
    (hbuilt : ∀ snapshotId now, buildShown observations asOfDate snapshotId now =
      .ok (shownOf (snapshotOf selected snapshotId now asOfDate)))
    {i : MacroIndicatorType} {w : NormalizedMacroObservation}
    (hleads : Leads laterObservation (observationsOf asOfDate i observations) w) :
    w.value = (shownOf (snapshotOf selected "" 0 asOfDate)).indicatorValues i.value := by
  obtain ⟨observations',hperm,hlatest⟩ := exists_arrangement hleads
  obtain ⟨selected',hselected',hbuilt'⟩ :=
    buildShown_of_oneKind ((oneKind_congr hperm).mpr hkind)
  have hsame := hlaw observations' hperm "" 0 "" 0
  rw [hbuilt,hbuilt'] at hsame
  have hshown := Except.ok.inj hsame
  have hw : selected'.get? i = some w := (hselected' i).trans hlatest
  rw [← hshown,shownOf_value hw]

end Order

/-- A snapshot is independent of the order of the list exactly where no snapshot can be built of
the list, or the observations that can lead an indicator agree on its value. -/
theorem order_independent_iff (asOfDate : Date) (observations : List NormalizedMacroObservation) :
    OrderIndependent asOfDate observations ↔
      ¬OneKind asOfDate observations ∨ LeadersAgree asOfDate observations := by
  constructor
  · intro hlaw
    by_cases hkind : OneKind asOfDate observations
    · refine .inr ?_
      obtain ⟨selected,-,hbuilt⟩ := buildShown_of_oneKind hkind
      intro i a b ha hb
      rw [leader_value hlaw hkind hbuilt ha,leader_value hlaw hkind hbuilt hb]
    · exact .inl hkind
  · intro hcondition observations' hperm snapshotId now snapshotId' now'
    by_cases hkind : OneKind asOfDate observations
    · have hagree := hcondition.resolve_left (not_not.mpr hkind)
      obtain ⟨selected,hselected,hbuilt⟩ := buildShown_of_oneKind hkind
      obtain ⟨selected',hselected',hbuilt'⟩ :=
        buildShown_of_oneKind ((oneKind_congr hperm).mpr hkind)
      rw [hbuilt,hbuilt']
      refine congrArg Except.ok (shownOf_congr ?_ asOfDate _ _ _ _)
      intro i
      rw [hselected,hselected']
      exact latestOf_value hagree hperm i
    · rw [buildShown_of_mixed hkind,buildShown_of_mixed (fun h => hkind ((oneKind_congr hperm).mp h))]

section Dates
variable {asOfDate : Date} {observations : List NormalizedMacroObservation}

/-- The date has no zone, or a fixed offset. -/
def FixedDate (obs : NormalizedMacroObservation) : Prop :=
  ∀ tz, obs.observationDate.tzinfo = some tz → ∃ offset, tz = .timezone offset

/-- The place of a date in the order of its kind. -/
def dateKey (obs : NormalizedMacroObservation) : ℤ :=
  obs.observationDate.instant.getD obs.observationDate.civil.micros

/-- Fixed dates of one kind are ordered, and those of the latest date can lead. -/
theorem leads_iff_latest_date (hkind : OneKind asOfDate observations) {i : MacroIndicatorType}
    (hfixed : ∀ obs ∈ observationsOf asOfDate i observations, FixedDate obs)
    {w : NormalizedMacroObservation} :
    Leads laterObservation (observationsOf asOfDate i observations) w ↔
      w ∈ observationsOf asOfDate i observations ∧
        ∀ obs ∈ observationsOf asOfDate i observations, dateKey obs ≤ dateKey w := by
  refine leads_iff_of_key ?_
  intro a ha b hb
  have hcomparable := hkind i a ha b hb
  rw [laterObservation,DateTime.later,dateKey,dateKey,DateTime.instant,DateTime.instant]
  cases hza : a.observationDate.tzinfo with
  | none =>
    cases hzb : b.observationDate.tzinfo with
    | none => simp
    | some y =>
      rw [DateTime.Comparable,hza,hzb] at hcomparable
      cases hcomparable
  | some x =>
    cases hzb : b.observationDate.tzinfo with
    | none =>
      rw [DateTime.Comparable,hza,hzb] at hcomparable
      cases hcomparable
    | some y =>
      obtain ⟨offset,rfl⟩ := hfixed a ha x hza
      simp [TzInfo.sameObject]

end Dates

/-- Two revisions of one reading. -/
def revisedCpi : List NormalizedMacroObservation :=
  [newYearReading .inflation (some 2.4) 0,newYearReading .inflation (some 3.6) 1]

/-- The first revision in the list is the one that is shown. -/
theorem revisedCpi_order : ¬OrderIndependent endOfJanuary revisedCpi ∧
    (buildShown revisedCpi endOfJanuary "snap-1" 0).toOption.map Shown.inflationState =
      some .cooling ∧
    (buildShown revisedCpi.reverse endOfJanuary "snap-1" 0).toOption.map Shown.inflationState =
      some .reaccelerating := by
  have hfirst : (buildShown revisedCpi endOfJanuary "snap-1" 0).toOption.map
      Shown.inflationState = some .cooling := by decide +kernel
  have hlast : (buildShown revisedCpi.reverse endOfJanuary "snap-1" 0).toOption.map
      Shown.inflationState = some .reaccelerating := by decide +kernel
  refine ⟨?_,hfirst,hlast⟩
  intro hlaw
  have hsame := hlaw revisedCpi.reverse ((List.reverse_perm revisedCpi).filter _) "snap-1" 0
    "snap-1" 0
  rw [hsame,hfirst] at hlast
  cases hlast

end MacroInvest.Macro
