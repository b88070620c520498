import MacroInvest.Macro.RegimeService

/-! # Regime history

The history read flattens the most recent regimes into records and points at the first two.
The compare read takes the latest regime by date and looks one day back from it. The pointers
are documented as the pair that the compare read uses.
-/
namespace MacroInvest.Macro
open FirstMax DatedRows

def FreshnessStatus.value : FreshnessStatus → String
  | .fresh => "fresh" | .late => "late" | .stale => "stale" | .unknown => "unknown"

def DegradedStatus.value : DegradedStatus → String
  | .none => "none"
  | .partialData => "partial"
  | .missing => "missing"
  | .sourceUnavailable => "source_unavailable"
  | .unknown => "unknown"

def RegimeFamily.value : RegimeFamily → String
  | .expansion => "expansion"
  | .inflationTransition => "inflation_transition"
  | .lateCycle => "late_cycle"
  | .downshift => "downshift"
  | .contraction => "contraction"
  | .uncertain => "uncertain"

def RegimeConfidence.value : RegimeConfidence → String
  | .high => "high" | .medium => "medium" | .low => "low"

def RegimeTransitionType.value : RegimeTransitionType → String
  | .initial => "initial"
  | .unchanged => "unchanged"
  | .shift => "shift"
  | .weakening => "weakening"
  | .strengthening => "strengthening"
  | .unknown => "unknown"

structure HistoricalRegimeRecord where
  regimeId : String
  asOfDate : Date
  generatedAt : ℤ
  regimeLabel : String
  regimeFamily : String
  confidence : String
  freshnessStatus : String
  degradedStatus : String
  transitionType : String
  transitionFromPrior : Option String
  changed : Bool
  warnings : List String
  isSeeded : Bool
  missingInputs : List String
  supportingSnapshotId : String
  deriving DecidableEq

def regimeToHistoricalRecord (regime : MacroRegime) : HistoricalRegimeRecord where
  regimeId := regime.regimeId
  asOfDate := regime.asOfDate
  generatedAt := regime.regimeTimestamp
  regimeLabel := regime.regimeLabel.value
  regimeFamily := regime.regimeFamily.value
  confidence := regime.confidence.value
  freshnessStatus := regime.freshnessStatus.value
  degradedStatus := regime.degradedStatus.value
  transitionType := regime.transition.transitionType.value
  transitionFromPrior := regime.transition.transitionFromPrior
  changed := regime.transition.changed
  warnings := regime.warnings
  isSeeded := regime.metadata.lookup "seeded" = some "true"
  missingInputs := regime.missingInputs
  supportingSnapshotId := regime.supportingSnapshotId

theorem regimeToHistoricalRecord_shows (a b : MacroRegime)
    (h : regimeToHistoricalRecord a = regimeToHistoricalRecord b) :
    a.asOfDate = b.asOfDate ∧ a.regimeTimestamp = b.regimeTimestamp :=
  ⟨congrArg HistoricalRegimeRecord.asOfDate h,congrArg HistoricalRegimeRecord.generatedAt h⟩

structure RegimeHistoryBundle where
  asOfDate : Date
  records : List HistoricalRegimeRecord
  total : ℕ
  latest : Option HistoricalRegimeRecord
  previous : Option HistoricalRegimeRecord
  deriving DecidableEq

def buildRegimeHistoryBundle (regimes : List MacroRegime) (asOfDate : Date) :
    RegimeHistoryBundle :=
  let records := regimes.map regimeToHistoricalRecord
  { asOfDate := asOfDate
    records := records
    total := records.length
    latest := records[0]?
    previous := if 2 ≤ records.length then records[1]? else none }

theorem buildRegimeHistoryBundle_latest (regimes : List MacroRegime) (d : Date) :
    (buildRegimeHistoryBundle regimes d).latest = regimes[0]?.map regimeToHistoricalRecord :=
  List.getElem?_map

theorem buildRegimeHistoryBundle_previous (regimes : List MacroRegime) (d : Date) :
    (buildRegimeHistoryBundle regimes d).previous =
      regimes[1]?.map regimeToHistoricalRecord := by
  simp only [buildRegimeHistoryBundle,List.length_map,List.getElem?_map]
  split
  · rfl
  · rw [List.getElem?_eq_none (by omega)]
    rfl

/-- The history's first two records are those of the pair that the compare read returns; where
there is nothing to compare, the history has none. -/
def SamePair (service : MacroRegimeService) (store : MacroRegimeStore) (d : Date) (limit : ℤ) :
    Prop :=
  let bundle := buildRegimeHistoryBundle (store.listRecent d limit) d
  match service.compareLatestWithPrior d with
  | .ok (current,previous) => bundle.latest = some (regimeToHistoricalRecord current) ∧
      bundle.previous = previous.map regimeToHistoricalRecord
  | .error _ => bundle.latest = none ∧ bundle.previous = none

/-- The latest date has one regime and a day before it, and of the last date up to that day the
regime saved first has the last time stamp. -/
def OneBaseline (regimes : List MacroRegime) (d : Date) : Prop :=
  ∃ current yesterday, atLatestDate MacroRegime.asOfDate regimes d = [current] ∧
    current.asOfDate.minusOneDay = some yesterday ∧
    ∀ previous, (atLatestDate MacroRegime.asOfDate regimes yesterday).head? = some previous →
      ∀ other ∈ atLatestDate MacroRegime.asOfDate regimes yesterday,
        other.regimeTimestamp ≤ previous.regimeTimestamp

section PairLaw
variable {snapshots : MacroSnapshotStore} {store : MacroRegimeStore} {d : Date} {limit : ℤ}

theorem samePair_none (hlimit : 2 ≤ limit) (h : store.getLatestOnOrBefore d = none) :
    SamePair ⟨snapshots,some store⟩ store d limit := by
  have hempty : onOrBefore MacroRegime.asOfDate store.regimes d = [] := firstMax_eq_none.mp h
  have hrecent : store.listRecent d limit = [] := by
    rw [MacroRegimeStore.listRecent,recentFirst,sliceTo,if_pos (by omega),hempty,
      List.mergeSort_nil,List.take_nil]
  simp [SamePair,MacroRegimeService.compareLatestWithPrior,h,hrecent,buildRegimeHistoryBundle]

variable {current : MacroRegime} {yesterday : Date}

/-- On the first day of the calendar the compare read raises. -/
theorem not_samePair_firstDay (hlimit : 2 ≤ limit)
    (h : store.getLatestOnOrBefore d = some current)
    (hday : current.asOfDate.minusOneDay = none) :
    ¬SamePair ⟨snapshots,some store⟩ store d limit := by
  have hcompare : MacroRegimeService.compareLatestWithPrior ⟨snapshots,some store⟩ d =
      .error (.overflowError "date value out of range") := by
    simp only [MacroRegimeService.compareLatestWithPrior,h,dayBefore,hday]
    rfl
  have hmem : current ∈ onOrBefore MacroRegime.asOfDate store.regimes d :=
    mem_onOrBefore.mpr (latestOnOrBefore_mem h)
  have hfirst : firstMax (recency MacroRegime.asOfDate MacroRegime.regimeTimestamp)
      (onOrBefore MacroRegime.asOfDate store.regimes d) ≠ none := by
    rw [Ne,firstMax_eq_none]
    exact List.ne_nil_of_mem hmem
  intro hsame
  rw [SamePair,hcompare] at hsame
  have hlatest := hsame.1
  rw [buildRegimeHistoryBundle_latest,MacroRegimeStore.listRecent,
    getElem?_zero_recentFirst (by omega),Option.map_eq_none_iff] at hlatest
  exact hfirst hlatest

theorem samePair_dayBefore_iff (hlimit : 2 ≤ limit)
    (h : store.getLatestOnOrBefore d = some current)
    (hday : current.asOfDate.minusOneDay = some yesterday) :
    SamePair ⟨snapshots,some store⟩ store d limit ↔
      atLatestDate MacroRegime.asOfDate store.regimes d = [current] ∧
      ∀ previous, (atLatestDate MacroRegime.asOfDate store.regimes yesterday).head? =
          some previous →
        ∀ other ∈ atLatestDate MacroRegime.asOfDate store.regimes yesterday,
          other.regimeTimestamp ≤ previous.regimeTimestamp := by
  have hcompare : MacroRegimeService.compareLatestWithPrior ⟨snapshots,some store⟩ d =
      .ok (current,store.getLatestOnOrBefore yesterday) := by
    simp only [MacroRegimeService.compareLatestWithPrior,h,dayBefore,hday]
    rfl
  simp only [SamePair,hcompare,buildRegimeHistoryBundle_latest,buildRegimeHistoryBundle_previous]
  exact pair_agree_iff (f := regimeToHistoricalRecord) regimeToHistoricalRecord_shows hlimit h
    (Date.le_minusOneDay hday)

/-- With a latest regime, the two reads agree as the rows of its date and the day before do. -/
theorem samePair_some_iff (hlimit : 2 ≤ limit) (h : store.getLatestOnOrBefore d = some current) :
    SamePair ⟨snapshots,some store⟩ store d limit ↔ OneBaseline store.regimes d := by
  have hhead : (atLatestDate MacroRegime.asOfDate store.regimes d).head? = some current := by
    rw [← latestOnOrBefore_eq_head]
    exact h
  have honly : ∀ other, atLatestDate MacroRegime.asOfDate store.regimes d = [other] →
      other = current := by
    intro other hone
    rw [hone] at hhead
    exact Option.some.inj hhead
  cases hday : current.asOfDate.minusOneDay with
  | none =>
    refine iff_of_false (not_samePair_firstDay hlimit h hday) ?_
    rintro ⟨other,yesterday,hone,hyesterday,-⟩
    rw [honly other hone,hday] at hyesterday
    cases hyesterday
  | some yesterday =>
    rw [samePair_dayBefore_iff hlimit h hday]
    constructor
    · rintro ⟨hone,hprior⟩
      exact ⟨current,yesterday,hone,hday,hprior⟩
    · rintro ⟨other,before,hone,hbefore,hprior⟩
      cases honly other hone
      rw [hday] at hbefore
      cases hbefore
      exact ⟨hone,hprior⟩

end PairLaw

/-- The history names the compared pair exactly when nothing is stored by that date or the
latest date has one regime and the date before it starts with its last one. -/
theorem history_pair_law (snapshots : MacroSnapshotStore) (store : MacroRegimeStore) (d : Date)
    (limit : ℤ) (hlimit : 2 ≤ limit) :
    SamePair ⟨snapshots,some store⟩ store d limit ↔
      (∀ regime ∈ store.regimes, d < regime.asOfDate) ∨ OneBaseline store.regimes d := by
  cases h : store.getLatestOnOrBefore d with
  | none =>
    have hempty : onOrBefore MacroRegime.asOfDate store.regimes d = [] := firstMax_eq_none.mp h
    have hlate : ∀ regime ∈ store.regimes, d < regime.asOfDate := by
      simpa [onOrBefore] using hempty
    exact ⟨fun _ => .inl hlate,fun _ => samePair_none hlimit h⟩
  | some current =>
    rw [samePair_some_iff hlimit h]
    refine ⟨.inr,?_⟩
    rintro (hlate | hone)
    · obtain ⟨hmem,hd⟩ := latestOnOrBefore_mem h
      exact absurd hd (not_le.mpr (hlate current hmem))
    · exact hone

section Rerun

/-- On the second day both reads tell one pair; on the first the compare read takes the first run
of the day before and the history the last. -/
theorem history_pair_law_backfilled :
    SamePair ⟨{},some ⟨backfilledRuns⟩⟩ ⟨backfilledRuns⟩ secondDay 10 ∧
    ¬SamePair ⟨{},some ⟨backfilledRuns⟩⟩ ⟨backfilledRuns⟩ newYear 10 := by
  constructor
  · refine (history_pair_law {} ⟨backfilledRuns⟩ secondDay 10 (by decide)).mpr (.inr ?_)
    exact ⟨{ unclearRegime "b" 2 with asOfDate := secondDay },newYear,by decide +kernel,
      by decide +kernel,by decide +kernel⟩
  · intro hsame
    rcases (history_pair_law {} ⟨backfilledRuns⟩ newYear 10 (by decide)).mp hsame with
      hlate | ⟨current,yesterday,hone,hyesterday,hprior⟩
    · exact absurd (hlate _ List.mem_cons_self) (lt_irrefl newYear)
    · have hcurrent : atLatestDate MacroRegime.asOfDate backfilledRuns newYear =
          [unclearRegime "a" 1] := by decide +kernel
      obtain rfl := (List.cons.inj (hcurrent.symm.trans hone)).1
      have hbefore : newYear.minusOneDay = some yearEnd := by decide +kernel
      obtain rfl := Option.some.inj (hbefore.symm.trans hyesterday)
      have hlast := hprior { unclearRegime "c" 3 with asOfDate := yearEnd } (by decide +kernel)
        { unclearRegime "d" 4 with asOfDate := yearEnd } (by decide +kernel)
      exact absurd hlast (by decide +kernel)

/-- Two runs for one date: the history starts with the second, the compare read with the
first. -/
theorem rerun_not_compared : ¬ ∀ (store : MacroRegimeStore) (d : Date) (limit : ℤ),
    2 ≤ limit → SamePair ⟨{},some store⟩ store d limit := by
  intro h
  have hsame := h ⟨[unclearRegime "a" 1,unclearRegime "b" 2]⟩ newYear 10 (by decide)
  have hcompare : MacroRegimeService.compareLatestWithPrior
      ⟨{},some ⟨[unclearRegime "a" 1,unclearRegime "b" 2]⟩⟩ newYear =
      .ok (unclearRegime "a" 1,none) := by decide +kernel
  rw [SamePair,hcompare] at hsame
  have hlatest := hsame.1
  rw [buildRegimeHistoryBundle_latest,MacroRegimeStore.listRecent,
    getElem?_zero_recentFirst (by decide)] at hlatest
  exact absurd hlatest (by decide +kernel)

end Rerun

end MacroInvest.Macro
