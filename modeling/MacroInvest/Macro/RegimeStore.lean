import MacroInvest.Library.DatedRows
import MacroInvest.Macro.Regime

/-! # The in-memory snapshot and regime stores

Both stores append what is saved and answer the same two reads. The latest record on or before
a date is chosen by its date alone and so is the first of equals; the recent ones are sorted
by date and then by timestamp.
-/
namespace MacroInvest.Macro
open DatedRows

structure MacroSnapshotStore where
  snapshots : List MacroSnapshotState := []
  deriving DecidableEq

namespace MacroSnapshotStore

def saveSnapshot (store : MacroSnapshotStore) (snapshot : MacroSnapshotState) :
    MacroSnapshotStore := ⟨store.snapshots ++ [snapshot]⟩

def getLatestOnOrBefore (store : MacroSnapshotStore) (asOfDate : Date) :
    Option MacroSnapshotState :=
  latestOnOrBefore MacroSnapshotState.asOfDate store.snapshots asOfDate

end MacroSnapshotStore

structure MacroRegimeStore where
  regimes : List MacroRegime := []
  deriving DecidableEq

namespace MacroRegimeStore

def saveRegime (store : MacroRegimeStore) (regime : MacroRegime) : MacroRegimeStore :=
  ⟨store.regimes ++ [regime]⟩

def getLatestOnOrBefore (store : MacroRegimeStore) (asOfDate : Date) : Option MacroRegime :=
  latestOnOrBefore MacroRegime.asOfDate store.regimes asOfDate

def listRecent (store : MacroRegimeStore) (asOfDate : Date) (limit : ℤ := 10) :
    List MacroRegime :=
  recentFirst MacroRegime.asOfDate MacroRegime.regimeTimestamp store.regimes asOfDate limit

def saveAll (regimes : List MacroRegime) : MacroRegimeStore := regimes.foldl saveRegime {}

theorem saveAll_regimes (regimes : List MacroRegime) : (saveAll regimes).regimes = regimes := by
  induction regimes using List.reverseRecOn with
  | nil => rfl
  | append_singleton regimes regime ih =>
    rw [saveAll,List.foldl_concat]
    show (saveAll regimes).regimes ++ [regime] = _
    rw [ih]

/-- What every reader is promised: both reads give the regime saved last for the last date. -/
def ReadsNewest (store : MacroRegimeStore) (d : Date) : Prop :=
  ∃ r, store.getLatestOnOrBefore d = some r ∧ (store.listRecent d 1).head? = some r ∧
    LastSavedAtLatest MacroRegime.asOfDate store.regimes d r

/-- `listRecent` keeps the promise always, `getLatestOnOrBefore` only for a date saved once. -/
theorem reads_law (regimes : List MacroRegime)
    (hstamp : regimes.Pairwise (fun a b => a.regimeTimestamp < b.regimeTimestamp))
    (d : Date) (hd : ∃ r ∈ regimes, r.asOfDate ≤ d) :
    (ReadsNewest (saveAll regimes) d ↔
      (atLatestDate MacroRegime.asOfDate regimes d).length = 1) ∧
    ∃ r, ((saveAll regimes).listRecent d 1).head? = some r ∧
      LastSavedAtLatest MacroRegime.asOfDate regimes d r := by
  obtain ⟨r,hr⟩ := exists_head_recentFirst MacroRegime.regimeTimestamp hd
  rw [ReadsNewest,getLatestOnOrBefore,listRecent,saveAll_regimes]
  exact ⟨reads_agree_iff hstamp hd,r,hr,recentFirst_lastSaved hstamp hr⟩

end MacroRegimeStore

section Rerun

def newYear : Date := ⟨738886,by decide,by decide⟩

/-- A regime built from a snapshot without data, as a run of the seeder leaves it. -/
def unclearRegime (regimeId : String) (timestamp : ℤ) : MacroRegime where
  regimeId := regimeId
  asOfDate := newYear
  regimeTimestamp := timestamp
  regimeLabel := .unclear
  regimeFamily := .uncertain
  supportingSnapshotId := "s"
  supportingStates := []
  confidence := .low
  freshnessStatus := .unknown
  degradedStatus := .missing
  missingInputs := []
  quantScores := none
  rationaleSummary := ""
  warnings := []
  labelFamilyAligned := rfl
  snapshotNamed := by decide

def yearEnd : Date := ⟨738885,by decide,by decide⟩

def secondDay : Date := ⟨738887,by decide,by decide⟩

/-- The last day of the old year is filled in late and twice. -/
def backfilledRuns : List MacroRegime :=
  [unclearRegime "a" 1,{ unclearRegime "b" 2 with asOfDate := secondDay },
    { unclearRegime "c" 3 with asOfDate := yearEnd },
    { unclearRegime "d" 4 with asOfDate := yearEnd }]

theorem MacroRegimeStore.reads_law_backfilled :
    ReadsNewest (saveAll backfilledRuns) newYear ∧
    ∃ r, ((saveAll backfilledRuns).listRecent newYear 1).head? = some r ∧
      LastSavedAtLatest MacroRegime.asOfDate backfilledRuns newYear r := by
  obtain ⟨hiff,hlast⟩ := reads_law backfilledRuns (by decide +kernel) newYear
    ⟨_,List.mem_cons_self,le_rfl⟩
  exact ⟨hiff.mpr (by decide +kernel),hlast⟩

theorem MacroRegimeStore.rerun_unseen : ¬ ∀ regimes : List MacroRegime,
    regimes.Pairwise (fun a b => a.regimeTimestamp < b.regimeTimestamp) →
    ∀ d, (∃ r ∈ regimes, r.asOfDate ≤ d) → ReadsNewest (saveAll regimes) d := by
  intro h
  obtain ⟨r,hlatest,hrecent,-⟩ := h [unclearRegime "a" 1,unclearRegime "b" 2]
    (by decide +kernel) newYear ⟨_,List.mem_cons_self,le_rfl⟩
  rw [listRecent,head_recentFirst] at hrecent
  rw [← hlatest] at hrecent
  exact absurd hrecent (by decide +kernel)

end Rerun

end MacroInvest.Macro
