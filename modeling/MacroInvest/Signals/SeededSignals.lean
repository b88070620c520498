import MacroInvest.Macro.SeedLog
import MacroInvest.Signals.RegimeGrounded

/-! # What comes of seeded regimes

The seeder only appends, and the reads take the first regime of a day, so what was answered for a
day stays. No call to buy or to sell comes of a seeded regime, and the history tells of each the
data of its own call beside the label of the call that seeded first that day.
-/
namespace MacroInvest.Signals
open Macro DatedRows CallRun

theorem getLatestSignals_eq (stores : SeededStores) (today : Date) (country runId : String)
    (now : ℤ) : getLatestSignals stores.service today country runId now =
      (stores.regimes.getLatestOnOrBefore today).map (groundedResponse · country runId now) := by
  cases h : stores.regimes.getLatestOnOrBefore today <;>
    simp [getLatestSignals,SeededStores.service,h]

section Refresh

/-- A call of the seeder leaves the regimes that were stored in front. -/
theorem seed_regimes (stores : SeededStores) (call : SeedCall) :
    stores.regimes.regimes <+: (stores.seed call).1.regimes.regimes := by
  unfold SeededStores.seed
  simp only
  split
  · exact List.prefix_rfl
  · split
    · exact List.prefix_rfl
    · split
      · exact List.prefix_rfl
      · split
        · exact List.prefix_rfl
        · exact List.prefix_append _ _

theorem run_regimes (stores : SeededStores) (calls : List SeedCall) :
    stores.regimes.regimes <+: (final SeededStores.seed stores calls).regimes.regimes := by
  induction calls using List.reverseRecOn with
  | nil => exact List.prefix_rfl
  | append_singleton calls call ih =>
    rw [final_concat]
    exact ih.trans (seed_regimes _ call)

/-- A regime that leads its own day is read again whatever is seeded after it. -/
theorem getLatest_kept {stores : SeededStores} {d : Date} {regime : MacroRegime}
    (h : stores.regimes.getLatestOnOrBefore d = some regime) (hd : regime.asOfDate = d)
    (more : List SeedCall) :
    (final SeededStores.seed stores more).regimes.getLatestOnOrBefore d = some regime := by
  obtain ⟨saved,hsaved⟩ := run_regimes stores more
  rw [MacroRegimeStore.getLatestOnOrBefore] at h
  rw [MacroRegimeStore.getLatestOnOrBefore,← hsaved]
  exact latestOnOrBefore_append h hd saved

/-- Once the route has answered with a regime of the day itself, no later call of the seeder,
forced or not, changes what it or the signals route answers for that day. -/
theorem refresh_unseen (calls more : List SeedCall) {d : Date} {response : RegimeLatestResponse}
    (h : getLatestRegime (final SeededStores.seed {} calls).service d = .ok response)
    (hd : response.asOfDate = d) (country runId : String) (now : ℤ) :
    getLatestRegime (final SeededStores.seed {} (calls ++ more)).service d = .ok response ∧
      getLatestSignals (final SeededStores.seed {} (calls ++ more)).service d country runId now =
        getLatestSignals (final SeededStores.seed {} calls).service d country runId now := by
  rw [final_append]
  generalize final SeededStores.seed {} calls = stores at h ⊢
  cases hregime : stores.regimes.getLatestOnOrBefore d with
  | none => simp [getLatestRegime,SeededStores.service,hregime] at h
  | some regime =>
    simp only [getLatestRegime,SeededStores.service,hregime,Except.ok.injEq] at h
    subst h
    have hkept := getLatest_kept hregime hd more
    rw [getLatestSignals_eq,getLatestSignals_eq,hkept,hregime]
    simp [getLatestRegime,SeededStores.service,hkept]

/-- The seeding at startup, while the database is down. -/
def startupWithoutDatabase : SeedCall where
  asOfDate := newYear
  rows := none
  forceRefresh := false
  observationsId := ⟨"o-1",by decide⟩
  fetchedAt := 0
  snapshotId := ⟨"s-1",by decide⟩
  snapshotTimestamp := 0
  fresh := ⟨"r-1",1⟩

/-- The hourly refresh of the same day, whose query is refused again. -/
def refusedRefresh : SeedCall :=
  { startupWithoutDatabase with
    forceRefresh := true
    observationsId := ⟨"o-2",by decide⟩
    fetchedAt := 1
    snapshotId := ⟨"s-2",by decide⟩
    snapshotTimestamp := 1
    fresh := ⟨"r-2",1⟩ }

/-- A refresh whose query answers. -/
def refreshWithYield : SeedCall where
  asOfDate := newYear
  rows := some [("T10Y",some 4.2)]
  forceRefresh := true
  observationsId := ⟨"o-3",by decide⟩
  fetchedAt := Features.dayStart newYear
  snapshotId := ⟨"s-3",by decide⟩
  snapshotTimestamp := 2
  fresh := ⟨"r-3",2⟩

theorem refresh_unseen_refusedQueries : ∃ response,
    getLatestRegime (final SeededStores.seed {} [startupWithoutDatabase]).service newYear =
      .ok response ∧ response.status = "bootstrap" ∧
    getLatestRegime (final SeededStores.seed {} ([startupWithoutDatabase] ++
      [refusedRefresh,refusedRefresh])).service newYear = .ok response ∧
    getLatestRegime (final SeededStores.seed {} ([startupWithoutDatabase] ++
      [refusedRefresh,startupWithoutDatabase,refreshWithYield])).service newYear =
        .ok response := by
  refine ⟨_,rfl,rfl,?_,?_⟩
  · exact (refresh_unseen [startupWithoutDatabase] [refusedRefresh,refusedRefresh]
      (d := newYear) rfl rfl "US" "run" 2).1
  · exact (refresh_unseen [startupWithoutDatabase]
      [refusedRefresh,startupWithoutDatabase,refreshWithYield] (d := newYear) rfl rfl
      "US" "run" 2).1

end Refresh

section Signals
variable {g : Seeding} {regime : MacroRegime}

theorem seedLabel_poor (call : SeedCall) : seedLabel call ∈ [RegimeLabel.mixed,.unclear] := by
  unfold seedLabel
  cases call.usedRealData <;> simp

/-- The signals that come of a day led by this seeding. -/
structure Undirected (g : Seeding) (response : SignalsLatestResponse) : Prop where
  asOfDate : response.asOfDate = g.asOfDate.isoformat
  label : response.regimeLabel = (seedLabel g.call).value
  buys : response.buyCount = 0
  sells : response.sellCount = 0
  status : response.status = "degraded"
  caveat : ∀ call ∈ response.signals, ¬Directional call.signalType ∧ call.isDegraded = true ∧
    call.caveat = some (if g.call.usedRealData then
      "Grounding regime is non-directional (mixed). " ++
        "No asset-level signal can be derived with meaningful confidence."
    else "Signal derived from bootstrap/synthetic regime data. " ++
        "This is not a production signal.")

theorem undirected_of (h : RegimeOf g regime) (hown : g.source = g.call)
    (country runId : String) (now : ℤ) :
    Undirected g (groundedResponse regime country runId now) := by
  have hpoor : regime.regimeLabel ∈ [RegimeLabel.mixed,.unclear] := by
    rw [h.label]
    exact seedLabel_poor _
  have hdegraded : regimeIsDegraded regime = true := by
    simp [regimeIsDegraded,h.confidence]
  have hcalls : ∀ call ∈ (groundedResponse regime country runId now).signals,
      ¬Directional call.signalType ∧ call.isDegraded = true ∧
        call.caveat = regimeCaveat regime := by
    intro call hcall
    obtain ⟨rule,hrule,rfl⟩ := mem_response.mp hcall
    exact ⟨not_directional _ hpoor rule hrule,hdegraded,rfl⟩
  have hnone : ∀ t, Directional t →
      countOf (groundedResponse regime country runId now).signals t = 0 := by
    intro t ht
    refine List.countP_eq_zero.mpr ?_
    intro call hcall
    have hnot := (hcalls call hcall).1
    intro heq
    rw [of_decide_eq_true heq] at hnot
    exact hnot ht
  refine ⟨?_,?_,hnone .buy trivial,hnone .sell trivial,?_,?_⟩
  · rw [groundedResponse,h.asOfDate]
  · rw [groundedResponse,h.label,Seeding.label,hown]
  · have hany := any_degraded regime runId now
    simp only [groundedResponse,hany,hdegraded,if_true]
  · intro call hcall
    obtain ⟨hnot,hflag,hcaveat⟩ := hcalls call hcall
    refine ⟨hnot,hflag,?_⟩
    rw [hcaveat,regimeCaveat,isSeeded,h.metadata,h.label,Seeding.label,hown,seedLabel,seedMetadata]
    cases g.call.usedRealData <;> rfl

/-- What the history tells of a regime: the flag of the call that seeded it, and the label of the
call that seeded first that day. -/
structure Listed (log : List Seeding) (record : HistoricalRegimeRecord) (g : Seeding) : Prop where
  mem : g ∈ log
  regimeId : record.regimeId = g.call.fresh.regimeId
  asOfDate : record.asOfDate = g.asOfDate
  first : firstAt SeedCall.asOfDate (log.map Seeding.call) g.asOfDate = some g.source
  isSeeded : record.isSeeded = !g.call.usedRealData
  label : record.regimeLabel = (seedLabel g.source).value
  truthful : (record.isSeeded = true ↔ record.regimeLabel = "unclear") ↔
    g.call.usedRealData = g.source.usedRealData

theorem exists_listed {stores : SeededStores} {log : List Seeding} (h : Follows stores log)
    {d : Date} {limit : ℤ} {record : HistoricalRegimeRecord}
    (hrecord : record ∈
      (buildRegimeHistoryBundle (stores.regimes.listRecent d limit) d).records) :
    ∃ g, Listed log record g := by
  obtain ⟨regime,hregime,rfl⟩ := List.mem_map.mp hrecord
  have hstored : regime ∈ stores.regimes.regimes := mem_of_mem_recentFirst hregime
  obtain ⟨g,hg,hof⟩ := Fallible.exists_left h.regimes hstored
  refine ⟨g,hg,hof.regimeId,hof.asOfDate,h.first g hg,?_,?_,?_⟩
  all_goals simp only [regimeToHistoricalRecord,hof.metadata,hof.label,Seeding.label]
  · cases g.call.usedRealData <;> rfl
  · unfold seedLabel
    cases g.call.usedRealData <;> cases g.source.usedRealData <;> decide

end Signals

/-- After any run of the seeder the signals of a day are without direction, and each record of
the history tells of two calls. -/
theorem seeded_signals (calls : List SeedCall) (today : Date) (country runId : String)
    (now limit : ℤ) :
    (match latestOnOrBefore Seeding.asOfDate (final seedStep [] calls) today with
      | none => getLatestSignals (final SeededStores.seed {} calls).service today country runId
          now = none
      | some g => ∃ response, Undirected g response ∧ getLatestSignals
          (final SeededStores.seed {} calls).service today country runId now = some response) ∧
    ∀ record ∈ (buildRegimeHistoryBundle
        ((final SeededStores.seed {} calls).regimes.listRecent today limit) today).records,
      ∃ g, Listed (final seedStep [] calls) record g := by
  obtain ⟨hfollows,-⟩ := run_follows calls
  refine ⟨?_,fun record hrecord => exists_listed hfollows hrecord⟩
  have hlatest := hfollows.latest today
  have hown := fun g => hfollows.own (d := today) (g := g)
  rw [getLatestSignals_eq]
  generalize latestOnOrBefore Seeding.asOfDate (final seedStep [] calls) today = g
    at hlatest hown ⊢
  generalize (final SeededStores.seed {} calls).regimes.getLatestOnOrBefore today = regime
    at hlatest ⊢
  cases hlatest with
  | none => rfl
  | some hregime => exact ⟨_,undirected_of hregime (hown _ rfl) country runId now,rfl⟩

example : (final SeededStores.seed {} [startupWithoutDatabase,refusedRefresh,
    refreshWithYield]).regimes.regimes.map
      (fun r => (r.regimeLabel,r.metadata.lookup "seeded")) =
    [(.unclear,some "true"),(.unclear,some "true"),(.unclear,some "false")] := by rfl

end MacroInvest.Signals
