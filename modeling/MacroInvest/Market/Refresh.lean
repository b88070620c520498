import MacroInvest.Market.Feeds

/-! # Refreshing the tick table

One refresh deletes and re-inserts in a single transaction. The delete reaches back to the
earliest timestamp of the whole batch for every ticker in it, the insert brings back what
each ticker's own download held. A bar between the two is lost; the theorem says when there
is none. What runs after the commit only reads the batch and is not modelled.
-/
namespace MacroInvest.Market
open Broker Fallible FirstMax WindowTable

/-- The transaction: the window of the batch is deleted, the batch copied in. -/
def refreshTransaction (ticks : TickTable) (rows : List OHLCVRow) (minTs : ℤ) :
    Except DbError TickTable :=
  (ticks.deleteFrom (rows.map OHLCVRow.ticker) minTs).copy rows

/-- The table after the call, and the number of rows returned or the exception raised. -/
def fetchLiveMarketData (f : Feeds) (ticks : TickTable) : TickTable × Except DbError ℕ :=
  let rows := allRows f ticks
  match (rows.map OHLCVRow.timestamp).min? with
  | none => (ticks,.ok 0)
  | some minTs =>
    match refreshTransaction ticks rows minTs with
    | .ok ticks' => (ticks',.ok rows.length)
    | .error exc => (ticks,.error exc)

/-- A stored row is the copy of a fetched one. -/
structure Copies (r : OHLCVRow) (t : TickRow) : Prop where
  timestamp : t.timestamp = r.timestamp
  ticker : t.ticker.val = r.ticker
  openPrice : t.openPrice.val = numericRound 4 r.openPrice
  highPrice : t.highPrice.val = numericRound 4 r.highPrice
  lowPrice : t.lowPrice.val = numericRound 4 r.lowPrice
  closePrice : t.closePrice.val = numericRound 4 r.closePrice
  volume : t.volume.val = r.volume
  source : t.source = r.source

theorem copies_of_castTick {r : OHLCVRow} {t : TickRow} (hfits : r.ticker.length ≤ 10)
    (h : castTick r = .ok t) : Copies r t := by
  obtain ⟨ticker,hticker,h⟩ := ok_of_bind h
  obtain ⟨openPrice,hopen,h⟩ := ok_of_bind h
  obtain ⟨highPrice,hhigh,h⟩ := ok_of_bind h
  obtain ⟨lowPrice,hlow,h⟩ := ok_of_bind h
  obtain ⟨closePrice,hclose,h⟩ := ok_of_bind h
  obtain ⟨volume,hvolume,h⟩ := ok_of_bind h
  cases h
  have hval : volume.val = r.volume := by
    unfold bigint at hvolume
    split at hvolume
    · cases hvolume
      rfl
    · cases hvolume
  exact ⟨rfl,varchar_val hfits hticker,numeric_val hopen,numeric_val hhigh,numeric_val hlow,
    numeric_val hclose,hval,rfl⟩

def OHLCVRow.SameKey (r : OHLCVRow) (t : TickRow) : Prop :=
  r.ticker = t.ticker.val ∧ r.timestamp = t.timestamp

instance (r : OHLCVRow) (t : TickRow) : Decidable (r.SameKey t) :=
  inferInstanceAs (Decidable (_ ∧ _))

/-- Every stored row whose key was not fetched is still stored. -/
def NoBarLost (rows : List OHLCVRow) (ticks ticks' : TickTable) : Prop :=
  ∀ t ∈ ticks, (∀ r ∈ rows, ¬r.SameKey t) → t ∈ ticks'

def FetchedStored (rows : List OHLCVRow) (ticks' : TickTable) : Prop :=
  ∀ r ∈ rows, ∃ t ∈ ticks', Copies r t

/-- From the earliest timestamp of the batch on, the batch holds every stored key of its
tickers. -/
def Covered (rows : List OHLCVRow) (ticks : TickTable) : Prop :=
  ∀ t ∈ ticks, (∃ r ∈ rows, r.ticker = t.ticker.val) → (∃ r ∈ rows, r.timestamp ≤ t.timestamp) →
    ∃ r ∈ rows, r.SameKey t

instance (rows : List OHLCVRow) (ticks : TickTable) : Decidable (Covered rows ticks) :=
  inferInstanceAs (Decidable (∀ t ∈ ticks, _))

section Copied
variable {rows : List OHLCVRow} {stored : TickTable} (hcopies : List.Forall₂ Copies rows stored)
include hcopies

/-- A text in the batch is a stored ticker, because every ticker of the batch fits. -/
theorem copied_ticker_iff (t : TickRow) : t.ticker ∈ stored.map TickRow.ticker ↔
    ∃ r ∈ rows, r.ticker = t.ticker.val := by
  rw [List.mem_map]
  constructor
  · rintro ⟨u,hu,hticker⟩
    obtain ⟨r,hr,hc⟩ := exists_left hcopies hu
    exact ⟨r,hr,hc.ticker.symm.trans (congrArg Varchar.val hticker)⟩
  · rintro ⟨r,hr,hticker⟩
    obtain ⟨u,hu,hc⟩ := exists_right hcopies hr
    exact ⟨u,hu,Varchar.ext (hc.ticker.trans hticker)⟩

theorem copied_key_iff (t : TickRow) : (∃ r ∈ rows, r.SameKey t) ↔
    ∃ u ∈ stored, WindowTable.SameKey TickRow.ticker TickRow.timestamp u t := by
  constructor
  · rintro ⟨r,hr,hticker,htime⟩
    obtain ⟨u,hu,hc⟩ := exists_right hcopies hr
    exact ⟨u,hu,Varchar.ext (hc.ticker.trans hticker),hc.timestamp.trans htime⟩
  · rintro ⟨u,hu,hticker,htime⟩
    obtain ⟨r,hr,hc⟩ := exists_left hcopies hu
    exact ⟨r,hr,hc.ticker.symm.trans (congrArg Varchar.val hticker),hc.timestamp.symm.trans htime⟩

end Copied

theorem copy_ok {ticks ticks' : TickTable} {rows : List OHLCVRow}
    (hfits : ∀ r ∈ rows, r.ticker.length ≤ 10) (h : ticks.copy rows = .ok ticks') :
    ∃ stored, List.Forall₂ Copies rows stored ∧ ticks' = ticks ++ stored := by
  obtain ⟨stored,hstored,h⟩ := ok_of_bind h
  cases h
  refine ⟨stored,?_,rfl⟩
  refine List.Forall₂.imp ?_ ((List.forall₂_and_left _ _).mpr ⟨hfits,forall₂_of_mapM hstored⟩)
  intro r t hrt
  exact copies_of_castTick hrt.1 hrt.2

/-- The copied rows of a successful transaction; the table is the replaced window. -/
theorem refreshTransaction_ok {ticks ticks' : TickTable} {rows : List OHLCVRow} {minTs : ℤ}
    (hfits : ∀ r ∈ rows, r.ticker.length ≤ 10)
    (h : refreshTransaction ticks rows minTs = .ok ticks') :
    ∃ stored, List.Forall₂ Copies rows stored ∧
      ticks' = replaceFrom TickRow.ticker TickRow.timestamp ticks minTs stored := by
  obtain ⟨stored,hcopies,rfl⟩ := copy_ok hfits h
  refine ⟨stored,hcopies,?_⟩
  rw [TickTable.deleteFrom,replaceFrom]
  congr 1
  refine List.filter_congr ?_
  intro t _
  rw [decide_eq_decide,InWindow,copied_ticker_iff hcopies,List.mem_map]

/-- What a committed batch leaves: all of itself, and of the rest what its window spares. -/
theorem refreshTransaction_iff {ticks ticks' : TickTable} {rows : List OHLCVRow} {minTs : ℤ}
    (hfits : ∀ r ∈ rows, r.ticker.length ≤ 10)
    (hmin : (rows.map OHLCVRow.timestamp).min? = some minTs)
    (h : refreshTransaction ticks rows minTs = .ok ticks') :
    FetchedStored rows ticks' ∧ (NoBarLost rows ticks ticks' ↔ Covered rows ticks) := by
  obtain ⟨stored,hcopies,rfl⟩ := refreshTransaction_ok hfits h
  have hwindow : ∀ t, InWindow TickRow.ticker TickRow.timestamp stored minTs t ↔
      (∃ r ∈ rows, r.ticker = t.ticker.val) ∧ ∃ r ∈ rows, r.timestamp ≤ t.timestamp := by
    intro t
    obtain ⟨hmem,hle⟩ := List.min?_eq_some_iff.mp hmin
    obtain ⟨first,hfirst,rfl⟩ := List.mem_map.mp hmem
    refine and_congr (copied_ticker_iff hcopies t) ?_
    constructor
    · intro h
      exact ⟨first,hfirst,h⟩
    · rintro ⟨r,hr,hle'⟩
      exact (hle _ (List.mem_map_of_mem hr)).trans hle'
  have hfresh : ∀ t, (∀ r ∈ rows, ¬r.SameKey t) ↔
      ∀ u ∈ stored, ¬WindowTable.SameKey TickRow.ticker TickRow.timestamp u t := by
    intro t
    simpa using not_congr (copied_key_iff hcopies t)
  constructor
  · intro r hr
    obtain ⟨u,hu,hc⟩ := exists_right hcopies hr
    exact ⟨u,mem_replaceFrom.mpr (.inr hu),hc⟩
  · have hkeeps := keeps_iff TickRow.ticker TickRow.timestamp ticks stored minTs
    simp only [hwindow,and_imp] at hkeeps
    simpa only [NoBarLost,Covered,hfresh,copied_key_iff hcopies] using hkeeps

theorem fetchLiveMarketData_cases (f : Feeds) (ticks : TickTable) :
    (allRows f ticks = [] ∧ fetchLiveMarketData f ticks = (ticks,.ok 0)) ∨
    (∃ minTs ticks', ((allRows f ticks).map OHLCVRow.timestamp).min? = some minTs ∧
      refreshTransaction ticks (allRows f ticks) minTs = .ok ticks' ∧
      fetchLiveMarketData f ticks = (ticks',.ok (allRows f ticks).length)) ∨
    ∃ exc, fetchLiveMarketData f ticks = (ticks,.error exc) := by
  cases hmin : ((allRows f ticks).map OHLCVRow.timestamp).min? with
  | none =>
    refine .inl ⟨by simpa using hmin,?_⟩
    simp only [fetchLiveMarketData,hmin]
  | some minTs =>
    cases htx : refreshTransaction ticks (allRows f ticks) minTs with
    | ok ticks' =>
      refine .inr (.inl ⟨minTs,ticks',rfl,htx,?_⟩)
      simp only [fetchLiveMarketData,hmin,htx]
    | error exc =>
      refine .inr (.inr ⟨exc,?_⟩)
      simp only [fetchLiveMarketData,hmin,htx]

/-- A refresh that commits stores the batch, and loses no bar exactly when the batch covers
its own window; a refresh that raises changes nothing. -/
theorem refresh_law (f : Feeds) (ticks ticks' : TickTable) (r : Except DbError ℕ)
    (h : fetchLiveMarketData f ticks = (ticks',r)) :
    (∀ n, r = .ok n → (FetchedStored (allRows f ticks) ticks' ∧
        NoBarLost (allRows f ticks) ticks ticks' ↔ Covered (allRows f ticks) ticks)) ∧
    ∀ exc, r = .error exc → ticks' = ticks := by
  rcases fetchLiveMarketData_cases f ticks with
    ⟨hempty,he⟩ | ⟨minTs,stored,hmin,htx,he⟩ | ⟨exc,he⟩
  · rw [he] at h
    cases h
    rw [hempty]
    refine ⟨?_,nofun⟩
    intro n _
    constructor
    · intro _ t _ hticker
      obtain ⟨r,hr,_⟩ := hticker
      cases hr
    · intro _
      exact ⟨nofun,fun t ht _ => ht⟩
  · rw [he] at h
    cases h
    obtain ⟨hstored,hiff⟩ := refreshTransaction_iff (fun r => allRows_fits) hmin htx
    refine ⟨?_,nofun⟩
    intro n _
    exact ⟨fun h => hiff.mp h.2,fun h => ⟨hstored,hiff.mpr h⟩⟩
  · rw [he] at h
    cases h
    exact ⟨nofun,fun _ _ => rfl⟩

/-- A daily bar at midnight UTC, in microseconds. -/
def dailyBar (day : ℤ) (close : ℚ) : HistoryBar :=
  ⟨day * 86400000000,some close,some close,some close,some close,some 1000⟩

/-- Only the history endpoint answers. -/
def historyFeeds (history : String → List HistoryBar) : Feeds where
  alpacaAvailable := false
  alpaca _ _ := .failed
  kisAvailable := false
  history symbol _ := some (history symbol)
  tableReadable _ _ := true

/-- Three sessions of AAPL and BND. -/
def openWeek : Feeds := historyFeeds (fun symbol =>
  if symbol = "AAPL" then [dailyBar 20610 195,dailyBar 20611 196,dailyBar 20612 197]
  else if symbol = "BND" then [dailyBar 20610 73,dailyBar 20611 73.1,dailyBar 20612 73.2]
  else [])

/-- The same, but the frame of BND comes back empty and its latest stored row stands in. -/
def staleBond : Feeds := historyFeeds (fun symbol =>
  if symbol = "AAPL" then [dailyBar 20610 195,dailyBar 20611 196,dailyBar 20612 197] else [])

def weekStored : TickTable := (fetchLiveMarketData openWeek []).1

theorem refresh_law_openWeek :
    (fetchLiveMarketData openWeek weekStored).2 = .ok 6 ∧
    NoBarLost (allRows openWeek weekStored) weekStored
      (fetchLiveMarketData openWeek weekStored).1 := by
  have hok : (fetchLiveMarketData openWeek weekStored).2 = .ok 6 := by decide +kernel
  have hcovered : Covered (allRows openWeek weekStored) weekStored := by decide +kernel
  exact ⟨hok,(((refresh_law openWeek weekStored _ _ rfl).1 6 hok).mpr hcovered).2⟩

/-- The bars of BND for the first two days are gone. -/
theorem refresh_loses_bars :
    (fetchLiveMarketData staleBond weekStored).2 = .ok 4 ∧
    (weekStored.filter (fun t => t.ticker.val = "BND")).length = 3 ∧
    ((fetchLiveMarketData staleBond weekStored).1.filter (fun t => t.ticker.val = "BND")).length =
      1 ∧
    ¬NoBarLost (allRows staleBond weekStored) weekStored
      (fetchLiveMarketData staleBond weekStored).1 := by
  refine ⟨by decide +kernel,by decide +kernel,by decide +kernel,?_⟩
  intro h
  have hlost : ∃ t ∈ weekStored, (¬∃ r ∈ allRows staleBond weekStored, r.SameKey t) ∧
      t ∉ (fetchLiveMarketData staleBond weekStored).1 := by decide +kernel
  obtain ⟨t,ht,hfresh,hgone⟩ := hlost
  exact hgone (h t ht (fun r hr hkey => hfresh ⟨r,hr,hkey⟩))

end MacroInvest.Market
