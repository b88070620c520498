import MacroInvest.Market.Refresh

/-! # The requested window of daily bars

A request asks for the days since a start date and for as many bars as days. The provider
answers from the start on in ascending order, so a limit below the number of bars cuts off the
newest ones; the refresh then deletes the stored bars from its earliest row on.
-/
namespace MacroInvest.Market
open Broker Fallible FirstMax Retry WindowTable

def utcDay (t : ℤ) : ℤ := t / 86400000000

/-- Day number of 0001-01-01; days count from 1970-01-01. -/
def firstDay : ℤ := -719162

/-- The daily bars of one symbol: one a day, oldest first. -/
structure DailyBars where
  bars : List Bar
  ascending : bars.Pairwise (fun a b => utcDay a.t < utcDay b.t)

structure BarsRequest where
  timeframe : String
  start : ℤ
  limit : ℕ
  feed : String
  adjustment : String
  deriving DecidableEq, Repr

/-- The query of `fetch_alpaca_bars`; `none` when the start date raises `OverflowError`. -/
def barsRequest (now : ℤ) (days : ℕ) : Option BarsRequest :=
  if 999999999 < days + 4 ∨ utcDay now - (days + 4) < firstDay then none
  else some
    { timeframe := "1Day"
      start := utcDay now - (days + 4)
      limit := days
      feed := "iex"
      adjustment := "all" }

/-- The bars endpoint: from the start on, ascending, at most the limit. -/
def DailyBars.page (held : DailyBars) (request : BarsRequest) : List Bar :=
  (held.bars.filter (fun b => request.start ≤ utcDay b.t)).take request.limit

inductive Outcome where
  | failed
  | malformed
  | served
  deriving DecidableEq, Repr

/-- The provider's bars, and for each attempt the clock and what becomes of the request. -/
structure AlpacaProvider where
  held : String → DailyBars
  clock : String → ℕ → ℤ
  outcome : String → ℕ → Outcome

namespace AlpacaProvider
variable (provider : AlpacaProvider)

/-- What an attempt gets; a start date out of range raises like a body that does not decode. -/
def answer (days : ℕ) (usSymbol : String) (attempt : ℕ) : AlpacaAnswer :=
  match barsRequest (provider.clock usSymbol attempt) days, provider.outcome usSymbol attempt with
  | none, _ => .malformed
  | some _, .failed => .failed
  | some _, .malformed => .malformed
  | some request, .served => .bars ((provider.held usSymbol).page request)

/-- The provider's bars in the requested window. -/
def window (days : ℕ) (usSymbol : String) (attempt : ℕ) : List Bar :=
  (provider.held usSymbol).bars.filter
    (fun b => utcDay (provider.clock usSymbol attempt) - (days + 4) ≤ utcDay b.t)

def Served (days : ℕ) (usSymbol : String) (attempt : ℕ) : Prop :=
  barsRequest (provider.clock usSymbol attempt) days ≠ none ∧
    provider.outcome usSymbol attempt = .served

/-- The feeds of a refresh whose preferred adapter asks this provider for five days. -/
def feeds (f : Feeds) : Feeds := { f with alpaca := provider.answer 5 }

end AlpacaProvider

def IsNewest (b : Bar) (bars : List Bar) : Prop := b ∈ bars ∧ ∀ other ∈ bars, other.t ≤ b.t

section Window
variable {provider : AlpacaProvider} {days : ℕ} {usSymbol internalId : String} {attempt : ℕ}

theorem window_ascending :
    (provider.window days usSymbol attempt).Pairwise (fun a b => a.t < b.t) := by
  refine List.Pairwise.filter _ ((provider.held usSymbol).ascending.imp ?_)
  intro a b h
  by_contra hle
  exact absurd (Int.ediv_le_ediv (by decide) (not_lt.mp hle)) (not_le.mpr h)

theorem answer_of_served (h : provider.Served days usSymbol attempt) :
    provider.answer days usSymbol attempt =
      .bars ((provider.window days usSymbol attempt).take days) := by
  obtain ⟨hrequest,houtcome⟩ := h
  unfold AlpacaProvider.answer
  rw [houtcome]
  unfold barsRequest at hrequest ⊢
  split
  · rename_i hnone
    exact absurd hnone hrequest
  · rename_i hfailed
    cases hfailed
  · rename_i hmalformed
    cases hmalformed
  · rename_i request hsome _
    split at hsome
    · cases hsome
    · cases hsome
      rfl

theorem served_of_answer {l : List Bar} (h : provider.answer days usSymbol attempt = .bars l) :
    provider.Served days usSymbol attempt := by
  unfold AlpacaProvider.answer at h
  split at h
  · cases h
  · cases h
  · cases h
  · rename_i request hrequest houtcome
    exact ⟨by simp [hrequest],houtcome⟩

/-- The newest of ascending bars is on a page exactly when the page holds all of them. -/
theorem newest_mem_take_iff {bars : List Bar} (h : bars.Pairwise (fun a b => a.t < b.t))
    {newest : Bar} (hnewest : IsNewest newest bars) (n : ℕ) :
    newest ∈ bars.take n ↔ bars.length ≤ n := by
  constructor
  · intro hmem
    by_contra hlong
    rw [not_le] at hlong
    rw [← List.take_append_drop n bars] at h
    obtain ⟨last,hlast⟩ := List.exists_mem_of_length_pos (l := bars.drop n)
      (by rw [List.length_drop]; omega)
    have hlt := (List.pairwise_append.mp h).2.2 newest hmem last hlast
    exact absurd (hnewest.2 last (List.mem_of_mem_drop hlast)) (not_le.mpr hlt)
  · intro hlong
    rw [List.take_of_length_le hlong]
    exact hnewest.1

theorem exists_newest {bars : List Bar} (h : bars ≠ []) : ∃ newest, IsNewest newest bars := by
  have hsome : firstMax Bar.t bars ≠ none := by
    rw [Ne,firstMax_eq_none]
    exact h
  obtain ⟨newest,hnewest⟩ := Option.ne_none_iff_exists'.mp hsome
  exact ⟨newest,firstMax_mem hnewest,fun other hother => le_firstMax hnewest hother⟩

theorem toRow_injective : Function.Injective (Bar.toRow internalId) := by
  intro a b h
  cases a
  cases b
  simpa [Bar.toRow] using h

/-- Whenever the call succeeds, its rows include the newest bar of the requested window. -/
def NewestFetched (available : Bool) (provider : AlpacaProvider) (internalId usSymbol : String)
    (attempt days : ℕ) : Prop :=
  ∀ rows, fetchAlpacaBars available (provider.answer days usSymbol attempt) internalId =
      .ok (some rows) →
    ∀ newest, IsNewest newest (provider.window days usSymbol attempt) →
      newest.toRow internalId ∈ rows

theorem newestFetched_iff (available : Bool) :
    NewestFetched available provider internalId usSymbol attempt days ↔
    (available ∧ provider.Served days usSymbol attempt →
      (provider.window days usSymbol attempt).length ≤ days) := by
  constructor
  · rintro h ⟨havailable,hserved⟩
    by_contra hlong
    have hne : provider.window days usSymbol attempt ≠ [] := by
      rintro hnil
      rw [hnil] at hlong
      exact hlong (Nat.zero_le _)
    obtain ⟨newest,hnewest⟩ := exists_newest hne
    have hrow := h (((provider.window days usSymbol attempt).take days).map (Bar.toRow internalId))
      (by simp [fetchAlpacaBars,havailable,answer_of_served hserved]) newest hnewest
    rw [List.mem_map_of_injective toRow_injective] at hrow
    exact hlong ((newest_mem_take_iff window_ascending hnewest days).mp hrow)
  · intro h rows hrows newest hnewest
    have hserved : available ∧ provider.Served days usSymbol attempt := by
      unfold fetchAlpacaBars at hrows
      split at hrows
      · cases hrows
      · rename_i havailable
        split at hrows
        · cases hrows
        · cases hrows
        · rename_i l hl
          exact ⟨by simpa using havailable,served_of_answer hl⟩
    have hfetched : rows =
        ((provider.window days usSymbol attempt).take days).map (Bar.toRow internalId) := by
      simpa [fetchAlpacaBars,hserved.1,answer_of_served hserved.2] using hrows.symm
    rw [hfetched]
    exact List.mem_map_of_mem
      ((newest_mem_take_iff window_ascending hnewest days).mpr (h hserved))

end Window

section Refresh
variable {f : Feeds} {ticks ticks' : TickTable} {p : String × String}

theorem mem_allRows_of_live (hp : p ∈ liveTickers) {r : OHLCVRow} :
    r ∈ allRows f ticks ∧ r.ticker = p.1 ↔ r ∈ downloadTicker f ticks p := by
  have hone : ∀ q ∈ liveTickers, ∀ q' ∈ liveTickers, q.1 = q'.1 → q = q' := by decide +kernel
  constructor
  · rintro ⟨hr,hticker⟩
    obtain ⟨q,hq,hrq⟩ := List.mem_flatMap.mp hr
    rw [own_downloadTicker q r hrq] at hticker
    exact hone q hq p hp hticker ▸ hrq
  · intro hr
    exact ⟨List.mem_flatMap.mpr ⟨p,hp,hr⟩,own_downloadTicker p r hr⟩

theorem exists_latest {t : TickRow} (ht : t ∈ ticks) {internalId : String}
    (hown : t.ticker.val = internalId) :
    ∃ u, ticks.latest internalId = some u ∧ t.timestamp ≤ u.timestamp := by
  have hsome : ticks.latest internalId ≠ none := by
    rw [TickTable.latest,Ne,firstMax_eq_none]
    exact List.ne_nil_of_mem (List.mem_filter.mpr ⟨ht,by simpa using hown⟩)
  obtain ⟨u,hu⟩ := Option.ne_none_iff_exists'.mp hsome
  exact ⟨u,hu,le_latest hu ht hown⟩

/-- After a committed batch a ticker of it has the copied rows and what lies before them. -/
theorem committed_ticker {rows : List OHLCVRow} {minTs : ℤ}
    (hfits : ∀ r ∈ rows, r.ticker.length ≤ 10)
    (hmin : (rows.map OHLCVRow.timestamp).min? = some minTs)
    (h : refreshTransaction ticks rows minTs = .ok ticks') {internalId : String}
    (hin : ∃ r ∈ rows, r.ticker = internalId) {t : TickRow} (ht : t ∈ ticks')
    (hticker : t.ticker.val = internalId) :
    (∃ r ∈ rows, Copies r t) ∨ ∀ r ∈ rows, t.timestamp < r.timestamp := by
  obtain ⟨stored,hcopies,rfl⟩ := refreshTransaction_ok hfits h
  rcases mem_replaceFrom.mp ht with ⟨-,hout⟩ | hstored
  · right
    intro r hr
    have hgroup : t.ticker ∈ stored.map TickRow.ticker :=
      (copied_ticker_iff hcopies t).mpr (hticker ▸ hin)
    have hlt : t.timestamp < minTs := not_le.mp fun hle => hout ⟨hgroup,hle⟩
    exact hlt.trans_le ((List.min?_eq_some_iff.mp hmin).2 _ (List.mem_map_of_mem hr))
  · left
    obtain ⟨r,hr,hc⟩ := exists_left hcopies hstored
    exact ⟨r,hr,hc⟩

/-- The attempt that ends the download is one that the provider serves with bars. -/
structure ServedAt (provider : AlpacaProvider) (f : Feeds) (ticks : TickTable)
    (p : String × String) (attempt : ℕ) : Prop where
  available : f.alpacaAvailable
  inTime : attempt ≤ 2
  first : ∀ earlier < attempt, ∃ exc,
    fetchTickerOhlcv (provider.feeds f) ticks p.1 p.2 earlier = .error exc
  served : provider.Served 5 p.2 attempt
  bars : provider.window 5 p.2 attempt ≠ []

theorem downloadTicker_of_served {provider : AlpacaProvider} {attempt : ℕ}
    (hus : p.1 ∈ usTickers) (h : ServedAt provider f ticks p attempt) :
    downloadTicker (provider.feeds f) ticks p =
      ((provider.window 5 p.2 attempt).take 5).map (Bar.toRow p.1) := by
  have hrows : alpacaRows (provider.feeds f) p.1 p.2 attempt =
      .ok (some (((provider.window 5 p.2 attempt).take 5).map (Bar.toRow p.1))) := by
    simp [alpacaRows,AlpacaProvider.feeds,hus,h.available,fetchAlpacaBars,answer_of_served h.served]
  have hne : ((provider.window 5 p.2 attempt).take 5).map (Bar.toRow p.1) ≠ [] := by
    simpa using h.bars
  obtain ⟨first,rest,hcons⟩ := List.exists_cons_of_ne_nil hne
  have hfetch : fetchTickerOhlcv (provider.feeds f) ticks p.1 p.2 (0 + attempt) =
      .ok (((provider.window 5 p.2 attempt).take 5).map (Bar.toRow p.1)) := by
    rw [Nat.zero_add,fetchTickerOhlcv,hrows,hcons]
    rfl
  have hretry := (retry_ok_iff 2 2 0 _).mpr
    ⟨attempt,h.inTime,hfetch,fun j hj => by simpa using h.first j hj⟩
  rw [downloadTicker,hretry]

/-- The latest stored bar of the ticker is as new as the provider's newest bar, and no stored
bar newer than everything inserted for the ticker was deleted. -/
structure StaysCurrent (provider : AlpacaProvider) (p : String × String) (ticks ticks' : TickTable)
    (inserted : List OHLCVRow) : Prop where
  latestStored : ∀ newest, IsNewest newest (provider.held p.2).bars →
    ∃ t, ticks'.latest p.1 = some t ∧ newest.t ≤ t.timestamp
  newerKept : ∀ t ∈ ticks, t.ticker.val = p.1 →
    (∀ r ∈ inserted, r.ticker = p.1 → r.timestamp < t.timestamp) → t ∈ ticks'

/-- The window holds at most five bars, and one of them as new as any stored bar. -/
structure WindowFits (provider : AlpacaProvider) (p : String × String) (attempt : ℕ)
    (ticks : TickTable) : Prop where
  fits : (provider.window 5 p.2 attempt).length ≤ 5
  storedOlder : ∀ t ∈ ticks, t.ticker.val = p.1 →
    ∃ b ∈ provider.window 5 p.2 attempt, t.timestamp ≤ b.t

/-- A newest bar of a window that has bars is the newest bar of all. -/
theorem isNewest_window_iff {provider : AlpacaProvider} {days attempt : ℕ} {usSymbol : String}
    (h : provider.window days usSymbol attempt ≠ []) {newest : Bar} :
    IsNewest newest (provider.held usSymbol).bars ↔
      IsNewest newest (provider.window days usSymbol attempt) := by
  have hmono : ∀ a b : Bar, a.t ≤ b.t → utcDay a.t ≤ utcDay b.t :=
    fun a b hle => Int.ediv_le_ediv (by decide) hle
  obtain ⟨b,hb⟩ := List.exists_mem_of_ne_nil _ h
  obtain ⟨hbheld,hbstart⟩ := List.mem_filter.mp hb
  simp only [decide_eq_true_eq] at hbstart
  constructor
  · rintro ⟨hmem,hmax⟩
    refine ⟨List.mem_filter.mpr ⟨hmem,?_⟩,fun other ho => hmax other (List.mem_filter.mp ho).1⟩
    simpa using hbstart.trans (hmono b newest (hmax b hbheld))
  · rintro ⟨hmem,hmax⟩
    refine ⟨(List.mem_filter.mp hmem).1,fun other ho => ?_⟩
    by_cases hin : other ∈ provider.window days usSymbol attempt
    · exact hmax other hin
    · have hbefore : utcDay other.t <
          utcDay (provider.clock usSymbol attempt) - (days + 4) := by
        simpa [AlpacaProvider.window,ho,lt_sub_iff_add_lt] using hin
      by_contra hlt
      have hstart := (List.mem_filter.mp hmem).2
      simp only [decide_eq_true_eq] at hstart
      exact absurd (hmono newest other (not_le.mp hlt).le) (by omega)

section Served
variable {provider : AlpacaProvider} {attempt n : ℕ} (hp : p ∈ liveTickers) (hus : p.1 ∈ usTickers)
  (hserved : ServedAt provider f ticks p attempt)
include hp hus hserved

/-- What the refresh brings for the ticker are the first five bars of the window. -/
theorem mem_allRows_of_served {r : OHLCVRow} :
    r ∈ allRows (provider.feeds f) ticks ∧ r.ticker = p.1 ↔
      ∃ b ∈ (provider.window 5 p.2 attempt).take 5, b.toRow p.1 = r := by
  rw [mem_allRows_of_live hp,downloadTicker_of_served hus hserved,List.mem_map]

theorem inserted_before_iff {t : ℤ} :
    (∀ r ∈ allRows (provider.feeds f) ticks, r.ticker = p.1 → r.timestamp < t) ↔
      ∀ b ∈ (provider.window 5 p.2 attempt).take 5, b.t < t := by
  constructor
  · intro h b hb
    obtain ⟨hr,hticker⟩ := (mem_allRows_of_served hp hus hserved).mpr ⟨b,hb,rfl⟩
    exact h _ hr hticker
  · intro h r hr hticker
    obtain ⟨b,hb,rfl⟩ := (mem_allRows_of_served hp hus hserved).mp ⟨hr,hticker⟩
    exact h b hb

/-- A committed refresh stores these bars, and no row of the ticker lies after all of them. -/
theorem committed_of_served
    (h : fetchLiveMarketData (provider.feeds f) ticks = (ticks',.ok n)) :
    (∀ b ∈ (provider.window 5 p.2 attempt).take 5,
      ∃ t ∈ ticks', t.ticker.val = p.1 ∧ t.timestamp = b.t) ∧
    ∀ t ∈ ticks', t.ticker.val = p.1 →
      ∃ b ∈ (provider.window 5 p.2 attempt).take 5, t.timestamp ≤ b.t := by
  have hmem := fun r => mem_allRows_of_served hp hus hserved (r := r)
  obtain ⟨b,hb⟩ : ∃ b, b ∈ (provider.window 5 p.2 attempt).take 5 :=
    List.exists_mem_of_ne_nil _ (by simpa using hserved.bars)
  obtain ⟨hrow,hticker⟩ := (hmem (b.toRow p.1)).mpr ⟨b,hb,rfl⟩
  rcases fetchLiveMarketData_cases (provider.feeds f) ticks with
    ⟨hempty,-⟩ | ⟨minTs,stored,hmin,htx,he⟩ | ⟨exc,he⟩
  · rw [hempty] at hrow
    cases hrow
  · rw [he] at h
    cases h
    constructor
    · intro b' hb'
      obtain ⟨hr,-⟩ := (hmem (b'.toRow p.1)).mpr ⟨b',hb',rfl⟩
      obtain ⟨t,ht,hc⟩ := (refreshTransaction_iff (fun r => allRows_fits) hmin htx).1 _ hr
      exact ⟨t,ht,hc.ticker,hc.timestamp⟩
    · intro t ht hown
      rcases committed_ticker (fun r => allRows_fits) hmin htx ⟨_,hrow,hticker⟩ ht hown with
        ⟨r,hr,hc⟩ | hbefore
      · obtain ⟨b',hb',rfl⟩ := (hmem r).mp ⟨hr,hc.ticker.symm.trans hown⟩
        exact ⟨b',hb',hc.timestamp.le⟩
      · exact ⟨b,hb,(hbefore _ hrow).le⟩
  · rw [he] at h
    cases h

theorem staysCurrent_iff (h : fetchLiveMarketData (provider.feeds f) ticks = (ticks',.ok n)) :
    StaysCurrent provider p ticks ticks' (allRows (provider.feeds f) ticks) ↔
      WindowFits provider p attempt ticks := by
  obtain ⟨hstored,hlast⟩ := committed_of_served hp hus hserved h
  constructor
  · intro hcurrent
    constructor
    · obtain ⟨newest,hnewest⟩ := exists_newest hserved.bars
      obtain ⟨t,ht,hle⟩ := hcurrent.latestStored newest
        ((isNewest_window_iff hserved.bars).mpr hnewest)
      obtain ⟨htmem,htown⟩ := latest_mem ht
      obtain ⟨b,hb,htb⟩ := hlast t htmem htown
      have hbnewest : IsNewest b (provider.window 5 p.2 attempt) :=
        ⟨List.mem_of_mem_take hb,fun other ho => (hnewest.2 other ho).trans (hle.trans htb)⟩
      exact (newest_mem_take_iff window_ascending hbnewest 5).mp hb
    · intro t ht hown
      by_contra hnewer
      push Not at hnewer
      have hkept := hcurrent.newerKept t ht hown
        ((inserted_before_iff hp hus hserved).mpr fun b hb => hnewer b (List.mem_of_mem_take hb))
      obtain ⟨b,hb,hle⟩ := hlast t hkept hown
      exact absurd hle (not_le.mpr (hnewer b (List.mem_of_mem_take hb)))
  · rintro ⟨hfits,hold⟩
    have hall := List.take_of_length_le hfits
    constructor
    · intro newest hnewest
      have hwindow := (isNewest_window_iff hserved.bars).mp hnewest
      obtain ⟨t,ht,hown,hdate⟩ := hstored newest (by rw [hall]; exact hwindow.1)
      obtain ⟨u,hu,hle⟩ := exists_latest ht hown
      exact ⟨u,hu,hdate.ge.trans hle⟩
    · intro t ht hown hnewer
      obtain ⟨b,hb,hle⟩ := hold t ht hown
      have hlt := (inserted_before_iff hp hus hserved).mp hnewer b
        (by rw [hall]; exact hb)
      exact absurd hle (not_le.mpr hlt)

end Served

end Refresh

/-- A successful call returns the newest bar of its window exactly when the window holds no more
bars than days; a committed refresh keeps a ticker served by the provider current exactly when
its window holds at most five bars and no stored bar lies after them. -/
theorem newest_bar_law (provider : AlpacaProvider) :
    (∀ (available : Bool) (internalId usSymbol : String) (attempt days : ℕ),
      NewestFetched available provider internalId usSymbol attempt days ↔
        (available ∧ provider.Served days usSymbol attempt →
          (provider.window days usSymbol attempt).length ≤ days)) ∧
    ∀ (f : Feeds) (ticks ticks' : TickTable) (n : ℕ),
      fetchLiveMarketData (provider.feeds f) ticks = (ticks',.ok n) →
      ∀ p ∈ liveTickers, p.1 ∈ usTickers → ∀ attempt, ServedAt provider f ticks p attempt →
        (StaysCurrent provider p ticks ticks' (allRows (provider.feeds f) ticks) ↔
          WindowFits provider p attempt ticks) := by
  constructor
  · intro available internalId usSymbol attempt days
    exact newestFetched_iff available
  · intro f ticks ticks' n h p hp hus attempt hserved
    exact staysCurrent_iff hp hus hserved h

section TradingWeek

/-- A daily bar as the provider stamps it, at five in the morning UTC. -/
def alpacaBar (day : ℤ) (close : ℚ) : Bar :=
  ⟨day * 86400000000 + 18000000000,close,close,close,close,1000⟩

/-- Every request is served at noon of one day, AAPL has the given bars. -/
def noonProvider (today : ℤ) (held : DailyBars) : AlpacaProvider where
  held symbol := if symbol = "AAPL" then held else ⟨[],List.Pairwise.nil⟩
  clock _ _ := today * 86400000000 + 43200000000
  outcome _ _ := .served

def onlyAlpaca : Feeds := { historyFeeds (fun _ => []) with alpacaAvailable := true }

/-- Five sessions up to a Friday. -/
def oneWeek : DailyBars where
  bars := [alpacaBar 20612 195,alpacaBar 20613 196,alpacaBar 20614 197,alpacaBar 20615 198,
    alpacaBar 20616 199]
  ascending := by decide +kernel

/-- The three sessions before that week as well. -/
def tradingDays : DailyBars where
  bars := [alpacaBar 20607 192,alpacaBar 20608 193,alpacaBar 20609 194] ++ oneWeek.bars
  ascending := by decide +kernel

theorem servedAt_noon (held : DailyBars) (ticks : TickTable)
    (h : (noonProvider 20616 held).window 5 "AAPL" 0 ≠ []) :
    ServedAt (noonProvider 20616 held) onlyAlpaca ticks ("AAPL","AAPL") 0 where
  available := rfl
  inTime := by decide
  first := nofun
  served := by
    refine ⟨?_,rfl⟩
    show barsRequest (20616 * 86400000000 + 43200000000) 5 ≠ none
    decide
  bars := h

theorem newest_bar_law_oneWeek :
    NewestFetched true (noonProvider 20616 oneWeek) "AAPL" "AAPL" 0 5 ∧
    StaysCurrent (noonProvider 20616 oneWeek) ("AAPL","AAPL") []
      (fetchLiveMarketData ((noonProvider 20616 oneWeek).feeds onlyAlpaca) []).1
      (allRows ((noonProvider 20616 oneWeek).feeds onlyAlpaca) []) := by
  have hlength : ((noonProvider 20616 oneWeek).window 5 "AAPL" 0).length ≤ 5 := by decide +kernel
  have hbars : (noonProvider 20616 oneWeek).window 5 "AAPL" 0 ≠ [] := by decide +kernel
  have hok : (fetchLiveMarketData ((noonProvider 20616 oneWeek).feeds onlyAlpaca) []).2 =
      .ok 5 := by decide +kernel
  obtain ⟨hfetch,hrefresh⟩ := newest_bar_law (noonProvider 20616 oneWeek)
  refine ⟨(hfetch true "AAPL" "AAPL" 0 5).mpr fun _ => hlength,?_⟩
  exact (hrefresh onlyAlpaca [] _ 5 (Prod.ext rfl hok) ("AAPL","AAPL") (by decide +kernel)
    (by decide +kernel) 0 (servedAt_noon oneWeek [] hbars)).mpr
    ⟨hlength,fun t ht => absurd ht List.not_mem_nil⟩

/-- The bar of the last Friday, as an earlier refresh stored it. -/
def fridayStored : TickTable := (fetchLiveMarketData
  (historyFeeds (fun symbol => if symbol = "AAPL" then [dailyBar 20616 199] else [])) []).1

/-- Eight sessions lie in the ten days of the window: the five oldest are fetched, Friday's
stored bar is deleted and the latest stored bar is Tuesday's. -/
theorem tradingDays_truncated :
    ¬NewestFetched true (noonProvider 20616 tradingDays) "AAPL" "AAPL" 0 5 ∧
    ServedAt (noonProvider 20616 tradingDays) onlyAlpaca fridayStored ("AAPL","AAPL") 0 ∧
    (fetchLiveMarketData ((noonProvider 20616 tradingDays).feeds onlyAlpaca) fridayStored).2 =
      .ok 5 ∧
    ¬StaysCurrent (noonProvider 20616 tradingDays) ("AAPL","AAPL") fridayStored
      (fetchLiveMarketData ((noonProvider 20616 tradingDays).feeds onlyAlpaca) fridayStored).1
      (allRows ((noonProvider 20616 tradingDays).feeds onlyAlpaca) fridayStored) := by
  have hbars : (noonProvider 20616 tradingDays).window 5 "AAPL" 0 ≠ [] := by decide +kernel
  have hwindow : IsNewest (alpacaBar 20616 199)
      ((noonProvider 20616 tradingDays).window 5 "AAPL" 0) :=
    ⟨by decide +kernel,by decide +kernel⟩
  refine ⟨?_,servedAt_noon tradingDays fridayStored hbars,by decide +kernel,?_⟩
  · intro h
    have hrow := h (((noonProvider 20616 tradingDays).window 5 "AAPL" 0).take 5 |>.map
      (Bar.toRow "AAPL")) rfl (alpacaBar 20616 199) hwindow
    exact absurd hrow (by decide +kernel)
  · intro h
    obtain ⟨t,ht,hle⟩ := h.latestStored _ ((isNewest_window_iff hbars).mpr hwindow)
    have hlatest : ((fetchLiveMarketData ((noonProvider 20616 tradingDays).feeds onlyAlpaca)
        fridayStored).1.latest "AAPL").map TickRow.timestamp = some (alpacaBar 20613 196).t := by
      decide +kernel
    rw [ht,Option.map_some,Option.some.injEq] at hlatest
    rw [hlatest] at hle
    exact absurd hle (by decide)

end TradingWeek

end MacroInvest.Market
