import MacroInvest.Broker.Schema
import MacroInvest.Library.Simulation
import MacroInvest.Library.Streaks
import MacroInvest.Live.NewsFeed

/-! # The loop of the live collector

A cycle refreshes the market data, the headlines, the news items and the indices one after the
other, and an error in one of them leaves the others alone. The loop may be cancelled at any
point and started again, with its count of failures back at zero and the caches as they were.
-/
namespace MacroInvest.Live
open Broker Market Streaks

structure CollectorState where
  liveNewsCache : Dict String (List String) := .empty
  liveNewsItemsCache : Dict String (List NewsItem) := .empty
  indexCache : Dict String ℚ := .ofList [("KOSPI",2540),("SP500",5000),("USDKRW",1360)]
  lastLiveCollectAt : Option ℤ := none
  consecutiveFailures : ℕ := 0
  slackAlerts : List String := []

/-- What the loop awaits next and what comes of it. The fetches of news and indices swallow
their errors: a ticker without news has none, an index without a close is left out. -/
inductive LoopEvent where
  | market (outcome : Except String ℤ)
  | news (attempts : Attempts)
  | newsItems (attempts : Attempts)
  | index (closes : String → Option ℚ)
  | restart

def indexTickers : List (String × String) :=
  [("KOSPI","^KS11"),("SP500","^GSPC"),("USDKRW","KRW=X")]

def fetchLiveIndexData (closes : String → Option ℚ) : Dict String ℚ :=
  .ofList (indexTickers.filterMap fun p => (closes p.1).map fun close => (p.1,pyRound 4 close))

/-- `_slack_alert` adds its own prefix. -/
def failureAlert (exc : String) : String :=
  ":aleph-one: " ++ "[aleph-one] live_collector 연속 5회 실패 — " ++ exc

namespace CollectorState

def step (s : CollectorState) : LoopEvent → CollectorState
  | .market (.ok now) => { s with lastLiveCollectAt := some now, consecutiveFailures := 0 }
  | .market (.error exc) =>
    let failures := s.consecutiveFailures + 1
    { s with
      consecutiveFailures := failures
      slackAlerts := if failures = 5 then s.slackAlerts ++ [failureAlert exc] else s.slackAlerts }
  | .news attempts => { s with liveNewsCache := s.liveNewsCache.update (fetchLiveNews attempts) }
  | .newsItems attempts =>
    { s with liveNewsItemsCache := s.liveNewsItemsCache.update (fetchLiveNewsItems attempts) }
  | .index closes => { s with indexCache := s.indexCache.update (fetchLiveIndexData closes) }
  | .restart => { s with consecutiveFailures := 0 }

def run (s : CollectorState) (events : List LoopEvent) : CollectorState := events.foldl step s

theorem run_concat (s : CollectorState) (events : List LoopEvent) (e : LoopEvent) :
    s.run (events ++ [e]) = (s.run events).step e := by
  simp [run]

end CollectorState

section Marks

/-- The market outcomes that the count of failures sees: true for a failure. -/
def failureMark : LoopEvent → Option Bool
  | .market (.error _) => some true
  | .market (.ok _) => some false
  | .restart => some false
  | _ => none

def collectedAt : LoopEvent → Option ℤ
  | .market (.ok now) => some now
  | _ => none

def newsAttempts : LoopEvent → Option Attempts
  | .news attempts => some attempts
  | _ => none

def itemsAttempts : LoopEvent → Option Attempts
  | .newsItems attempts => some attempts
  | _ => none

def indexClose (indexId : String) : LoopEvent → Option ℚ
  | .index closes => (fetchLiveIndexData closes).get? indexId
  | _ => none

/-- What the last event of a kind brought. -/
def latest {β : Type} (kind : LoopEvent → Option β) (events : List LoopEvent) : Option β :=
  (events.filterMap kind).getLast?

theorem latest_concat {β : Type} (kind : LoopEvent → Option β) (events : List LoopEvent)
    (e : LoopEvent) : latest kind (events ++ [e]) = (kind e).or (latest kind events) := by
  rw [latest,List.filterMap_append,latest]
  cases h : kind e with
  | none => simp [h]
  | some b => simp [h]

/-- The alerts of a run from a state are those of a counter that starts from its count. -/
theorem run_alerts (s : CollectorState) (events : List LoopEvent) :
    (s.run events).slackAlerts.length = s.slackAlerts.length +
      alarms id 5 s.consecutiveFailures (events.filterMap failureMark) := by
  induction events generalizing s with
  | nil => rfl
  | cons e events ih =>
    rw [CollectorState.run,List.foldl_cons,← CollectorState.run,ih]
    cases e with
    | market outcome =>
      cases outcome with
      | ok now => simp [CollectorState.step,failureMark,alarms]
      | error exc =>
        by_cases hfive : s.consecutiveFailures + 1 = 5
        · simp [CollectorState.step,failureMark,alarms,hfive]
          omega
        · simp [CollectorState.step,failureMark,alarms,hfive]
    | restart => simp [CollectorState.step,failureMark,alarms]
    | news attempts => simp [CollectorState.step,failureMark,List.filterMap_cons]
    | newsItems attempts => simp [CollectorState.step,failureMark,List.filterMap_cons]
    | index closes => simp [CollectorState.step,failureMark,List.filterMap_cons]

end Marks

section Caches

/-- A cache that is empty or has all the tickers holds after an update what was fetched. -/
theorem update_news {β : Type} {cache : Dict String (List β)}
    (extract : RawItem → Except String (Option β)) (attempts : Attempts)
    (h : cache = .empty ∨ cache.keys = liveTickers.map Prod.fst) :
    cache.update (fetchLive extract attempts) = fetchLive extract attempts := by
  rcases h with rfl | h
  · exact Dict.update_empty _
  · exact Dict.update_of_keys_eq (h.trans (fetchLive_keys extract attempts).symm)

/-- What a cache holds whose last fetch is known. -/
def fetched {β : Type} (extract : RawItem → Except String (Option β)) :
    Option Attempts → Dict String (List β)
  | none => .empty
  | some attempts => fetchLive extract attempts

theorem fetched_keys {β : Type} (extract : RawItem → Except String (Option β))
    (last : Option Attempts) :
    fetched extract last = .empty ∨ (fetched extract last).keys = liveTickers.map Prod.fst := by
  cases last with
  | none => exact .inl rfl
  | some attempts => exact .inr (fetchLive_keys extract attempts)

/-- A part of the state that only events of one kind set shows the last of them. -/
theorem run_latest {β γ : Type} (part : CollectorState → γ) (kind : LoopEvent → Option β)
    (shown : Option β → γ) (hinit : part {} = shown none)
    (hkeep : ∀ s e, kind e = none → part (s.step e) = part s)
    (hset : ∀ s e b, kind e = some b → (∃ last, part s = shown last) →
      part (s.step e) = shown (some b)) (events : List LoopEvent) :
    part (CollectorState.run {} events) = shown (latest kind events) := by
  induction events using List.reverseRecOn with
  | nil => exact hinit
  | append_singleton events e ih =>
    rw [CollectorState.run_concat,latest_concat]
    cases h : kind e with
    | none => rw [hkeep _ e h,ih,Option.none_or]
    | some b => rw [hset _ e b h ⟨_,ih⟩,Option.some_or]

theorem run_news (events : List LoopEvent) : (CollectorState.run {} events).liveNewsCache =
    fetched headlineOf (latest newsAttempts events) := by
  apply run_latest (fun s => s.liveNewsCache) newsAttempts (fetched headlineOf) rfl
  · intro s e hkind
    rcases e with (_ | _) | _ | _ | _ | _ <;> simp_all [CollectorState.step,newsAttempts]
  · rintro s e attempts hkind ⟨last,hlast⟩
    cases e <;> simp only [newsAttempts,reduceCtorEq,Option.some.injEq] at hkind
    subst hkind
    simp only [CollectorState.step,fetchLiveNews,hlast]
    exact update_news headlineOf _ (fetched_keys headlineOf last)

theorem run_items (events : List LoopEvent) : (CollectorState.run {} events).liveNewsItemsCache =
    fetched extractNewsItem (latest itemsAttempts events) := by
  apply run_latest (fun s => s.liveNewsItemsCache) itemsAttempts (fetched extractNewsItem) rfl
  · intro s e hkind
    rcases e with (_ | _) | _ | _ | _ | _ <;> simp_all [CollectorState.step,itemsAttempts]
  · rintro s e attempts hkind ⟨last,hlast⟩
    cases e <;> simp only [itemsAttempts,reduceCtorEq,Option.some.injEq] at hkind
    subst hkind
    simp only [CollectorState.step,fetchLiveNewsItems,hlast]
    exact update_news extractNewsItem _ (fetched_keys extractNewsItem last)

theorem run_index (events : List LoopEvent) (indexId : String) :
    (CollectorState.run {} events).indexCache.get? indexId =
      (latest (indexClose indexId) events).or
        (({} : CollectorState).indexCache.get? indexId) := by
  apply run_latest (fun s => s.indexCache.get? indexId) (indexClose indexId)
    (fun last => last.or (({} : CollectorState).indexCache.get? indexId)) rfl
  · intro s e hkind
    rcases e with (_ | _) | _ | _ | _ | _ <;>
      simp_all [CollectorState.step,indexClose,Dict.get?_update]
  · rintro s e close hkind -
    cases e <;> simp only [indexClose,reduceCtorEq] at hkind
    simp [CollectorState.step,Dict.get?_update,hkind]

theorem run_collectedAt (events : List LoopEvent) :
    (CollectorState.run {} events).lastLiveCollectAt = latest collectedAt events := by
  apply run_latest (fun s => s.lastLiveCollectAt) collectedAt id rfl
  · intro s e hkind
    rcases e with (_ | _) | _ | _ | _ | _ <;> simp_all [CollectorState.step,collectedAt]
  · rintro s e now hkind -
    rcases e with (_ | _) | _ | _ | _ | _ <;> simp_all [CollectorState.step,collectedAt]

/-- How long one fetch of the news of all tickers sleeps between its attempts. -/
def fetchPause {β : Type} (extract : RawItem → Except String (Option β)) (attempts : Attempts) :
    ℚ := (liveTickers.map fun p => (fetchTicker extract (attempts p.1)).2.sum).sum

theorem fetchPause_le {β : Type} (extract : RawItem → Except String (Option β))
    (attempts : Attempts) : fetchPause extract attempts ≤ 48 := by
  have hthree : ∀ q ∈ liveTickers.map fun p => (fetchTicker extract (attempts p.1)).2.sum,
      q ≤ 3 := by
    intro q hq
    obtain ⟨p,-,rfl⟩ := List.mem_map.mp hq
    exact fetchTicker_pause extract (attempts p.1)
  have hsum := List.sum_le_card_nsmul _ 3 hthree
  rw [List.length_map] at hsum
  calc fetchPause extract attempts ≤ _ := hsum
    _ = 48 := by norm_num [liveTickers]

end Caches

section Law

/-- What the collector holds after a run. -/
structure LoopLaw (events : List LoopEvent) (s : CollectorState) : Prop where
  alerts : s.slackAlerts.length =
    (streaks id (events.filterMap failureMark)).countP (fun n => decide (5 ≤ n))
  collected : s.lastLiveCollectAt = latest collectedAt events
  news : s.liveNewsCache = fetched headlineOf (latest newsAttempts events)
  newsItems : s.liveNewsItemsCache = fetched extractNewsItem (latest itemsAttempts events)
  index : ∀ indexId, s.indexCache.get? indexId = (latest (indexClose indexId) events).or
    (({} : CollectorState).indexCache.get? indexId)
  slept : (∀ attempts, .news attempts ∈ events → fetchPause headlineOf attempts ≤ 48) ∧
    ∀ attempts, .newsItems attempts ∈ events → fetchPause extractNewsItem attempts ≤ 48

/-- Whatever fails and whenever the loop is started again: one alert for each streak of five
failures or more, every cache holds what its own last fetch brought, and no fetch of news sleeps
longer than 48 seconds. -/
theorem collector_loop_law (events : List LoopEvent) :
    LoopLaw events (CollectorState.run {} events) where
  alerts := by
    rw [run_alerts,alarms_zero (by decide)]
    exact Nat.zero_add _
  collected := run_collectedAt events
  news := run_news events
  newsItems := run_items events
  index := run_index events
  slept := ⟨fun attempts _ => fetchPause_le headlineOf attempts,
    fun attempts _ => fetchPause_le extractNewsItem attempts⟩

end Law

section Endpoint
variable {attempts : Attempts} {clock : ℕ → String} {limit : ℤ} {answer : List NewsEvent × ℕ}

/-- The items that a fetch brought, ticker by ticker. -/
def fetchedItems (attempts : Attempts) : List (String × NewsItem) :=
  liveTickers.flatMap fun p =>
    (fetchTicker extractNewsItem (attempts p.1)).1.map fun item => (p.1,item)

/-- What the endpoint shows of the items of the last fetch: all of them in their order, cut at the
limit. Those of a ticker are from the first of its attempts that succeeds, and at most ten. -/
structure ItemsShown (attempts : Attempts) (clock : ℕ → String) (limit : ℤ)
    (answer : List NewsEvent × ℕ) : Prop where
  events : answer.1 = DatedRows.sliceTo
    ((fetchedItems attempts).mapIdx fun n p => itemEvent (clock n) p) limit
  total : answer.2 = (fetchedItems attempts).length
  shown : 0 ≤ limit → answer.1.length = min limit.toNat answer.2
  delivered : ∀ p ∈ liveTickers, FirstDelivered extractNewsItem (attempts p.1)
    (fetchTicker extractNewsItem (attempts p.1)).1
  perTicker : ∀ ticker, (fetchedItems attempts).countP (fun p => p.1 = ticker) ≤ 10
  titled : ∀ e ∈ answer.1, e.title ≠ "" ∧ ∃ p ∈ liveTickers, e.ticker = p.1 ∧ ∃ j ≤ 2, ∃ raw,
    attempts p.1 j = .ok raw ∧ ∃ item ∈ raw, e.title = extractNewsTitle item
  failed : ∀ ticker, (∀ i ≤ 2, ∃ exc, (attempts ticker i >>= collect extractNewsItem) =
    .error exc) → ∀ e ∈ answer.1, e.ticker ≠ ticker

/-- What it shows of headlines, live ones or the seed. -/
structure HeadlinesShown (live : Bool) (headlines : Dict String (List String))
    (clock : ℕ → String) (limit : ℤ) (answer : List NewsEvent × ℕ) : Prop where
  events : answer.1 = DatedRows.sliceTo
    ((flat headlines).mapIdx fun n p => headlineEvent live (clock n) p) limit
  total : answer.2 = (flat headlines).length
  shown : 0 ≤ limit → answer.1.length = min limit.toNat answer.2

theorem mem_numbered {α β : Type} {f : ℕ → α → β} {rows : List α} {limit : ℤ} {b : β}
    (h : b ∈ DatedRows.sliceTo (rows.mapIdx f) limit) : ∃ a ∈ rows, ∃ n, b = f n a := by
  obtain ⟨n,hn,rfl⟩ := List.mem_mapIdx.mp (DatedRows.mem_of_mem_sliceTo h)
  exact ⟨_,List.getElem_mem hn,n,rfl⟩

theorem mem_fetchedItems {p : String × NewsItem} : p ∈ fetchedItems attempts ↔
    (∃ q ∈ liveTickers, q.1 = p.1) ∧ p.2 ∈ (fetchTicker extractNewsItem (attempts p.1)).1 := by
  simp only [fetchedItems,List.mem_flatMap,List.mem_map]
  constructor
  · rintro ⟨q,hq,item,hitem,rfl⟩
    exact ⟨⟨q,hq,rfl⟩,hitem⟩
  · rintro ⟨⟨q,hq,hticker⟩,hitem⟩
    exact ⟨q,hq,p.2,by rwa [hticker],Prod.ext hticker rfl⟩

/-- The items that the cache holds after a fetch. -/
theorem flat_fetchLiveNewsItems (attempts : Attempts) :
    flat (fetchLiveNewsItems attempts) = fetchedItems attempts := by
  rw [flat,fetchLiveNewsItems,fetchLive_entries,List.flatMap_map]
  rfl

/-- What stands behind an item that a fetch brought. -/
theorem fetched_item {attempts : ℕ → Except String (List RawItem)} {x : NewsItem}
    (hx : x ∈ (fetchTicker extractNewsItem attempts).1) : x.title ≠ "" ∧ ∃ j ≤ 2, ∃ raw,
      attempts j = .ok raw ∧ ∃ item ∈ raw, x.title = extractNewsTitle item := by
  rcases fetchTicker_spec extractNewsItem attempts with ⟨j,hj,hok,-⟩ | ⟨hnone,-⟩
  · obtain ⟨raw,hraw,hcollect⟩ := Fallible.ok_of_bind hok
    obtain ⟨item,hitem,hextract⟩ := (mem_collect hcollect).2 x hx
    obtain ⟨htitle,hne⟩ := extractNewsItem_some hextract
    exact ⟨hne,j,hj,raw,hraw,item,hitem,htitle⟩
  · rw [hnone] at hx
    exact absurd hx List.not_mem_nil

theorem fetched_length (attempts : ℕ → Except String (List RawItem)) :
    (fetchTicker extractNewsItem attempts).1.length ≤ 10 := by
  rcases fetchTicker_spec extractNewsItem attempts with ⟨j,-,hok,-⟩ | ⟨hnone,-⟩
  · obtain ⟨raw,-,hcollect⟩ := Fallible.ok_of_bind hok
    exact (mem_collect hcollect).1
  · simp [hnone]

/-- A ticker is asked once, so its items are those of one answer. -/
theorem count_fetchedItems_le (attempts : Attempts) (ticker : String) :
    (fetchedItems attempts).countP (fun p => p.1 = ticker) ≤ 10 := by
  have hticker : ∀ news : List NewsItem, ∀ t : String,
      (news.map fun item => (t,item)).countP (fun p => p.1 = ticker) =
        if t = ticker then news.length else 0 := by
    intro news t
    by_cases h : t = ticker <;> simp [List.countP_map,h,Function.comp_def]
  have hcount : (fetchedItems attempts).countP (fun p => p.1 = ticker) =
      ((liveTickers.map Prod.fst).map fun t => if t = ticker then
        (fetchTicker extractNewsItem (attempts t)).1.length else 0).sum := by
    rw [fetchedItems,List.countP_flatMap,List.map_map]
    exact congrArg List.sum (List.map_congr_left (fun p _ => hticker _ _))
  have honce : (liveTickers.map Prod.fst).count ticker ≤ 1 :=
    List.nodup_iff_count_le_one.mp liveTickers_nodup ticker
  rw [hcount,List.sum_map_eq_nsmul_single ticker _ (fun t hne _ => if_neg hne),if_pos rfl,
    smul_eq_mul]
  calc (liveTickers.map Prod.fst).count ticker *
        (fetchTicker extractNewsItem (attempts ticker)).1.length ≤ 1 * 10 :=
        Nat.mul_le_mul honce (fetched_length (attempts ticker))
    _ = 10 := rfl

theorem items_shown (attempts : Attempts) (newsCache tickerNews : Dict String (List String))
    (clock : ℕ → String) (limit : ℤ) : ItemsShown attempts clock limit
      (eventsRecent (fetchLiveNewsItems attempts) newsCache tickerNews clock limit) := by
  have hne : (fetchLiveNewsItems attempts).entries ≠ [] := by
    rw [fetchLiveNewsItems,fetchLive_entries]
    exact List.cons_ne_nil _ _
  have hanswer : eventsRecent (fetchLiveNewsItems attempts) newsCache tickerNews clock limit =
      (DatedRows.sliceTo ((fetchedItems attempts).mapIdx
        fun n p => itemEvent (clock n) p) limit,(fetchedItems attempts).length) := by
    simp only [eventsRecent,hne,ne_eq,not_false_eq_true,if_true,List.length_mapIdx,
      flat_fetchLiveNewsItems]
  rw [hanswer]
  constructor
  · rfl
  · rfl
  · intro hlimit
    rw [DatedRows.length_sliceTo hlimit,List.length_mapIdx]
  · exact fun p _ => fetchTicker_spec extractNewsItem (attempts p.1)
  · exact count_fetchedItems_le attempts
  · intro e he
    obtain ⟨p,hp,n,rfl⟩ := mem_numbered he
    obtain ⟨⟨q,hq,hticker⟩,hitem⟩ := mem_fetchedItems.mp hp
    obtain ⟨htitle,j,hj,raw,hraw,item,hmem,heq⟩ := fetched_item hitem
    exact ⟨htitle,q,hq,hticker.symm,j,hj,raw,hticker ▸ hraw,item,hmem,heq⟩
  · intro ticker hfailed e he hsame
    obtain ⟨p,hp,n,rfl⟩ := mem_numbered he
    obtain ⟨-,hitem⟩ := mem_fetchedItems.mp hp
    have hticker : p.1 = ticker := hsame
    rw [hticker] at hitem
    rcases fetchTicker_spec extractNewsItem (attempts ticker) with ⟨j,hj,hok,-⟩ | ⟨hnone,-⟩
    · obtain ⟨exc,hexc⟩ := hfailed j hj
      cases hok.symm.trans hexc
    · rw [hnone] at hitem
      exact absurd hitem List.not_mem_nil

theorem headlines_shown (newsCache tickerNews : Dict String (List String))
    (clock : ℕ → String) (limit : ℤ) :
    HeadlinesShown (decide (newsCache.entries ≠ []))
      (if newsCache.entries ≠ [] then newsCache else tickerNews) clock limit
      (eventsRecent .empty newsCache tickerNews clock limit) := by
  have hempty : (Dict.empty : Dict String (List NewsItem)).entries = [] := rfl
  constructor
  · simp [eventsRecent,hempty]
  · simp [eventsRecent,hempty]
  · intro hlimit
    simp [eventsRecent,hempty,DatedRows.length_sliceTo hlimit]

/-- The headlines at hand: live ones as soon as any were fetched. -/
def headlinesAt (tickerNews : Dict String (List String)) :
    Option Attempts → Dict String (List String)
  | none => tickerNews
  | some attempts => fetchLiveNews attempts

/-- After any run the endpoint shows the items of the last fetch of items, whatever older ones
there were, and headlines only while items were never fetched. -/
theorem events_recent_law (events : List LoopEvent) (tickerNews : Dict String (List String))
    (clock : ℕ → String) (limit : ℤ) :
    let s := CollectorState.run {} events
    let answer := eventsRecent s.liveNewsItemsCache s.liveNewsCache tickerNews clock limit
    match latest itemsAttempts events with
    | some attempts => ItemsShown attempts clock limit answer
    | none => HeadlinesShown (latest newsAttempts events).isSome
        (headlinesAt tickerNews (latest newsAttempts events)) clock limit answer := by
  intro s answer
  have hitems := run_items events
  have hnews := run_news events
  cases hlast : latest itemsAttempts events with
  | some attempts =>
    have hcache : s.liveNewsItemsCache = fetchLiveNewsItems attempts := by
      rw [hitems,hlast]
      rfl
    simp only [answer,hcache]
    exact items_shown attempts s.liveNewsCache tickerNews clock limit
  | none =>
    have hcache : s.liveNewsItemsCache = .empty := by
      rw [hitems,hlast]
      rfl
    have hshown := headlines_shown s.liveNewsCache tickerNews clock limit
    simp only [answer,hcache]
    rw [hnews] at hshown ⊢
    cases hlive : latest newsAttempts events with
    | none => simpa [hlive,fetched,headlinesAt,Dict.empty] using hshown
    | some attempts =>
      have hne : (fetchLive headlineOf attempts).entries ≠ [] := by
        rw [fetchLive_entries]
        exact List.cons_ne_nil _ _
      simpa [hlive,fetched,headlinesAt,fetchLiveNews,hne] using hshown

end Endpoint

end MacroInvest.Live
