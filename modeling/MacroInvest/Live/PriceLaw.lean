import MacroInvest.Broker.OrderEffect
import MacroInvest.Live.PriceState

/-! # Orders and marks at the stored close

After a download the table is ahead of the price held in memory: nothing but the startup
copies closes from one to the other. Fills and marks therefore use the stored closes exactly
as long as no refresh moves the latest close of a tracked ticker away from the price the
startup left.
-/
namespace MacroInvest.Live
open Broker CallRun Fallible FirstMax Market WindowTable

/-- The tickers a reply fills or marks, each at the price it uses. -/
def Marking.uses (m : Marking) : List (String × ℚ) :=
  m.holdings.map (fun h => (h.ticker,h.mark m.prices))

def ToolResult.uses : ToolResult → List (String × ℚ)
  | .executed o (.FILLED _) => [(o.ticker,o.price)]
  | _ => []

def LiveReply.uses : LiveReply → List (String × ℚ)
  | .refreshed _ => []
  | .ticked m _ => m.uses
  | .ordered r m => r.uses ++ (m.map Marking.uses).getD []
  | .recorded m _ => m.uses

/-- Every price used is the latest stored close, where there is one. -/
def FollowsTable (ticks : TickTable) (uses : List (String × ℚ)) : Prop :=
  ∀ ticker price, (ticker,price) ∈ uses →
    ∀ close, getLatestPrices true ticks ticker = some close → price = close

def LiveReply.Refreshed : LiveReply → Prop
  | .refreshed (.ok _) => True
  | _ => False

/-- The price in memory is the latest stored close, where there is one. -/
def Agrees (s : LiveState) : Prop :=
  ∀ ticker close, getLatestPrices true s.marketTicks ticker = some close →
    s.priceState ticker = some close

/-- Only tracked tickers are stored, and every tracked ticker has a price. -/
structure Tracked (s : LiveState) : Prop where
  stored : ∀ row ∈ s.marketTicks, row.ticker.val ∈ tickers
  priced : ∀ ticker ∈ tickers, ∃ price, s.priceState ticker = some price

/-- A refresh leaves the latest close of each tracked ticker at the price in memory. -/
def ClosesKept (s : LiveState) : LiveEvent → Prop
  | .refresh f => (∃ n, (fetchLiveMarketData f s.marketTicks).2 = .ok n) →
    ∀ ticker price close, s.priceState ticker = some price →
      getLatestPrices true (fetchLiveMarketData f s.marketTicks).1 ticker = some close →
      close = price
  | _ => True

/-- The table and the synthetic bars hold tracked tickers only, and after a download that did
not raise the closes can be read back. -/
structure Startup.Synced (cfg : Startup) (s : LiveState) : Prop where
  stored : ∀ row ∈ s.marketTicks, row.ticker.val ∈ tickers
  mock : ∀ row ∈ cfg.mockRows, row.ticker ∈ tickers
  readable : (∃ n, (startup cfg s).2 = .ok n) → cfg.readable = true

theorem tickers_fit {ticker : String} (h : ticker ∈ tickers) : ticker.length ≤ 10 := by
  have hall : ∀ t ∈ tickers, t.length ≤ 10 := by decide +kernel
  exact hall ticker h

theorem liveTickers_tracked {ticker : String} (h : ticker ∈ liveTickers.map Prod.fst) :
    ticker ∈ tickers := by
  have hall : ∀ t ∈ liveTickers.map Prod.fst, t ∈ tickers := by decide +kernel
  exact hall ticker h

theorem Tracked.of_latest {s : LiveState} (h : Tracked s) {ticker : String} {close : ℚ}
    (hclose : getLatestPrices true s.marketTicks ticker = some close) : ticker ∈ tickers := by
  obtain ⟨row,hrow,_⟩ := Option.map_eq_some_iff.mp hclose
  obtain ⟨hmem,hticker⟩ := latest_mem hrow
  exact hticker ▸ h.stored row hmem

theorem seedMockData_tracked {rows : List OHLCVRow} {ticks : TickTable}
    (hrows : ∀ r ∈ rows, r.ticker ∈ tickers) (hticks : ∀ t ∈ ticks, t.ticker.val ∈ tickers) :
    ∀ t ∈ seedMockData rows ticks, t.ticker.val ∈ tickers := by
  unfold seedMockData
  split
  · rename_i ticks' h
    obtain ⟨stored,hcopies,rfl⟩ := copy_ok (fun r hr => tickers_fit (hrows r hr)) h
    intro t ht
    rcases List.mem_append.mp ht with ht | ht
    · exact hticks t ht
    · obtain ⟨r,hr,hc⟩ := exists_left hcopies ht
      exact hc.ticker ▸ hrows r hr
  · exact hticks

theorem fetchLiveMarketData_tracked {f : Feeds} {ticks : TickTable}
    (hticks : ∀ t ∈ ticks, t.ticker.val ∈ tickers) :
    ∀ t ∈ (fetchLiveMarketData f ticks).1, t.ticker.val ∈ tickers := by
  rcases fetchLiveMarketData_cases f ticks with
    ⟨_,he⟩ | ⟨minTs,ticks',_,htx,he⟩ | ⟨exc,he⟩
  · rw [he]
    exact hticks
  · rw [he]
    obtain ⟨stored,hcopies,rfl⟩ := refreshTransaction_ok (fun r => allRows_fits) htx
    intro t ht
    rcases mem_replaceFrom.mp ht with ⟨ht,_⟩ | ht
    · exact hticks t ht
    · obtain ⟨r,hr,hc⟩ := exists_left hcopies ht
      exact hc.ticker ▸ liveTickers_tracked (allRows_live hr)
  · rw [he]
    exact hticks

/-- Table and prices as they were, and every price used read from memory. -/
structure ReadsPrices (s s' : LiveState) (uses : List (String × ℚ)) : Prop where
  marketTicks : s'.marketTicks = s.marketTicks
  priceState : s'.priceState = s.priceState
  uses : ∀ ticker price, (ticker,price) ∈ uses →
    ∀ current, s.priceState ticker = some current → price = current

theorem marking_uses {m : Marking} {ticker : String} {price current : ℚ}
    (h : (ticker,price) ∈ m.uses) (hcurrent : m.prices ticker = some current) :
    price = current := by
  obtain ⟨held,_,he⟩ := List.mem_map.mp h
  cases he
  rw [Holding.mark,hcurrent]
  rfl

theorem buildPortfolioSummary_reads (now : ℚ) (forceRefresh readable : Bool) (s : LiveState) :
    ReadsPrices s (buildPortfolioSummary now forceRefresh readable s).1
      (buildPortfolioSummary now forceRefresh readable s).2.1.uses := by
  unfold buildPortfolioSummary
  split
  · exact ⟨rfl,rfl,fun _ _ h _ hcurrent => marking_uses h hcurrent⟩
  · exact ⟨rfl,rfl,fun _ _ h _ hcurrent => marking_uses h hcurrent⟩

theorem placeOrder_reads {o : OrderRequest} {now : ℚ} {readable : Bool} {s : LiveState}
    (hprice : s.priceState o.ticker = some o.price) :
    ReadsPrices s (placeOrder o now readable s).1
      (LiveReply.ordered (placeOrder o now readable s).2.1
        (placeOrder o now readable s).2.2).uses := by
  unfold placeOrder
  rcases executeVirtualOrder_cases s.broker o with ⟨why,he⟩ | ⟨exc,he⟩ | ⟨db,f,he,_⟩
  · rw [he]
    exact ⟨rfl,rfl,fun _ _ h => nomatch h⟩
  · rw [he]
    exact ⟨rfl,rfl,fun _ _ h => nomatch h⟩
  · rw [he]
    have hbuilt := buildPortfolioSummary_reads now true readable { s with broker := db }
    refine ⟨hbuilt.marketTicks,hbuilt.priceState,?_⟩
    intro ticker price h current hcurrent
    rcases List.mem_cons.mp h with h | h
    · cases h
      exact Option.some.inj (hprice.symm.trans hcurrent)
    · exact hbuilt.uses ticker price h current hcurrent

theorem executeVirtualOrderTool_reads (ticker side : String) (quantity now : ℚ)
    (readable : Bool) (s : LiveState) :
    ReadsPrices s (executeVirtualOrderTool ticker side quantity now readable s).1
      (LiveReply.ordered (executeVirtualOrderTool ticker side quantity now readable s).2.1
        (executeVirtualOrderTool ticker side quantity now readable s).2.2).uses := by
  have hnone : ReadsPrices s s [] := ⟨rfl,rfl,fun _ _ h => nomatch h⟩
  unfold executeVirtualOrderTool
  cases parseSide side with
  | none => exact hnone
  | some parsed =>
    cases hprice : s.priceState ticker with
    | none => exact hnone
    | some livePrice =>
      by_cases hzero : livePrice = 0
      · simp only [hzero,if_true]
        exact hnone
      · simp only [hzero,if_false]
        exact placeOrder_reads hprice

def LiveEvent.ReadOnly : LiveEvent → Prop
  | .refresh _ => False
  | _ => True

theorem LiveEvent.refresh_or_readOnly (e : LiveEvent) : (∃ f, e = .refresh f) ∨ e.ReadOnly := by
  cases e with
  | refresh f => exact .inl ⟨f,rfl⟩
  | sseTick now readable => exact .inr trivial
  | order ticker side quantity now readable => exact .inr trivial
  | recordNav now holdingsReadable accountsReadable => exact .inr trivial

/-- Everything but a refresh only reads the prices. -/
theorem liveStep_reads {s : LiveState} {e : LiveEvent} (h : e.ReadOnly) :
    ReadsPrices s (liveStep s e).1 (liveStep s e).2.uses ∧ ¬(liveStep s e).2.Refreshed := by
  cases e with
  | refresh f => exact h.elim
  | sseTick now readable =>
    have hbuilt := buildPortfolioSummary_reads now false readable (tick s)
    exact ⟨⟨hbuilt.marketTicks,hbuilt.priceState,hbuilt.uses⟩,not_false⟩
  | order ticker side quantity now readable =>
    exact ⟨executeVirtualOrderTool_reads ticker side quantity now readable s,not_false⟩
  | recordNav now holdingsReadable accountsReadable =>
    exact ⟨⟨rfl,rfl,fun _ _ h _ hcurrent => marking_uses h hcurrent⟩,not_false⟩

/-- Whatever is used follows the table where memory agrees with it. -/
theorem liveStep_follows {s : LiveState} (h : Agrees s) (e : LiveEvent) :
    FollowsTable s.marketTicks (liveStep s e).2.uses := by
  intro ticker price huse close hclose
  rcases e.refresh_or_readOnly with ⟨f,rfl⟩ | hread
  · cases huse
  · exact (liveStep_reads hread).1.uses ticker price huse close (h ticker close hclose)

theorem liveStep_tracked {s : LiveState} (h : Tracked s) (e : LiveEvent) :
    Tracked (liveStep s e).1 := by
  rcases e.refresh_or_readOnly with ⟨f,rfl⟩ | hread
  · exact ⟨fetchLiveMarketData_tracked h.stored,h.priced⟩
  · obtain ⟨hreads,_⟩ := liveStep_reads (s := s) hread
    constructor
    · rw [hreads.marketTicks]
      exact h.stored
    · rw [hreads.priceState]
      exact h.priced

/-- A refresh that keeps the closes leaves table and memory in agreement, one that raises
leaves them as they were. -/
theorem refresh_agrees {s : LiveState} {f : Feeds} (htracked : Tracked s)
    (hkept : ClosesKept s (.refresh f)) :
    ((liveStep s (.refresh f)).2.Refreshed → Agrees (liveStep s (.refresh f)).1) ∧
      (Agrees s → Agrees (liveStep s (.refresh f)).1) := by
  cases hr : (fetchLiveMarketData f s.marketTicks).2 with
  | ok n =>
    have hagrees : Agrees (liveStep s (.refresh f)).1 := by
      intro ticker close hclose
      have hin := (liveStep_tracked htracked (.refresh f)).of_latest hclose
      obtain ⟨price,hprice⟩ := htracked.priced ticker hin
      rw [hkept ⟨n,hr⟩ ticker price close hprice hclose]
      exact hprice
    exact ⟨fun _ => hagrees,fun _ => hagrees⟩
  | error exc =>
    have hsame : (fetchLiveMarketData f s.marketTicks).1 = s.marketTicks :=
      (refresh_law f s.marketTicks _ _ rfl).2 exc hr
    constructor
    · intro h
      simp only [liveStep,hr,LiveReply.Refreshed] at h
    · intro h ticker close hclose
      simp only [liveStep,hsame] at hclose
      exact h ticker close hclose

theorem liveStep_agrees {s : LiveState} {e : LiveEvent} (htracked : Tracked s)
    (hkept : ClosesKept s e) : ((liveStep s e).2.Refreshed → Agrees (liveStep s e).1) ∧
      (Agrees s → Agrees (liveStep s e).1) := by
  rcases e.refresh_or_readOnly with ⟨f,rfl⟩ | hread
  · exact refresh_agrees htracked hkept
  · obtain ⟨hreads,hnot⟩ := liveStep_reads (s := s) hread
    refine ⟨fun h => absurd h hnot,?_⟩
    intro h ticker close hclose
    rw [hreads.marketTicks] at hclose
    rw [hreads.priceState]
    exact h ticker close hclose

def fetchedState (cfg : Startup) (s : LiveState) : LiveState :=
  { initPriceHistory cfg.paths (prepareTables cfg s) with
    marketTicks := (fetchLiveMarketData cfg.feeds (prepareTables cfg s).marketTicks).1 }

section Started
variable {cfg : Startup} {s : LiveState}

theorem startup_cases (cfg : Startup) (s : LiveState) :
    (∃ n, startup cfg s = (syncPriceState cfg.readable (fetchedState cfg s),.ok n)) ∨
      ∃ exc, startup cfg s = (fetchedState cfg s,.error exc) := by
  cases hr : (fetchLiveMarketData cfg.feeds (prepareTables cfg s).marketTicks).2 with
  | ok n =>
    refine .inl ⟨n,?_⟩
    simp only [startup,initPriceHistory,hr]
    rfl
  | error exc =>
    refine .inr ⟨exc,?_⟩
    simp only [startup,initPriceHistory,hr]
    rfl

theorem fetchedState_tracked (hstart : cfg.Synced s) : Tracked (fetchedState cfg s) := by
  have hprepared : ∀ row ∈ (prepareTables cfg s).marketTicks, row.ticker.val ∈ tickers := by
    unfold prepareTables
    split
    · exact seedMockData_tracked hstart.mock hstart.stored
    · exact hstart.stored
  exact ⟨fetchLiveMarketData_tracked hprepared,fun ticker hticker => ⟨_,if_pos hticker⟩⟩

theorem syncPriceState_tracked {readable : Bool} (h : Tracked s) :
    Tracked (syncPriceState readable s) := by
  refine ⟨h.stored,?_⟩
  intro ticker hticker
  obtain ⟨price,hprice⟩ := h.priced ticker hticker
  exact ⟨_,congrArg (Option.map _) hprice⟩

theorem syncPriceState_agrees (h : Tracked s) : Agrees (syncPriceState true s) := by
  intro ticker close hclose
  obtain ⟨price,hprice⟩ := h.priced ticker (h.of_latest hclose)
  have hread : getLatestPrices true s.marketTicks ticker = some close := hclose
  simp only [syncPriceState,hprice,hread,Option.map_some,Option.getD_some]

theorem startup_tracked (hstart : cfg.Synced s) : Tracked (startup cfg s).1 := by
  rcases startup_cases cfg s with ⟨n,he⟩ | ⟨exc,he⟩
  · rw [he]
    exact syncPriceState_tracked (fetchedState_tracked hstart)
  · rw [he]
    exact fetchedState_tracked hstart

theorem startup_agrees (hstart : cfg.Synced s) (hok : ∃ n, (startup cfg s).2 = .ok n) :
    Agrees (startup cfg s).1 := by
  have hreadable := hstart.readable hok
  obtain ⟨n,hok⟩ := hok
  rcases startup_cases cfg s with ⟨m,he⟩ | ⟨exc,he⟩
  · rw [he,hreadable]
    exact syncPriceState_agrees (fetchedState_tracked hstart)
  · rw [he] at hok
    cases hok

/-- What a run keeps: from the first download that did not raise, memory agrees with the
table. -/
theorem live_run (hstart : cfg.Synced s) (events : List LiveEvent)
    (hkept : Admits liveStep ClosesKept (startup cfg s).1 events) :
    Tracked (final liveStep (startup cfg s).1 events) ∧
      ((∃ n, (startup cfg s).2 = .ok n) ∨
          (∃ p ∈ trace liveStep (startup cfg s).1 events, p.2.Refreshed) →
        Agrees (final liveStep (startup cfg s).1 events)) := by
  refine run_induction (P := fun t h => Tracked t ∧
    ((∃ n, (startup cfg s).2 = .ok n) ∨ (∃ p ∈ h, LiveReply.Refreshed p.2) → Agrees t))
    ?_ ?_ events hkept
  · refine ⟨startup_tracked hstart,?_⟩
    rintro (hok | ⟨p,hp,_⟩)
    · exact startup_agrees hstart hok
    · cases hp
  · intro t h e he hprev
    obtain ⟨htracked,hagrees⟩ := hprev
    obtain ⟨hfresh,hstill⟩ := liveStep_agrees htracked he
    refine ⟨liveStep_tracked htracked e,?_⟩
    rintro (hok | ⟨p,hp,hp'⟩)
    · exact hstill (hagrees (.inl hok))
    · rcases List.mem_append.mp hp with hp | hp
      · exact hstill (hagrees (.inr ⟨p,hp,hp'⟩))
      · rw [List.mem_singleton.mp hp] at hp'
        exact hfresh hp'

end Started

/-- In a run whose refreshes keep the closes the startup synced, everything filled or marked
after a download that did not raise uses the latest stored close. -/
theorem live_price_law (cfg : Startup) (s : LiveState) (hstart : cfg.Synced s)
    (events : List LiveEvent) (hkept : Admits liveStep ClosesKept (startup cfg s).1 events) :
    ∀ before e after, events = before ++ e :: after →
      ((∃ n, (startup cfg s).2 = .ok n) ∨
        ∃ p ∈ trace liveStep (startup cfg s).1 before, p.2.Refreshed) →
      FollowsTable (final liveStep (startup cfg s).1 before).marketTicks
        (liveStep (final liveStep (startup cfg s).1 before) e).2.uses := by
  intro before e after hevents hrefreshed
  rw [hevents] at hkept
  have hrun := live_run hstart before (admits_append_left hkept)
  exact liveStep_follows (hrun.2 hrefreshed) e

def blankState : LiveState where
  marketTicks := []
  broker := seededDb
  navSnapshots := []
  priceState _ := none
  priceHistory _ := []
  summaryCache := none

/-- A startup that downloads three sessions; AAPL closes at 197. -/
def openStart : Startup where
  schemaOk := true
  mockRows := []
  paths _ := ⟨[],100⟩
  feeds := openWeek
  readable := true

def buyApple : LiveEvent := .order "AAPL" "buy" 10 0 true

theorem openStart_synced : openStart.Synced blankState := by
  refine ⟨?_,?_,fun _ => rfl⟩
  · intro row hrow
    cases hrow
  · intro row hrow
    cases hrow

abbrev started : LiveState := (startup openStart blankState).1

/-- For a given refresh the condition is a check of sixteen tickers. -/
theorem closesKept_of_tickers {s : LiveState} {f : Feeds} (htracked : Tracked s)
    (h : ∀ ticker ∈ tickers,
      getLatestPrices true (fetchLiveMarketData f s.marketTicks).1 ticker = none ∨
      getLatestPrices true (fetchLiveMarketData f s.marketTicks).1 ticker = s.priceState ticker) :
    ClosesKept s (.refresh f) := by
  intro _ ticker price close hprice hclose
  have hin := (liveStep_tracked htracked (.refresh f)).of_latest hclose
  rcases h ticker hin with hnone | hsame
  · rw [hclose] at hnone
    cases hnone
  · rw [hclose,hprice] at hsame
    exact Option.some.inj hsame

/-- The same three sessions again, then an order at 197. -/
theorem live_price_law_openStart :
    (liveStep (final liveStep started [.refresh openWeek]) buyApple).2.uses =
      [("AAPL",197),("AAPL",197)] ∧
    FollowsTable (final liveStep started [.refresh openWeek]).marketTicks
      (liveStep (final liveStep started [.refresh openWeek]) buyApple).2.uses := by
  have hok : (startup openStart blankState).2 = .ok 6 := by decide +kernel
  refine ⟨by decide +kernel,?_⟩
  refine live_price_law openStart blankState openStart_synced [.refresh openWeek,buyApple] ?_
    [.refresh openWeek] buyApple [] rfl (.inl ⟨6,hok⟩)
  exact ⟨closesKept_of_tickers (startup_tracked openStart_synced) (by decide +kernel),trivial,trivial⟩

/-- A fourth session: AAPL closes at 210. -/
def rally : Feeds := historyFeeds (fun symbol =>
  if symbol = "AAPL" then [dailyBar 20611 196,dailyBar 20612 197,dailyBar 20613 210] else [])

/-- The order fills, and the new holding is marked, at the close of the startup. -/
theorem live_price_stale :
    (startup openStart blankState).2 = .ok 6 ∧
    getLatestPrices true (final liveStep started [.refresh rally]).marketTicks "AAPL" = some 210 ∧
    (liveStep (final liveStep started [.refresh rally]) buyApple).2.uses =
      [("AAPL",197),("AAPL",197)] ∧
    ¬FollowsTable (final liveStep started [.refresh rally]).marketTicks
      (liveStep (final liveStep started [.refresh rally]) buyApple).2.uses := by
  have hclose : getLatestPrices true
      (final liveStep started [.refresh rally]).marketTicks "AAPL" = some 210 := by decide +kernel
  have huses : (liveStep (final liveStep started [.refresh rally]) buyApple).2.uses =
      [("AAPL",197),("AAPL",197)] := by decide +kernel
  refine ⟨by decide +kernel,hclose,huses,?_⟩
  intro h
  rw [huses] at h
  have hprice := h "AAPL" 197 List.mem_cons_self 210 hclose
  norm_num at hprice

end MacroInvest.Live
