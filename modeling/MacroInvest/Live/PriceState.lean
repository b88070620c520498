import MacroInvest.Broker.Valuation
import MacroInvest.Market.Refresh

/-! # The live price held in memory

The process keeps one price for each tracked ticker next to the tick table. Startup seeds it
with a synthetic path and then, after its own download, with the latest stored closes. Ticks,
orders and valuations read it; the collector's refreshes write the table only.
-/
namespace MacroInvest.Live
open Broker Market

/-- `TICKERS`, the keys of `_BASELINE_PRICES` and of `_PRICE_STATE`. -/
def tickers : List String :=
  ["AAPL","MSFT","TSLA","005930","000660","035420","051910","006400","122630","005380",
   "207940","005490","105560","QQQ","BND","GLD"]

structure LiveState where
  marketTicks : TickTable
  broker : BrokerDb
  navSnapshots : List NavRow
  priceState : Prices
  priceHistory : String → List ℚ
  summaryCache : Option ((List Account × List Holding) × ℚ)

def getLatestPrices (readable : Bool) (ticks : TickTable) : Prices := fun ticker =>
  if readable then (ticks.latest ticker).map (·.closePrice.val) else none

/-- `buf[-1] = price` for a non-empty buffer. -/
def anchorLast (buf : List ℚ) (price : ℚ) : List ℚ :=
  if buf.isEmpty then [] else buf.dropLast ++ [price]

/-- `_sync_price_state_from_db`: tracked tickers take the latest stored close. -/
def syncPriceState (readable : Bool) (s : LiveState) : LiveState :=
  let prices := getLatestPrices readable s.marketTicks
  { s with
    priceState := fun ticker => (s.priceState ticker).map (fun price => (prices ticker).getD price)
    priceHistory := fun ticker =>
      match s.priceState ticker, prices ticker with
      | some _, some real => anchorLast (s.priceHistory ticker) real
      | _, _ => s.priceHistory ticker }

/-- A synthetic path of closes, the last one apart. -/
structure Path where
  points : List ℚ
  last : ℚ

def initPriceHistory (paths : String → Path) (s : LiveState) : LiveState :=
  { s with
    priceState := fun ticker => if ticker ∈ tickers then some (paths ticker).last else none
    priceHistory := fun ticker => if ticker ∈ tickers then
      ((paths ticker).points ++ [(paths ticker).last]).map (pyRound 4) else [] }

/-- What one startup meets: whether the schema can be set up, the synthetic bars, the
synthetic paths, the services, and whether the closes can be read back. -/
structure Startup where
  schemaOk : Bool
  mockRows : List OHLCVRow
  paths : String → Path
  feeds : Feeds
  readable : Bool

/-- `init_db` fills in missing accounts. -/
def initAccounts (db : BrokerDb) : BrokerDb :=
  { db with
    virtualAccounts := fun c => some ((db.virtualAccounts c).getD ⟨seedBalance c,seedBalance c⟩) }

/-- `seed_mock_data`, rolled back when a row does not fit. -/
def seedMockData (rows : List OHLCVRow) (ticks : TickTable) : TickTable :=
  match ticks.copy rows with
  | .ok ticks' => ticks'
  | .error _ => ticks

def prepareTables (cfg : Startup) (s : LiveState) : LiveState :=
  if cfg.schemaOk then
    { s with
      broker := initAccounts s.broker
      marketTicks := seedMockData cfg.mockRows s.marketTicks }
  else s

/-- The startup: the prices are synced only after a download that did not raise. -/
def startup (cfg : Startup) (s : LiveState) : LiveState × Except DbError ℕ :=
  let s := initPriceHistory cfg.paths (prepareTables cfg s)
  let fetched := fetchLiveMarketData cfg.feeds s.marketTicks
  let s := { s with marketTicks := fetched.1 }
  match fetched.2 with
  | .ok rows => (syncPriceState cfg.readable s,.ok rows)
  | .error exc => (s,.error exc)

/-- `_tick`: the current price is appended to a window of sixty. -/
def tick (s : LiveState) : LiveState :=
  { s with priceHistory := fun ticker =>
      match s.priceState ticker with
      | some current =>
        if ticker ∈ tickers then
          let buf := s.priceHistory ticker ++ [pyRound 4 current]
          if 60 < buf.length then buf.drop 1 else buf
        else s.priceHistory ticker
      | none => s.priceHistory ticker }

/-- Holdings marked at a dictionary of prices. -/
structure Marking where
  prices : Prices
  holdings : List Holding

def dbCacheTtl : ℚ := 10

def cachedPortfolio (now : ℚ) (forceRefresh : Bool) (s : LiveState) :
    Option (List Account × List Holding) :=
  if forceRefresh then none
  else match s.summaryCache with
    | some (entry,ts) => if now - ts < dbCacheTtl then some entry else none
    | none => none

/-- `_build_portfolio_summary` without other work in between. -/
def buildPortfolioSummary (now : ℚ) (forceRefresh readable : Bool) (s : LiveState) :
    LiveState × Marking × PortfolioSummary :=
  match cachedPortfolio now forceRefresh s with
  | some entry =>
    (s,⟨s.priceState,entry.2⟩,portfolioSummary s.priceState entry.1 entry.2)
  | none =>
    let entry := (getVirtualAccounts readable s.broker,getPortfolioHoldings readable s.broker)
    ({ s with summaryCache := some (entry,now) },⟨s.priceState,entry.2⟩,
      portfolioSummary s.priceState entry.1 entry.2)

/-- `c.upper()` as far as it can yield a letter of BUY or SELL. -/
def upper (c : Char) : Char := if c = 'ſ' then 'S' else c.toUpper

def parseSide (side : String) : Option Side :=
  if side.toList.map upper = ['B','U','Y'] then some .BUY
  else if side.toList.map upper = ['S','E','L','L'] then some .SELL
  else none

inductive ToolResult where
  | invalidSide (side : String)
  | noLivePrice (ticker : String)
  | executed (o : OrderRequest) (r : OrderResult)

def placeOrder (o : OrderRequest) (now : ℚ) (readable : Bool) (s : LiveState) :
    LiveState × ToolResult × Option Marking :=
  match executeVirtualOrder s.broker o with
  | (db,.FILLED fill) =>
    let built := buildPortfolioSummary now true readable { s with broker := db }
    (built.1,.executed o (.FILLED fill),some built.2.1)
  | (db,r) => ({ s with broker := db },.executed o r,none)

/-- `execute_virtual_order_tool`: a valid side goes out at the live price, at default costs. -/
def executeVirtualOrderTool (ticker side : String) (quantity now : ℚ) (readable : Bool)
    (s : LiveState) : LiveState × ToolResult × Option Marking :=
  match parseSide side with
  | none => (s,.invalidSide side,none)
  | some parsed =>
    match s.priceState ticker with
    | none => (s,.noLivePrice ticker,none)
    | some livePrice =>
      if livePrice = 0 then (s,.noLivePrice ticker,none)
      else placeOrder { ticker, side := parsed, quantity, price := livePrice } now readable s

/-- `record_portfolio_nav` at the live prices, without other work in between. -/
def recordPortfolioNav (now : ℤ) (holdingsReadable accountsReadable : Bool) (s : LiveState) :
    LiveState × Marking × List (Currency × ℚ) :=
  let holdings := getPortfolioHoldings holdingsReadable s.broker
  let accounts := getVirtualAccounts accountsReadable s.broker
  let inserted := insertNav now s.navSnapshots (navValues s.priceState holdings accounts)
  ({ s with navSnapshots := inserted.1 },⟨s.priceState,holdings⟩,inserted.2)

inductive LiveEvent where
  | refresh (f : Feeds)
  | sseTick (now : ℚ) (readable : Bool)
  | order (ticker side : String) (quantity now : ℚ) (readable : Bool)
  | recordNav (now : ℤ) (holdingsReadable accountsReadable : Bool)

inductive LiveReply where
  | refreshed (r : Except DbError ℕ)
  | ticked (m : Marking) (summary : PortfolioSummary)
  | ordered (r : ToolResult) (m : Option Marking)
  | recorded (m : Marking) (result : List (Currency × ℚ))

def liveStep (s : LiveState) : LiveEvent → LiveState × LiveReply
  | .refresh f =>
    let fetched := fetchLiveMarketData f s.marketTicks
    ({ s with marketTicks := fetched.1 },.refreshed fetched.2)
  | .sseTick now readable =>
    let built := buildPortfolioSummary now false readable (tick s)
    (built.1,.ticked built.2.1 built.2.2)
  | .order ticker side quantity now readable =>
    let done := executeVirtualOrderTool ticker side quantity now readable s
    (done.1,.ordered done.2.1 done.2.2)
  | .recordNav now holdingsReadable accountsReadable =>
    let done := recordPortfolioNav now holdingsReadable accountsReadable s
    (done.1,.recorded done.2.1 done.2.2)

end MacroInvest.Live
