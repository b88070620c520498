import MacroInvest.Market.Ticks
import MacroInvest.Library.Fallible

/-! # Downloading bars

One ticker is asked for at a time: the preferred adapter, then the always-on one, then the
table's own latest row. What the services answer is a parameter, one answer for each
attempt; what the adapters make of an answer is not.
-/
namespace MacroInvest.Market
open Broker Fallible FirstMax Retry

/-- `LIVE_TICKERS`: internal id and symbol, in insertion order. -/
def liveTickers : List (String × String) :=
  [("AAPL","AAPL"),("MSFT","MSFT"),("TSLA","TSLA"),("005930","005930.KS"),
   ("000660","000660.KS"),("QQQ","QQQ"),("BND","BND"),("GLD","GLD"),("035420","035420.KS"),
   ("051910","051910.KS"),("006400","006400.KS"),("122630","122630.KS"),
   ("005380","005380.KS"),("207940","207940.KS"),("005490","005490.KS"),("105560","105560.KS")]

def usTickers : List String := ["AAPL","MSFT","TSLA","QQQ","BND","GLD"]

inductive FetchError where
  | malformedBody
  | historyFailed
  deriving DecidableEq, Repr

structure Bar where
  t : ℤ
  o : ℚ
  h : ℚ
  l : ℚ
  c : ℚ
  v : ℤ
  deriving DecidableEq

/-- What becomes of one request: no usable response, a body that does not decode, or bars. -/
inductive AlpacaAnswer where
  | failed
  | malformed
  | bars (l : List Bar)

/-- A row of a price history frame; a missing value is `none`. -/
structure HistoryBar where
  idx : ℤ
  Open : Option ℚ
  High : Option ℚ
  Low : Option ℚ
  Close : Option ℚ
  Volume : Option ℚ

/-- The services behind one refresh, by symbol or ticker and attempt. -/
structure Feeds where
  alpacaAvailable : Bool
  alpaca : String → ℕ → AlpacaAnswer
  kisAvailable : Bool
  history : String → ℕ → Option (List HistoryBar)
  tableReadable : String → ℕ → Bool

def Bar.toRow (internalId : String) (b : Bar) : OHLCVRow :=
  ⟨b.t,internalId,b.o,b.h,b.l,b.c,b.v,"alpaca"⟩

def fetchAlpacaBars (available : Bool) (answer : AlpacaAnswer) (internalId : String) :
    Except FetchError (Option (List OHLCVRow)) :=
  if !available then .ok none
  else match answer with
    | .failed => .ok none
    | .malformed => .error .malformedBody
    | .bars l => .ok (some (l.map (Bar.toRow internalId)))

/-- The KIS adapter is a stub. -/
def fetchKisBars (_internalId : String) : Option (List OHLCVRow) := none

/-- `int(x)`: truncation towards zero. -/
def pyInt (x : ℚ) : ℤ := if 0 ≤ x then ⌊x⌋ else ⌈x⌉

/-- A row without missing values, as `dropna` leaves it. -/
def HistoryBar.toRow (internalId : String) (b : HistoryBar) : Option OHLCVRow := do
  let openPrice ← b.Open
  let highPrice ← b.High
  let lowPrice ← b.Low
  let closePrice ← b.Close
  let volume ← b.Volume
  return ⟨b.idx,internalId,openPrice,highPrice,lowPrice,closePrice,pyInt volume,"yfinance"⟩

/-- The latest stored row of the ticker, or nothing when the read fails. -/
def fetchLatestCloseFromDb (readable : Bool) (ticks : TickTable) (internalId : String) :
    List OHLCVRow :=
  if readable then ((ticks.latest internalId).map TickRow.toRow).toList else []

/-- The always-on step: history without gaps, or the table's latest row for an empty frame. -/
def fetchHistory (f : Feeds) (ticks : TickTable) (internalId yfSymbol : String) (attempt : ℕ) :
    Except FetchError (List OHLCVRow) :=
  match f.history yfSymbol attempt with
  | none => .error .historyFailed
  | some [] => .ok (fetchLatestCloseFromDb (f.tableReadable internalId attempt) ticks internalId)
  | some hist => .ok (hist.filterMap (HistoryBar.toRow internalId))

def orElseRows (rows : Option (List OHLCVRow)) (next : Except FetchError (List OHLCVRow)) :
    Except FetchError (List OHLCVRow) :=
  match rows with
  | some (r :: rest) => .ok (r :: rest)
  | _ => next

def alpacaRows (f : Feeds) (internalId yfSymbol : String) (attempt : ℕ) :
    Except FetchError (Option (List OHLCVRow)) :=
  if internalId ∈ usTickers ∧ f.alpacaAvailable then
    fetchAlpacaBars f.alpacaAvailable (f.alpaca yfSymbol attempt) internalId
  else .ok none

def kisRows (f : Feeds) (internalId : String) : Option (List OHLCVRow) :=
  if internalId ∉ usTickers ∧ f.kisAvailable then fetchKisBars internalId else none

def fetchTickerOhlcv (f : Feeds) (ticks : TickTable) (internalId yfSymbol : String)
    (attempt : ℕ) : Except FetchError (List OHLCVRow) := do
  let rows ← alpacaRows f internalId yfSymbol attempt
  orElseRows rows (orElseRows (kisRows f internalId)
    (fetchHistory f ticks internalId yfSymbol attempt))

/-- The download of one ticker: three attempts, and no rows when all of them raise. -/
def downloadTicker (f : Feeds) (ticks : TickTable) (p : String × String) : List OHLCVRow :=
  match (retry (fetchTickerOhlcv f ticks p.1 p.2) 2 2 0).1 with
  | .ok rows => rows
  | .error _ => []

def allRows (f : Feeds) (ticks : TickTable) : List OHLCVRow :=
  liveTickers.flatMap (downloadTicker f ticks)

section OwnRows
variable {f : Feeds} {ticks : TickTable} {internalId yfSymbol : String} {attempt : ℕ}
  {rows : List OHLCVRow}

def Own (internalId : String) (rows : List OHLCVRow) : Prop := ∀ r ∈ rows, r.ticker = internalId

theorem own_orElseRows {first : Option (List OHLCVRow)}
    {next : Except FetchError (List OHLCVRow)}
    (hfirst : ∀ l, first = some l → Own internalId l)
    (hnext : ∀ l, next = .ok l → Own internalId l) (h : orElseRows first next = .ok rows) :
    Own internalId rows := by
  unfold orElseRows at h
  split at h
  · cases h
    exact hfirst _ rfl
  · exact hnext rows h

theorem own_fetchHistory (h : fetchHistory f ticks internalId yfSymbol attempt = .ok rows) :
    Own internalId rows := by
  intro r hr
  unfold fetchHistory at h
  split at h
  · cases h
  · cases h
    unfold fetchLatestCloseFromDb at hr
    split at hr
    · obtain ⟨t,ht,rfl⟩ := Option.map_eq_some_iff.mp (Option.mem_toList.mp hr)
      exact (latest_mem ht).2
    · cases hr
  · cases h
    obtain ⟨b,_,hb⟩ := List.mem_filterMap.mp hr
    simp only [HistoryBar.toRow,Option.bind_eq_bind,Option.bind_eq_some_iff,Option.pure_def,
      Option.some.injEq] at hb
    obtain ⟨_,_,_,_,_,_,_,_,_,_,rfl⟩ := hb
    rfl

theorem own_alpacaRows {l : List OHLCVRow}
    (h : alpacaRows f internalId yfSymbol attempt = .ok (some l)) : Own internalId l := by
  intro r hr
  unfold alpacaRows fetchAlpacaBars at h
  split at h
  · split at h
    · cases h
    · split at h
      · cases h
      · cases h
      · cases h
        obtain ⟨b,_,rfl⟩ := List.mem_map.mp hr
        rfl
  · cases h

theorem kisRows_eq_none : kisRows f internalId = none := by
  unfold kisRows
  split
  · rfl
  · rfl

theorem own_fetchTickerOhlcv
    (h : fetchTickerOhlcv f ticks internalId yfSymbol attempt = .ok rows) :
    Own internalId rows := by
  obtain ⟨first,hfirst,h⟩ := ok_of_bind h
  refine own_orElseRows ?_ ?_ h
  · intro l hl
    rw [hl] at hfirst
    exact own_alpacaRows hfirst
  · intro l hl
    rw [kisRows_eq_none] at hl
    exact own_fetchHistory hl

theorem own_downloadTicker (p : String × String) : Own p.1 (downloadTicker f ticks p) := by
  unfold downloadTicker
  split
  · rename_i rows h
    obtain ⟨k,-,hk,-⟩ := (retry_ok_iff 2 2 0 rows).mp h
    exact own_fetchTickerOhlcv hk
  · exact nofun

theorem allRows_live {r : OHLCVRow} (h : r ∈ allRows f ticks) :
    r.ticker ∈ liveTickers.map Prod.fst := by
  obtain ⟨p,hp,hr⟩ := List.mem_flatMap.mp h
  rw [own_downloadTicker p r hr]
  exact List.mem_map_of_mem hp

/-- The tickers of a batch fit the column they are copied into. -/
theorem allRows_fits {r : OHLCVRow} (h : r ∈ allRows f ticks) : r.ticker.length ≤ 10 := by
  have hall : ∀ ticker ∈ liveTickers.map Prod.fst, ticker.length ≤ 10 := by decide +kernel
  exact hall r.ticker (allRows_live h)

end OwnRows

end MacroInvest.Market
