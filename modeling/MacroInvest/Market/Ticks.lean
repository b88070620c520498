import MacroInvest.Broker.Schema
import MacroInvest.Library.KeySort
import MacroInvest.Library.TableWrites

/-! # The tick table

Rows arrive as tuples of plain numbers and are cast column by column when they are copied
in. The table has no key: the same ticker and timestamp may be stored twice. Where several
rows share the greatest timestamp, the first stored one is read.
-/
namespace MacroInvest.Market
open Broker FirstMax KeySort

/-- The tuple every adapter returns for one bar. -/
structure OHLCVRow where
  timestamp : ℤ
  ticker : String
  openPrice : ℚ
  highPrice : ℚ
  lowPrice : ℚ
  closePrice : ℚ
  volume : ℤ
  source : String
  deriving DecidableEq

structure BigInt where
  val : ℤ
  fits : -2 ^ 63 ≤ val ∧ val < 2 ^ 63
  deriving DecidableEq

def bigint (x : ℤ) : Except DbError BigInt :=
  if h : -2 ^ 63 ≤ x ∧ x < 2 ^ 63 then .ok ⟨x,h⟩ else .error .bigintOutOfRange

structure TickRow where
  timestamp : ℤ
  ticker : Varchar 10
  openPrice : Numeric 15 4
  highPrice : Numeric 15 4
  lowPrice : Numeric 15 4
  closePrice : Numeric 15 4
  volume : BigInt
  source : String
  deriving DecidableEq

abbrev TickTable := List TickRow

def castTick (r : OHLCVRow) : Except DbError TickRow := do
  let ticker ← varchar 10 r.ticker
  let openPrice ← numeric 15 4 r.openPrice
  let highPrice ← numeric 15 4 r.highPrice
  let lowPrice ← numeric 15 4 r.lowPrice
  let closePrice ← numeric 15 4 r.closePrice
  let volume ← bigint r.volume
  return ⟨r.timestamp,ticker,openPrice,highPrice,lowPrice,closePrice,volume,r.source⟩

namespace TickTable
variable (ticks : TickTable)

/-- `COPY market_ticks FROM STDIN`: all rows or none. -/
def copy (rows : List OHLCVRow) : Except DbError TickTable := do
  let stored ← rows.mapM castTick
  return ticks ++ stored

/-- `DELETE ... WHERE ticker = ANY(tickers) AND timestamp >= start`. -/
def deleteFrom (tickers : List String) (start : ℤ) : TickTable :=
  ticks.filter (fun t => ¬(t.ticker.val ∈ tickers ∧ start ≤ t.timestamp))

/-- `... WHERE ticker = ticker ORDER BY timestamp DESC`. -/
def newestFirst (ticker : String) : List TickRow :=
  (ticks.filter (fun t => t.ticker.val = ticker)).insertionSort
    (fun a b => b.timestamp ≤ a.timestamp)

/-- The closes of the `n` newest rows of a ticker, back in the order of time. -/
def lastCloses (n : ℕ) (ticker : String) : List ℚ :=
  (((ticks.newestFirst ticker).take n).insertionSort
    (fun a b => a.timestamp ≤ b.timestamp)).map (·.closePrice.val)

/-- `... WHERE ticker = internalId ORDER BY timestamp DESC LIMIT 1`. -/
def latest (internalId : String) : Option TickRow :=
  firstMax TickRow.timestamp (ticks.filter (fun t => t.ticker.val = internalId))

/-- All closes of a ticker in the order of time. -/
def storedCloses (ticker : String) : List ℚ :=
  ((ticks.filter (fun t => t.ticker.val = ticker)).insertionSort
    (fun a b => a.timestamp ≤ b.timestamp)).map (·.closePrice.val)

/-- No two bars of a ticker share a timestamp. -/
def DistinctBars (ticker : String) : Prop :=
  ((ticks.filter (fun t => t.ticker.val = ticker)).map TickRow.timestamp).Nodup

end TickTable

def TickRow.toRow (t : TickRow) : OHLCVRow :=
  ⟨t.timestamp,t.ticker.val,t.openPrice.val,t.highPrice.val,t.lowPrice.val,t.closePrice.val,
    t.volume.val,t.source⟩

variable {ticks : TickTable} {internalId : String}

theorem lastCloses_length (ticks : TickTable) (n : ℕ) (ticker : String) :
    (ticks.lastCloses n ticker).length = min n (ticks.newestFirst ticker).length := by
  simp [TickTable.lastCloses]

/-- The limit counts only up to the number of rows there are. -/
theorem lastCloses_min (ticks : TickTable) (n : ℕ) (ticker : String) :
    ticks.lastCloses (min n (ticks.newestFirst ticker).length) ticker =
      ticks.lastCloses n ticker := by
  rw [TickTable.lastCloses,TickTable.lastCloses,← List.take_eq_take_min]

section DistinctBars
variable {ticker : String}

theorem storedCloses_eq (h : ticks.DistinctBars ticker) :
    ticks.storedCloses ticker = (ticks.newestFirst ticker).reverse.map (·.closePrice.val) := by
  have hperm := List.perm_insertionSort (fun a b : TickRow => b.timestamp ≤ a.timestamp)
    (ticks.filter (fun t => t.ticker.val = ticker))
  rw [TickTable.storedCloses,TickTable.newestFirst,
    ascending_eq_reverse (descending TickRow.timestamp h) hperm]

/-- Without equal timestamps the query gives the end of the stored series. -/
theorem lastCloses_eq (h : ticks.DistinctBars ticker) (n : ℕ) :
    ticks.lastCloses n ticker =
      (ticks.storedCloses ticker).drop ((ticks.storedCloses ticker).length - n) := by
  have hdescending : ((ticks.newestFirst ticker).take n).Pairwise
      (fun a b => b.timestamp < a.timestamp) :=
    (descending TickRow.timestamp h).sublist (List.take_sublist n _)
  rw [storedCloses_eq h,TickTable.lastCloses,ascending_eq_reverse hdescending (List.Perm.refl _),
    List.reverse_take,List.map_drop,List.length_map,List.length_reverse]

theorem getLast_storedCloses (h : ticks.DistinctBars ticker) :
    (ticks.storedCloses ticker).getLast? = (ticks.latest ticker).map (·.closePrice.val) := by
  rw [storedCloses_eq h,List.getLast?_map,List.getLast?_reverse,TickTable.newestFirst,
    head_descending h,TickTable.latest]

end DistinctBars

theorem latest_mem {t : TickRow} (h : ticks.latest internalId = some t) :
    t ∈ ticks ∧ t.ticker.val = internalId := by
  have hmem := firstMax_mem h
  simpa using hmem

theorem le_latest {t u : TickRow} (h : ticks.latest internalId = some t) (hu : u ∈ ticks)
    (hticker : u.ticker.val = internalId) : u.timestamp ≤ t.timestamp :=
  le_firstMax h (by simp [hu,hticker])

end MacroInvest.Market
