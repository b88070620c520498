import MacroInvest.Library.Dict
import MacroInvest.Library.FilledRows
import MacroInvest.Live.PriceState
import MacroInvest.Risk.Engine

/-! # The value of the portfolio in the past

The quantities held now are valued at the average closes of each time bucket. The prices of the
present come in where a bucket has no close of a ticker that is held. The chart passes its
intervals as parameters, which the server does not parse, so it has no points; the metrics write
theirs out.
-/
namespace MacroInvest.Live
open Broker Market FilledRows

/-- Microseconds of an hour. -/
def hour : ℤ := 3600000000

/-- What the window and the width of the buckets of a query are. -/
structure Span where
  window : ℤ
  bucket : ℤ

/-- How the intervals of a query are given: written out, or as parameters. -/
inductive Intervals where
  | literals (span : Span)
  | parameters (span : Span)

/-- `_intervals`, with the span of a day for an unknown period. -/
def spanOf (period : String) : Span :=
  match period with
  | "1W" => ⟨7 * 24 * hour,hour⟩
  | "1M" => ⟨30 * 24 * hour,6 * hour⟩
  | "3M" => ⟨90 * 24 * hour,24 * hour⟩
  | _ => ⟨24 * hour,10 * 60000000⟩

/-- The span of the metrics. -/
def metricsSpan : Span := ⟨30 * 24 * hour,24 * hour⟩

/-- The Monday that buckets are counted from, 3 January 2000. -/
def bucketOrigin : ℤ := 10959 * 24 * hour

def timeBucket (width timestamp : ℤ) : ℤ :=
  bucketOrigin + width * ((timestamp - bucketOrigin) / width)

structure BucketRow where
  ts : ℤ
  ticker : String
  price : ℚ

/-- `WHERE timestamp >= NOW() - INTERVAL window AND ticker = ANY(held)`. -/
def windowTicks (ticks : TickTable) (now : ℤ) (held : List String) (span : Span) : TickTable :=
  ticks.filter (fun t => now - span.window ≤ t.timestamp ∧ t.ticker.val ∈ held)

def tickGroup (width : ℤ) (t : TickRow) : ℤ × String :=
  (timeBucket width t.timestamp,t.ticker.val)

def average (l : List ℚ) : ℚ := l.sum / l.length

/-- `SELECT time_bucket(bucket, timestamp) AS ts, ticker, AVG(close_price) AS price ...
GROUP BY 1, 2 ORDER BY 1`. -/
def bucketRows (ticks : TickTable) (now : ℤ) (held : List String) (span : Span) :
    List BucketRow :=
  let rows := windowTicks ticks now held span
  let groups := (rows.map (tickGroup span.bucket)).dedup
  (groups.map (fun g => {
    ts := g.1
    ticker := g.2
    price := average ((rows.filter (fun t => tickGroup span.bucket t = g)).map
      (·.closePrice.val)) : BucketRow })).insertionSort (fun a b => a.ts ≤ b.ts)

/-- The rows of the query, or none where it raises: `INTERVAL $1` is a syntax error. -/
def fetchRows (readable : Bool) (ticks : TickTable) (now : ℤ) (held : List String) :
    Intervals → Option (List BucketRow)
  | .literals span => if readable then some (bucketRows ticks now held span) else none
  | .parameters _ => none

/-- `pivot.setdefault(key, {})[ticker] = price` for every row. -/
def pivot (rows : List BucketRow) : Dict ℤ (Dict String ℚ) :=
  rows.foldl (fun d r => d.set r.ts (((d.get? r.ts).getD .empty).set r.ticker r.price)) .empty

/-- `qty`: the holdings with a positive quantity, or one of each tracked ticker. -/
def heldQty (holdings : List Holding) : Dict String ℚ :=
  let qty := Dict.ofList ((holdings.filter (fun h => 0 < h.quantity)).map
    (fun h => (h.ticker,h.quantity)))
  if qty.entries.isEmpty then Dict.ofList (tickers.map (fun t => (t,1))) else qty

/-- `sum(prices.get(t, _PRICE_STATE.get(t, 0.0)) * q for t, q in qty.items())` -/
def bucketValue (qty : Dict String ℚ) (table : Dict ℤ (Dict String ℚ)) (priceState : Prices)
    (key : ℤ) : ℚ :=
  total qty.entries priceState ((table.get? key).getD .empty).get?

/-- The positive values of the buckets, in the order of time. -/
def bucketValues (qty : Dict String ℚ) (rows : List BucketRow) (priceState : Prices) :
    List (ℤ × ℚ) :=
  let table := pivot rows
  listed (table.keys.insertionSort (· ≤ ·)) (bucketValue qty table priceState)

structure History where
  points : List (ℤ × ℚ)
  empty : Bool

section Endpoints
variable (readable : Bool) (ticks : TickTable) (now : ℤ) (holdings : List Holding)
variable (priceState : Prices)

def portfolioHistory (period : String) : History :=
  let qty := heldQty holdings
  match fetchRows readable ticks now qty.keys (.parameters (spanOf period)) with
  | none => ⟨[],true⟩
  | some rows =>
    let values := bucketValues qty rows priceState
    { points := values.map (fun p => (p.1,pyRound 2 p.2))
      empty := values.length = 0 }

def dailyValues : List ℚ :=
  let qty := heldQty holdings
  match fetchRows readable ticks now qty.keys (.literals metricsSpan) with
  | none => []
  | some rows => (bucketValues qty rows priceState).map Prod.snd

/-- `np.diff(arr) / arr[:-1]` -/
def dailyReturns (values : List ℚ) : List ℚ :=
  List.zipWith (fun x y => (y - x) / x) values values.tail

theorem tradingDays_nonneg : (0 : ℚ) ≤ 252 := by norm_num

/-- `round(excess / std * math.sqrt(252), 2)` -/
def roundedSharpe (excess : ℚ) (std : Root) : ℚ :=
  let size := ((Root.ofRat excess).div std).mul ⟨252,tradingDays_nonneg⟩
  SignType.sign excess * size.nearest 100 / 100

/-- The Sharpe ratio of the daily values over the rate of the central bank, in percent. -/
def portfolioMetrics (fedRate : ℚ) : Option ℚ :=
  let values := dailyValues readable ticks now holdings priceState
  let dailyRet := dailyReturns values
  let rfDaily := fedRate / 100 / 252
  if values.length < 3 then none
  else if (Risk.std dailyRet).sq = 0 then none
  else some (roundedSharpe (average dailyRet - rfDaily) (Risk.std dailyRet))

end Endpoints

section Pivot
variable {rows : List BucketRow} {key : ℤ} {ticker : String}

theorem pivot_concat (rows : List BucketRow) (r : BucketRow) :
    pivot (rows ++ [r]) = (pivot rows).set r.ts
      ((((pivot rows).get? r.ts).getD .empty).set r.ticker r.price) := by
  rw [pivot,List.foldl_append]
  rfl

theorem mem_pivot_keys : key ∈ (pivot rows).keys ↔ ∃ r ∈ rows, r.ts = key := by
  induction rows using List.reverseRecOn with
  | nil => simp [pivot,Dict.keys,Dict.empty]
  | append_singleton rows r ih =>
    rw [pivot_concat,Dict.keys,Dict.set,Dict.mem_keys_setEntries,← Dict.keys,ih]
    simp only [List.mem_append,List.mem_singleton,or_and_right,exists_or,exists_eq_left]
    rw [or_comm,eq_comm]

/-- A bucket lacks the tickers that no row of it names. -/
theorem pivot_get?_eq_none : (((pivot rows).get? key).getD .empty).get? ticker = none ↔
    ∀ r ∈ rows, r.ts = key → r.ticker ≠ ticker := by
  induction rows using List.reverseRecOn with
  | nil => simp [pivot]
  | append_singleton rows r ih =>
    rw [pivot_concat,Dict.get?_set]
    simp only [List.forall_mem_append,List.forall_mem_singleton]
    by_cases hkey : key = r.ts
    · subst hkey
      rw [if_pos rfl,Option.getD_some,Dict.get?_set]
      by_cases hticker : ticker = r.ticker
      · simp [hticker]
      · rw [if_neg hticker,ih]
        simp [Ne.symm hticker]
    · rw [if_neg hkey,ih]
      simp [Ne.symm hkey]

end Pivot

section BucketRows
variable {ticks : TickTable} {now : ℤ} {held : List String} {span : Span} {key : ℤ}
variable {ticker : String}

/-- A bucket has a row of the tickers that have a tick in it. -/
theorem exists_bucketRow : (∃ r ∈ bucketRows ticks now held span, r.ts = key ∧ r.ticker = ticker) ↔
    ∃ t ∈ windowTicks ticks now held span, tickGroup span.bucket t = (key,ticker) := by
  simp only [bucketRows,List.mem_insertionSort,List.mem_map,List.mem_dedup]
  constructor
  · rintro ⟨_,⟨_,⟨t,ht,rfl⟩,rfl⟩,hkey,hticker⟩
    exact ⟨t,ht,Prod.ext hkey hticker⟩
  · rintro ⟨t,ht,hgroup⟩
    exact ⟨_,⟨_,⟨t,ht,rfl⟩,rfl⟩,congrArg Prod.fst hgroup,congrArg Prod.snd hgroup⟩

theorem mem_bucketRows_keys : key ∈ (pivot (bucketRows ticks now held span)).keys ↔
    ∃ t ∈ windowTicks ticks now held span, timeBucket span.bucket t.timestamp = key := by
  rw [mem_pivot_keys]
  constructor
  · rintro ⟨r,hr,hkey⟩
    obtain ⟨t,ht,hgroup⟩ := exists_bucketRow.mp ⟨r,hr,hkey,rfl⟩
    exact ⟨t,ht,congrArg Prod.fst hgroup⟩
  · rintro ⟨t,ht,hkey⟩
    obtain ⟨r,hr,hts,-⟩ := exists_bucketRow.mpr ⟨t,ht,Prod.ext hkey rfl⟩
    exact ⟨r,hr,hts⟩

theorem bucket_lacks_iff :
    (((pivot (bucketRows ticks now held span)).get? key).getD .empty).get? ticker = none ↔
      ∀ t ∈ windowTicks ticks now held span, tickGroup span.bucket t ≠ (key,ticker) := by
  rw [pivot_get?_eq_none]
  constructor
  · intro h t ht hgroup
    obtain ⟨r,hr,hts,hticker⟩ := exists_bucketRow.mpr ⟨t,ht,hgroup⟩
    exact h r hr hts hticker
  · intro h r hr hts hticker
    obtain ⟨t,ht,hgroup⟩ := exists_bucketRow.mp ⟨r,hr,hts,hticker⟩
    exact h t ht hgroup

end BucketRows
/-! ## Where the price state shows -/

/-- A price for every tracked ticker and for no other. -/
def LivePrices (priceState : Prices) : Prop :=
  ∀ ticker, (∃ price, priceState ticker = some price) ↔ ticker ∈ tickers

/-- A bucket that has a tick of a held ticker has one of each held ticker that is tracked. -/
def FullBuckets (ticks : TickTable) (now : ℤ) (held : List String) (span : Span) : Prop :=
  ∀ t ∈ windowTicks ticks now held span, ∀ ticker ∈ held, ticker ∈ tickers →
    ∃ u ∈ windowTicks ticks now held span,
      tickGroup span.bucket u = (timeBucket span.bucket t.timestamp,ticker)

/-- The same price for every tracked ticker. -/
def flatPrices (price : ℚ) : Prices := fun ticker => if ticker ∈ tickers then some price else none

theorem flatPrices_live (price : ℚ) : LivePrices (flatPrices price) := by
  intro ticker
  rw [flatPrices]
  split
  · rename_i h
    exact ⟨fun _ => h,fun _ => ⟨price,rfl⟩⟩
  · rename_i h
    exact ⟨fun hsome => absurd hsome (by simp),fun hmem => absurd hmem h⟩

theorem LivePrices.untracked {priceState : Prices} (h : LivePrices priceState) {ticker : String}
    (hticker : ticker ∉ tickers) : priceState ticker = none := by
  cases hprice : priceState ticker with
  | none => rfl
  | some price => exact absurd ((h ticker).mp ⟨price,hprice⟩) hticker

theorem heldQty_pos (holdings : List Holding) : ∀ e ∈ (heldQty holdings).entries, 0 < e.2 := by
  have hfixed : ∀ e ∈ (Dict.ofList (tickers.map (fun t => (t,(1 : ℚ))))).entries, 0 < e.2 := by
    intro e he
    obtain ⟨t,-,rfl⟩ := List.mem_map.mp (Dict.mem_of_mem_ofList he)
    exact one_pos
  have hheld : ∀ e ∈ (Dict.ofList ((holdings.filter (fun h => 0 < h.quantity)).map
      (fun h => (h.ticker,h.quantity)))).entries, 0 < e.2 := by
    intro e he
    obtain ⟨h,hh,rfl⟩ := List.mem_map.mp (Dict.mem_of_mem_ofList he)
    simpa using (List.mem_filter.mp hh).2
  unfold heldQty
  dsimp only
  split
  · exact hfixed
  · exact hheld

section FlatValue
variable {qty : Dict String ℚ} (hqty : ∀ e ∈ qty.entries, 0 < e.2)
variable (table : Dict ℤ (Dict String ℚ)) (key : ℤ)

theorem bucketValue_flat (qty : Dict String ℚ) (price : ℚ) :
    bucketValue qty table (flatPrices price) key = bucketValue qty table (fun _ => none) key +
      price * missing qty.entries ((table.get? key).getD .empty).get? (· ∈ tickers) :=
  total_const _ _ _ price

include hqty

theorem bucketValue_mono {x y : ℚ} (h : x ≤ y) :
    bucketValue qty table (flatPrices x) key ≤ bucketValue qty table (flatPrices y) key := by
  rw [bucketValue_flat,bucketValue_flat]
  gcongr
  exact missing_nonneg (fun e he => (hqty e he).le)

/-- A bucket without a tracked ticker that is held can gain one at a higher price. -/
theorem exists_gap {e : String × ℚ} (he : e ∈ qty.entries) (htracked : e.1 ∈ tickers)
    (hlacks : ((table.get? key).getD .empty).get? e.1 = none) :
    ∃ x y, x ≤ y ∧ 0 < bucketValue qty table (flatPrices x) key ∧
      bucketValue qty table (flatPrices x) key + 1 ≤ bucketValue qty table (flatPrices y) key := by
  have hpos := hqty e he
  have hmissing : e.2 ≤ missing qty.entries ((table.get? key).getD .empty).get? (· ∈ tickers) :=
    le_missing (fun e he => (hqty e he).le) he htracked hlacks
  let known := bucketValue qty table (fun _ => none) key
  have hraised : ∀ z, 0 ≤ z → z ≤ z / e.2 *
      missing qty.entries ((table.get? key).getD .empty).get? (· ∈ tickers) := by
    intro z hz
    calc z = z / e.2 * e.2 := (div_mul_cancel₀ z hpos.ne').symm
      _ ≤ _ := by gcongr
  refine ⟨(|known| + 1) / e.2,(|known| + 1) / e.2 + 1 / e.2,?_,?_,?_⟩
  · have hstep : 0 < 1 / e.2 := one_div_pos.mpr hpos
    linarith
  · rw [bucketValue_flat]
    have hcovered := hraised (|known| + 1) (by positivity)
    have hknown : -|known| ≤ known := neg_abs_le known
    linarith
  · rw [bucketValue_flat,bucketValue_flat,add_mul]
    have hone := hraised 1 zero_le_one
    linarith

end FlatValue

section Span
variable {ticks : TickTable} {now : ℤ} {holdings : List Holding} {span : Span}

/-- Full buckets are valued without the price state. -/
theorem bucketValues_eq (hfull : FullBuckets ticks now (heldQty holdings).keys span)
    {p q : Prices} (hp : LivePrices p) (hq : LivePrices q) :
    bucketValues (heldQty holdings) (bucketRows ticks now (heldQty holdings).keys span) p =
      bucketValues (heldQty holdings) (bucketRows ticks now (heldQty holdings).keys span) q := by
  refine listed_congr (fun key hkey => total_congr (fun e he hlacks => ?_))
  rw [List.mem_insertionSort] at hkey
  obtain ⟨t,ht,rfl⟩ := mem_bucketRows_keys.mp hkey
  rw [bucket_lacks_iff] at hlacks
  have hticker : e.1 ∉ tickers := by
    intro hmem
    obtain ⟨u,hu,hgroup⟩ := hfull t ht e.1 (List.mem_map_of_mem he) hmem
    exact hlacks u hu hgroup
  rw [hp.untracked hticker,hq.untracked hticker]

/-- Listed values that agree at all prices come from full buckets. -/
theorem fullBuckets_of_values (h : ∀ p q, LivePrices p → LivePrices q →
    (bucketValues (heldQty holdings) (bucketRows ticks now (heldQty holdings).keys span) p).map
        Prod.snd =
      (bucketValues (heldQty holdings) (bucketRows ticks now (heldQty holdings).keys span) q).map
        Prod.snd) :
    FullBuckets ticks now (heldQty holdings).keys span := by
  by_contra hnot
  unfold FullBuckets at hnot
  push Not at hnot
  obtain ⟨t,ht,ticker,hheld,htracked,hlacks⟩ := hnot
  obtain ⟨e,he,rfl⟩ := List.mem_map.mp hheld
  have hkey : timeBucket span.bucket t.timestamp ∈
      (pivot (bucketRows ticks now (heldQty holdings).keys span)).keys.insertionSort (· ≤ ·) :=
    (List.mem_insertionSort (· ≤ ·)).mpr (mem_bucketRows_keys.mpr ⟨t,ht,rfl⟩)
  -- at some two prices this bucket has positive values that are one or more apart
  obtain ⟨x,y,hle,hpos,hgap⟩ := exists_gap (heldQty_pos holdings) _ _ he htracked
    (bucket_lacks_iff.mpr hlacks)
  have heq := eq_of_listed_eq (fun k _ => bucketValue_mono (heldQty_pos holdings) _ k hle)
    (h _ _ (flatPrices_live x) (flatPrices_live y)) hkey hpos
  linarith

end Span

/-- The query of the chart is refused, so it has no points. -/
theorem portfolioHistory_empty (readable : Bool) (ticks : TickTable) (now : ℤ)
    (holdings : List Holding) (priceState : Prices) (period : String) :
    portfolioHistory readable ticks now holdings priceState period = ⟨[],true⟩ := rfl

theorem dailyValues_of_readable (ticks : TickTable) (now : ℤ) (holdings : List Holding)
    (priceState : Prices) : dailyValues true ticks now holdings priceState =
      (bucketValues (heldQty holdings)
        (bucketRows ticks now (heldQty holdings).keys metricsSpan) priceState).map Prod.snd := rfl

/-- Neither endpoint answers otherwise when the prices of the present are others. -/
structure SameAnswers (historyReadable metricsReadable : Bool) (ticks : TickTable) (now : ℤ)
    (holdings : List Holding) (period : String) (p q : Prices) : Prop where
  history : portfolioHistory historyReadable ticks now holdings p period =
    portfolioHistory historyReadable ticks now holdings q period
  daily : dailyValues metricsReadable ticks now holdings p =
    dailyValues metricsReadable ticks now holdings q
  metrics : ∀ fedRate, portfolioMetrics metricsReadable ticks now holdings p fedRate =
    portfolioMetrics metricsReadable ticks now holdings q fedRate

/-- The metrics take nothing but the daily values from the prices. -/
theorem sameAnswers_of_daily {historyReadable metricsReadable : Bool} {ticks : TickTable} {now : ℤ}
    {holdings : List Holding} {period : String} {p q : Prices}
    (h : dailyValues metricsReadable ticks now holdings p =
      dailyValues metricsReadable ticks now holdings q) :
    SameAnswers historyReadable metricsReadable ticks now holdings period p q := by
  constructor
  · rw [portfolioHistory_empty,portfolioHistory_empty]
  · exact h
  · intro fedRate
    rw [portfolioMetrics,portfolioMetrics,h]

/-- The points of a chart, the values of the days and their Sharpe ratio depend on past prices
only, exactly where every daily bucket has a tick of each tracked ticker that is held. -/
theorem pastPrices_iff (historyReadable metricsReadable : Bool) (ticks : TickTable) (now : ℤ)
    (holdings : List Holding) (period : String) :
    (∀ p q, LivePrices p → LivePrices q →
      SameAnswers historyReadable metricsReadable ticks now holdings period p q) ↔
    (metricsReadable = true → FullBuckets ticks now (heldQty holdings).keys metricsSpan) := by
  constructor
  · rintro h rfl
    refine fullBuckets_of_values (fun p q hp hq => ?_)
    rw [← dailyValues_of_readable,← dailyValues_of_readable]
    exact (h p q hp hq).daily
  · intro hfull p q hp hq
    refine sameAnswers_of_daily ?_
    cases metricsReadable with
    | false => rfl
    | true => rw [dailyValues_of_readable,dailyValues_of_readable,bucketValues_eq (hfull rfl) hp hq]

/-- A bar of the American session only, at half past eight in the evening. -/
def eveningBar : OHLCVRow where
  timestamp := 20613 * 24 * hour + 20 * hour + 30 * 60000000
  ticker := "AAPL"
  openPrice := 180
  highPrice := 182
  lowPrice := 179
  closePrice := 181
  volume := 52000
  source := "yfinance"

def eveningTicks : TickTable := (TickTable.copy [] [eveningBar]).toOption.getD []

def mixedHoldings : List Holding := [⟨"005930",10,70000,.KRW⟩,⟨"AAPL",5,180,.USD⟩]

/-- A price state in which the Korean ticker has a given price. -/
def samsungAt (price : ℚ) : Prices := fun ticker =>
  if ticker = "005930" then some price else flatPrices 181 ticker

theorem samsungAt_live (price : ℚ) : LivePrices (samsungAt price) := by
  intro ticker
  rw [samsungAt]
  split
  · rename_i h
    subst h
    exact ⟨fun _ => by decide,fun _ => ⟨price,rfl⟩⟩
  · exact flatPrices_live 181 ticker

/-- The evening's day is worth more when the Korean price of the next morning is. -/
theorem evening_repriced : ¬∀ (historyReadable metricsReadable : Bool) (ticks : TickTable)
    (now : ℤ) (holdings : List Holding) (period : String) (p q : Prices),
    LivePrices p → LivePrices q →
      SameAnswers historyReadable metricsReadable ticks now holdings period p q := by
  intro h
  have hsame := (h true true eveningTicks (20614 * 24 * hour) mixedHoldings "1D" (samsungAt 70000)
    (samsungAt 71000) (samsungAt_live _) (samsungAt_live _)).daily
  have hlow : dailyValues true eveningTicks (20614 * 24 * hour) mixedHoldings
      (samsungAt 70000) = [700905] := by
    decide +kernel
  have hhigh : dailyValues true eveningTicks (20614 * 24 * hour) mixedHoldings
      (samsungAt 71000) = [710905] := by
    decide +kernel
  rw [hlow,hhigh] at hsame
  exact absurd hsame (by decide)

end MacroInvest.Live
