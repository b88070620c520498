import MacroInvest.Quant.Crossover
import MacroInvest.Live.PriceFrames

/-! # The live view of the engine

Both live paths take the last twenty stored closes and append the price held in memory as one
more bar. Right after that price was read from the table the bar repeats the newest close: the
view is the engine's on the repeated end of the series, and what crosses with the newest stored
bar is already past where the twenty closes show it by themselves.
-/
namespace MacroInvest.Live
open Broker CallRun Market Quant Series

/-- `f"{x:.2%}"` -/
def formatPercent (x : Root) : String :=
  let digits := x.nearest (10 ^ 4)
  let hundredths := digits % 100
  toString (digits / 100) ++ "." ++ (if hundredths < 10 then "0" else "") ++
    toString hundredths ++ "%"

inductive MarginOfSafety where
  | UNSAFE_OVERBOUGHT
  | SAFE
  deriving DecidableEq

structure QuantReport where
  ticker : String
  momentumScore : ℚ
  status : MarketStatus
  goldenCross : Bool
  deadCross : Bool
  volSpike : Bool
  volSpikePenalty : ℚ
  volRatioPct : String
  sma5 : ℚ
  sma20 : ℚ
  rsi : ℚ
  marginOfSafety : MarginOfSafety

inductive QuantError where
  | noPriceData (ticker : String)

def QuantError.message : QuantError → String
  | .noPriceData ticker => "no_price_data_for_" ++ ticker

def quantReport (R : Rolling ℚ) (ticker : String) (priceDf : List ℚ) : QuantReport :=
  let q := analyze R ticker (some priceDf)
  let rsiVal := computeRsi priceDf
  { ticker := ticker
    momentumScore := pyRound 3 q.momentumScore
    status := q.status
    goldenCross := q.goldenCross
    deadCross := q.deadCross
    volSpike := q.volSpike
    volSpikePenalty := pyRound 3 q.volSpikePenalty
    volRatioPct := formatPercent q.volRatio
    sma5 := pyRound 2 q.sma5Last
    sma20 := pyRound 2 q.sma20Last
    rsi := pyRound 2 rsiVal
    marginOfSafety := if 70 ≤ rsiVal then .UNSAFE_OVERBOUGHT else .SAFE }

/-- The live price as one more bar; none or zero adds nothing. -/
def withLivePrice (livePrice : Option ℚ) (priceDf : List ℚ) : List ℚ :=
  match livePrice with
  | none => priceDf
  | some price => if price = 0 then priceDf else priceDf ++ [price]

section Views
variable (R : Rolling ℚ) (priceState : Prices) (priceHistory : String → List ℚ) (ticker : String)
variable (readable : Bool) (s : FrameState)

def getQuantIntelligence : FrameState × Except QuantError QuantReport :=
  let fetched := s.fetchPriceDfFromDb ticker 20 readable
  (fetched.1,
    match fetched.2 with
    | none | some [] => .error (.noPriceData ticker)
    | some priceDf => .ok (quantReport R ticker (withLivePrice (priceState ticker) priceDf)))

/-- The frame `_build_payload` hands on for a ticker, `none` for a ticker without a price. -/
def payloadFrame : FrameState × Option (List ℚ) :=
  let fetched := s.fetchPriceDfFromDb ticker 20 readable
  (fetched.1,
    match fetched.2 with
    | none => some (priceHistory ticker)
    | some dbDf =>
      if 5 ≤ dbDf.length then (priceState ticker).map (fun price => dbDf ++ [price])
      else some (priceHistory ticker))

/-- What the engine says behind the row of a ticker. -/
def payloadQuant : Option QuantResult :=
  (payloadFrame priceState priceHistory ticker readable s).2.map
    (fun df => analyze R ticker (some df))

def payloadRow : Option QuantColumns :=
  (payloadQuant R priceState priceHistory ticker readable s).map quantColumns

end Views

/-- The last twenty closes and the newest of them once more. -/
def repeatedEnd (stored : List ℚ) : List ℚ := tail smaSlow stored ++ stored.getLast?.toList

/-- The mean at the newest of the last twenty closes, computed on these alone. -/
def windowMean (R : Rolling ℚ) (window : ℕ) (stored : List ℚ) : ℚ :=
  R.mean window (closeSeries (tail smaSlow stored)) (smaSlow - 1)

/-- A cached frame that would still be used holds the last twenty closes of the table. -/
def FreshFrame (s : FrameState) (ticker : String) : Prop :=
  ∀ entry, s.cached ticker = some entry →
    entry.frame = some (s.marketTicks.lastCloses 20 ticker)

section Crosses
variable {stored : List ℚ}

theorem repeatedEnd_length (h : smaSlow ≤ stored.length) :
    (repeatedEnd stored).length = smaSlow + 1 := by
  have hne : stored ≠ [] := by
    rintro rfl
    exact absurd h (by decide)
  rw [repeatedEnd,List.getLast?_eq_some_getLast hne,Option.toList_some,List.length_append,tail,
    List.length_drop,List.length_singleton]
  omega

/-- Up to the bar before its last the repeated end is the last twenty closes. -/
theorem agreeTo_repeatedEnd (h : smaSlow ≤ stored.length) :
    AgreeTo (smaSlow - 1) (closeSeries (repeatedEnd stored))
      (closeSeries (tail smaSlow stored)) := by
  have hlen : (tail smaSlow stored).length = smaSlow := by
    rw [tail,List.length_drop]
    omega
  refine agreeTo_closeSeries ?_
  rw [repeatedEnd,List.take_append_of_le_length (hlen.symm ▸ le_refl smaSlow)]

theorem analyze_crosses (R : Rolling ℚ) (ticker : String) {closes : List ℚ}
    (h : smaSlow ≤ closes.length) :
    (analyze R ticker (some closes)).goldenCross =
      lastGolden R (closeSeries closes) (closes.length - 1) ∧
    (analyze R ticker (some closes)).deadCross =
      lastDead R (closeSeries closes) (closes.length - 1) := by
  simp only [analyze,if_neg (not_lt.mpr h),compute,and_self]

/-- A cross that the last twenty closes show by themselves is past once the newest is
repeated. -/
theorem cross_is_past (R : Rolling ℚ) (ticker : String) (h : smaSlow ≤ stored.length) :
    (windowMean R smaSlow stored < windowMean R smaFast stored →
      (analyze R ticker (some (repeatedEnd stored))).goldenCross = false) ∧
    (windowMean R smaFast stored < windowMean R smaSlow stored →
      (analyze R ticker (some (repeatedEnd stored))).deadCross = false) := by
  have hlen := repeatedEnd_length h
  have hmean : ∀ window, R.mean window (closeSeries (repeatedEnd stored)) (smaSlow - 1) =
      windowMean R window stored := fun window => R.causal window _ _ _ (agreeTo_repeatedEnd h)
  obtain ⟨hgolden,hdead⟩ := analyze_crosses R ticker ((Nat.le_succ smaSlow).trans hlen.ge)
  rw [hgolden,hdead,hlen,Nat.add_sub_cancel]
  constructor
  · intro habove
    rw [Bool.eq_false_iff]
    intro hcross
    have hprev := (lastGolden_iff.mp hcross).2.2
    rw [hmean,hmean] at hprev
    exact absurd habove (not_lt.mpr hprev)
  · intro hbelow
    rw [Bool.eq_false_iff]
    intro hcross
    have hprev := (lastDead_iff.mp hcross).2.2
    rw [hmean,hmean] at hprev
    exact absurd hbelow (not_lt.mpr hprev)

end Crosses

theorem fetch_fresh {s : FrameState} {ticker : String} (hfresh : FreshFrame s ticker)
    (hrows : s.marketTicks.lastCloses 20 ticker ≠ []) :
    (s.fetchPriceDfFromDb ticker 20 true).2 = some (s.marketTicks.lastCloses 20 ticker) := by
  unfold FrameState.fetchPriceDfFromDb
  split
  · rename_i entry hcached
    exact hfresh entry hcached
  · simp [FrameState.readFrame,hrows]

/-- Right after the sync a tracked ticker with stored bars has the latest stored close. -/
theorem syncPriceState_latest {live : LiveState} {ticker : String}
    (htracked : live.priceState ticker ≠ none)
    (hstored : getLatestPrices true live.marketTicks ticker ≠ none) :
    (syncPriceState true live).priceState ticker = getLatestPrices true live.marketTicks ticker := by
  obtain ⟨price,hprice⟩ := Option.ne_none_iff_exists'.mp htracked
  obtain ⟨close,hclose⟩ := Option.ne_none_iff_exists'.mp hstored
  simp [syncPriceState,hprice,hclose]

/-- With a full window the fetched closes and the live price are the repeated end. -/
theorem live_window {ticks : TickTable} {priceState : Prices} {ticker : String}
    (hrows : smaSlow ≤ (ticks.storedCloses ticker).length) (hdistinct : ticks.DistinctBars ticker)
    (hpositive : ∀ close ∈ ticks.storedCloses ticker, 0 < close)
    (hprice : priceState ticker = getLatestPrices true ticks ticker) :
    ∃ newest, newest ≠ 0 ∧ priceState ticker = some newest ∧
      (ticks.lastCloses 20 ticker).length = 20 ∧
      repeatedEnd (ticks.storedCloses ticker) = ticks.lastCloses 20 ticker ++ [newest] := by
  have hne : ticks.storedCloses ticker ≠ [] := by
    intro hnil
    rw [hnil] at hrows
    exact absurd hrows (by decide)
  have hlast := List.getLast?_eq_some_getLast hne
  refine ⟨(ticks.storedCloses ticker).getLast hne,?_,?_,?_,?_⟩
  · exact (hpositive _ (List.getLast_mem hne)).ne'
  · rw [hprice,getLatestPrices,if_pos rfl,← getLast_storedCloses hdistinct,hlast]
  · rw [lastCloses_eq hdistinct,List.length_drop]
    simp only [smaSlow] at hrows
    omega
  · rw [repeatedEnd,hlast,Option.toList_some,tail,lastCloses_eq hdistinct]
    rfl

/-- Both live views are the engine's view of the last twenty stored closes with the newest one
repeated, and neither shows a cross that these closes show by themselves. -/
theorem quant_view_law (R : Rolling ℚ) (s : FrameState) (priceState : Prices)
    (priceHistory : String → List ℚ) (ticker : String)
    (hrows : 21 ≤ (s.marketTicks.storedCloses ticker).length)
    (hdistinct : s.marketTicks.DistinctBars ticker)
    (hpositive : ∀ close ∈ s.marketTicks.storedCloses ticker, 0 < close)
    (hprice : priceState ticker = getLatestPrices true s.marketTicks ticker)
    (hfresh : FreshFrame s ticker) :
    let stored := s.marketTicks.storedCloses ticker
    let seen := analyze R ticker (some (repeatedEnd stored))
    (getQuantIntelligence R priceState ticker true s).2 =
      .ok (quantReport R ticker (repeatedEnd stored)) ∧
    payloadQuant R priceState priceHistory ticker true s = some seen ∧
    payloadRow R priceState priceHistory ticker true s = some (quantColumns seen) ∧
    (windowMean R smaSlow stored < windowMean R smaFast stored → seen.goldenCross = false) ∧
    (windowMean R smaFast stored < windowMean R smaSlow stored → seen.deadCross = false) := by
  intro stored seen
  have hslow : smaSlow ≤ stored.length := le_trans (by decide) hrows
  obtain ⟨newest,hnonzero,hlive,hlen,hend⟩ := live_window hslow hdistinct hpositive hprice
  have hne : s.marketTicks.lastCloses 20 ticker ≠ [] := by
    intro hnil
    rw [hnil] at hlen
    cases hlen
  have hfetched := fetch_fresh hfresh hne
  have hshown : withLivePrice (priceState ticker) (s.marketTicks.lastCloses 20 ticker) =
      repeatedEnd stored := by
    rw [hend,hlive]
    exact if_neg hnonzero
  have hquant : payloadQuant R priceState priceHistory ticker true s = some seen := by
    unfold payloadQuant payloadFrame
    simp only [hfetched,hlive,hlen,Option.map_some]
    simp [seen,stored,hend]
  refine ⟨?_,hquant,by rw [payloadRow,hquant,Option.map_some],cross_is_past R ticker hslow⟩
  unfold getQuantIntelligence
  rw [← hshown]
  simp only [hfetched]

/-- Twenty flat bars and a higher one, stored day by day. -/
def risenBars : TickTable :=
  (TickTable.copy [] ((List.range 21).map (fun (day : ℕ) =>
    let close : ℚ := if day = 20 then 120 else 100
    ⟨day,"AAPL",close,close,close,close,1000,"mock"⟩))).toOption.getD []

/-- The process with one synthetic price. -/
def beforeSync : LiveState :=
  ⟨risenBars,seededDb,[],fun _ => some 195,fun _ => [195],none⟩

def risenSynced : LiveState := syncPriceState true beforeSync

/-- Twenty-one distinct bars with positive closes, and the price of the newest. -/
theorem risenBars_synced : 21 ≤ (risenBars.storedCloses "AAPL").length ∧
    risenBars.DistinctBars "AAPL" ∧ (∀ close ∈ risenBars.storedCloses "AAPL", 0 < close) ∧
    risenSynced.priceState "AAPL" = getLatestPrices true risenBars "AAPL" := by
  have hsynced : risenSynced.priceState "AAPL" = getLatestPrices true risenBars "AAPL" :=
    syncPriceState_latest (by decide) (by decide +kernel)
  refine ⟨by decide +kernel,?_,by decide +kernel,hsynced⟩
  unfold TickTable.DistinctBars
  decide +kernel

theorem quant_view_law_risen :
    let stored := risenBars.storedCloses "AAPL"
    let seen := analyze .exact "AAPL" (some (repeatedEnd stored))
    (getQuantIntelligence .exact risenSynced.priceState "AAPL" true (noFrames risenBars 0)).2 =
      .ok (quantReport .exact "AAPL" (repeatedEnd stored)) ∧
    payloadQuant .exact risenSynced.priceState risenSynced.priceHistory "AAPL" true
      (noFrames risenBars 0) = some seen ∧
    payloadRow .exact risenSynced.priceState risenSynced.priceHistory "AAPL" true
      (noFrames risenBars 0) = some (quantColumns seen) ∧
    (windowMean .exact smaSlow stored < windowMean .exact smaFast stored →
      seen.goldenCross = false) ∧
    (windowMean .exact smaFast stored < windowMean .exact smaSlow stored →
      seen.deadCross = false) := by
  obtain ⟨hrows,hdistinct,hpositive,hprice⟩ := risenBars_synced
  have hfresh : FreshFrame (noFrames risenBars 0) "AAPL" := by
    intro entry hentry
    cases hentry
  exact quant_view_law .exact (noFrames risenBars 0) risenSynced.priceState risenSynced.priceHistory
    "AAPL" hrows hdistinct hpositive hprice hfresh

/-- The engine finds the golden cross of the newest stored bar, the live views do not. -/
theorem newest_cross_unseen :
    (21 ≤ (risenBars.storedCloses "AAPL").length ∧ risenBars.DistinctBars "AAPL" ∧
      (∀ close ∈ risenBars.storedCloses "AAPL", 0 < close) ∧
      risenSynced.priceState "AAPL" = getLatestPrices true risenBars "AAPL") ∧
    (analyze .exact "AAPL" (some (risenBars.storedCloses "AAPL"))).goldenCross = true ∧
    (getQuantIntelligence .exact risenSynced.priceState "AAPL" true
      (noFrames risenBars 0)).2.toOption.map
      QuantReport.goldenCross = some false ∧
    (payloadQuant .exact risenSynced.priceState risenSynced.priceHistory "AAPL" true
      (noFrames risenBars 0)).map QuantResult.goldenCross = some false :=
  ⟨risenBars_synced,by decide +kernel⟩

end MacroInvest.Live
