import MacroInvest.Library.CallRun
import MacroInvest.Live.PriceState

/-! # Keys of the tick table

No key keeps two rows of one ticker and timestamp apart. Every startup copies thirty days of
synthetic bars behind whatever is stored; a refresh deletes from the earliest timestamp of its
batch on before it copies. The law says which startups and refreshes keep the rows distinct.
-/
namespace MacroInvest.Live
open Broker CallRun Fallible Market

/-- The synthetic path of one ticker, from its random generator. -/
structure MockPath where
  close : ℕ → ℚ
  noise : ℕ → ℚ
  volume : ℕ → ℤ

/-- `_OHLCV_PARAMS` -/
def ohlcvTickers : List String := ["AAPL","MSFT","TSLA","005930","000660"]

/-- Midnight of a date, in microseconds. -/
def midnight (date : ℤ) : ℤ := date * 86400000000

/-- The bar of day `i`; it opens at the close before, and names no source. -/
def mockRow (today : ℤ) (nDays : ℕ) (ticker : String) (path : MockPath) (i : ℕ) : OHLCVRow :=
  { timestamp := midnight (today - (nDays - 1 - i))
    ticker := ticker
    openPrice := pyRound 4 (path.close (i - 1))
    highPrice := pyRound 4 (path.close i * (1 + path.noise i))
    lowPrice := pyRound 4 (path.close i * (1 - path.noise i))
    closePrice := pyRound 4 (path.close i)
    volume := path.volume i
    source := "" }

def generateOhlcv (today : ℤ) (paths : String → MockPath) (nDays : ℕ) : List OHLCVRow :=
  ohlcvTickers.flatMap
    (fun ticker => (List.range nDays).map (mockRow today nDays ticker (paths ticker)))

structure Boot where
  schemaOk : Bool
  today : ℤ
  paths : String → MockPath

def Boot.rows (b : Boot) : List OHLCVRow := generateOhlcv b.today b.paths 30

inductive TableEvent where
  | startup (b : Boot)
  | refresh (f : Feeds)

/-- `init_db` and `seed_mock_data` at a startup, and a refresh. -/
def tableStep (ticks : TickTable) : TableEvent → TickTable × Unit
  | .startup b => (if b.schemaOk then seedMockData b.rows ticks else ticks,())
  | .refresh f => ((fetchLiveMarketData f ticks).1,())

def tickKey (t : TickRow) : String × ℤ := (t.ticker.val,t.timestamp)

def rowKey (r : OHLCVRow) : String × ℤ := (r.ticker,r.timestamp)

/-- No two rows with the same ticker and timestamp. -/
def UniqueKeys (ticks : TickTable) : Prop := (ticks.map tickKey).Nodup

def Fits (rows : List OHLCVRow) : Prop := ∀ r ∈ rows, (castTick r).isOk = true

instance (rows : List OHLCVRow) : Decidable (Fits rows) :=
  inferInstanceAs (Decidable (∀ r ∈ rows, _))

/-- A startup that can copy its bars finds none of their keys stored, and a refresh that can
copy its batch has no key in it twice. -/
def Fresh (ticks : TickTable) : TableEvent → Prop
  | .startup b => b.schemaOk = true → Fits b.rows → ∀ t ∈ ticks, tickKey t ∉ b.rows.map rowKey
  | .refresh f => Fits (allRows f ticks) → ((allRows f ticks).map rowKey).Nodup

theorem mapM_of_fits {rows : List OHLCVRow} (h : Fits rows) :
    ∃ stored, rows.mapM castTick = .ok stored := by
  induction rows with
  | nil => exact ⟨[],rfl⟩
  | cons r rows ih =>
    obtain ⟨stored,hstored⟩ := ih (fun u hu => h u (List.mem_cons_of_mem r hu))
    have hr := h r List.mem_cons_self
    cases hcast : castTick r with
    | error exc =>
      rw [hcast] at hr
      cases hr
    | ok t =>
      refine ⟨t :: stored,?_⟩
      rw [List.mapM_cons,hcast,hstored]
      rfl

theorem fits_of_mapM {rows : List OHLCVRow} {stored : List TickRow}
    (h : rows.mapM castTick = .ok stored) : Fits rows := by
  intro r hr
  obtain ⟨t,_,hcast⟩ := exists_right (forall₂_of_mapM h) hr
  rw [hcast]
  rfl

theorem keys_of_copies {rows : List OHLCVRow} {stored : List TickRow}
    (h : List.Forall₂ Copies rows stored) : stored.map tickKey = rows.map rowKey := by
  induction h with
  | nil => rfl
  | cons hc _ ih => simp [tickKey,rowKey,hc.ticker,hc.timestamp,ih]

/-- What a copy does to the keys: it raises, or puts the keys of its rows behind the others. -/
theorem copy_keys {rows : List OHLCVRow} (ticks : TickTable)
    (hticker : ∀ r ∈ rows, r.ticker.length ≤ 10) :
    (¬Fits rows ∧ ∃ exc, ticks.copy rows = .error exc) ∨
    (Fits rows ∧ ∃ ticks', ticks.copy rows = .ok ticks' ∧
      ticks'.map tickKey = ticks.map tickKey ++ rows.map rowKey) := by
  cases hcopy : ticks.copy rows with
  | error exc =>
    refine .inl ⟨?_,exc,rfl⟩
    intro hfits
    obtain ⟨stored,hstored⟩ := mapM_of_fits hfits
    rw [TickTable.copy,hstored] at hcopy
    cases hcopy
  | ok ticks' =>
    obtain ⟨stored,hstored,_⟩ := ok_of_bind hcopy
    obtain ⟨copied,hcopies,rfl⟩ := copy_ok hticker hcopy
    refine .inr ⟨fits_of_mapM hstored,_,rfl,?_⟩
    rw [List.map_append,keys_of_copies hcopies]

theorem mem_ohlcv {today : ℤ} {paths : String → MockPath} {nDays : ℕ} {r : OHLCVRow} :
    r ∈ generateOhlcv today paths nDays ↔ ∃ ticker ∈ ohlcvTickers, ∃ i < nDays,
      mockRow today nDays ticker (paths ticker) i = r := by
  simp [generateOhlcv]

theorem ohlcv_ticker {today : ℤ} {paths : String → MockPath} {nDays : ℕ} :
    ∀ r ∈ generateOhlcv today paths nDays, r.ticker.length ≤ 10 := by
  intro r hr
  obtain ⟨ticker,hticker,i,_,rfl⟩ := mem_ohlcv.mp hr
  have hall : ∀ ticker ∈ ohlcvTickers, ticker.length ≤ 10 := by decide +kernel
  exact hall ticker hticker

/-- The bars of one startup have keys of their own. -/
theorem ohlcv_nodup (today : ℤ) (paths : String → MockPath) (nDays : ℕ) :
    ((generateOhlcv today paths nDays).map rowKey).Nodup := by
  rw [generateOhlcv,List.map_flatMap,List.nodup_flatMap]
  constructor
  · intro ticker _
    rw [List.map_map]
    refine List.Nodup.map ?_ List.nodup_range
    intro i j hij
    have htime : midnight (today - (nDays - 1 - i)) = midnight (today - (nDays - 1 - j)) :=
      congrArg Prod.snd hij
    simp only [midnight] at htime
    omega
  · have hdistinct : ohlcvTickers.Nodup := by decide +kernel
    refine hdistinct.imp ?_
    intro a b hab key ha hb
    simp only [List.map_map,List.mem_map] at ha hb
    obtain ⟨i,_,rfl⟩ := ha
    obtain ⟨j,_,hj⟩ := hb
    exact hab (congrArg Prod.fst hj).symm

theorem unique_append_iff {ticks ticks' : TickTable} {rows : List OHLCVRow}
    (hkeys : ticks'.map tickKey = ticks.map tickKey ++ rows.map rowKey) :
    UniqueKeys ticks' ↔ UniqueKeys ticks ∧ (rows.map rowKey).Nodup ∧
      ∀ t ∈ ticks, tickKey t ∉ rows.map rowKey := by
  rw [UniqueKeys,hkeys,List.nodup_append']
  refine and_congr Iff.rfl (and_congr Iff.rfl ?_)
  simp [List.Disjoint]

theorem startup_keys {b : Boot} (ticks : TickTable) (hschema : b.schemaOk = true)
    (hfits : Fits b.rows) :
    (tableStep ticks (.startup b)).1.map tickKey = ticks.map tickKey ++ b.rows.map rowKey := by
  simp only [tableStep,hschema,if_true,seedMockData]
  rcases copy_keys ticks ohlcv_ticker with
    ⟨hunfit,_⟩ | ⟨_,ticks',hcopy,hkeys⟩
  · exact absurd hfits hunfit
  · rw [Boot.rows,hcopy]
    exact hkeys

/-- A startup keeps the keys distinct exactly when it is fresh. -/
theorem startup_unique_iff {ticks : TickTable} (b : Boot) (h : UniqueKeys ticks) :
    UniqueKeys (tableStep ticks (.startup b)).1 ↔ Fresh ticks (.startup b) := by
  simp only [tableStep,Fresh]
  cases b.schemaOk with
  | false => simpa using h
  | true =>
    simp only [if_true,seedMockData,forall_const]
    rcases copy_keys ticks ohlcv_ticker with
      ⟨hunfit,exc,hcopy⟩ | ⟨hfits,ticks',hcopy,hkeys⟩
    · rw [Boot.rows,hcopy]
      exact iff_of_true h (fun hfits => absurd hfits hunfit)
    · rw [Boot.rows,hcopy,unique_append_iff hkeys]
      constructor
      · intro hunique _
        exact hunique.2.2
      · intro hfresh
        exact ⟨h,ohlcv_nodup _ _ _,hfresh hfits⟩

/-- What the window of a batch spares has none of the batch's keys. -/
theorem spared_keys {ticks : TickTable} {rows : List OHLCVRow} {minTs : ℤ}
    (hmin : (rows.map OHLCVRow.timestamp).min? = some minTs) :
    ∀ t ∈ ticks.deleteFrom (rows.map OHLCVRow.ticker) minTs, tickKey t ∉ rows.map rowKey := by
  intro t ht hkey
  obtain ⟨r,hr,hrt⟩ := List.mem_map.mp hkey
  obtain ⟨hticker,htime⟩ := Prod.mk.inj hrt
  have hle := (List.min?_eq_some_iff.mp hmin).2 r.timestamp (List.mem_map_of_mem hr)
  have hout := (List.mem_filter.mp ht).2
  have hin : t.ticker.val ∈ rows.map OHLCVRow.ticker ∧ minTs ≤ t.timestamp :=
    ⟨hticker ▸ List.mem_map_of_mem hr,htime ▸ hle⟩
  simp [hin.2] at hout
  exact hout r hr hticker

/-- A refresh keeps the keys distinct exactly when its batch is fresh. -/
theorem refresh_unique_iff {ticks : TickTable} (f : Feeds) (h : UniqueKeys ticks) :
    UniqueKeys (tableStep ticks (.refresh f)).1 ↔ Fresh ticks (.refresh f) := by
  simp only [tableStep,Fresh,fetchLiveMarketData]
  cases hmin : ((allRows f ticks).map OHLCVRow.timestamp).min? with
  | none =>
    have hempty : allRows f ticks = [] := by simpa using hmin
    refine iff_of_true h ?_
    rw [hempty]
    exact fun _ => List.nodup_nil
  | some minTs =>
    simp only [refreshTransaction]
    rcases copy_keys (ticks.deleteFrom ((allRows f ticks).map OHLCVRow.ticker) minTs)
      (fun r => allRows_fits) with ⟨hunfit,exc,hcopy⟩ | ⟨hfits,ticks',hcopy,hkeys⟩
    · rw [hcopy]
      exact iff_of_true h (fun hfits => absurd hfits hunfit)
    · rw [hcopy,unique_append_iff hkeys]
      constructor
      · intro hunique _
        exact hunique.2.1
      · intro hfresh
        refine ⟨?_,hfresh hfits,spared_keys hmin⟩
        exact List.Nodup.sublist (List.filter_sublist.map tickKey) h

theorem tableStep_unique_iff {ticks : TickTable} (e : TableEvent) (h : UniqueKeys ticks) :
    UniqueKeys (tableStep ticks e).1 ↔ Fresh ticks e := by
  cases e with
  | startup b => exact startup_unique_iff b h
  | refresh f => exact refresh_unique_iff f h

theorem unique_nil : UniqueKeys [] := List.nodup_nil

/-- A startup on a day in 2026 with flat paths. -/
def flatBoot : Boot := ⟨true,20580,fun _ => ⟨fun _ => 100,fun _ => 0,fun _ => 1000000⟩⟩

end MacroInvest.Live
