import MacroInvest.Library.Drawdown
import MacroInvest.Quant.Backtest
import MacroInvest.Risk.Engine

/-! # The drawdown of a price series

The risk engine normalises the prices by the first of them and the backtest leaves its equity as
it is. Both passes keep the running peak, and both return the least relative change from any
bar to a later one.
-/
namespace MacroInvest.Risk
open Broker Drawdown Quant

/-- The column of prices by row number. -/
def priceAt (prices : List Close) (t : ℕ) : ℚ := (prices.map Subtype.val).getD t 0

def Close.scale (c : ℚ) (hc : c ≠ 0) (p : Close) : Close := ⟨c * p.val,mul_ne_zero hc p.property⟩

/-- The equity of each bar before it is rounded. -/
def equityCurve (R : Series.Rolling ℚ) (closes : List ℚ) (initialCapital : ℚ) : List ℚ :=
  (List.range closes.length).map (equity R (closeSeries closes) initialCapital)

section Pass

/-- The list of running peaks and the series of them. -/
theorem cummax_eq (xs : List ℚ) :
    cummax xs = (List.range xs.length).map (Series.cummax (fun i => xs.getD i 0)) := by
  cases xs with
  | nil => rfl
  | cons x xs =>
    have hpeak : ∀ t ≤ xs.length,
        (xs.take t).foldl max x = Series.cummax (fun i => (x :: xs).getD i 0) t := by
      intro t ht
      induction t with
      | zero => rfl
      | succ t ih =>
        rw [List.take_succ_eq_append_getElem ht,List.foldl_append,ih (by omega),Series.cummax]
        simp [List.getElem?_eq_getElem ht]
    refine List.ext_getElem (by simp [cummax]) ?_
    intro t ht _
    simp only [cummax,List.length_scanl] at ht
    simp only [cummax,List.getElem_scanl,List.getElem_map,List.getElem_range]
    exact hpeak t (by omega)

theorem drawdowns_eq (xs : List ℚ) :
    List.zipWith (fun c m => (c - m) / m) xs (cummax xs) =
      fallsTo (fun i => xs.getD i 0) xs.length := by
  refine List.ext_getElem (by simp [cummax_eq,fallsTo]) ?_
  intro t ht _
  simp only [cummax_eq,List.length_zipWith,List.length_map,List.length_range,min_self] at ht
  simp [cummax_eq,fallsTo,fallAt,List.getElem?_eq_getElem ht]

/-- Dividing by the first price changes no fall. -/
theorem computeMaxDrawdown_eq {prices : List Close} (hpos : ∀ p ∈ prices, 0 < p.val) :
    computeMaxDrawdown prices = (fallsTo (priceAt prices) prices.length).min?.getD 0 := by
  unfold computeMaxDrawdown
  split
  · rfl
  · simp [fallsTo,fallAt,Series.cummax]
  · rename_i first second rest
    have hfirst : 0 < first.val := hpos first List.mem_cons_self
    have hscaled : (fun i => ((first :: second :: rest).map (fun p => p.val / first.val)).getD i 0) =
        fun i => first.val⁻¹ * priceAt (first :: second :: rest) i := by
      funext i
      simp only [priceAt,List.getD_eq_getElem?_getD,List.getElem?_map]
      cases (first :: second :: rest)[i]? with
      | none => simp
      | some p => simp [div_eq_inv_mul]
    have hfalls : fallsTo (fun i => first.val⁻¹ * priceAt (first :: second :: rest) i)
        (first :: second :: rest).length =
          fallsTo (priceAt (first :: second :: rest)) (first :: second :: rest).length :=
      List.map_congr_left (fun t _ => fallAt_mul _ (inv_pos.mpr hfirst) t)
    simp only [drawdowns_eq,hscaled,List.length_map,hfalls]

end Pass

section Prices
variable {prices : List Close}

theorem priceAt_getElem {i : ℕ} (hi : i < prices.length) : priceAt prices i = prices[i].val := by
  rw [priceAt,List.getD_eq_getElem _ _ (by simpa using hi),List.getElem_map]

theorem priceAt_pos (hpos : ∀ p ∈ prices, 0 < p.val) :
    ∀ i < prices.length, 0 < priceAt prices i := by
  intro i hi
  rw [priceAt_getElem hi]
  exact hpos _ (List.getElem_mem hi)

theorem maxDrawdown_isLeast (hne : prices ≠ []) (hpos : ∀ p ∈ prices, 0 < p.val) :
    IsLeast (changes (priceAt prices) prices.length) (computeMaxDrawdown prices) := by
  rw [computeMaxDrawdown_eq hpos]
  exact worst_isLeast (List.length_pos_of_ne_nil hne) (priceAt_pos hpos)

theorem maxDrawdown_eq_zero_iff (hne : prices ≠ []) (hpos : ∀ p ∈ prices, 0 < p.val) :
    computeMaxDrawdown prices = 0 ↔ List.IsChain (fun p q => p.val ≤ q.val) prices := by
  rw [least_eq_zero_iff (List.length_pos_of_ne_nil hne) (priceAt_pos hpos)
    (maxDrawdown_isLeast hne hpos),List.isChain_iff_getElem]
  constructor
  · intro hrise t ht
    have hstep := hrise t ht
    rwa [priceAt_getElem (Nat.lt_of_succ_lt ht),priceAt_getElem ht] at hstep
  · intro hrise t ht
    rw [priceAt_getElem (Nat.lt_of_succ_lt ht),priceAt_getElem ht]
    exact hrise t ht

theorem maxDrawdown_scale (hpos : ∀ p ∈ prices, 0 < p.val) {c : ℚ} (hc : 0 < c) :
    computeMaxDrawdown (prices.map (Close.scale c hc.ne')) = computeMaxDrawdown prices := by
  have hprices : ∀ p ∈ prices.map (Close.scale c hc.ne'), 0 < p.val := by
    intro p hp
    obtain ⟨q,hq,rfl⟩ := List.mem_map.mp hp
    exact mul_pos hc (hpos q hq)
  have hscaled : priceAt (prices.map (Close.scale c hc.ne')) = fun i => c * priceAt prices i := by
    funext i
    simp only [priceAt,List.getD_eq_getElem?_getD,List.getElem?_map]
    cases prices[i]? with
    | none => simp
    | some p => simp [Close.scale]
  rw [computeMaxDrawdown_eq hprices,computeMaxDrawdown_eq hpos,hscaled,List.length_map]
  congr 2
  exact List.map_congr_left (fun t _ => fallAt_mul _ hc t)

theorem maxDrawdown_append (hne : prices ≠ []) (hpos : ∀ p ∈ prices, 0 < p.val) {more : List Close}
    (hmore : ∀ p ∈ more, 0 < p.val) :
    computeMaxDrawdown (prices ++ more) ≤ computeMaxDrawdown prices := by
  have hall : ∀ p ∈ prices ++ more, 0 < p.val := by
    intro p hp
    exact (List.mem_append.mp hp).elim (hpos p) (hmore p)
  have hsame : changes (priceAt prices) prices.length =
      changes (priceAt (prices ++ more)) prices.length := by
    refine changes_congr ?_
    intro i hi
    have hlonger : i < (prices ++ more).length := by
      rw [List.length_append]
      omega
    rw [priceAt_getElem hi,priceAt_getElem hlonger,List.getElem_append_left hi]
  have hmem := (maxDrawdown_isLeast hne hpos).1
  rw [hsame] at hmem
  exact (maxDrawdown_isLeast (by simp [hne]) hall).2 (changes_mono (by simp) hmem)

end Prices

section Backtest

theorem equity_pos {R : Series.Rolling ℚ} {closes : List ℚ} {capital : ℚ}
    (hpos : ∀ c ∈ closes, 0 < c)
    (hcapital : 0 < capital) {t : ℕ} (ht : t < closes.length) :
    0 < equity R (closeSeries closes) capital t := by
  have hclose : ∀ i < closes.length, 0 < closeSeries closes i := by
    intro i hi
    rw [closeSeries,List.getD_eq_getElem _ _ hi]
    exact hpos _ (List.getElem_mem hi)
  induction t with
  | zero => rwa [equity_zero]
  | succ t ih =>
    rw [equity_succ]
    refine mul_pos (ih (Nat.lt_of_succ_lt ht)) ?_
    split
    · exact div_pos (hclose _ ht) (hclose _ (Nat.lt_of_succ_lt ht))
    · exact one_pos

/-- The worst fall that a backtest reports is the one of its equity curve. -/
theorem drawdown_of_curve {R : Series.Rolling ℚ} {ticker : String} {closes : List ℚ} {capital : ℚ}
    {curve : List Close}
    {result : BacktestResult} (hcurve : curve.map Subtype.val = equityCurve R closes capital)
    (hpos : ∀ e ∈ curve, 0 < e.val)
    (hrun : runBacktest R ticker (some closes) capital = .ok result) :
    result.maxDrawdownPct = pyRound 3 (computeMaxDrawdown curve * 100) := by
  obtain ⟨hrows,rfl⟩ := rows_of_runBacktest hrun
  have hlength : curve.length = closes.length := by
    simpa [equityCurve] using congrArg List.length hcurve
  have hbars : 0 < curve.length := by
    have hslow : 0 < smaSlow := by decide
    omega
  have hequity : ∀ i < curve.length,
      priceAt curve i = equity R (closeSeries closes) capital i := by
    intro i hi
    rw [priceAt,hcurve,equityCurve,List.getD_eq_getElem _ _ (by simpa [← hlength] using hi),
      List.getElem_map,List.getElem_range]
  have hequityPos : ∀ i < curve.length, 0 < equity R (closeSeries closes) capital i := by
    intro i hi
    rw [← hequity i hi]
    exact priceAt_pos hpos i hi
  have hworst := worst_isLeast hbars hequityPos
  rw [← changes_congr hequity] at hworst
  have hsame := (maxDrawdown_isLeast (List.ne_nil_of_length_pos hbars) hpos).unique hworst
  rw [hsame,hlength]
  rfl

theorem exists_curve (R : Series.Rolling ℚ) {closes : List ℚ} {capital : ℚ}
    (hpos : ∀ c ∈ closes, 0 < c)
    (hcapital : 0 < capital) : ∃ curve : List Close,
      curve.map Subtype.val = equityCurve R closes capital ∧ ∀ e ∈ curve, 0 < e.val := by
  have hvalues : ∀ e ∈ equityCurve R closes capital, 0 < e := by
    intro e he
    obtain ⟨t,ht,rfl⟩ := List.mem_map.mp he
    exact equity_pos hpos hcapital (List.mem_range.mp ht)
  refine ⟨(equityCurve R closes capital).attach.map (fun e => ⟨e.val,(hvalues e.val e.property).ne'⟩),
    ?_,?_⟩
  · rw [List.map_map]
    exact List.attach_map_subtype_val _
  · intro e he
    obtain ⟨v,-,rfl⟩ := List.mem_map.mp he
    exact hvalues v.val v.property

end Backtest

/-- The worst fall of one series of positive prices, and of the backtests over it. -/
structure DrawdownLaw (prices : List Close) : Prop where
  minimum : IsLeast {x | ∃ i j, i ≤ j ∧ j < prices.length ∧
    x = (priceAt prices j - priceAt prices i) / priceAt prices i} (computeMaxDrawdown prices)
  range : -1 < computeMaxDrawdown prices ∧ computeMaxDrawdown prices ≤ 0
  neverFalls : computeMaxDrawdown prices = 0 ↔ List.IsChain (fun p q => p.val ≤ q.val) prices
  scaled : ∀ c (hc : 0 < c),
    computeMaxDrawdown (prices.map (Close.scale c hc.ne')) = computeMaxDrawdown prices
  appended : ∀ more : List Close, (∀ p ∈ more, 0 < p.val) →
    computeMaxDrawdown (prices ++ more) ≤ computeMaxDrawdown prices
  backtest : ∀ (R : Series.Rolling ℚ) ticker capital result, 0 < capital →
    runBacktest R ticker (some (prices.map Subtype.val)) capital = .ok result →
      ∃ curve : List Close,
        curve.map Subtype.val = equityCurve R (prices.map Subtype.val) capital ∧
        (∀ e ∈ curve, 0 < e.val) ∧
        result.maxDrawdownPct = pyRound 3 (computeMaxDrawdown curve * 100)
  produced : smaSlow ≤ prices.length → ∀ (R : Series.Rolling ℚ) ticker capital, 0 < capital →
    ∃ result, runBacktest R ticker (some (prices.map Subtype.val)) capital = .ok result

/-- Every series of positive prices has the worst fall that the law describes. -/
theorem max_drawdown_law (prices : List Close) (hne : prices ≠ []) (hpos : ∀ p ∈ prices, 0 < p.val) :
    DrawdownLaw prices := by
  have hbars := List.length_pos_of_ne_nil hne
  have hleast := maxDrawdown_isLeast hne hpos
  refine ⟨hleast,⟨neg_one_lt_least (priceAt_pos hpos) hleast,least_nonpos hbars hleast⟩,
    maxDrawdown_eq_zero_iff hne hpos,?_,?_,?_,?_⟩
  · intro c hc
    exact maxDrawdown_scale hpos hc
  · intro more hmore
    exact maxDrawdown_append hne hpos hmore
  · intro R ticker capital result hcapital hrun
    have hcloses : ∀ c ∈ prices.map Subtype.val, 0 < c := by
      intro c hc
      obtain ⟨p,hp,rfl⟩ := List.mem_map.mp hc
      exact hpos p hp
    obtain ⟨curve,hcurve,hcurvePos⟩ := exists_curve R hcloses hcapital
    exact ⟨curve,hcurve,hcurvePos,drawdown_of_curve hcurve hcurvePos hrun⟩
  · intro hrows R ticker capital hcapital
    rw [runBacktest_of_rows R (by rwa [List.length_map]),if_neg hcapital.ne']
    exact ⟨_,rfl⟩

/-- Twenty level bars, a rise, a fall by a third and a recovery. -/
def peakAndTrough : List Close :=
  List.replicate 20 ⟨100,by norm_num⟩ ++
    [⟨120,by norm_num⟩,⟨120,by norm_num⟩,⟨80,by norm_num⟩,⟨110,by norm_num⟩]

theorem max_drawdown_law_peakAndTrough :
    computeMaxDrawdown peakAndTrough = -1 / 3 ∧ DrawdownLaw peakAndTrough ∧
    (runBacktest .exact "AAPL" (some (peakAndTrough.map Subtype.val)) 1000).toOption.map
      BacktestResult.maxDrawdownPct = some (-33.333) :=
  ⟨by decide +kernel,max_drawdown_law peakAndTrough (by decide +kernel) (by decide +kernel),
    by decide +kernel⟩

end MacroInvest.Risk
