import MacroInvest.Risk.Engine

/-! # Correlations and trading days

The most recent closes of two tickers are of the same days when they are counted from the latest
one. The rows of the frame are counted from the oldest, which pairs the same days exactly when
the series that contribute are of one length, or are too short to be paired at all.
-/
namespace MacroInvest.Risk
open Correlation Rounding

section Keys
variable {K V W : Type*} [DecidableEq K]

theorem lookup_filterMap {l : List (K × V)} (hnodup : (l.map Prod.fst).Nodup) (f : V → Option W)
    {k : K} {v : V} (hmem : (k,v) ∈ l) :
    (l.filterMap (fun p => (f p.2).map (fun w => (p.1,w)))).lookup k = f v := by
  induction l with
  | nil => cases hmem
  | cons p l ih =>
    obtain ⟨hp,hnodup⟩ := List.nodup_cons.mp hnodup
    have habsent : ∀ k', k' ∉ l.map Prod.fst →
        (l.filterMap (fun p => (f p.2).map (fun w => (p.1,w)))).lookup k' = none := by
      intro k' hk'
      rw [List.lookup_eq_none_iff]
      intro q hq
      obtain ⟨r,hr,hqr⟩ := List.mem_filterMap.mp hq
      obtain ⟨w,-,rfl⟩ := Option.map_eq_some_iff.mp hqr
      have hne : k' ≠ r.1 := fun he => hk' (he ▸ List.mem_map_of_mem hr)
      simpa using hne
    rw [List.filterMap_cons]
    rcases List.mem_cons.mp hmem with rfl | hmem
    · cases hv : f v with
      | none => exact habsent k hp
      | some w => simp
    · have hne : k ≠ p.1 := fun he => hp (he ▸ List.mem_map_of_mem hmem)
      cases hv : f p.2 with
      | none => exact ih hnodup hmem
      | some w => simp [List.lookup,beq_false_of_ne hne,ih hnodup hmem]

theorem lookup_map_of_mem {l : List (K × V)} (hnodup : (l.map Prod.fst).Nodup) (f : V → W)
    {k : K} {v : V} (hmem : (k,v) ∈ l) : (l.map (fun p => (p.1,f p.2))).lookup k = some (f v) := by
  rw [← lookup_filterMap hnodup (fun v => some (f v)) hmem,← List.filterMap_eq_map]
  rfl

end Keys

section Returns
variable {prices a b : List Close}

theorem pctChange_isSome (prices : List Close) (r : ℕ) :
    (pctChange (cell prices) r).isSome ↔ 1 ≤ r ∧ r < prices.length := by
  cases r with
  | zero => simp [pctChange]
  | succ r =>
    by_cases hr : r + 1 < prices.length
    · have hr' : r < prices.length := Nat.lt_of_succ_lt hr
      simp [pctChange,cell,hr,hr']
    · simp [pctChange,cell,hr]

/-- The change into a row, where there is one. -/
def changeAt (prices : List Close) (r : ℕ) : ℚ := (pctChange (cell prices) r).getD 0

theorem pctChange_eq_some {r : ℕ} (h : 1 ≤ r ∧ r < prices.length) :
    pctChange (cell prices) r = some (changeAt prices r) := by
  obtain ⟨x,hx⟩ := Option.isSome_iff_exists.mp ((pctChange_isSome prices r).mpr h)
  rw [changeAt,hx]
  rfl

/-- The rows of a table with at least one close, without the first. -/
theorem filterMap_range_succ {β : Type*} {f : ℕ → Option β} {g : ℕ → β} {n : ℕ} (h0 : f 0 = none)
    (h : ∀ r, 1 ≤ r → r < n → f r = some (g r)) :
    (List.range n).filterMap f = (List.range (n - 1)).map (fun r => g (r + 1)) := by
  cases n with
  | zero => rfl
  | succ n =>
    rw [List.range_succ_eq_map,List.filterMap_cons,h0,List.filterMap_map,Nat.add_sub_cancel,
      ← List.filterMap_eq_map]
    apply List.filterMap_congr
    intro r hr
    exact h (r + 1) (Nat.succ_le_succ (Nat.zero_le r)) (Nat.succ_lt_succ (List.mem_range.mp hr))

theorem dailyReturns_eq (prices : List Close) : dailyReturns prices =
    (List.range (prices.length - 1)).map (fun r => changeAt prices (r + 1)) :=
  filterMap_range_succ rfl (fun _ h1 hr => pctChange_eq_some ⟨h1,hr⟩)

@[simp] theorem length_dailyReturns (prices : List Close) :
    (dailyReturns prices).length = prices.length - 1 := by
  rw [dailyReturns_eq,List.length_map,List.length_range]

/-- In a frame of one height the pairs are those of the same return. -/
theorem pairsOver_range (h : a.length = b.length) :
    pairsOver (List.range a.length) a b = (dailyReturns a).zip (dailyReturns b) := by
  have hpairs : pairsOver (List.range a.length) a b =
      (List.range (a.length - 1)).map (fun r => (changeAt a (r + 1),changeAt b (r + 1))) := by
    refine filterMap_range_succ rfl (g := fun r => (changeAt a r,changeAt b r)) ?_
    intro r h1 hr
    rw [pctChange_eq_some ⟨h1,hr⟩,pctChange_eq_some ⟨h1,h ▸ hr⟩]
    rfl
  rw [hpairs,dailyReturns_eq,dailyReturns_eq,← h,List.zip_map,List.zip_eq_zipWith,
    List.zipWith_self,List.map_map]
  rfl

/-- What stands in front of a series does not change the returns within it. -/
theorem drop_dailyReturns (front : List Close) (ha : a ≠ []) :
    (dailyReturns (front ++ a)).drop front.length = dailyReturns a := by
  have hlen : 0 < a.length := List.length_pos_iff.mpr ha
  have hrange : (List.range ((front ++ a).length - 1)).drop front.length =
      (List.range (a.length - 1)).map (front.length + ·) := by
    rw [List.length_append,Nat.add_sub_assoc hlen,List.range_add,List.drop_left' (by simp)]
  rw [dailyReturns_eq,dailyReturns_eq,← List.map_drop,hrange,List.map_map]
  apply List.map_congr_left
  intro r hr
  have hcell : ∀ i, cell (front ++ a) (front.length + i) = cell a i := by
    intro i
    simp [cell,List.getElem?_append_right]
  simp only [Function.comp_apply,changeAt,Nat.add_assoc,pctChange,hcell]

end Returns

section Paired

/-- The correlation of the returns counted from the latest close. -/
def pairedCorrelation (a b : List Close) : Option Coefficient :=
  let n := min (dailyReturns a).length (dailyReturns b).length
  pearson (((dailyReturns a).rtake n).zip ((dailyReturns b).rtake n))

theorem pairedCorrelation_comm (a b : List Close) :
    pairedCorrelation a b = pairedCorrelation b a := by
  simp only [pairedCorrelation]
  rw [← pearson_swap,List.zip_swap,min_comm]

theorem pairedCorrelation_of_length_eq {a b : List Close} (h : a.length = b.length) :
    pairedCorrelation a b = pearson ((dailyReturns a).zip (dailyReturns b)) := by
  simp [pairedCorrelation,List.rtake,h]

theorem pairedCorrelation_of_short {a b : List Close} (h : a.length ≤ 2 ∨ b.length ≤ 2) :
    pairedCorrelation a b = none := by
  apply pearson_of_length_le_one
  rw [List.length_zip,List.rtake,List.rtake,List.length_drop,List.length_drop,
    length_dailyReturns,length_dailyReturns]
  omega

/-- A series correlates with a longer history of itself by one. -/
theorem pairedCorrelation_suffix {a b : List Close} (hsuffix : a <:+ b)
    (hvaries : squares (dailyReturns a) ≠ 0) :
    ∃ c, pairedCorrelation a b = some c ∧ c.round 4 = 1 := by
  obtain ⟨front,rfl⟩ := hsuffix
  have ha : a ≠ [] := by
    rintro rfl
    exact hvaries rfl
  have hpos := List.length_pos_iff.mpr ha
  have hlen : min (dailyReturns a).length (dailyReturns (front ++ a)).length =
      (dailyReturns a).length := by
    simp only [length_dailyReturns,List.length_append]
    omega
  have hback : (dailyReturns (front ++ a)).rtake (dailyReturns a).length = dailyReturns a := by
    rw [List.rtake,length_dailyReturns,length_dailyReturns,List.length_append]
    have hdrop : front.length + a.length - 1 - (a.length - 1) = front.length := by omega
    rw [hdrop,drop_dailyReturns front ha]
  have hself : (dailyReturns a).rtake (dailyReturns a).length = dailyReturns a := by
    rw [List.rtake,Nat.sub_self,List.drop_zero]
  obtain ⟨c,hc,hcomoment,hsq⟩ := pearson_self hvaries
  refine ⟨c,?_,c.round_of_sq_eq 4 hcomoment hsq⟩
  simp only [pairedCorrelation,hlen,hback,hself]
  rw [List.zip_eq_zipWith,List.zipWith_self,hc]

/-- Three returns that differ vary. -/
theorem squares_ne_zero_of_distinct {xs : List ℚ} (h : 3 ≤ xs.toFinset.card) :
    squares xs ≠ 0 := by
  intro hzero
  obtain ⟨c,hc⟩ := squares_eq_zero_iff.mp hzero
  have hsubset : xs.toFinset ⊆ {c} := by
    intro x hx
    exact Finset.mem_singleton.mpr (hc x (List.mem_toFinset.mp hx))
  have hcard := Finset.card_le_card hsubset
  rw [Finset.card_singleton] at hcard
  omega

end Paired

section Reported
variable {A : Arithmetic} {prices : PriceTable} {holdings : List (String × ℚ)}
  {tickerGroups : List (String × String)} {t₁ t₂ : String} {a b : List Close}

/-- The entry of the matrix for two tickers. -/
def RiskSummary.correlation (summary : RiskSummary) (t₁ t₂ : String) : Option ℚ :=
  (summary.correlationMatrix.lookup t₁).bind (fun row => row.lookup t₂)

theorem mem_contributing {p : String × List Close} :
    p ∈ contributing prices ↔ p ∈ prices.series ∧ 2 ≤ p.2.length := by
  simp [contributing]

theorem contributing_nodup : ((contributing prices).map Prod.fst).Nodup :=
  prices.distinct.sublist (List.filter_sublist.map Prod.fst)

theorem length_tickerRisks :
    (computeRiskSummary A prices holdings tickerGroups).tickerRisks.length =
      (contributing prices).length := by
  simp only [computeRiskSummary,contributing,List.length_filterMap_eq_countP,
    ← List.countP_eq_length_filter]
  apply List.countP_congr
  intro p _
  by_cases hp : 2 ≤ p.2.length <;> simp [hp]

theorem length_le_height {frame : List (String × List Close)} {p : String × List Close}
    (h : p ∈ frame) : p.2.length ≤ height frame :=
  List.le_max?_getD_of_mem (List.mem_map.mpr ⟨p,h,rfl⟩)

theorem height_eq {frame : List (String × List Close)} {p : String × List Close} (hp : p ∈ frame)
    (h : ∀ q ∈ frame, q.2.length = p.2.length) : height frame = p.2.length := by
  refine le_antisymm ?_ (length_le_height hp)
  unfold height
  cases hmax : (frame.map (fun column => column.2.length)).max? with
  | none => exact Nat.zero_le _
  | some n =>
    obtain ⟨q,hq,rfl⟩ := List.mem_map.mp (List.max?_mem hmax)
    exact (h q hq).le

theorem mem_keptRows {frame : List (String × List Close)} {p : String × List Close} {r : ℕ}
    (hp : p ∈ frame) : r ∈ keptRows frame ↔ 1 ≤ r ∧ ∀ q ∈ frame, r < q.2.length := by
  simp only [keptRows,List.mem_filter,List.mem_range,List.all_eq_true,pctChange_isSome]
  constructor
  · rintro ⟨-,hall⟩
    exact ⟨(hall p hp).1,fun q hq => (hall q hq).2⟩
  · rintro ⟨h1,hall⟩
    exact ⟨(hall p hp).trans_le (length_le_height hp),fun q hq => ⟨h1,hall q hq⟩⟩

theorem correlation_of_contributing (h₁ : (t₁,a) ∈ contributing prices)
    (h₂ : (t₂,b) ∈ contributing prices) (hne : t₁ ≠ t₂) :
    (computeRiskSummary A prices holdings tickerGroups).correlation t₁ t₂ =
      (pearson (pairsOver (keptRows (contributing prices)) b a)).map (fun c => c.round 4) := by
  have htwo : 2 ≤ (contributing prices).length := by
    have hpair : [(t₁,a),(t₂,b)] ⊆ contributing prices := by
      simp [h₁,h₂]
    have hnodup : [(t₁,a),(t₂,b)].Nodup := by simp [hne]
    exact (hnodup.subperm hpair).length_le
  have hheight : 2 ≤ height (contributing prices) :=
    (mem_contributing.mp h₁).2.trans (length_le_height h₁)
  have hmatrix : (computeRiskSummary A prices holdings tickerGroups).correlationMatrix =
      computeCorrelationMatrix (contributing prices) := by
    show (if 2 ≤ (computeRiskSummary A prices holdings tickerGroups).tickerRisks.length then
      computeCorrelationMatrix (contributing prices) else []) = _
    rw [length_tickerRisks,if_pos htwo]
  rw [RiskSummary.correlation,hmatrix,computeCorrelationMatrix,
    if_neg (not_or.mpr ⟨hheight.not_gt,htwo.not_gt⟩)]
  by_cases hrows : (keptRows (contributing prices)).length < 2
  · have hpairs : (pairsOver (keptRows (contributing prices)) b a).length ≤ 1 :=
      (List.length_filterMap_le _ _).trans (Nat.le_of_lt_succ hrows)
    rw [if_pos hrows,pearson_of_length_le_one hpairs]
    rfl
  · have hcolumn := lookup_map_of_mem contributing_nodup (fun series =>
      (contributing prices).filterMap (fun row =>
        (pearson (pairsOver (keptRows (contributing prices)) row.2 series)).map
          (fun corr => (row.1,corr.round 4)))) h₁
    have hentry := lookup_filterMap contributing_nodup (fun series =>
      (pearson (pairsOver (keptRows (contributing prices)) series a)).map
        (fun corr => corr.round 4)) h₂
    simp only [Option.map_map,Function.comp_def] at hentry
    rw [if_neg hrows,hcolumn,Option.bind_some,hentry]

theorem entries_of_mem_matrix {frame : List (String × List Close)}
    {column : String × List (String × ℚ)} (h : column ∈ computeCorrelationMatrix frame) :
    column.1 ∈ frame.map Prod.fst ∧
      ∀ e ∈ column.2, e.1 ∈ frame.map Prod.fst ∧ |e.2| ≤ 1 := by
  unfold computeCorrelationMatrix at h
  split at h
  · cases h
  · simp only at h
    split at h
    · cases h
    · obtain ⟨col,hcol,rfl⟩ := List.mem_map.mp h
      refine ⟨List.mem_map_of_mem hcol,fun e he => ?_⟩
      obtain ⟨row,hrow,hentry⟩ := List.mem_filterMap.mp he
      obtain ⟨corr,-,rfl⟩ := Option.map_eq_some_iff.mp hentry
      exact ⟨List.mem_map_of_mem (f := Prod.fst) hrow,corr.abs_round_le_one 4⟩

theorem mem_of_lookup {V : Type} {l : List (String × V)} {t : String} {v : V}
    (h : l.lookup t = some v) : (t,v) ∈ l := by
  obtain ⟨l₁,l₂,rfl,-⟩ := List.lookup_eq_some_iff.mp h
  simp

/-- A reported correlation is an entry of the matrix of the contributing series. -/
theorem matrix_of_correlation {x : ℚ}
    (h : (computeRiskSummary A prices holdings tickerGroups).correlation t₁ t₂ = some x) :
    ∃ row, (t₁,row) ∈ computeCorrelationMatrix (contributing prices) ∧ (t₂,x) ∈ row := by
  obtain ⟨row,hrow,hentry⟩ := Option.bind_eq_some_iff.mp h
  have hsummary := mem_of_lookup hrow
  simp only [computeRiskSummary] at hsummary
  split at hsummary
  · exact ⟨row,hsummary,mem_of_lookup hentry⟩
  · cases hsummary

theorem contributing_of_correlation {x : ℚ}
    (h : (computeRiskSummary A prices holdings tickerGroups).correlation t₁ t₂ = some x) :
    t₁ ∈ (contributing prices).map Prod.fst ∧ t₂ ∈ (contributing prices).map Prod.fst := by
  obtain ⟨row,hcolumn,hentry⟩ := matrix_of_correlation h
  obtain ⟨hfirst,hrows⟩ := entries_of_mem_matrix hcolumn
  exact ⟨hfirst,(hrows _ hentry).1⟩

theorem contributing_of_key (ha : (t₁,a) ∈ prices.series)
    (h : t₁ ∈ (contributing prices).map Prod.fst) : (t₁,a) ∈ contributing prices := by
  obtain ⟨p,hp,rfl⟩ := List.mem_map.mp h
  have hsame : p = (p.1,a) :=
    List.inj_on_of_nodup_map prices.distinct (mem_contributing.mp hp).1 ha rfl
  exact hsame ▸ hp

end Reported

section Law

/-- The correlation of two tickers is that of their returns of the same days. -/
def PairedByDay (A : Arithmetic) (prices : PriceTable) (holdings : List (String × ℚ))
    (tickerGroups : List (String × String)) : Prop :=
  ∀ t₁ a t₂ b, (t₁,a) ∈ prices.series → (t₂,b) ∈ prices.series → t₁ ≠ t₂ →
    (computeRiskSummary A prices holdings tickerGroups).correlation t₁ t₂ =
      (pairedCorrelation a b).map (fun c => c.round 4)

/-- The tickers and the number of closes of each. -/
def PriceTable.lengths (prices : PriceTable) : List (String × ℕ) :=
  prices.series.map (fun p => (p.1,p.2.length))

/-- The tickers with two closes have equally many, or no two of them have three. -/
def Aligned (lengths : List (String × ℕ)) : Prop :=
  (∀ p ∈ lengths, ∀ q ∈ lengths, 2 ≤ p.2 → 2 ≤ q.2 → p.2 = q.2) ∨
  ∀ p ∈ lengths, ∀ q ∈ lengths, 3 ≤ p.2 → 3 ≤ q.2 → p.1 = q.1

instance (lengths : List (String × ℕ)) : Decidable (Aligned lengths) :=
  inferInstanceAs (Decidable (_ ∨ _))

variable {A : Arithmetic} {prices : PriceTable} {holdings : List (String × ℚ)}
  {tickerGroups : List (String × String)} {t₁ t₂ : String} {a b : List Close}

theorem short_of_not_contributing (ha : (t₁,a) ∈ prices.series)
    (h : (t₁,a) ∉ contributing prices) : a.length ≤ 2 := by
  rw [mem_contributing,not_and,not_le] at h
  exact (h ha).le

/-- In series of one length the rows are the days. -/
theorem pearson_of_equal (h₁ : (t₁,a) ∈ contributing prices) (h₂ : (t₂,b) ∈ contributing prices)
    (h : ∀ p ∈ contributing prices, ∀ q ∈ contributing prices, p.2.length = q.2.length) :
    pearson (pairsOver (keptRows (contributing prices)) b a) = pairedCorrelation a b := by
  have hab : b.length = a.length := h _ h₂ _ h₁
  have hrows : pairsOver (keptRows (contributing prices)) b a =
      pairsOver (List.range b.length) b a := by
    rw [pairsOver,pairsOver,keptRows,height_eq h₂ (fun p hp => h p hp _ h₂),List.filterMap_filter]
    apply List.filterMap_congr
    intro r hr
    split
    · rfl
    · rename_i hdropped
      have hzero : r = 0 := by
        by_contra hpos
        apply hdropped
        rw [List.all_eq_true]
        intro p hp
        have hlen : b.length = p.2.length := h _ h₂ p hp
        exact (pctChange_isSome p.2 r).mpr
          ⟨Nat.one_le_iff_ne_zero.mpr hpos,hlen ▸ List.mem_range.mp hr⟩
      rw [hzero]
      rfl
  rw [hrows,pairsOver_range hab,pairedCorrelation_comm,pairedCorrelation_of_length_eq hab]

/-- A series of two closes leaves one row. -/
theorem pearson_of_short (h₁ : (t₁,a) ∈ contributing prices) (h₂ : (t₂,b) ∈ contributing prices)
    (h : a.length ≤ 2 ∨ b.length ≤ 2) :
    pearson (pairsOver (keptRows (contributing prices)) b a) = none := by
  have hrows : keptRows (contributing prices) ⊆ [1] := by
    intro r hr
    obtain ⟨hpos,hall⟩ := (mem_keptRows h₁).mp hr
    have ha : r < a.length := hall _ h₁
    have hb : r < b.length := hall _ h₂
    rw [List.mem_singleton]
    omega
  have hnodup : (keptRows (contributing prices)).Nodup := List.nodup_range.filter _
  apply pearson_of_length_le_one
  exact (List.length_filterMap_le _ _).trans (hnodup.subperm hrows).length_le

theorem mem_lengths {t : String} {series : List Close} (h : (t,series) ∈ prices.series) :
    (t,series.length) ∈ prices.lengths := List.mem_map.mpr ⟨_,h,rfl⟩

theorem pairedByDay_of_aligned (h : Aligned prices.lengths) :
    PairedByDay A prices holdings tickerGroups := by
  intro t₁ a t₂ b ha hb hne
  by_cases hcontribute : (t₁,a) ∈ contributing prices ∧ (t₂,b) ∈ contributing prices
  · obtain ⟨h₁,h₂⟩ := hcontribute
    rw [correlation_of_contributing h₁ h₂ hne]
    rcases h with hequal | hlong
    · rw [pearson_of_equal h₁ h₂ ?_]
      intro p hp q hq
      obtain ⟨hp,hp2⟩ := mem_contributing.mp hp
      obtain ⟨hq,hq2⟩ := mem_contributing.mp hq
      exact hequal _ (mem_lengths hp) _ (mem_lengths hq) hp2 hq2
    · have hshort : a.length ≤ 2 ∨ b.length ≤ 2 := by
        by_contra hboth
        rw [not_or,not_le,not_le] at hboth
        exact hne (hlong _ (mem_lengths ha) _ (mem_lengths hb) hboth.1 hboth.2)
      rw [pearson_of_short h₁ h₂ hshort,pairedCorrelation_of_short hshort]
  · have hnone : pairedCorrelation a b = none := by
      apply pairedCorrelation_of_short
      rcases not_and_or.mp hcontribute with h₁ | h₂
      · exact .inl (short_of_not_contributing ha h₁)
      · exact .inr (short_of_not_contributing hb h₂)
    rw [hnone]
    cases hcorr : (computeRiskSummary A prices holdings tickerGroups).correlation t₁ t₂ with
    | none => rfl
    | some x =>
      obtain ⟨h₁,h₂⟩ := contributing_of_correlation hcorr
      exact absurd ⟨contributing_of_key ha h₁,contributing_of_key hb h₂⟩ hcontribute

/-- Paired by day, a series and a longer history of it are reported with a correlation of one. -/
theorem PairedByDay.suffix (h : PairedByDay A prices holdings tickerGroups)
    (ha : (t₁,a) ∈ prices.series) (hb : (t₂,b) ∈ prices.series) (hne : t₁ ≠ t₂)
    (hsuffix : a <:+ b) (hdistinct : 3 ≤ (dailyReturns a).toFinset.card) :
    (computeRiskSummary A prices holdings tickerGroups).correlation t₁ t₂ = some 1 := by
  obtain ⟨c,hc,hround⟩ := pairedCorrelation_suffix hsuffix (squares_ne_zero_of_distinct hdistinct)
  rw [h t₁ a t₂ b ha hb hne,hc,Option.map_some,hround]

end Law

section Spike

/-- Closes that stand still and double at the end. -/
def spike (n : ℕ) : List Close :=
  (List.range n).map (fun r => if r + 1 = n then ⟨2,by norm_num⟩ else ⟨1,by norm_num⟩)

@[simp] theorem length_spike (n : ℕ) : (spike n).length = n := by simp [spike]

theorem changeAt_spike {n r : ℕ} (hr : 1 ≤ r) (hn : r < n) :
    changeAt (spike n) r = if r + 1 = n then 1 else 0 := by
  obtain ⟨r,rfl⟩ := Nat.exists_eq_add_of_le' hr
  have hbefore : r + 1 ≠ n := hn.ne
  have hlt : r < n := Nat.lt_of_succ_lt hn
  have hcells : pctChange (cell (spike n)) (r + 1) = some (if r + 1 + 1 = n then 1 else 0) := by
    simp only [pctChange,cell,spike,List.getElem?_map,List.getElem?_range hn,
      List.getElem?_range hlt,Option.map_some,if_neg hbefore]
    split_ifs <;> norm_num
  rw [changeAt,hcells]
  rfl

/-- A longer spike is a shorter one behind a still stretch. -/
theorem spike_suffix {m n : ℕ} (h : m ≤ n) : spike m <:+ spike n := by
  obtain ⟨k,rfl⟩ := Nat.exists_eq_add_of_le' h
  rw [spike,spike,List.range_add,List.map_append,List.map_map]
  refine ⟨_,congrArg _ (List.map_congr_left fun r _ => ?_)⟩
  simp [Nat.add_assoc]

theorem squares_spike {n : ℕ} (h : 3 ≤ n) : squares (dailyReturns (spike n)) ≠ 0 := by
  intro hzero
  obtain ⟨c,hc⟩ := squares_eq_zero_iff.mp hzero
  simp only [dailyReturns_eq,length_spike,List.forall_mem_map,List.mem_range] at hc
  have hfirst := hc 0 (by omega)
  have hlast := hc (n - 2) (by omega)
  rw [changeAt_spike (by omega) (by omega)] at hfirst hlast
  rw [if_neg (by omega)] at hfirst
  rw [if_pos (by omega)] at hlast
  exact one_ne_zero (hlast.trans hfirst.symm)

/-- Two spikes with a change before the last one are paired by day. -/
theorem pairedCorrelation_spike {m n : ℕ} (hm : 3 ≤ m) (hn : 3 ≤ n) :
    ∃ c, pairedCorrelation (spike m) (spike n) = some c := by
  rcases le_total m n with h | h
  · obtain ⟨c,hc,-⟩ := pairedCorrelation_suffix (spike_suffix h) (squares_spike hm)
    exact ⟨c,hc⟩
  · obtain ⟨c,hc,-⟩ := pairedCorrelation_suffix (spike_suffix h) (squares_spike hn)
    exact ⟨c,by rw [pairedCorrelation_comm,hc]⟩

/-- Rows that end before the spike hold no change. -/
theorem pearson_spike {m n : ℕ} {rows : List ℕ} (hrows : ∀ r ∈ rows, 1 ≤ r ∧ r + 1 < n) :
    pearson (pairsOver rows (spike m) (spike n)) = none := by
  rw [pearson_eq_none_iff]
  right
  refine squares_eq_zero_iff.mpr ⟨0,fun y hy => ?_⟩
  obtain ⟨pair,hpair,rfl⟩ := List.mem_map.mp hy
  obtain ⟨r,hr,hchange⟩ := List.mem_filterMap.mp hpair
  obtain ⟨hpos,hlt⟩ := hrows r hr
  have hin : 1 ≤ r ∧ r < (spike n).length := ⟨hpos,by rw [length_spike]; omega⟩
  have hzero : pctChange (cell (spike n)) r = some 0 := by
    rw [pctChange_eq_some hin,changeAt_spike hpos (by omega),if_neg hlt.ne]
  obtain ⟨x,-,hx⟩ := Option.bind_eq_some_iff.mp hchange
  rw [hzero] at hx
  obtain rfl := Option.some.inj hx
  rfl

/-- The table with a spike in the place of every series. -/
def spiked (prices : PriceTable) : PriceTable where
  series := prices.series.map (fun p => (p.1,spike p.2.length))
  distinct := by
    rw [List.map_map]
    exact prices.distinct

theorem lengths_spiked (prices : PriceTable) : (spiked prices).lengths = prices.lengths := by
  simp [PriceTable.lengths,spiked]

end Spike

section Exact
variable {A : Arithmetic} {prices : PriceTable} {holdings : List (String × ℚ)}
  {tickerGroups : List (String × String)}

theorem mem_spiked {p : String × ℕ} (h : p ∈ prices.lengths) :
    (p.1,spike p.2) ∈ (spiked prices).series := by
  obtain ⟨q,hq,rfl⟩ := List.mem_map.mp h
  exact List.mem_map.mpr ⟨q,hq,rfl⟩

/-- Where a third ticker ends before the spike of one of two, their correlation is lost. -/
theorem not_pairedByDay_spiked {p q x : String × ℕ} (hp : p ∈ prices.lengths)
    (hq : q ∈ prices.lengths) (hx : x ∈ prices.lengths) (hp2 : 2 ≤ p.2) (hpq : p.2 < q.2)
    (hx3 : 3 ≤ x.2) (hne : q.1 ≠ x.1) : ¬PairedByDay A (spiked prices) holdings tickerGroups := by
  intro hlaw
  have hcontribute : ∀ y ∈ prices.lengths, 2 ≤ y.2 →
      (y.1,spike y.2) ∈ contributing (spiked prices) := by
    intro y hy hy2
    exact mem_contributing.mpr ⟨mem_spiked hy,by rwa [length_spike]⟩
  have hq2 : 2 ≤ q.2 := hp2.trans hpq.le
  have hreported : (computeRiskSummary A (spiked prices) holdings tickerGroups).correlation q.1 x.1 =
      _ := correlation_of_contributing (hcontribute q hq hq2)
    (hcontribute x hx (Nat.le_of_succ_le hx3)) hne
  rw [hlaw q.1 _ x.1 _ (mem_spiked hq) (mem_spiked hx) hne,pearson_spike ?_] at hreported
  · obtain ⟨c,hc⟩ := pairedCorrelation_spike (hp2.trans_lt hpq) hx3
    rw [hc] at hreported
    cases hreported
  · intro r hr
    have hin := (mem_keptRows (hcontribute p hp hp2)).mp hr
    have hlt := hin.2 _ (hcontribute p hp hp2)
    rw [length_spike] at hlt
    exact ⟨hin.1,(Nat.succ_le_of_lt hlt).trans_lt hpq⟩

end Exact

/-- Whatever the closes of the tickers are, the correlations are those of the same days exactly
when the numbers of closes are aligned. -/
theorem correlation_pairing_law (A : Arithmetic) (prices : PriceTable)
    (holdings : List (String × ℚ)) (tickerGroups : List (String × String)) :
    (∀ other : PriceTable, other.lengths = prices.lengths →
      PairedByDay A other holdings tickerGroups) ↔ Aligned prices.lengths := by
  constructor
  · intro h
    have hspiked := h (spiked prices) (lengths_spiked prices)
    by_contra hnot
    obtain ⟨hunequal,hlong⟩ := not_or.mp hnot
    push Not at hunequal hlong
    obtain ⟨p,hp,q,hq,hp2,hq2,hpq⟩ := hunequal
    obtain ⟨u,hu,v,hv,hu3,hv3,huv⟩ := hlong
    have hother : ∀ y : String × ℕ, ∃ x ∈ prices.lengths, 3 ≤ x.2 ∧ y.1 ≠ x.1 := by
      intro y
      by_cases hy : y.1 = u.1
      · exact ⟨v,hv,hv3,hy ▸ huv⟩
      · exact ⟨u,hu,hu3,hy⟩
    rcases hpq.lt_or_gt with hlt | hgt
    · obtain ⟨x,hx,hx3,hne⟩ := hother q
      exact not_pairedByDay_spiked hp hq hx hp2 hlt hx3 hne hspiked
    · obtain ⟨x,hx,hx3,hne⟩ := hother p
      exact not_pairedByDay_spiked hq hp hx hq2 hgt hx3 hne hspiked
  · intro haligned other hlengths
    exact pairedByDay_of_aligned (hlengths ▸ haligned)

/-- Five closes of one ticker and the last four of them for another. -/
def listedLater : PriceTable where
  series :=
    [("005930",[⟨2,by norm_num⟩,⟨4,by norm_num⟩,⟨4,by norm_num⟩,⟨2,by norm_num⟩]),
      ("AAPL",[⟨1,by norm_num⟩,⟨2,by norm_num⟩,⟨4,by norm_num⟩,⟨4,by norm_num⟩,⟨2,by norm_num⟩])]
  distinct := by decide

/-- The returns of a ticker listed a day later are paired with those of the day before. -/
theorem listedLater_not_paired : ¬ ∀ prices holdings tickerGroups,
    PairedByDay .double prices holdings tickerGroups := by
  intro h
  have hone : (computeRiskSummary .double listedLater [] []).correlation "005930" "AAPL" = some 1 :=
    (h listedLater [] []).suffix List.mem_cons_self (List.mem_cons_of_mem _ List.mem_cons_self)
      (by decide) (List.suffix_cons _ _) (by decide +kernel)
  exact absurd hone (by decide +kernel)

end MacroInvest.Risk
