import MacroInvest.Quant.RelativeStrength

/-! # Signals and the unit of the prices

Means, deviations and averages of a series in another unit are those of the series times the
unit, and what the engines decide are ratios and comparisons of them. Prices on the grid of the
column keep every denominator away from the fixed bounds that guard it, the average fall of the
relative strength apart.
-/
namespace MacroInvest.Quant
open Broker Series Smoothing

/-- At least twenty closes, positive multiples of the column's unit. -/
structure Priced (closes : List ℚ) : Prop where
  enough : smaSlow ≤ closes.length
  positive : ∀ x ∈ closes, 0 < x
  onGrid : ∀ x ∈ closes, x ∈ grid 4

/-- The same series in a unit `c` times smaller. -/
def scaled (c : ℤ) (closes : List ℚ) : List ℚ := closes.map (fun x => c * x)

theorem length_scaled (c : ℤ) (closes : List ℚ) : (scaled c closes).length = closes.length :=
  List.length_map _

section Statistics
variable (c : ℚ) (l : List ℚ)

theorem mean_scaled : mean (l.map (c * ·)) = c * mean l := by
  rw [mean,mean,List.sum_map_mul_left,List.map_id',List.length_map,mul_div_assoc]

theorem variance_scaled : variance (l.map (c * ·)) = c ^ 2 * variance l := by
  have hsquares : ((l.map (c * ·)).map (fun x => (x - mean (l.map (c * ·))) ^ 2)).sum =
      c ^ 2 * (l.map (fun x => (x - mean l) ^ 2)).sum := by
    rw [List.map_map,← List.sum_map_mul_left,mean_scaled]
    refine congrArg List.sum (List.map_congr_left (fun x _ => ?_))
    rw [Function.comp_apply]
    ring
  rw [variance,variance,hsquares,List.length_map,mul_div_assoc]

theorem tail_scaled (n : ℕ) : tail n (l.map (c * ·)) = (tail n l).map (c * ·) := by
  rw [tail,tail,List.length_map,List.map_drop]

theorem absReturns_scaled {c : ℚ} (hc : c ≠ 0) : absReturns (l.map (c * ·)) = absReturns l := by
  rw [absReturns,absReturns,← List.map_tail,List.zipWith_map]
  congr 1
  funext prev next
  rw [mul_div_mul_left _ _ hc]

theorem changes_scaled : changes (l.map (c * ·)) = (changes l).map (c * ·) := by
  rw [changes,changes,← List.map_tail,List.zipWith_map,List.map_zipWith]
  congr 1
  funext prev next
  rw [mul_sub]

theorem closeSeries_scaled : closeSeries (l.map (c * ·)) = fun t => c * closeSeries l t := by
  funext t
  rw [closeSeries,closeSeries,List.getD_eq_getElem?_getD,List.getElem?_map,
    List.getD_eq_getElem?_getD]
  cases l[t]? with
  | none => exact (mul_zero c).symm
  | some x => rfl

theorem averageRise_scaled {c : ℚ} (hc : 0 ≤ c) (moves : List ℚ) :
    averageRise (moves.map (c * ·)) = c * averageRise moves := by
  have hrises : rises (moves.map (c * ·)) = (rises moves).map (c * ·) := by
    rw [rises,rises,List.map_map,List.map_map]
    refine List.map_congr_left (fun d _ => ?_)
    rw [Function.comp_apply,Function.comp_apply,mul_max_of_nonneg _ _ hc,mul_zero]
  rw [averageRise,hrises,weighted_mul,averageRise]

theorem averageFall_scaled {c : ℚ} (hc : 0 ≤ c) (moves : List ℚ) :
    averageFall (moves.map (c * ·)) = c * averageFall moves := by
  have hneg : (moves.map (c * ·)).map Neg.neg = (moves.map Neg.neg).map (c * ·) := by
    rw [List.map_map,List.map_map]
    refine List.map_congr_left (fun d _ => ?_)
    rw [Function.comp_apply,Function.comp_apply,mul_neg]
  rw [averageFall,hneg,averageRise_scaled hc,averageFall]

end Statistics

section Grid
variable {closes : List ℚ} {c : ℤ}

/-- A multiple of a unit that is not zero is at least the unit away from it. -/
theorem unit_le_abs {u x : ℚ} (hu : 0 < u) (hx : x ∈ AddSubgroup.zmultiples u) (hne : x ≠ 0) :
    u ≤ |x| := by
  obtain ⟨k,rfl⟩ := AddSubgroup.mem_zmultiples_iff.mp hx
  have hk : k ≠ 0 := fun h => hne (by rw [h,zero_zsmul])
  have hone : (1 : ℚ) ≤ |(k : ℚ)| := by exact_mod_cast Int.one_le_abs hk
  rw [zsmul_eq_mul,abs_mul,abs_of_pos hu]
  exact le_mul_of_one_le_left hu.le hone

theorem Priced.scaled (h : Priced closes) (hc : 1 ≤ c) : Priced (scaled c closes) := by
  have hpos : (0 : ℚ) < c := by exact_mod_cast hc
  refine ⟨?_,?_,?_⟩
  · rw [length_scaled]
    exact h.enough
  · intro x hx
    obtain ⟨y,hy,rfl⟩ := List.mem_map.mp hx
    exact mul_pos hpos (h.positive y hy)
  · intro x hx
    obtain ⟨y,hy,rfl⟩ := List.mem_map.mp hx
    rw [← zsmul_eq_mul]
    exact zsmul_mem (h.onGrid y hy) c

theorem Priced.unit_le (h : Priced closes) : ∀ x ∈ closes, unit 4 ≤ x := by
  intro x hx
  have hpos := h.positive x hx
  have hle := unit_le_abs (unit_pos 4) (h.onGrid x hx) hpos.ne'
  rwa [abs_of_pos hpos] at hle

theorem le_mean {b : ℚ} {l : List ℚ} (hne : l ≠ []) (h : ∀ x ∈ l, b ≤ x) : b ≤ mean l := by
  have hlength : (0 : ℚ) < l.length := by exact_mod_cast List.length_pos_iff.mpr hne
  have hsum := List.card_nsmul_le_sum l b h
  rw [mean,le_div_iff₀ hlength,mul_comm]
  rwa [nsmul_eq_mul] at hsum

theorem length_tail (n : ℕ) (l : List ℚ) (h : n ≤ l.length) : (tail n l).length = n := by
  rw [tail,List.length_drop]
  omega

theorem mem_of_mem_tail {n : ℕ} {l : List ℚ} {x : ℚ} (h : x ∈ tail n l) : x ∈ l :=
  List.mem_of_mem_drop h

/-- The last five closes are among the last twenty. -/
theorem mem_tail_of_recent {x : ℚ} (h : x ∈ tail recentVolWindow closes) :
    x ∈ tail smaSlow closes := by
  have hdrop : tail recentVolWindow closes =
      (tail smaSlow closes).drop (closes.length - recentVolWindow - (closes.length - smaSlow)) := by
    rw [tail,tail,List.drop_drop]
    congr 1
    have hwindows : recentVolWindow ≤ smaSlow := by decide
    omega
  rw [hdrop] at h
  exact List.mem_of_mem_drop h

/-- The mean of twenty closes is far from the guard of its denominator. -/
theorem Priced.unit_le_mean (h : Priced closes) : unit 4 ≤ mean (tail smaSlow closes) := by
  refine le_mean ?_ (fun x hx => h.unit_le x (mem_of_mem_tail hx))
  rw [← List.length_pos_iff,length_tail _ _ h.enough]
  decide

/-- Closes on the grid deviate not at all or by far more than the guard. -/
theorem Priced.variance_cases (h : Priced closes) :
    (∀ x ∈ tail smaSlow closes, x = mean (tail smaSlow closes)) ∨
      (1e-10 : ℚ) ^ 2 ≤ variance (tail smaSlow closes) := by
  by_cases hflat : ∀ x ∈ tail smaSlow closes, x = mean (tail smaSlow closes)
  · exact .inl hflat
  right
  push Not at hflat
  obtain ⟨x,hx,hne⟩ := hflat
  have hlength : (tail smaSlow closes).length = 20 := length_tail _ _ h.enough
  set m := mean (tail smaSlow closes) with hm
  -- twenty times the deviation is on the grid again
  have hgrid : 20 * (x - m) ∈ AddSubgroup.zmultiples (unit 4) := by
    have hsum : (tail smaSlow closes).sum ∈ grid 4 :=
      AddSubgroup.list_sum_mem _ (fun y hy => h.onGrid y (mem_of_mem_tail hy))
    have htwenty : 20 * (x - m) = (20 : ℕ) • x - (tail smaSlow closes).sum := by
      rw [hm,mean,hlength]
      simp only [nsmul_eq_mul]
      push_cast
      ring
    rw [htwenty]
    exact sub_mem (nsmul_mem (h.onGrid x (mem_of_mem_tail hx)) 20) hsum
  have hfar := unit_le_abs (unit_pos 4) hgrid (mul_ne_zero (by norm_num) (sub_ne_zero.mpr hne))
  rw [abs_mul,abs_of_pos (by norm_num : (0 : ℚ) < 20)] at hfar
  have hsquare : (unit 4 / 20) ^ 2 ≤ (x - m) ^ 2 := by
    rw [← sq_abs (x - m)]
    have hpos := unit_pos 4
    exact pow_le_pow_left₀ (by positivity) (by linarith) 2
  have hterm : (x - m) ^ 2 ≤ ((tail smaSlow closes).map (fun y => (y - m) ^ 2)).sum := by
    refine List.single_le_sum (fun z hz => ?_) _ (List.mem_map_of_mem hx)
    obtain ⟨y,-,rfl⟩ := List.mem_map.mp hz
    exact sq_nonneg _
  rw [variance,hlength,← hm]
  norm_num [unit] at hsquare ⊢
  linarith

theorem variance_of_flat {l : List ℚ} {b : ℚ} (h : ∀ x ∈ l, x = b) (hne : l ≠ []) :
    variance l = 0 := by
  have hlength : (l.length : ℚ) ≠ 0 := by
    exact_mod_cast (List.length_pos_iff.mpr hne).ne'
  have hsum : l.sum = l.length * b := by
    rw [List.eq_replicate_of_mem h,List.sum_replicate,List.length_replicate,nsmul_eq_mul]
  have hmean : mean l = b := by
    rw [mean,hsum,mul_div_cancel_left₀ _ hlength]
  rw [variance,hmean,List.sum_eq_zero,zero_div]
  intro y hy
  obtain ⟨x,hx,rfl⟩ := List.mem_map.mp hy
  rw [h x hx,sub_self]
  norm_num

end Grid

section Engine
variable {closes : List ℚ} {c : ℤ}

/-- On priced closes a stock spikes by its deviations alone. -/
theorem stockRule_of_priced (h : Priced closes) :
    (stockRule closes (std (tail smaSlow closes))).volSpike =
      decide (1.5 ^ 2 * variance (tail smaSlow closes) <
        variance (tail recentVolWindow closes)) := by
  have hrecent : (tail recentVolWindow closes).length = 5 :=
    length_tail _ _ (le_trans (by decide) h.enough)
  simp only [stockRule,hrecent,Nat.reduceLeDiff,if_true,Root.lt,Root.mul,Root.ofRat]
  congr 1
  rcases h.variance_cases with hflat | hfar
  · have hslow : variance (tail smaSlow closes) = 0 := by
      refine variance_of_flat hflat (List.length_pos_iff.mp ?_)
      rw [length_tail _ _ h.enough]
      decide
    have hfast : variance (tail recentVolWindow closes) = 0 := by
      refine variance_of_flat (fun x hx => hflat x (mem_tail_of_recent hx))
        (List.length_pos_iff.mp ?_)
      rw [hrecent]
      decide
    simp only [std,Root.max,Root.lt,hslow,hfast]
    norm_num
  · have hmax : ((std (tail smaSlow closes)).max ⟨1e-10 ^ 2,sq_nonneg _⟩).sq =
        variance (tail smaSlow closes) := by
      have hnot : ¬(std (tail smaSlow closes)).sq < 1e-10 ^ 2 := not_lt.mpr hfar
      rw [Root.max,Root.lt,if_neg (by rwa [decide_eq_true_iff])]
      rfl
    rw [hmax]
    rfl

theorem spikeRule_scaled (h : Priced closes) (hc : 1 ≤ c) (ticker : String) :
    spikeRule ticker (scaled c closes) (std (tail smaSlow (scaled c closes))) =
      spikeRule ticker closes (std (tail smaSlow closes)) := by
  have hpos : (0 : ℚ) < c := by exact_mod_cast hc
  rw [spikeRule,spikeRule]
  split
  · rw [etfRule,etfRule,scaled,absReturns_scaled _ hpos.ne']
  · have hspike : (stockRule (scaled c closes) (std (tail smaSlow (scaled c closes)))).volSpike =
        (stockRule closes (std (tail smaSlow closes))).volSpike := by
      rw [stockRule_of_priced h,stockRule_of_priced (h.scaled hc),scaled,tail_scaled,tail_scaled,
        variance_scaled,variance_scaled,mul_left_comm]
      congr 1
      exact propext (mul_lt_mul_iff_right₀ (pow_pos hpos 2))
    unfold stockRule at hspike ⊢
    dsimp only at hspike ⊢
    rw [hspike]

theorem volRatio_scaled (h : Priced closes) (hc : 1 ≤ c) (ticker : String) :
    (compute .exact ticker (scaled c closes)).volRatio =
      (compute .exact ticker closes).volRatio := by
  have hpos : (0 : ℚ) < c := by exact_mod_cast hc
  have hguard : ∀ l, Priced l → max (mean (tail smaSlow l)) 1e-8 = mean (tail smaSlow l) :=
    fun l hl => max_eq_left (le_trans (by norm_num [unit]) hl.unit_le_mean)
  have hmean := h.unit_le_mean
  rw [compute,compute]
  dsimp only
  rw [hguard _ h,hguard _ (h.scaled hc)]
  ext
  simp only [Root.div,Root.ofRat,std,scaled,tail_scaled,variance_scaled,mean_scaled,mul_pow]
  exact mul_div_mul_left _ _ (pow_pos hpos 2).ne'

/-- The slow mean at the last bar is far from the guard of the spread. -/
theorem Priced.unit_le_sma20 (h : Priced closes) :
    unit 4 ≤ (sma20 .exact (closeSeries closes) (closes.length - 1)).getD 0 := by
  have henough := h.enough
  have hwindow : smaSlow = 20 := rfl
  have hfull : smaSlow ≤ closes.length - 1 + 1 := by omega
  have hmean : (sma20 .exact (closeSeries closes) (closes.length - 1)).getD 0 =
      mean ((List.range smaSlow).map (fun i => closeSeries closes (closes.length - 1 - i))) := by
    rw [sma20,Rolling.series,if_pos hfull,mean,List.length_map,List.length_range]
    rfl
  rw [hmean]
  refine le_mean (by simp [hwindow]) (fun x hx => ?_)
  obtain ⟨i,hi,rfl⟩ := List.mem_map.mp hx
  have hlt : closes.length - 1 - i < closes.length := by omega
  rw [closeSeries,List.getD_eq_getElem _ _ hlt]
  exact h.unit_le _ (List.getElem_mem hlt)

theorem lastCross_scaled {r : ℚ → ℚ → Bool} (hr : ∀ x y, r (c * x) (c * y) = r x y) (t : ℕ) :
    compareBy r (sma5 .exact (closeSeries (scaled c closes)))
        (sma20 .exact (closeSeries (scaled c closes))) t =
      compareBy r (sma5 .exact (closeSeries closes)) (sma20 .exact (closeSeries closes)) t := by
  have hsma : ∀ window, Rolling.exact.series window (closeSeries (scaled c closes)) =
      fun i => (Rolling.exact.series window (closeSeries closes) i).map ((c : ℚ) * ·) := by
    intro window
    funext i
    rw [scaled,closeSeries_scaled,Rolling.exact_mul]
  rw [sma5,sma20,hsma,hsma,compareBy_map hr]
  rfl

theorem crosses_scaled (closes : List ℚ) (hc : 1 ≤ c) (t : ℕ) :
    lastGolden .exact (closeSeries (scaled c closes)) t = lastGolden .exact (closeSeries closes) t ∧
      lastDead .exact (closeSeries (scaled c closes)) t = lastDead .exact (closeSeries closes) t := by
  have hpos : (0 : ℚ) < c := by exact_mod_cast hc
  have hlt : ∀ x y : ℚ, decide ((c : ℚ) * x < c * y) = decide (x < y) :=
    fun x y => decide_eq_decide.mpr (mul_lt_mul_iff_right₀ hpos)
  have hle : ∀ x y : ℚ, decide ((c : ℚ) * x ≤ c * y) = decide (x ≤ y) :=
    fun x y => decide_eq_decide.mpr (mul_le_mul_iff_right₀ hpos)
  rw [lastGolden,lastGolden,lastDead,lastDead]
  rw [lastCross_scaled (fun x y => hlt y x),lastCross_scaled (fun x y => hle x y),
    lastCross_scaled (fun x y => hlt x y),lastCross_scaled (fun x y => hle y x)]
  exact ⟨rfl,rfl⟩

theorem momentumScore_scaled (h : Priced closes) (hc : 1 ≤ c) (ticker : String) :
    (compute .exact ticker (scaled c closes)).momentumScore =
      (compute .exact ticker closes).momentumScore := by
  have hpos : (0 : ℚ) < c := by exact_mod_cast hc
  have hlast : ∀ window, (Rolling.exact.series window (closeSeries (scaled c closes))
      (closes.length - 1)).getD 0 =
        c * (Rolling.exact.series window (closeSeries closes) (closes.length - 1)).getD 0 := by
    intro window
    rw [scaled,closeSeries_scaled,Rolling.exact_mul]
    cases Rolling.exact.series window (closeSeries closes) (closes.length - 1) with
    | none => exact (mul_zero _).symm
    | some x => rfl
  have hguard : ∀ l, Priced l →
      max |(sma20 .exact (closeSeries l) (l.length - 1)).getD 0| 1e-8 =
        (sma20 .exact (closeSeries l) (l.length - 1)).getD 0 := by
    intro l hl
    have hle := hl.unit_le_sma20
    rw [abs_of_nonneg ((unit_pos 4).le.trans hle)]
    exact max_eq_left (le_trans (by norm_num [unit]) hle)
  rw [compute,compute]
  dsimp only
  rw [spikeRule_scaled h hc,hguard _ h,hguard _ (h.scaled hc),length_scaled,sma5,sma20,sma5,sma20,
    hlast,
    hlast,← mul_sub,mul_div_mul_left _ _ hpos.ne']

theorem status_scaled (h : Priced closes) (hc : 1 ≤ c) (ticker : String) :
    (compute .exact ticker (scaled c closes)).status = (compute .exact ticker closes).status ∧
      (compute .exact ticker (scaled c closes)).volSpike =
        (compute .exact ticker closes).volSpike := by
  have hratio := volRatio_scaled h hc ticker
  rw [compute,compute] at hratio ⊢
  dsimp only at hratio ⊢
  rw [spikeRule_scaled h hc,hratio]
  exact ⟨rfl,rfl⟩

end Engine

section Strength
variable {g l : ℚ}

/-- Averages out of reach of the bound, or truly zero, have the same index in every unit. -/
theorem strength_scaled {c : ℤ} (hc : 1 ≤ c) (hg : 0 ≤ g) (hl : l = 0 ∨ lossBound ≤ l) :
    strength (c * g) (c * l) = strength g l := by
  have hone : (1 : ℚ) ≤ c := by exact_mod_cast hc
  have hpos : (0 : ℚ) < c := zero_lt_one.trans_le hone
  rcases hl with rfl | hl
  · rw [mul_zero,strength_of_none lossBound_pos,strength_of_none lossBound_pos]
  · have hlarger : lossBound ≤ c * l :=
      hl.trans (le_mul_of_one_le_left (lossBound_pos.le.trans hl) hone)
    rw [strength_of_bound hg hl,strength_of_bound (mul_nonneg hpos.le hg) hlarger,← mul_add,
      mul_div_mul_left _ _ hpos.ne']

/-- A positive average below the bound is told from zero in a unit that is small enough. -/
theorem exists_strength_ne (hg : 0 ≤ g) (hl : 0 < l) (hbelow : l < lossBound) :
    ∃ c : ℤ, 1 ≤ c ∧ strength (c * g) (c * l) ≠ strength g l := by
  let c := max 1 ⌈lossBound / l⌉
  have hone : 1 ≤ c := le_max_left _ _
  have hpos : (0 : ℚ) < c := by exact_mod_cast hone
  have hreach : lossBound ≤ c * l := by
    rw [← div_le_iff₀ hl]
    exact (Int.le_ceil _).trans (by exact_mod_cast le_max_right 1 ⌈lossBound / l⌉)
  refine ⟨c,hone,?_⟩
  rw [strength_of_none hbelow,strength_of_bound (mul_nonneg hpos.le hg) hreach,← mul_add,
    mul_div_mul_left _ _ hpos.ne']
  have hshare : g / (g + l) < 1 := (div_lt_one (by linarith)).mpr (by linarith)
  linarith

end Strength

section Rsi
variable {closes : List ℚ} {c : ℤ}

theorem computeRsi_scaled (h : Priced closes) (hc : 1 ≤ c) : computeRsi (scaled c closes) =
    strength (c * averageRise (changes closes)) (c * averageFall (changes closes)) := by
  have hpos : (0 : ℚ) ≤ c := by exact_mod_cast (zero_le_one.trans hc)
  have hlen : rsiPeriod + 1 ≤ (scaled c closes).length := le_trans (by decide) (h.scaled hc).enough
  rw [computeRsi_eq hlen,scaled,changes_scaled,averageRise_scaled hpos,averageFall_scaled hpos]

/-- The persona's signal and lock follow the momentum and the relative strength. -/
theorem persona_scaled (h : Priced closes) (hc : 1 ≤ c)
    (hrsi : computeRsi (scaled c closes) = computeRsi closes) (persona : PersonaProfile)
    (ticker : String) (sentiment : SentimentResult) :
    (personaAnalyze .exact persona ticker (some (scaled c closes)) sentiment).signal =
        (personaAnalyze .exact persona ticker (some closes) sentiment).signal ∧
      (personaAnalyze .exact persona ticker (some (scaled c closes)) sentiment).marginOfSafetyLock =
        (personaAnalyze .exact persona ticker (some closes) sentiment).marginOfSafetyLock := by
  have hcomposite : composite persona (analyze .exact ticker (some (scaled c closes))) sentiment =
      composite persona (analyze .exact ticker (some closes)) sentiment := by
    have hmomentum := momentumScore_scaled h hc ticker
    rw [composite,composite,analyze,analyze]
    rw [if_neg (not_lt.mpr h.enough),if_neg (not_lt.mpr (h.scaled hc).enough),hmomentum]
  have hchecked : ∀ signal, (checkedCloses persona signal (some (scaled c closes))).map computeRsi =
      (checkedCloses persona signal (some closes)).map computeRsi := by
    intro signal
    rw [checkedCloses,checkedCloses,Option.filter_some,Option.filter_some,length_scaled]
    split
    · rw [Option.map_some,Option.map_some,hrsi]
    · rfl
  have hsome : ∀ signal, (checkedCloses persona signal (some (scaled c closes))).isSome =
      (checkedCloses persona signal (some closes)).isSome := by
    intro signal
    have hmap := congrArg Option.isSome (hchecked signal)
    rwa [Option.isSome_map,Option.isSome_map] at hmap
  rw [personaAnalyze,personaAnalyze]
  dsimp only
  rw [hcomposite,hchecked,hsome]
  exact ⟨rfl,rfl⟩

end Rsi

/-- Two series of closes get the same signals. -/
structure SameSignals (persona : PersonaProfile) (ticker : String) (sentiment : SentimentResult)
    (closes closes' : List ℚ) : Prop where
  momentumScore : (analyze .exact ticker (some closes')).momentumScore =
    (analyze .exact ticker (some closes)).momentumScore
  volRatio : (analyze .exact ticker (some closes')).volRatio =
    (analyze .exact ticker (some closes)).volRatio
  goldenCross : (analyze .exact ticker (some closes')).goldenCross =
    (analyze .exact ticker (some closes)).goldenCross
  deadCross : (analyze .exact ticker (some closes')).deadCross =
    (analyze .exact ticker (some closes)).deadCross
  volSpike : (analyze .exact ticker (some closes')).volSpike =
    (analyze .exact ticker (some closes)).volSpike
  status : (analyze .exact ticker (some closes')).status =
    (analyze .exact ticker (some closes)).status
  rsi : computeRsi closes' = computeRsi closes
  signal : (personaAnalyze .exact persona ticker (some closes') sentiment).signal =
    (personaAnalyze .exact persona ticker (some closes) sentiment).signal
  lock : (personaAnalyze .exact persona ticker (some closes') sentiment).marginOfSafetyLock =
    (personaAnalyze .exact persona ticker (some closes) sentiment).marginOfSafetyLock

/-- Priced closes get the same signals in every unit exactly where no price falls or the average
fall reaches its bound. -/
theorem priceUnit_iff (persona : PersonaProfile) (ticker : String) (sentiment : SentimentResult)
    (closes : List ℚ) (h : Priced closes) :
    (∀ c : ℤ, 1 ≤ c → SameSignals persona ticker sentiment closes (scaled c closes)) ↔
      (∀ d ∈ changes closes, 0 ≤ d) ∨ lossBound ≤ averageFall (changes closes) := by
  have hlen : rsiPeriod + 1 ≤ closes.length := le_trans (by decide) h.enough
  have hgain : 0 ≤ averageRise (changes closes) := averageRise_nonneg
  have hloss : 0 ≤ averageFall (changes closes) := averageFall_nonneg
  rw [← averageFall_eq_zero_iff]
  constructor
  · intro hsame
    by_contra hnot
    obtain ⟨hzero,hbelow⟩ := not_or.mp hnot
    obtain ⟨c,hc,hne⟩ := exists_strength_ne hgain (lt_of_le_of_ne hloss (Ne.symm hzero))
      (not_le.mp hbelow)
    have hrsi := (hsame c hc).rsi
    rw [computeRsi_scaled h hc,computeRsi_eq hlen] at hrsi
    exact hne hrsi
  · intro hmeasurable c hc
    have hrsi : computeRsi (scaled c closes) = computeRsi closes := by
      rw [computeRsi_scaled h hc,strength_scaled hc hgain hmeasurable,computeRsi_eq hlen]
    have hanalyze : analyze .exact ticker (some closes) = compute .exact ticker closes :=
      if_neg (not_lt.mpr h.enough)
    have hanalyze' : analyze .exact ticker (some (scaled c closes)) =
        compute .exact ticker (scaled c closes) :=
      if_neg (not_lt.mpr (h.scaled hc).enough)
    obtain ⟨hgolden,hdead⟩ := crosses_scaled closes hc (closes.length - 1)
    obtain ⟨hstatus,hspike⟩ := status_scaled h hc ticker
    obtain ⟨hsignal,hlock⟩ := persona_scaled h hc hrsi persona ticker sentiment
    refine ⟨?_,?_,?_,?_,?_,?_,hrsi,hsignal,hlock⟩
    · rw [hanalyze,hanalyze',momentumScore_scaled h hc]
    · rw [hanalyze,hanalyze',volRatio_scaled h hc]
    · rw [hanalyze,hanalyze',compute,compute]
      dsimp only
      rw [length_scaled,hgolden]
    · rw [hanalyze,hanalyze',compute,compute]
      dsimp only
      rw [length_scaled,hdead]
    · rw [hanalyze,hanalyze',hspike]
    · rw [hanalyze,hanalyze',hstatus]

/-- A series whose closes are whole multiples of the unit is priced. -/
theorem priced_of_floor {closes : List ℚ} (henough : smaSlow ≤ closes.length)
    (h : ∀ x ∈ closes, 0 < x ∧ x / unit 4 = (x / unit 4).floor) : Priced closes := by
  refine ⟨henough,fun x hx => (h x hx).1,fun x hx => ?_⟩
  rw [AddSubgroup.mem_zmultiples_iff]
  refine ⟨(x / unit 4).floor,?_⟩
  rw [zsmul_eq_mul,← (h x hx).2,div_mul_cancel₀ _ (unit_pos 4).ne']

theorem zigzag_priced : Priced zigzag := priced_of_floor (by decide) (by decide +kernel)

theorem priceUnit_iff_zigzag : Priced zigzag ∧ lossBound ≤ averageFall (changes zigzag) ∧
    SameSignals .BALANCED "AAPL" (noSentiment "AAPL") zigzag (scaled 1300 zigzag) := by
  have hloss : lossBound ≤ averageFall (changes zigzag) := by decide +kernel
  exact ⟨zigzag_priced,hloss,(priceUnit_iff .BALANCED "AAPL" (noSentiment "AAPL") zigzag
    zigzag_priced).mpr (.inr hloss) 1300 (by decide)⟩

/-- One fall of the least unit, and then no change for a long time. -/
def longFlat : List ℚ := 100.0001 :: List.replicate 180 100

theorem longFlat_priced : Priced longFlat := priced_of_floor (by decide +kernel) (by decide +kernel)

/-- In a unit a hundred times smaller the same series loses the lock on a purchase. -/
theorem longFlat_unlocked : ¬∀ (persona : PersonaProfile) (ticker : String)
    (sentiment : SentimentResult) (closes : List ℚ) (c : ℤ), Priced closes → 1 ≤ c →
      SameSignals persona ticker sentiment closes (scaled c closes) := by
  intro h
  have hsame := h .CONSERVATIVE "AAPL" { noSentiment "AAPL" with sentimentScore := 1 } longFlat 100
    longFlat_priced (by decide)
  have hheld : (personaAnalyze .exact .CONSERVATIVE "AAPL" (some longFlat)
      { noSentiment "AAPL" with sentimentScore := 1 }).signal = .HOLD := by
    decide +kernel
  have hbought : (personaAnalyze .exact .CONSERVATIVE "AAPL" (some (scaled 100 longFlat))
      { noSentiment "AAPL" with sentimentScore := 1 }).signal = .BUY := by
    decide +kernel
  have hsignal := hsame.signal
  rw [hheld,hbought] at hsignal
  exact absurd hsignal (by decide)

end MacroInvest.Quant
