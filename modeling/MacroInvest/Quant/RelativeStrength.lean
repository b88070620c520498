import MacroInvest.Library.Smoothing
import MacroInvest.Quant.Persona

/-! # The relative strength index

The index compares the smoothed average rise of a series with its smoothed average fall. An
average fall below a fixed bound counts as none and gives the index its greatest value, whatever
the average rise is: the index is even-handed on the series whose averages are out of reach of
that bound, and on those only.
-/
namespace MacroInvest.Quant
open Broker Smoothing

/-- The changes from close to close. -/
def changes (close : List ℚ) : List ℚ :=
  List.zipWith (fun prev next => next - prev) close close.tail

def rises (moves : List ℚ) : List ℚ := moves.map (fun d => max d 0)

/-- The average of the rises, as the weighted sum that smoothing amounts to. -/
def averageRise (moves : List ℚ) : ℚ := weighted rsiPeriod (rises moves)

/-- The average of the falls is that of the rises of the mirrored changes. -/
def averageFall (moves : List ℚ) : ℚ := averageRise (moves.map Neg.neg)

/-- An average below the bound is taken for none. -/
def lossBound : ℚ := 1e-10

/-- The index as a function of the two averages. -/
def strength (avgGain avgLoss : ℚ) : ℚ :=
  if avgLoss < lossBound then 100 else 100 - 100 / (1 + avgGain / avgLoss)

section Averages
variable {moves moves' : List ℚ}

theorem length_changes (close : List ℚ) : (changes close).length = close.length - 1 := by
  simp [changes]

theorem rises_nonneg : ∀ x ∈ rises moves, 0 ≤ x := by
  intro x hx
  obtain ⟨d,-,rfl⟩ := List.mem_map.mp hx
  exact le_max_right d 0

theorem averageRise_nonneg : 0 ≤ averageRise moves := weighted_nonneg (by decide) rises_nonneg

theorem averageFall_nonneg : 0 ≤ averageFall moves := averageRise_nonneg

/-- The average rise vanishes only where no price rises. -/
theorem averageRise_eq_zero_iff : averageRise moves = 0 ↔ ∀ d ∈ moves, d ≤ 0 := by
  rw [averageRise,weighted_eq_zero_iff (by decide) rises_nonneg]
  simp [rises]

theorem averageFall_eq_zero_iff : averageFall moves = 0 ↔ ∀ d ∈ moves, 0 ≤ d := by
  rw [averageFall,averageRise_eq_zero_iff,List.forall_mem_map]
  simp only [Left.neg_nonpos_iff]

theorem averageRise_mono (h : List.Forall₂ (· ≤ ·) moves moves') :
    averageRise moves ≤ averageRise moves' := by
  refine weighted_mono (by decide) ?_
  rw [rises,rises,List.forall₂_map_left_iff,List.forall₂_map_right_iff]
  exact h.imp (fun d d' hle => max_le_max_right 0 hle)

theorem averageFall_anti (h : List.Forall₂ (· ≤ ·) moves moves') :
    averageFall moves' ≤ averageFall moves := by
  refine averageRise_mono ?_
  rw [List.forall₂_map_left_iff,List.forall₂_map_right_iff]
  exact h.flip.imp (fun d' d hle => neg_le_neg hle)

/-- The loop of the code read as the two weighted sums. -/
theorem computeRsi_eq {close : List ℚ} (hlen : rsiPeriod + 1 ≤ close.length) :
    computeRsi close = strength (averageRise (changes close)) (averageFall (changes close)) := by
  have hmean : ∀ xs : List ℚ, xs.length = (changes close).length →
      (xs.drop rsiPeriod).foldl (fun avg x : ℚ => (avg * (rsiPeriod - 1 : ℕ) + x) / rsiPeriod)
        (mean (xs.take rsiPeriod)) = weighted rsiPeriod xs := by
    intro xs hxs
    have hfirst : rsiPeriod ≤ xs.length := by
      rw [hxs,length_changes]
      omega
    rw [← average_eq_weighted hfirst,average,mean,List.length_take_of_le hfirst]
    rfl
  have hgains := hmean (rises (changes close)) (by simp [rises])
  have hlosses := hmean (rises ((changes close).map Neg.neg)) (by simp [rises])
  rw [rises,List.map_map] at hlosses
  rw [computeRsi,if_neg (not_lt.mpr hlen),strength,averageFall,averageRise,averageRise,← hgains]
  rw [rises,List.map_map,← hlosses]
  rfl

end Averages

section Strength
variable {g l : ℚ}

theorem lossBound_pos : 0 < lossBound := by norm_num [lossBound]

theorem strength_of_bound (hg : 0 ≤ g) (hl : lossBound ≤ l) :
    strength g l = 100 * (g / (g + l)) := by
  have hl0 : 0 < l := lossBound_pos.trans_le hl
  rw [strength,if_neg (not_lt.mpr hl)]
  field_simp
  ring

theorem share_le_one (hg : 0 ≤ g) (hl : 0 ≤ l) : g / (g + l) ≤ 1 :=
  div_le_one_of_le₀ (le_add_of_nonneg_right hl) (add_nonneg hg hl)

theorem strength_mem (hg : 0 ≤ g) : 0 ≤ strength g l ∧ strength g l ≤ 100 := by
  rcases lt_or_ge l lossBound with hl | hl
  · rw [strength,if_pos hl]
    norm_num
  · have hl0 : 0 ≤ l := lossBound_pos.le.trans hl
    have hshare := share_le_one hg hl0
    have hpos : 0 ≤ g / (g + l) := div_nonneg hg (add_nonneg hg hl0)
    rw [strength_of_bound hg hl]
    constructor <;> linarith

theorem strength_mono {g' l' : ℚ} (hg : 0 ≤ g) (hgains : g ≤ g') (hlosses : l' ≤ l) :
    strength g l ≤ strength g' l' := by
  rcases lt_or_ge l' lossBound with hl' | hl'
  · have htop : strength g' l' = 100 := by rw [strength,if_pos hl']
    rw [htop]
    exact (strength_mem hg).2
  · have hl : lossBound ≤ l := hl'.trans hlosses
    have hl0 : 0 < l' := lossBound_pos.trans_le hl'
    rw [strength_of_bound hg hl,strength_of_bound (hg.trans hgains) hl']
    have hshare : g / (g + l) ≤ g' / (g' + l') := by
      rw [div_le_div_iff₀ (by linarith) (by linarith)]
      nlinarith
    linarith

theorem strength_of_none (hl : l < lossBound) : strength g l = 100 := if_pos hl

/-- The index is zero where the rises are. -/
theorem strength_eq_zero_iff (hg : 0 ≤ g) (hl : lossBound ≤ l) : strength g l = 0 ↔ g = 0 := by
  have hsum : g + l ≠ 0 := (add_pos_of_nonneg_of_pos hg (lossBound_pos.trans_le hl)).ne'
  rw [strength_of_bound hg hl,mul_eq_zero,div_eq_zero_iff]
  simp [hsum]

/-- Exchanging the averages mirrors the index where both are told from zero, or truly are zero,
and not both of them. -/
theorem strength_swap_iff (hg : 0 ≤ g) (hl : 0 ≤ l) : strength l g = 100 - strength g l ↔
    (lossBound ≤ g ∨ lossBound ≤ l) ∧ (g = 0 ∨ lossBound ≤ g) ∧ (l = 0 ∨ lossBound ≤ l) := by
  rcases lt_or_ge g lossBound with hgain | hgain <;> rcases lt_or_ge l lossBound with hloss | hloss
  · rw [strength_of_none hgain,strength_of_none hloss]
    simp [not_le.mpr hgain,not_le.mpr hloss]
  · have hmirror : (100 : ℚ) = 100 - strength g l ↔ strength g l = 0 := by
      constructor <;> intro h <;> linarith
    rw [strength_of_none hgain,hmirror,strength_eq_zero_iff hg hloss]
    simp [hloss,not_le.mpr hgain]
  · have hmirror : strength l g = 100 - 100 ↔ strength l g = 0 := by rw [sub_self]
    rw [strength_of_none hloss,hmirror,strength_eq_zero_iff hl hgain]
    simp [hgain,not_le.mpr hloss]
  · have hsum : g + l ≠ 0 := (add_pos_of_nonneg_of_pos hg (lossBound_pos.trans_le hloss)).ne'
    have hshares : l / (l + g) = 1 - g / (g + l) := by
      rw [add_comm l g,eq_sub_iff_add_eq,← add_div,add_comm l g,div_self hsum]
    rw [strength_of_bound hl hgain,strength_of_bound hg hloss,hshares]
    simp [hgain,hloss,mul_sub]

end Strength

section Series
variable {close : List ℚ}

theorem changes_cons_cons (a b : ℚ) (close : List ℚ) :
    changes (a :: b :: close) = (b - a) :: changes (b :: close) := rfl

/-- Raising the last price raises the last change and no other. -/
theorem changes_raise (before : List ℚ) {last last' : ℚ} (hlast : last ≤ last') :
    List.Forall₂ (· ≤ ·) (changes (before ++ [last])) (changes (before ++ [last'])) := by
  induction before with
  | nil => exact List.Forall₂.nil
  | cons a before ih =>
    cases before with
    | nil => exact List.Forall₂.cons (sub_le_sub_right hlast a) List.Forall₂.nil
    | cons b before =>
      simp only [List.cons_append,changes_cons_cons]
      exact List.Forall₂.cons le_rfl ih

theorem changes_neg (close : List ℚ) :
    changes (close.map Neg.neg) = (changes close).map Neg.neg := by
  simp only [changes,List.map_zipWith,List.zipWith_map,← List.map_tail]
  congr 1
  funext a b
  ring

/-- The index of a series with the changes of another mirrored exchanges the averages. -/
theorem computeRsi_mirror {close' : List ℚ} (hlen : rsiPeriod + 1 ≤ close.length)
    (hmirror : changes close' = (changes close).map Neg.neg) :
    computeRsi close' = strength (averageFall (changes close)) (averageRise (changes close)) := by
  have hlength := congrArg List.length hmirror
  rw [List.length_map,length_changes,length_changes] at hlength
  have hlen' : rsiPeriod + 1 ≤ close'.length := by
    have hperiod : 0 < rsiPeriod := by decide
    omega
  have htwice : ((changes close).map Neg.neg).map Neg.neg = changes close := by simp
  rw [computeRsi_eq hlen',hmirror,averageFall,averageFall,htwice]

end Series

/-- The even-handedness of the index on one series. -/
structure RsiLaw (close : List ℚ) : Prop where
  range : 0 ≤ computeRsi close ∧ computeRsi close ≤ 100
  mirrored : ∀ close', changes close' = (changes close).map Neg.neg →
    computeRsi close' = 100 - computeRsi close
  raised : ∀ before last last', close = before ++ [last] → last ≤ last' →
    computeRsi close ≤ computeRsi (before ++ [last'])
  flat : (∀ d ∈ changes close, d = 0) → computeRsi close = 50 ∧ ∀ ticker sentiment,
    (personaAnalyze .exact .CONSERVATIVE ticker (some close) sentiment).marginOfSafetyLock = false

/-- Some price moves, and each of the two averages is that of no change at all or reaches the
bound. -/
structure Measurable (close : List ℚ) : Prop where
  moved : ∃ d ∈ changes close, d ≠ 0
  rise : (∀ d ∈ changes close, d ≤ 0) ∨ lossBound ≤ averageRise (changes close)
  fall : (∀ d ∈ changes close, 0 ≤ d) ∨ lossBound ≤ averageFall (changes close)

section Measurable
variable {close : List ℚ}

/-- The condition as the one under which the averages can be exchanged. -/
theorem measurable_iff : Measurable close ↔
    (lossBound ≤ averageRise (changes close) ∨ lossBound ≤ averageFall (changes close)) ∧
    (averageRise (changes close) = 0 ∨ lossBound ≤ averageRise (changes close)) ∧
    (averageFall (changes close) = 0 ∨ lossBound ≤ averageFall (changes close)) := by
  rw [averageRise_eq_zero_iff,averageFall_eq_zero_iff]
  constructor
  · rintro ⟨⟨d,hd,hmove⟩,hrise,hfall⟩
    refine ⟨?_,hrise,hfall⟩
    rcases hrise with hrise | hrise
    · rcases hfall with hfall | hfall
      · exact absurd (le_antisymm (hrise d hd) (hfall d hd)) hmove
      · exact .inr hfall
    · exact .inl hrise
  · rintro ⟨hreach,hrise,hfall⟩
    refine ⟨?_,hrise,hfall⟩
    by_contra! hflat
    have hnoRise : averageRise (changes close) = 0 :=
      averageRise_eq_zero_iff.mpr (fun d hd => (hflat d hd).le)
    have hnoFall : averageFall (changes close) = 0 :=
      averageFall_eq_zero_iff.mpr (fun d hd => (hflat d hd).ge)
    rw [hnoRise,hnoFall] at hreach
    exact absurd (hreach.elim id id) (not_le.mpr lossBound_pos)

end Measurable

/-- The index of a series of at least fifteen prices is even-handed exactly where its average
rise and fall can be told from zero. -/
theorem rsi_law_iff (close : List ℚ) (hlen : rsiPeriod + 1 ≤ close.length) :
    RsiLaw close ↔ Measurable close := by
  have hrsi := computeRsi_eq hlen
  have hgain : 0 ≤ averageRise (changes close) := averageRise_nonneg
  have hloss : 0 ≤ averageFall (changes close) := averageFall_nonneg
  have hswap := strength_swap_iff hgain hloss
  rw [measurable_iff]
  constructor
  · intro hlaw
    have hmirror := hlaw.mirrored _ (changes_neg close)
    rw [computeRsi_mirror hlen (changes_neg close),hrsi] at hmirror
    exact hswap.mp hmirror
  · intro hmeasurable
    refine ⟨?_,?_,?_,?_⟩
    · rw [hrsi]
      exact strength_mem hgain
    · intro close' hmirror
      rw [computeRsi_mirror hlen hmirror,hrsi]
      exact hswap.mpr hmeasurable
    · rintro before last last' rfl hlast
      have hlen' : rsiPeriod + 1 ≤ (before ++ [last']).length := by simpa using hlen
      have hchanges := changes_raise before hlast
      rw [hrsi,computeRsi_eq hlen']
      exact strength_mono hgain (averageRise_mono hchanges) (averageFall_anti hchanges)
    · intro hflat
      obtain ⟨⟨d,hd,hmove⟩,-,-⟩ := measurable_iff.mpr hmeasurable
      exact absurd (hflat d hd) hmove

/-- Ten rises and ten falls of one unit in turn. -/
def zigzag : List ℚ := (List.range 21).map (fun i => if i % 2 = 0 then 100 else 101)

theorem rsi_law_iff_zigzag : Measurable zigzag ∧ RsiLaw zigzag := by
  have hmeasurable : Measurable zigzag := by
    refine ⟨by decide +kernel,.inr ?_,.inr ?_⟩
    · decide +kernel
    · decide +kernel
  exact ⟨hmeasurable,(rsi_law_iff zigzag (by decide +kernel)).mpr hmeasurable⟩

/-- A series without any change is taken for overbought, and a purchase is locked. -/
theorem flat_locked : ¬RsiLaw (List.replicate 20 100) ∧ computeRsi (List.replicate 20 100) = 100 ∧
    (personaAnalyze .exact .CONSERVATIVE "AAPL" (some (List.replicate 20 100))
      { noSentiment "AAPL" with sentimentScore := 1 }).marginOfSafetyLock = true := by
  have hrsi : computeRsi (List.replicate 20 100) = 100 := by decide +kernel
  refine ⟨?_,hrsi,by decide +kernel⟩
  intro hlaw
  have hflat := (hlaw.flat (by decide +kernel)).1
  rw [hrsi] at hflat
  exact absurd hflat (by norm_num)

end MacroInvest.Quant
