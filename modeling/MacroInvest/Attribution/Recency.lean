import MacroInvest.Attribution.Coherence

/-! # The most recent match

The matches are compared by their lag in whole days, so the first listed of the nearest day is
primary whichever of that day is the latest, and the confidence is taken from half the window
of the first match, but at least one day, instead of half the window of the primary's own rule.
-/
namespace MacroInvest.Attribution
open FirstMax Rounding
open Events (NormalizedExternalEvent SourceReliabilityTier)

/-- A later event never lies more days back. -/
theorem computeLagDays_antitone {a b asOfDate : ℤ} (hab : a ≤ b) (hb : b ≤ asOfDate) :
    computeLagDays b asOfDate ≤ computeLagDays a asOfDate := by
  have hdiff : ((asOfDate - b : ℤ) : ℚ) / 1000000 ≤ ((asOfDate - a : ℤ) : ℚ) / 1000000 := by
    have hle : asOfDate - b ≤ asOfDate - a := by omega
    exact div_le_div_of_nonneg_right (by exact_mod_cast hle) (by norm_num)
  have hnonneg : (0 : ℚ) ≤ ((asOfDate - b : ℤ) : ℚ) / 1000000 :=
    div_nonneg (by exact_mod_cast (by omega : 0 ≤ asOfDate - b)) (by norm_num)
  have hseconds : totalSeconds (asOfDate - b) ≤ totalSeconds (asOfDate - a) :=
    roundFloat_mono one_lt_two (by norm_num) hnonneg hdiff
  have hsecondsNonneg : 0 ≤ totalSeconds (asOfDate - b) :=
    roundFloat_nonneg one_lt_two (by norm_num) hnonneg
  have hpast : ∀ c ≤ asOfDate, ¬totalSeconds (asOfDate - c) < 0 := by
    intro c hc
    rw [totalSeconds_neg_iff]
    omega
  unfold computeLagDays
  simp only [if_neg (hpast b hb),if_neg (hpast a (hab.trans hb))]
  refine Int.floor_le_floor (roundFloat_mono one_lt_two (by norm_num) ?_ ?_)
  · exact div_nonneg hsecondsNonneg (by norm_num)
  · exact div_le_div_of_nonneg_right hseconds (by norm_num)

abbrev Match := AttributionRule × CandidateEventContext

def Trusted (c : CandidateEventContext) : Prop :=
  c.reliabilityTier ∈ [SourceReliabilityTier.tier1.value,SourceReliabilityTier.tier2.value]

/-- The first listed among the matches of the fewest whole days. -/
def FirstNearest (found : List Match) (p : Match) : Prop := ∃ before after,
  found = before ++ p :: after ∧ (∀ q ∈ before, p.2.lagDays < q.2.lagDays) ∧
    ∀ q ∈ after, p.2.lagDays ≤ q.2.lagDays

/-- The primary candidate is the latest match, and the confidence is high exactly for a trusted
source within half the window of the rule the primary matched. -/
def MostRecentWins (found : List Match) (a : ChangeAttribution) : Prop :=
  ∃ p ∈ found, a.bestCandidate = some p.2 ∧
    (∀ q ∈ found, q.2.occurredAt ≤ p.2.occurredAt) ∧
    (a.confidence = .high ↔ Trusted p.2 ∧ 2 * p.2.lagDays ≤ p.1.maxLagDays)

/-- Of the nearest day the match listed first is the latest, and for a trusted source half the
window of the first match, at least a day, decides as half the window of its own rule. -/
def NearestDayFits (found : List Match) : Prop :=
  ∀ first p, found.head? = some first → FirstNearest found p →
    (∀ q ∈ found, q.2.lagDays = p.2.lagDays → q.2.occurredAt ≤ p.2.occurredAt) ∧
    (Trusted p.2 → (p.2.lagDays ≤ (max 1 (first.1.maxLagDays / 2) : ℕ) ↔
      2 * p.2.lagDays ≤ p.1.maxLagDays))

section Matches
variable {active : List AttributionRule} {indicator : String} {asOfDate : ℤ}
  {events : List (NormalizedExternalEvent ℤ)}

/-- The exact matches in the order of the events, each with the rule it matched. -/
def exactMatches (active : List AttributionRule) (indicator : String) (asOfDate : ℤ)
    (events : List (NormalizedExternalEvent ℤ)) : List Match :=
  events.filterMap (matchOf active indicator asOfDate)

theorem firstNearest_iff {found : List Match} {p : Match} :
    FirstNearest found p ↔ firstMax (fun q : Match => -q.2.lagDays) found = some p := by
  rw [firstMax_eq_some_iff,FirstNearest]
  simp only [neg_lt_neg_iff,neg_le_neg_iff]

theorem nearest_eq_map (found : List Match) : nearest (found.map Prod.snd) =
    (firstMax (fun q : Match => -q.2.lagDays) found).map Prod.snd := firstMax_map Prod.snd found

theorem mem_exactMatches {p : Match} (hp : p ∈ exactMatches active indicator asOfDate events) :
    p.2.occurredAt ≤ asOfDate ∧ p.2.lagDays = computeLagDays p.2.occurredAt asOfDate ∧
      active.find? (fun rule => rule.accepts indicator p.2.eventType p.2.lagDays) = some p.1 := by
  obtain ⟨event,-,hmatch⟩ := List.mem_filterMap.mp hp
  obtain ⟨hpast,hlag,-,hrule⟩ := of_matchOf hmatch
  exact ⟨hpast,hlag,hrule⟩

/-- A candidate matched one rule only. -/
theorem eq_of_candidate {p q : Match} (hp : p ∈ exactMatches active indicator asOfDate events)
    (hq : q ∈ exactMatches active indicator asOfDate events) (h : p.2 = q.2) : p = q := by
  obtain ⟨-,-,hprule⟩ := mem_exactMatches hp
  obtain ⟨-,-,hqrule⟩ := mem_exactMatches hq
  rw [h,hqrule] at hprule
  exact Prod.ext (Option.some.inj hprule).symm h

/-- What is later than a nearest match lies on the same day. -/
theorem latest_iff {p : Match} (hp : p ∈ exactMatches active indicator asOfDate events)
    (hnearest : ∀ q ∈ exactMatches active indicator asOfDate events,
      p.2.lagDays ≤ q.2.lagDays) :
    (∀ q ∈ exactMatches active indicator asOfDate events, q.2.occurredAt ≤ p.2.occurredAt) ↔
    ∀ q ∈ exactMatches active indicator asOfDate events,
      q.2.lagDays = p.2.lagDays → q.2.occurredAt ≤ p.2.occurredAt := by
  constructor
  · intro h q hq _
    exact h q hq
  · intro h q hq
    by_contra hlater
    obtain ⟨hpast,hlag,-⟩ := mem_exactMatches hq
    have hle := computeLagDays_antitone (not_le.mp hlater).le hpast
    rw [← hlag,← (mem_exactMatches hp).2.1] at hle
    exact hlater (h q hq (le_antisymm hle (hnearest q hq)))

theorem attributeDelta_matched (delta : FeatureDelta) {rules : Option (List AttributionRule)}
    {first p : Match}
    (hfirst : (exactMatches (activeRules rules) delta.indicatorType asOfDate events).head? =
      some first)
    (hp : FirstNearest (exactMatches (activeRules rules) delta.indicatorType asOfDate events) p) :
    (attributeDelta delta events asOfDate rules).bestCandidate = some p.2 ∧
    ((attributeDelta delta events asOfDate rules).confidence = .high ↔
      isHighConfidence p.2.lagDays first.1.maxLagDays p.2.reliabilityTier) := by
  have hbest : nearest ((exactMatches (activeRules rules) delta.indicatorType asOfDate
      events).map Prod.snd) = some p.2 := by
    rw [nearest_eq_map,firstNearest_iff.mp hp]
    rfl
  have hout : (attributeDelta delta events asOfDate rules).outcome =
      decideOutcome ⟨exactMatches (activeRules rules) delta.indicatorType asOfDate events,_⟩ :=
    attributeDelta_outcome delta rules
  rw [decideOutcome_matched (congrArg (Option.map Prod.fst) hfirst) hbest] at hout
  obtain ⟨hconfidence,hrest⟩ := Prod.mk.inj hout
  exact ⟨(Prod.mk.inj hrest).1,by rw [hconfidence,confidence_eq_high]⟩

theorem isHighConfidence_iff {c : CandidateEventContext} {maxLagDays : ℕ} :
    isHighConfidence c.lagDays maxLagDays c.reliabilityTier ↔
      Trusted c ∧ c.lagDays ≤ (max 1 (maxLagDays / 2) : ℕ) := by
  rw [isHighConfidence,decide_eq_true_iff,and_comm]
  rfl

end Matches

/-- With a match the most recent event wins exactly when the nearest day fits. -/
theorem recency_law (delta : FeatureDelta) (events : List (NormalizedExternalEvent ℤ))
    (asOfDate : ℤ) (rules : Option (List AttributionRule))
    (hmatch : exactMatches (activeRules rules) delta.indicatorType asOfDate events ≠ []) :
    MostRecentWins (exactMatches (activeRules rules) delta.indicatorType asOfDate events)
        (attributeDelta delta events asOfDate rules) ↔
      NearestDayFits (exactMatches (activeRules rules) delta.indicatorType asOfDate events) := by
  obtain ⟨found,hfound⟩ : ∃ found, found =
    exactMatches (activeRules rules) delta.indicatorType asOfDate events := ⟨_,rfl⟩
  obtain ⟨first,hfirst⟩ : ∃ first, found.head? = some first := by
    rw [← Option.isSome_iff_exists,List.isSome_head?]
    simpa [hfound] using hmatch
  obtain ⟨p,hp⟩ : ∃ p, firstMax (fun q : Match => -q.2.lagDays) found = some p := by
    rw [← Option.ne_none_iff_exists',Ne,firstMax_eq_none,hfound]
    exact hmatch
  rw [← hfound]
  have hmem : p ∈ found := firstMax_mem hp
  have hnearest : ∀ q ∈ found, p.2.lagDays ≤ q.2.lagDays :=
    fun q hq => neg_le_neg_iff.mp (le_firstMax hp hq)
  have hunique : ∀ q, FirstNearest found q ↔ q = p := by
    intro q
    rw [firstNearest_iff,hp,Option.some.injEq,eq_comm]
  subst hfound
  obtain ⟨hbest,hhigh⟩ := attributeDelta_matched delta hfirst (firstNearest_iff.mpr hp)
  unfold MostRecentWins NearestDayFits
  rw [hhigh,isHighConfidence_iff,hbest]
  simp only [hunique,hfirst,Option.some.injEq]
  constructor
  · rintro ⟨q,hq,heq,hlatest,hiff⟩ _ _ rfl rfl
    obtain rfl := eq_of_candidate hmem hq heq
    refine ⟨(latest_iff hmem hnearest).mp hlatest,?_⟩
    intro htrusted
    simpa [htrusted] using hiff
  · intro h
    obtain ⟨hday,hwindow⟩ := h first p rfl rfl
    refine ⟨p,hmem,rfl,(latest_iff hmem hnearest).mpr hday,?_⟩
    exact and_congr_right hwindow

section SameDay

/-- The release of noon, listed before the one of the evening. -/
def noonRelease : NormalizedExternalEvent ℤ :=
  { cpiRelease with eventId := "noon", occurredAt := 18 * dayMicros + dayMicros / 2 }

def eveningRelease : NormalizedExternalEvent ℤ :=
  { cpiRelease with eventId := "evening", occurredAt := 18 * dayMicros + dayMicros / 4 * 3 }

theorem recency_law_threeReleases :
    MostRecentWins (exactMatches (activeRules none) "cpi" (19 * dayMicros)
        [cpiRelease,eveningRelease,noonRelease])
      (attributeDelta cpiDelta [cpiRelease,eveningRelease,noonRelease] (19 * dayMicros) none) := by
  refine (recency_law cpiDelta [cpiRelease,eveningRelease,noonRelease] (19 * dayMicros) none
    (by decide +kernel)).mpr ?_
  intro first p hfirst hp
  have hhead : (exactMatches (activeRules none) "cpi" (19 * dayMicros)
      [cpiRelease,eveningRelease,noonRelease]).head? =
      some (builtinRule "builtin-mr-cpi" .macroRelease "cpi" 3,
        candidateFromEvent cpiRelease 1 .matched) := by decide +kernel
  have hnearest : firstMax (fun q : Match => -q.2.lagDays)
      (exactMatches (activeRules none) "cpi" (19 * dayMicros)
        [cpiRelease,eveningRelease,noonRelease]) =
      some (builtinRule "builtin-mr-cpi" .macroRelease "cpi" 3,
        candidateFromEvent eveningRelease 0 .matched) := by decide +kernel
  obtain rfl := Option.some.inj (hhead.symm.trans hfirst)
  obtain rfl := Option.some.inj (hnearest.symm.trans (firstNearest_iff.mp hp))
  refine ⟨by decide +kernel,fun _ => ?_⟩
  decide +kernel

/-- Both lie no whole day back; the first listed is primary and not the latest. -/
theorem earlier_release_primary : ¬ ∀ (delta : FeatureDelta)
    (events : List (NormalizedExternalEvent ℤ)) (asOfDate : ℤ)
    (rules : Option (List AttributionRule)),
    exactMatches (activeRules rules) delta.indicatorType asOfDate events ≠ [] →
    MostRecentWins (exactMatches (activeRules rules) delta.indicatorType asOfDate events)
      (attributeDelta delta events asOfDate rules) := by
  intro h
  obtain ⟨p,hp,hbest,hlatest,-⟩ := h cpiDelta [noonRelease,eveningRelease] (19 * dayMicros) none
    (by decide +kernel)
  let noon : Match :=
    (builtinRule "builtin-mr-cpi" .macroRelease "cpi" 3,candidateFromEvent noonRelease 0 .matched)
  have hfirst : (exactMatches (activeRules none) "cpi" (19 * dayMicros)
      [noonRelease,eveningRelease]).head? = some noon := by decide +kernel
  have hnearest : FirstNearest (exactMatches (activeRules none) "cpi" (19 * dayMicros)
      [noonRelease,eveningRelease]) noon := firstNearest_iff.mpr (by decide +kernel)
  obtain ⟨hnoon,-⟩ := attributeDelta_matched cpiDelta hfirst hnearest
  have hevening := hlatest (builtinRule "builtin-mr-cpi" .macroRelease "cpi" 3,
    candidateFromEvent eveningRelease 0 .matched) (by decide +kernel)
  rw [← Option.some.inj (hnoon.symm.trans hbest)] at hevening
  exact absurd hevening (by decide +kernel)

end SameDay

end MacroInvest.Attribution
