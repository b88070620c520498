import MacroInvest.Attribution.Coherence

/-! # Which events are reported

An event is due as a match when an active rule for its pair of event type and indicator reaches
back to it, and as a partial candidate when no active rule is for its pair and the fallback map
relates the two. The engine asks the map too when a rule is for the pair and the event is too
old for it, and takes an empty rule list for a missing one.
-/
namespace MacroInvest.Attribution
open Events (NormalizedExternalEvent)

/-- The active ones among the rules a caller names; an explicit list is taken as it is. -/
def requestedRules (rules : Option (List AttributionRule)) : List AttributionRule :=
  (rules.getD defaultAttributionRules).filter (fun r => r.isActive)

section Due
variable (active : List AttributionRule) (indicator : String) (asOfDate : ℤ)

/-- An active rule is for the pair, whatever its window. -/
def PairCovered (event : NormalizedExternalEvent ℤ) : Prop :=
  ∃ rule ∈ active, rule.eventType = event.eventType.value ∧ rule.indicatorType = indicator

/-- An active rule for the pair reaches back to the event. -/
def RuleReaches (event : NormalizedExternalEvent ℤ) : Prop :=
  ∃ rule ∈ active, rule.eventType = event.eventType.value ∧ rule.indicatorType = indicator ∧
    computeLagDays event.occurredAt asOfDate ≤ rule.maxLagDays

def MatchDue (event : NormalizedExternalEvent ℤ) : Prop :=
  event.occurredAt ≤ asOfDate ∧ RuleReaches active indicator asOfDate event

def PartialDue (event : NormalizedExternalEvent ℤ) : Prop :=
  event.occurredAt ≤ asOfDate ∧ ¬PairCovered active indicator event ∧
    inFallback indicator event.eventType.value (computeLagDays event.occurredAt asOfDate)

instance : DecidablePred (PairCovered active indicator) :=
  fun event => inferInstanceAs (Decidable (∃ rule ∈ active, rule.eventType =
    event.eventType.value ∧ rule.indicatorType = indicator))

instance : DecidablePred (RuleReaches active indicator asOfDate) :=
  fun event => inferInstanceAs (Decidable (∃ rule ∈ active, rule.eventType =
    event.eventType.value ∧ rule.indicatorType = indicator ∧
      computeLagDays event.occurredAt asOfDate ≤ rule.maxLagDays))

instance : DecidablePred (MatchDue active indicator asOfDate) :=
  fun _ => inferInstanceAs (Decidable (_ ∧ _))

instance : DecidablePred (PartialDue active indicator asOfDate) :=
  fun _ => inferInstanceAs (Decidable (_ ∧ _))

def candidateDue (event : NormalizedExternalEvent ℤ) : Option CandidateEventContext :=
  let lag := computeLagDays event.occurredAt asOfDate
  if MatchDue active indicator asOfDate event then some (candidateFromEvent event lag .matched)
  else if PartialDue active indicator asOfDate event then
    some (candidateFromEvent event lag .partialMatch)
  else none

/-- Every candidate is due, and every event that is due has one candidate. -/
structure WindowLaw (events : List (NormalizedExternalEvent ℤ))
    (candidates : List CandidateEventContext) : Prop where
  matched : ∀ c ∈ candidates, c.matchStatus = .matched →
    ∃ event ∈ events, MatchDue active indicator asOfDate event ∧
      c = candidateFromEvent event (computeLagDays event.occurredAt asOfDate) .matched
  partials : ∀ c ∈ candidates, c.matchStatus ≠ .matched →
    ∃ event ∈ events, PartialDue active indicator asOfDate event ∧
      c = candidateFromEvent event (computeLagDays event.occurredAt asOfDate) .partialMatch
  once : candidates.Perm (events.filterMap (candidateDue active indicator asOfDate))

end Due

/-- No past event that the fallback map relates is too old for all the rules of its pair and,
for an empty list, no default rule accepts a past event. -/
def WindowsFit (rules : Option (List AttributionRule)) (indicator : String) (asOfDate : ℤ)
    (events : List (NormalizedExternalEvent ℤ)) : Prop :=
  ∀ event ∈ events, event.occurredAt ≤ asOfDate →
    if rules = some [] then ¬RuleReaches (activeRules rules) indicator asOfDate event
    else PairCovered (requestedRules rules) indicator event →
      RuleReaches (requestedRules rules) indicator asOfDate event ∨
      ¬inFallback indicator event.eventType.value (computeLagDays event.occurredAt asOfDate)

section Reported
variable {active : List AttributionRule} {indicator : String} {asOfDate : ℤ}
  {event : NormalizedExternalEvent ℤ} {events : List (NormalizedExternalEvent ℤ)}

/-- What the round of the event loop adds. -/
def candidateOf (active : List AttributionRule) (indicator : String) (asOfDate : ℤ)
    (event : NormalizedExternalEvent ℤ) : Option CandidateEventContext :=
  ((matchOf active indicator asOfDate event).map Prod.snd).or
    (partialOf active indicator asOfDate event)

theorem ruleFor_isSome_iff :
    (ruleFor active indicator asOfDate event).isSome ↔ MatchDue active indicator asOfDate event := by
  rw [MatchDue,RuleReaches,← computeLagDays_nonneg_iff]
  unfold ruleFor
  by_cases hlag : computeLagDays event.occurredAt asOfDate < 0
  · simp [hlag]
  · simp [hlag,not_lt.mp hlag,accepts_iff]

theorem partialOf_eq : partialOf active indicator asOfDate event =
    if event.occurredAt ≤ asOfDate ∧ ¬MatchDue active indicator asOfDate event ∧
      inFallback indicator event.eventType.value (computeLagDays event.occurredAt asOfDate) then
      some (candidateFromEvent event (computeLagDays event.occurredAt asOfDate) .partialMatch)
    else none := by
  have hnone : ruleFor active indicator asOfDate event = none ↔
      ¬MatchDue active indicator asOfDate event := by
    rw [← ruleFor_isSome_iff,Option.not_isSome_iff_eq_none]
  unfold partialOf
  simp only [hnone,computeLagDays_nonneg_iff]

theorem candidateOf_eq : candidateOf active indicator asOfDate event =
    if MatchDue active indicator asOfDate event then
      some (candidateFromEvent event (computeLagDays event.occurredAt asOfDate) .matched)
    else partialOf active indicator asOfDate event := by
  unfold candidateOf matchOf
  by_cases hdue : MatchDue active indicator asOfDate event
  · obtain ⟨rule,hrule⟩ := Option.isSome_iff_exists.mp (ruleFor_isSome_iff.mpr hdue)
    simp [hrule,hdue]
  · have hrule := mt ruleFor_isSome_iff.mp hdue
    rw [Option.not_isSome_iff_eq_none] at hrule
    simp [hrule,hdue]

theorem matchOf_partialOf (h : (matchOf active indicator asOfDate event).isSome) :
    partialOf active indicator asOfDate event = none := by
  rw [matchOf,Option.isSome_map,ruleFor_isSome_iff] at h
  rw [partialOf_eq,if_neg (fun hpart => hpart.2.1 h)]

/-- The report is one candidate for each event the loop takes up. -/
theorem candidates_perm (delta : FeatureDelta) (rules : Option (List AttributionRule)) :
    (attributeDelta delta events asOfDate rules).candidates.Perm
      (events.filterMap (candidateOf (activeRules rules) delta.indicatorType asOfDate)) := by
  have hsort : ∀ l : List CandidateEventContext, (sortByLag l).Perm l :=
    fun l => List.mergeSort_perm l _
  unfold attributeDelta
  simp only [collect_eq]
  refine ((hsort _).append (hsort _)).trans ?_
  unfold sortedOut
  rw [List.map_filterMap]
  induction events with
  | nil => exact List.Perm.refl _
  | cons event events ih =>
    simp only [List.filterMap_cons,candidateOf]
    cases hmatch : matchOf (activeRules rules) delta.indicatorType asOfDate event with
    | some p =>
      rw [matchOf_partialOf (by rw [hmatch]; rfl)]
      exact ih.cons _
    | none =>
      cases hpart : partialOf (activeRules rules) delta.indicatorType asOfDate event with
      | some c => exact List.perm_middle.trans (ih.cons _)
      | none => exact ih

theorem mem_candidates (delta : FeatureDelta) {rules : Option (List AttributionRule)}
    {c : CandidateEventContext} :
    c ∈ (attributeDelta delta events asOfDate rules).candidates ↔ ∃ event ∈ events,
      candidateOf (activeRules rules) delta.indicatorType asOfDate event = some c := by
  rw [(candidates_perm delta rules).mem_iff,List.mem_filterMap]

end Reported

section Law
variable {indicator : String} {asOfDate : ℤ} {events : List (NormalizedExternalEvent ℤ)}
  {rules : Option (List AttributionRule)}

theorem activeRules_eq (h : rules ≠ some []) : activeRules rules = requestedRules rules := by
  match rules with
  | none => rfl
  | some [] => exact absurd rfl h
  | some (rule :: rest) => rfl

theorem pairCovered_congr {active : List AttributionRule} {event other : NormalizedExternalEvent ℤ}
    (htype : event.eventType.value = other.eventType.value)
    (h : PairCovered active indicator event) : PairCovered active indicator other := by
  unfold PairCovered
  rw [← htype]
  exact h

/-- Where the windows fit, the loop takes up what is due. -/
theorem candidateOf_eq_due (hfit : WindowsFit rules indicator asOfDate events)
    {event : NormalizedExternalEvent ℤ} (hevent : event ∈ events) :
    candidateOf (activeRules rules) indicator asOfDate event =
      candidateDue (requestedRules rules) indicator asOfDate event := by
  rw [candidateOf_eq,partialOf_eq,candidateDue]
  by_cases hpast : event.occurredAt ≤ asOfDate
  · have h := hfit event hevent hpast
    by_cases hempty : rules = some []
    · subst hempty
      rw [if_pos rfl] at h
      have hnot : ¬MatchDue (activeRules (some [])) indicator asOfDate event := fun hdue => h hdue.2
      have hnone : ¬MatchDue (requestedRules (some [])) indicator asOfDate event := by
        rintro ⟨-,rule,hrule,-⟩
        cases hrule
      have huncovered : ¬PairCovered (requestedRules (some [])) indicator event := by
        rintro ⟨rule,hrule,-⟩
        cases hrule
      simp [hnot,hnone,huncovered,hpast,PartialDue]
    · rw [if_neg hempty] at h
      rw [activeRules_eq hempty]
      by_cases hdue : MatchDue (requestedRules rules) indicator asOfDate event
      · simp [hdue]
      · have hreach : ¬RuleReaches (requestedRules rules) indicator asOfDate event :=
          fun hreach => hdue ⟨hpast,hreach⟩
        by_cases hcovered : PairCovered (requestedRules rules) indicator event
        · have hfallback := (h hcovered).resolve_left hreach
          simp [hdue,hfallback,PartialDue]
        · simp [hdue,hcovered,hpast,PartialDue]
  · simp [hpast,MatchDue,PartialDue]

theorem mem_candidateDue {active : List AttributionRule} {c : CandidateEventContext}
    {event : NormalizedExternalEvent ℤ} (h : candidateDue active indicator asOfDate event = some c) :
    (MatchDue active indicator asOfDate event ∧
      c = candidateFromEvent event (computeLagDays event.occurredAt asOfDate) .matched) ∨
    (PartialDue active indicator asOfDate event ∧
      c = candidateFromEvent event (computeLagDays event.occurredAt asOfDate) .partialMatch) := by
  unfold candidateDue at h
  split at h
  · exact .inl ⟨by assumption,(Option.some.inj h).symm⟩
  · split at h
    · exact .inr ⟨by assumption,(Option.some.inj h).symm⟩
    · cases h

theorem windowLaw_of_once {active : List AttributionRule} {candidates : List CandidateEventContext}
    (h : candidates.Perm (events.filterMap (candidateDue active indicator asOfDate))) :
    WindowLaw active indicator asOfDate events candidates := by
  have hdue : ∀ c ∈ candidates, ∃ event ∈ events,
      candidateDue active indicator asOfDate event = some c :=
    fun c hc => List.mem_filterMap.mp (h.mem_iff.mp hc)
  refine ⟨?_,?_,h⟩
  · intro c hc hstatus
    obtain ⟨event,hevent,hcand⟩ := hdue c hc
    rcases mem_candidateDue hcand with ⟨hmatch,rfl⟩ | ⟨-,rfl⟩
    · exact ⟨event,hevent,hmatch,rfl⟩
    · cases hstatus
  · intro c hc hstatus
    obtain ⟨event,hevent,hcand⟩ := hdue c hc
    rcases mem_candidateDue hcand with ⟨-,rfl⟩ | ⟨hpart,rfl⟩
    · exact absurd rfl hstatus
    · exact ⟨event,hevent,hpart,rfl⟩

theorem windowsFit_of_law (delta : FeatureDelta)
    (h : WindowLaw (requestedRules rules) delta.indicatorType asOfDate events
      (attributeDelta delta events asOfDate rules).candidates) :
    WindowsFit rules delta.indicatorType asOfDate events := by
  intro event hevent hpast
  split
  · rename_i hempty
    intro hreach
    have hdue : MatchDue (activeRules rules) delta.indicatorType asOfDate event := ⟨hpast,hreach⟩
    have hmem := (mem_candidates delta).mpr ⟨event,hevent,candidateOf_eq.trans (if_pos hdue)⟩
    obtain ⟨other,-,hother,-⟩ := h.matched _ hmem rfl
    obtain ⟨rule,hrule,-⟩ := hother.2
    rw [hempty] at hrule
    cases hrule
  · rename_i hrules
    intro hcovered
    by_contra hstale
    obtain ⟨hreach,hfallback⟩ := not_or.mp hstale
    have hnot : ¬MatchDue (activeRules rules) delta.indicatorType asOfDate event := by
      rw [activeRules_eq hrules]
      exact fun hdue => hreach hdue.2
    have hmem := (mem_candidates delta).mpr ⟨event,hevent,candidateOf_eq.trans
      ((if_neg hnot).trans (partialOf_eq.trans (if_pos ⟨hpast,hnot,not_not.mp hfallback⟩)))⟩
    obtain ⟨other,-,hother,heq⟩ := h.partials _ hmem (by simp [candidateFromEvent])
    exact hother.2.1 (pairCovered_congr (congrArg CandidateEventContext.eventType heq) hcovered)

end Law

/-- The report keeps to the windows exactly when no related event is too old for the rules of
its pair and an empty rule list would have matched nothing by default. -/
theorem window_law (delta : FeatureDelta) (events : List (NormalizedExternalEvent ℤ))
    (asOfDate : ℤ) (rules : Option (List AttributionRule)) :
    WindowLaw (requestedRules rules) delta.indicatorType asOfDate events
        (attributeDelta delta events asOfDate rules).candidates ↔
      WindowsFit rules delta.indicatorType asOfDate events := by
  constructor
  · exact windowsFit_of_law delta
  · intro hfit
    refine windowLaw_of_once ((candidates_perm delta rules).trans ?_)
    rw [List.filterMap_congr (fun event hevent => candidateOf_eq_due hfit hevent)]

/-- The release of ten days before is too old for the three days of its rule, and reported. -/
theorem stale_release_reported : ¬ ∀ (delta : FeatureDelta)
    (events : List (NormalizedExternalEvent ℤ)) (asOfDate : ℤ)
    (rules : Option (List AttributionRule)),
    WindowLaw (requestedRules rules) delta.indicatorType asOfDate events
      (attributeDelta delta events asOfDate rules).candidates := by
  intro h
  have hfit := windowsFit_of_law cpiDelta (h cpiDelta [cpiRelease] (28 * dayMicros) none)
  have hstale := hfit cpiRelease List.mem_cons_self (by decide)
  exact absurd hstale (by decide +kernel)

/-- An empty list of rules is answered by the default ones. -/
example : ¬WindowsFit (some []) "cpi" (20 * dayMicros) [cpiRelease] := by
  intro h
  exact absurd (h cpiRelease List.mem_cons_self (by decide)) (by decide +kernel)

end MacroInvest.Attribution
