import MacroInvest.Attribution.Engine

/-! # Order independence and coherence of an attribution

The matched and the partial candidates are functions of single events, so permuting the events
permutes them. What is decided from them is the same for every order exactly when one event is
nearest and all matched events speak for one rule; the reported rule fits the primary candidate
exactly when the first matched event speaks for the type of the nearest.
-/
namespace MacroInvest.Attribution
open FirstMax
open Events (NormalizedExternalEvent)

section Events
variable (active : List AttributionRule) (indicator : String) (asOfDate : ℤ)

def ruleFor (event : NormalizedExternalEvent ℤ) : Option AttributionRule :=
  let lag := computeLagDays event.occurredAt asOfDate
  if lag < 0 then none
  else active.find? (fun rule => rule.accepts indicator event.eventType.value lag)

def matchOf (event : NormalizedExternalEvent ℤ) : Option (AttributionRule × CandidateEventContext) :=
  (ruleFor active indicator asOfDate event).map (fun rule =>
    (rule,candidateFromEvent event (computeLagDays event.occurredAt asOfDate) .matched))

def partialOf (event : NormalizedExternalEvent ℤ) : Option CandidateEventContext :=
  let lag := computeLagDays event.occurredAt asOfDate
  if 0 ≤ lag ∧ ruleFor active indicator asOfDate event = none ∧
      inFallback indicator event.eventType.value lag then
    some (candidateFromEvent event lag .partialMatch)
  else none

def sortedOut (events : List (NormalizedExternalEvent ℤ)) : Found :=
  ⟨events.filterMap (matchOf active indicator asOfDate),
    events.filterMap (partialOf active indicator asOfDate)⟩

variable {active indicator asOfDate}

/-- What a match says of its event. -/
theorem of_matchOf {event : NormalizedExternalEvent ℤ}
    {p : AttributionRule × CandidateEventContext}
    (h : matchOf active indicator asOfDate event = some p) :
    p.2.occurredAt ≤ asOfDate ∧ p.2.lagDays = computeLagDays p.2.occurredAt asOfDate ∧
      p.2.matchStatus = .matched ∧
      active.find? (fun rule => rule.accepts indicator p.2.eventType p.2.lagDays) = some p.1 := by
  obtain ⟨rule,hrule,rfl⟩ := Option.map_eq_some_iff.mp h
  simp only [ruleFor] at hrule
  split at hrule
  · cases hrule
  · rename_i hlag
    exact ⟨(computeLagDays_nonneg_iff _ _).mp (not_lt.mp hlag),rfl,rfl,hrule⟩

theorem collect_eq (events : List (NormalizedExternalEvent ℤ)) :
    collect active indicator asOfDate events = sortedOut active indicator asOfDate events := by
  unfold sortedOut
  induction events using List.reverseRecOn with
  | nil => rfl
  | append_singleton events event ih =>
    rw [collect,List.foldl_concat]
    change consider active indicator asOfDate (collect active indicator asOfDate events) event = _
    rw [ih,List.filterMap_append,List.filterMap_append]
    by_cases hlag : computeLagDays event.occurredAt asOfDate < 0
    · simp [consider,matchOf,partialOf,ruleFor,hlag,not_le.mpr hlag]
    · cases hrule : active.find? (fun rule => rule.accepts indicator event.eventType.value
        (computeLagDays event.occurredAt asOfDate)) with
      | some rule => simp [consider,matchOf,partialOf,ruleFor,hlag,hrule]
      | none =>
        by_cases hfallback : inFallback indicator event.eventType.value
          (computeLagDays event.occurredAt asOfDate)
        · simp [consider,matchOf,partialOf,ruleFor,hlag,hrule,hfallback,not_lt.mp hlag]
        · simp [consider,matchOf,partialOf,ruleFor,hlag,hrule,hfallback]

end Events

theorem nearest_mem {candidates : List CandidateEventContext} {best : CandidateEventContext}
    (h : nearest candidates = some best) : best ∈ candidates := firstMax_mem h

theorem nearest_le {candidates : List CandidateEventContext} {best c : CandidateEventContext}
    (h : nearest candidates = some best) (hc : c ∈ candidates) : best.lagDays ≤ c.lagDays :=
  neg_le_neg_iff.mp (le_firstMax h hc)

theorem nearest_cons {candidates : List CandidateEventContext} {c : CandidateEventContext}
    (h : ∀ o ∈ candidates, c.lagDays ≤ o.lagDays) : nearest (c :: candidates) = some c := by
  rw [nearest,firstMax_cons]
  cases hrest : firstMax (fun c => -c.lagDays) candidates with
  | none => rfl
  | some best =>
    have hle := h best (firstMax_mem hrest)
    simp only
    rw [if_neg (by omega)]

def IsNearest (candidates : List CandidateEventContext) (c : CandidateEventContext) : Prop :=
  c ∈ candidates ∧ ∀ o ∈ candidates, c.lagDays ≤ o.lagDays

theorem isNearest_of_nearest {candidates : List CandidateEventContext}
    {best : CandidateEventContext} (h : nearest candidates = some best) :
    IsNearest candidates best := ⟨nearest_mem h,fun _ => nearest_le h⟩

theorem IsNearest.perm {candidates candidates' : List CandidateEventContext}
    {c : CandidateEventContext} (hperm : candidates.Perm candidates')
    (h : IsNearest candidates c) : IsNearest candidates' c :=
  ⟨hperm.mem_iff.mp h.1,fun o ho => h.2 o (hperm.mem_iff.mpr ho)⟩

/-- The smallest lag belongs to one candidate. -/
def NearestOnce (candidates : List CandidateEventContext) : Prop :=
  ∀ c o, IsNearest candidates c → IsNearest candidates o → c = o

theorem nearest_perm {candidates candidates' : List CandidateEventContext}
    (hperm : candidates.Perm candidates') (honce : NearestOnce candidates) :
    nearest candidates = nearest candidates' := by
  cases h : nearest candidates with
  | none =>
    have hnil := firstMax_eq_none.mp h
    subst hnil
    rw [hperm.nil_eq] at h
    exact h.symm
  | some best =>
    have hbest := isNearest_of_nearest h
    obtain ⟨best',h'⟩ := exists_nearest candidates' (List.ne_nil_of_mem (hperm.mem_iff.mp hbest.1))
    rw [h',honce best best' hbest ((isNearest_of_nearest h').perm hperm.symm)]

/-- The matched candidates speak for one rule: one id, and one verdict on the nearest. -/
def OneRule (matched : List (AttributionRule × CandidateEventContext)) : Prop :=
  ∀ p ∈ matched, ∀ q ∈ matched, p.1.ruleId = q.1.ruleId ∧
    ∀ c, IsNearest (matched.map Prod.snd) c →
      isHighConfidence c.lagDays p.1.maxLagDays c.reliabilityTier =
        isHighConfidence c.lagDays q.1.maxLagDays c.reliabilityTier

/-- What the order of the events cannot change: one nearest match of one rule or, without a
match, one nearest partial candidate. -/
def OrderFree (found : Found) : Prop :=
  if found.matchedCandidates = [] then NearestOnce found.partialCandidates
  else NearestOnce (found.matchedCandidates.map Prod.snd) ∧ OneRule found.matchedCandidates

theorem decideOutcome_perm {matched matched' : List (AttributionRule × CandidateEventContext)}
    {partials partials' : List CandidateEventContext} (hm : matched'.Perm matched)
    (hp : partials'.Perm partials) (hfree : OrderFree ⟨matched,partials⟩) :
    decideOutcome ⟨matched',partials'⟩ = decideOutcome ⟨matched,partials⟩ := by
  cases matched with
  | nil =>
    simp only [OrderFree,if_pos] at hfree
    rw [hm.eq_nil]
    have hnearest := nearest_perm hp.symm hfree
    cases hbest : nearest partials with
    | none =>
      have hnil := firstMax_eq_none.mp hbest
      subst hnil
      rw [hp.eq_nil]
    | some best => rw [decideOutcome_fallback hbest,decideOutcome_fallback (hnearest ▸ hbest)]
  | cons first rest =>
    simp only [OrderFree,if_neg (List.cons_ne_nil first rest)] at hfree
    obtain ⟨honce,hone⟩ := hfree
    have hnearest := nearest_perm (hm.symm.map Prod.snd) honce
    obtain ⟨best,hbest⟩ := exists_nearest ((first :: rest).map Prod.snd) (by simp)
    cases matched' with
    | nil => exact absurd hm.symm.eq_nil (List.cons_ne_nil first rest)
    | cons first' rest' =>
      have hmem : first' ∈ first :: rest := hm.mem_iff.mp List.mem_cons_self
      obtain ⟨hid,hverdict⟩ := hone first' hmem first List.mem_cons_self
      rw [decideOutcome_matched rfl hbest,decideOutcome_matched rfl (hnearest ▸ hbest),hid,
        hverdict best (isNearest_of_nearest hbest)]

/-- What an attribution reports: confidence, primary candidate and rule. -/
def ChangeAttribution.outcome (a : ChangeAttribution) :
    AttributionConfidence × Option CandidateEventContext × Option String :=
  (a.confidence,a.bestCandidate,a.catalystContext.ruleId)

section OrderIndependence
variable {active : List AttributionRule} {indicator : String} {asOfDate : ℤ}
  {events : List (NormalizedExternalEvent ℤ)}

theorem head_candidates (found : Found) :
    (sortByLag (found.matchedCandidates.map Prod.snd) ++ sortByLag found.partialCandidates).head? =
      (decideOutcome found).2.1 := by
  obtain ⟨matched,partials⟩ := found
  rw [List.head?_append,head_sortByLag,head_sortByLag]
  cases matched with
  | cons first rest =>
    obtain ⟨best,hbest⟩ := exists_nearest ((first :: rest).map Prod.snd) (by simp)
    rw [hbest,decideOutcome_matched rfl hbest]
    rfl
  | nil =>
    cases partials with
    | cons first rest =>
      obtain ⟨best,hbest⟩ := exists_nearest (first :: rest) (List.cons_ne_nil first rest)
      rw [hbest,decideOutcome_fallback hbest]
      rfl
    | nil =>
      rw [decideOutcome_nothing]
      rfl

theorem attributeDelta_outcome (delta : FeatureDelta) (rules : Option (List AttributionRule)) :
    (attributeDelta delta events asOfDate rules).outcome =
      decideOutcome (sortedOut (activeRules rules) delta.indicatorType asOfDate events) := by
  unfold ChangeAttribution.outcome ChangeAttribution.bestCandidate attributeDelta
  simp only [head_candidates,collect_eq]

theorem matched_front {p : AttributionRule × CandidateEventContext}
    (hp : p ∈ (sortedOut active indicator asOfDate events).matchedCandidates) :
    ∃ events' rest partials, events'.Perm events ∧
      sortedOut active indicator asOfDate events' = ⟨p :: rest,partials⟩ ∧
      (p :: rest).Perm (sortedOut active indicator asOfDate events).matchedCandidates := by
  obtain ⟨event,hevent,hmatch⟩ := List.mem_filterMap.mp hp
  obtain ⟨before,after,rfl⟩ := List.append_of_mem hevent
  have hperm : (event :: (before ++ after)).Perm (before ++ event :: after) :=
    List.perm_middle.symm
  have hmatched := hperm.filterMap (matchOf active indicator asOfDate)
  rw [List.filterMap_cons_some hmatch] at hmatched
  refine ⟨event :: (before ++ after),_,
    (event :: (before ++ after)).filterMap (partialOf active indicator asOfDate),hperm,?_,
    hmatched⟩
  rw [sortedOut,List.filterMap_cons_some hmatch]

theorem fallback_front {c : CandidateEventContext}
    (hnone : (sortedOut active indicator asOfDate events).matchedCandidates = [])
    (hc : c ∈ (sortedOut active indicator asOfDate events).partialCandidates) :
    ∃ events' rest, events'.Perm events ∧
      sortedOut active indicator asOfDate events' = ⟨[],c :: rest⟩ ∧
      (c :: rest).Perm (sortedOut active indicator asOfDate events).partialCandidates := by
  obtain ⟨event,hevent,hfallback⟩ := List.mem_filterMap.mp hc
  obtain ⟨before,after,rfl⟩ := List.append_of_mem hevent
  have hperm : (event :: (before ++ after)).Perm (before ++ event :: after) :=
    List.perm_middle.symm
  have hmatched := hperm.filterMap (matchOf active indicator asOfDate)
  have hrelated := hperm.filterMap (partialOf active indicator asOfDate)
  change (before ++ event :: after).filterMap (matchOf active indicator asOfDate) = [] at hnone
  rw [hnone] at hmatched
  rw [List.filterMap_cons_some hfallback] at hrelated
  refine ⟨event :: (before ++ after),_,hperm,?_,hrelated⟩
  rw [sortedOut,List.filterMap_cons_some hfallback,hmatched.eq_nil]

theorem isNearest_front {candidates rest : List CandidateEventContext} {c : CandidateEventContext}
    (hperm : (c :: rest).Perm candidates) (hc : IsNearest candidates c) :
    nearest (c :: rest) = some c :=
  nearest_cons (fun o ho => hc.2 o (hperm.mem_iff.mp (List.mem_cons_of_mem c ho)))

theorem verdict_inj {a b : Bool}
    (h : (if a then AttributionConfidence.high else .medium) =
      if b then AttributionConfidence.high else .medium) : a = b := by
  cases a <;> cases b <;> first | rfl | cases h

section AnyOrder
variable (h : ∀ events', events'.Perm events →
  decideOutcome (sortedOut active indicator asOfDate events') =
    decideOutcome (sortedOut active indicator asOfDate events))
include h

/-- If no order matters, every matched event speaks for the outcome as if it came first. -/
theorem outcome_of_matched {p : AttributionRule × CandidateEventContext}
    (hp : p ∈ (sortedOut active indicator asOfDate events).matchedCandidates) :
    ∃ best, IsNearest ((sortedOut active indicator asOfDate events).matchedCandidates.map Prod.snd)
        best ∧
      (IsNearest ((sortedOut active indicator asOfDate events).matchedCandidates.map Prod.snd) p.2 →
        best = p.2) ∧
      decideOutcome (sortedOut active indicator asOfDate events) =
        (if isHighConfidence best.lagDays p.1.maxLagDays best.reliabilityTier then .high
          else .medium,some best,some p.1.ruleId) := by
  obtain ⟨events',rest,partials,hperm,hfound,hrest⟩ := matched_front hp
  have hcandidates := hrest.map Prod.snd
  obtain ⟨best,hbest⟩ := exists_nearest ((p :: rest).map Prod.snd) (by simp)
  refine ⟨best,(isNearest_of_nearest hbest).perm hcandidates,?_,?_⟩
  · intro hfirst
    have hfront := isNearest_front hcandidates hfirst
    exact Option.some.inj (hbest.symm.trans hfront)
  · rw [← h events' hperm,hfound,decideOutcome_matched rfl hbest]

theorem outcome_of_fallback
    (hnone : (sortedOut active indicator asOfDate events).matchedCandidates = [])
    {c : CandidateEventContext}
    (hc : IsNearest (sortedOut active indicator asOfDate events).partialCandidates c) :
    decideOutcome (sortedOut active indicator asOfDate events) = (.low,some c,none) := by
  obtain ⟨events',rest,hperm,hfound,hrest⟩ := fallback_front hnone hc.1
  rw [← h events' hperm,hfound,decideOutcome_fallback (isNearest_front hrest hc)]

theorem fallback_nearestOnce
    (hnone : (sortedOut active indicator asOfDate events).matchedCandidates = []) :
    NearestOnce (sortedOut active indicator asOfDate events).partialCandidates := by
  intro c o hc ho
  have heq := (outcome_of_fallback h hnone hc).symm.trans (outcome_of_fallback h hnone ho)
  simp only [Prod.mk.injEq,Option.some.injEq] at heq
  exact heq.2.1

theorem matched_nearestOnce :
    NearestOnce ((sortedOut active indicator asOfDate events).matchedCandidates.map Prod.snd) := by
  intro c o hc ho
  obtain ⟨p,hp,rfl⟩ := List.mem_map.mp hc.1
  obtain ⟨q,hq,rfl⟩ := List.mem_map.mp ho.1
  obtain ⟨best,-,hbest,hout⟩ := outcome_of_matched h hp
  obtain ⟨best',-,hbest',hout'⟩ := outcome_of_matched h hq
  have heq := hout.symm.trans hout'
  simp only [Prod.mk.injEq,Option.some.injEq] at heq
  rw [← hbest hc,← hbest' ho,heq.2.1]

theorem matched_oneRule :
    OneRule (sortedOut active indicator asOfDate events).matchedCandidates := by
  intro p hp q hq
  obtain ⟨best,hnear,-,hout⟩ := outcome_of_matched h hp
  obtain ⟨best',-,-,hout'⟩ := outcome_of_matched h hq
  have heq := hout.symm.trans hout'
  simp only [Prod.mk.injEq,Option.some.injEq] at heq
  obtain ⟨hverdict,rfl,hid⟩ := heq
  refine ⟨hid,?_⟩
  intro c hc
  rw [matched_nearestOnce h c best hc hnear]
  exact verdict_inj hverdict

end AnyOrder

theorem order_free_iff :
    (∀ events', events'.Perm events →
      decideOutcome (sortedOut active indicator asOfDate events') =
        decideOutcome (sortedOut active indicator asOfDate events)) ↔
    OrderFree (sortedOut active indicator asOfDate events) := by
  constructor
  · intro h
    unfold OrderFree
    split
    · exact fallback_nearestOnce h (by assumption)
    · exact ⟨matched_nearestOnce h,matched_oneRule h⟩
  · intro hfree events' hperm
    exact decideOutcome_perm (hperm.filterMap _) (hperm.filterMap _) hfree

end OrderIndependence

section Coherence
variable {active : List AttributionRule} {indicator : String} {asOfDate : ℤ}
  {events : List (NormalizedExternalEvent ℤ)}

/-- A matched primary candidate is accepted by a rule of the reported id, and the confidence
is the verdict of that rule. -/
def Coherent (active : List AttributionRule) (a : ChangeAttribution) : Prop :=
  ∀ c, a.bestCandidate = some c → c.matchStatus = .matched →
    ∃ rule ∈ active, a.catalystContext.ruleId = some rule.ruleId ∧
      rule.accepts a.indicatorType c.eventType c.lagDays ∧
      (a.confidence = .high ↔ isHighConfidence c.lagDays rule.maxLagDays c.reliabilityTier)

/-- The rule of the first matched event is for the type of the nearest one, or shares its id
with a rule that accepts the nearest one and judges it alike. -/
def RuleFitsNearest (active : List AttributionRule) (indicator : String) (found : Found) : Prop :=
  ∀ rule c, found.matchedCandidates.head?.map Prod.fst = some rule →
    nearest (found.matchedCandidates.map Prod.snd) = some c →
    rule.eventType = c.eventType ∨ ∃ other ∈ active, other.ruleId = rule.ruleId ∧
      other.accepts indicator c.eventType c.lagDays ∧
      isHighConfidence c.lagDays other.maxLagDays c.reliabilityTier =
        isHighConfidence c.lagDays rule.maxLagDays c.reliabilityTier

/-- Matched candidates come with an active rule that accepts them, partial ones with none. -/
structure WellSorted (active : List AttributionRule) (indicator : String) (found : Found) :
    Prop where
  matched : ∀ p ∈ found.matchedCandidates, p.1 ∈ active ∧
    p.1.accepts indicator p.2.eventType p.2.lagDays ∧ p.2.matchStatus = .matched
  partials : ∀ c ∈ found.partialCandidates, c.matchStatus = .partialMatch

theorem sortedOut_wellSorted :
    WellSorted active indicator (sortedOut active indicator asOfDate events) where
  matched := by
    intro p hp
    obtain ⟨event,-,hmatch⟩ := List.mem_filterMap.mp hp
    obtain ⟨-,-,hstatus,hrule⟩ := of_matchOf hmatch
    have haccepts := List.find?_some hrule
    exact ⟨List.mem_of_find?_eq_some hrule,haccepts,hstatus⟩
  partials := by
    intro c hc
    obtain ⟨event,-,hfallback⟩ := List.mem_filterMap.mp hc
    simp only [partialOf] at hfallback
    split at hfallback
    · cases hfallback
      rfl
    · cases hfallback

theorem accepts_iff {rule : AttributionRule} {indicator eventType : String} {lag : ℤ} :
    rule.accepts indicator eventType lag ↔
      rule.eventType = eventType ∧ rule.indicatorType = indicator ∧ lag ≤ rule.maxLagDays := by
  simp [AttributionRule.accepts]

/-- The rule of the first match needs only the type of the nearest one: the nearest lag is no
longer than that of the first match. -/
theorem accepts_nearest {found : Found} (hfound : WellSorted active indicator found)
    {p : AttributionRule × CandidateEventContext} (hp : p ∈ found.matchedCandidates)
    {c : CandidateEventContext} (hc : nearest (found.matchedCandidates.map Prod.snd) = some c)
    (htype : p.1.eventType = c.eventType) :
    p.1 ∈ active ∧ p.1.accepts indicator c.eventType c.lagDays := by
  obtain ⟨hactive,haccepts,-⟩ := hfound.matched p hp
  obtain ⟨-,hindicator,hlag⟩ := accepts_iff.mp haccepts
  have hle := nearest_le hc (List.mem_map_of_mem hp)
  exact ⟨hactive,accepts_iff.mpr ⟨htype,hindicator,hle.trans hlag⟩⟩

theorem confidence_eq_high {b : Bool} :
    (if b then AttributionConfidence.high else .medium) = .high ↔ b := by
  cases b <;> simp

theorem decideOutcome_coherent_iff {found : Found} (hfound : WellSorted active indicator found) :
    (∀ c, (decideOutcome found).2.1 = some c → c.matchStatus = .matched →
      ∃ rule ∈ active, (decideOutcome found).2.2 = some rule.ruleId ∧
        rule.accepts indicator c.eventType c.lagDays ∧
        ((decideOutcome found).1 = .high ↔
          isHighConfidence c.lagDays rule.maxLagDays c.reliabilityTier)) ↔
      RuleFitsNearest active indicator found := by
  obtain ⟨matched,partials⟩ := found
  cases matched with
  | nil =>
    refine iff_of_true ?_ (fun rule c h => by cases h)
    intro c hc hmatched
    cases hbest : nearest partials with
    | none =>
      rw [firstMax_eq_none.mp hbest,decideOutcome_nothing] at hc
      cases hc
    | some best =>
      rw [decideOutcome_fallback hbest] at hc
      cases hc
      have hfallback := hfound.partials _ (nearest_mem hbest)
      rw [hfallback] at hmatched
      cases hmatched
  | cons first rest =>
    obtain ⟨best,hbest⟩ := exists_nearest ((first :: rest).map Prod.snd) (by simp)
    have hstatus : best.matchStatus = .matched := by
      obtain ⟨p,hp,rfl⟩ := List.mem_map.mp (nearest_mem hbest)
      exact (hfound.matched p hp).2.2
    rw [decideOutcome_matched rfl hbest]
    simp only [confidence_eq_high]
    constructor
    · intro h rule c hrule hc
      cases hrule
      cases hbest.symm.trans hc
      obtain ⟨other,hother,hid,haccepts,hverdict⟩ := h best rfl hstatus
      exact .inr ⟨other,hother,(Option.some.inj hid).symm,haccepts,
        (Bool.eq_iff_iff.mpr hverdict).symm⟩
    · intro h c hc _
      cases hc
      rcases h first.1 best rfl hbest with htype | ⟨other,hother,hid,haccepts,hverdict⟩
      · obtain ⟨hactive,haccepts⟩ := accepts_nearest hfound List.mem_cons_self hbest htype
        exact ⟨first.1,hactive,rfl,haccepts,Iff.rfl⟩
      · exact ⟨other,hother,congrArg some hid.symm,haccepts,by rw [hverdict]⟩

theorem coherent_iff (delta : FeatureDelta) (rules : Option (List AttributionRule)) :
    Coherent (activeRules rules) (attributeDelta delta events asOfDate rules) ↔
      RuleFitsNearest (activeRules rules) delta.indicatorType
        (sortedOut (activeRules rules) delta.indicatorType asOfDate events) := by
  rw [← decideOutcome_coherent_iff sortedOut_wellSorted,← attributeDelta_outcome]
  exact Iff.rfl

end Coherence

/-- Events at distinct instants may come in any order exactly when one match is nearest and all
matches speak for one rule, and the reported rule is the primary's own exactly when the first
match speaks for the nearest. -/
theorem attribution_law (delta : FeatureDelta) (events : List (NormalizedExternalEvent ℤ))
    (asOfDate : ℤ) (rules : Option (List AttributionRule)) :
    (((events.map (fun e => e.occurredAt)).Nodup → ∀ events', events'.Perm events →
        (attributeDelta delta events' asOfDate rules).outcome =
          (attributeDelta delta events asOfDate rules).outcome) ∧
      Coherent (activeRules rules) (attributeDelta delta events asOfDate rules)) ↔
    (((events.map (fun e => e.occurredAt)).Nodup →
        OrderFree (sortedOut (activeRules rules) delta.indicatorType asOfDate events)) ∧
      RuleFitsNearest (activeRules rules) delta.indicatorType
        (sortedOut (activeRules rules) delta.indicatorType asOfDate events)) := by
  simp only [attributeDelta_outcome]
  rw [order_free_iff,coherent_iff]

section CpiRelease

def cpiDelta : FeatureDelta := ⟨"cpi",some 1,.increased⟩

def dayMicros : ℤ := 86400000000

def rateDecision : NormalizedExternalEvent ℤ where
  eventId := "a"
  eventType := .centralBankDecision
  title := "Rate decision"
  occurredAt := 0
  source := "Federal Reserve"
  freshness := .recent
  provenance := "manual_analyst_entry"
  reliabilityTier := .tier1
  titled := by decide
  sourceNamed := by decide
  provenanceNamed := by decide

def cpiRelease : NormalizedExternalEvent ℤ where
  eventId := "b"
  eventType := .macroRelease
  title := "CPI release"
  occurredAt := 18 * dayMicros
  source := "BLS"
  freshness := .recent
  provenance := "manual_analyst_entry"
  reliabilityTier := .tier1
  titled := by decide
  sourceNamed := by decide
  provenanceNamed := by decide

/-- The decision is the first match and the release the nearest: the report names the rule of
the one with the other as primary, and the other order names the other rule. -/
theorem attribution_incoherent :
    (¬ ∀ (delta : FeatureDelta) (events : List (NormalizedExternalEvent ℤ)) (asOfDate : ℤ)
      (rules : Option (List AttributionRule)),
      (events.map (fun e => e.occurredAt)).Nodup → ∀ events', events'.Perm events →
        (attributeDelta delta events' asOfDate rules).outcome =
          (attributeDelta delta events asOfDate rules).outcome) ∧
    ¬ ∀ (delta : FeatureDelta) (events : List (NormalizedExternalEvent ℤ)) (asOfDate : ℤ)
      (rules : Option (List AttributionRule)),
      Coherent (activeRules rules) (attributeDelta delta events asOfDate rules) := by
  let byDecision := builtinRule "builtin-cbd-cpi" .centralBankDecision "cpi" 30
  let byRelease := builtinRule "builtin-mr-cpi" .macroRelease "cpi" 3
  let decision := candidateFromEvent rateDecision 20 .matched
  let release := candidateFromEvent cpiRelease 2 .matched
  constructor
  · intro h
    have horder := h cpiDelta [rateDecision,cpiRelease] (20 * dayMicros) none (by decide +kernel)
    simp only [attributeDelta_outcome] at horder
    have hfree := order_free_iff.mp horder
    rw [OrderFree,if_neg (by decide +kernel)] at hfree
    have hrule := hfree.2 (byDecision,decision) (by decide +kernel) (byRelease,release)
      (by decide +kernel)
    exact absurd hrule.1 (by decide +kernel)
  · intro h
    have hfits := (coherent_iff cpiDelta none).mp
      (h cpiDelta [rateDecision,cpiRelease] (20 * dayMicros) none)
    have hrule := hfits byDecision release (by decide +kernel) (by decide +kernel)
    exact absurd hrule (by decide +kernel)

end CpiRelease

end MacroInvest.Attribution
