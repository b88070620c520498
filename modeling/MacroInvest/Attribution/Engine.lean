import MacroInvest.Library.FloatRounding
import MacroInvest.Library.FixedWidth
import MacroInvest.Library.FirstMax
import MacroInvest.Attribution.Models

/-! # The attribution engine

Each past event is tried against the active rules in their order and otherwise against the
fallback map. The nearest match becomes the primary candidate; the rule that is reported is
the one of the first match in the order of the events.
-/
namespace MacroInvest.Attribution
open FirstMax FixedWidth Rounding
open Events (NormalizedExternalEvent SourceReliabilityTier)

/-- The nearest double. -/
def toDouble (x : ℚ) : ℚ := roundFloat 2 53 x

/-- `diff.total_seconds()` of a difference in microseconds. -/
def totalSeconds (diff : ℤ) : ℚ := toDouble (diff / 1000000)

/-- Whole days between two instants as the quotient of doubles truncates them, `-1` for an event
of the future. -/
def computeLagDays (eventOccurredAt asOfDate : ℤ) : ℤ :=
  let diff := asOfDate - eventOccurredAt
  if totalSeconds diff < 0 then -1 else ⌊toDouble (totalSeconds diff / 86400)⌋

def isHighConfidence (lagDays : ℤ) (maxLagDays : ℕ) (reliabilityTier : String) : Bool :=
  let highReliability := reliabilityTier ∈
    [SourceReliabilityTier.tier1.value,SourceReliabilityTier.tier2.value]
  let lagOk := lagDays ≤ max 1 (maxLagDays / 2 : ℕ)
  decide (lagOk ∧ highReliability)

def buildAdvisoryNote (indicatorType : String) (confidence : AttributionConfidence)
    (candidate : Option CandidateEventContext) : String :=
  let noCandidateNote :=
    "No candidate external event was identified as a plausible cause " ++
    "for the observed change in " ++ pyRepr indicatorType ++ ". " ++
    "The delta may reflect data revisions, model noise, or events " ++
    "not yet ingested."
  match confidence, candidate with
  | .unattributed, _ => noCandidateNote
  -- the assertion: only an unattributed delta has no candidate
  | _, none => noCandidateNote
  | _, some candidate =>
    "Advisory (" ++ confidence.value ++ " confidence): '" ++ candidate.title ++ "' " ++
    "(" ++ candidate.eventType ++ ", " ++ candidate.source ++ ") occurred " ++
    toString candidate.lagDays ++ " day(s) before the observed change in " ++
    pyRepr indicatorType ++ ". This is a heuristic match — it does not " ++
    "constitute a causal claim."

def candidateFromEvent (event : NormalizedExternalEvent ℤ) (lagDays : ℤ)
    (matchStatus : AttributionMatchStatus) : CandidateEventContext where
  eventId := event.eventId
  eventType := event.eventType.value
  title := event.title
  source := event.source
  occurredAt := event.occurredAt
  lagDays := lagDays
  matchStatus := matchStatus
  reliabilityTier := event.reliabilityTier.value

def AttributionRule.accepts (rule : AttributionRule) (indicator eventType : String) (lag : ℤ) :
    Bool :=
  decide (rule.eventType = eventType ∧ rule.indicatorType = indicator ∧ lag ≤ rule.maxLagDays)

/-- `rules or DEFAULT_ATTRIBUTION_RULES`, less the inactive ones. -/
def activeRules (rules : Option (List AttributionRule)) : List AttributionRule :=
  let chosen := match rules with
    | none => defaultAttributionRules
    | some [] => defaultAttributionRules
    | some rules => rules
  chosen.filter (fun r => r.isActive)

def inFallback (indicator eventType : String) (lag : ℤ) : Bool :=
  decide (indicator ∈ (heuristicFallback.lookup eventType).getD [] ∧ lag ≤ 30)

structure Found where
  matchedCandidates : List (AttributionRule × CandidateEventContext) := []
  partialCandidates : List CandidateEventContext := []

section Engine
variable (active : List AttributionRule) (indicator : String) (asOfDate : ℤ)

/-- One round of the event loop; the rule loop stops at the first rule that accepts. -/
def consider (found : Found) (event : NormalizedExternalEvent ℤ) : Found :=
  let lag := computeLagDays event.occurredAt asOfDate
  if lag < 0 then found else
    match active.find? (fun rule => rule.accepts indicator event.eventType.value lag) with
    | some rule => { found with matchedCandidates :=
        found.matchedCandidates ++ [(rule,candidateFromEvent event lag .matched)] }
    | none =>
      if inFallback indicator event.eventType.value lag then { found with partialCandidates :=
        found.partialCandidates ++ [candidateFromEvent event lag .partialMatch] }
      else found

def collect (events : List (NormalizedExternalEvent ℤ)) : Found :=
  events.foldl (consider active indicator asOfDate) {}

end Engine

def sortByLag (candidates : List CandidateEventContext) : List CandidateEventContext :=
  candidates.mergeSort (fun a b => decide (a.lagDays ≤ b.lagDays))

def decideOutcome (found : Found) :
    AttributionConfidence × Option CandidateEventContext × Option String :=
  let bestRule := found.matchedCandidates.head?.map Prod.fst
  match (sortByLag (found.matchedCandidates.map Prod.snd)).head?, bestRule with
  | some best, some rule =>
    (if isHighConfidence best.lagDays rule.maxLagDays best.reliabilityTier then .high else .medium,
      some best,some rule.ruleId)
  | _, _ =>
    match (sortByLag found.partialCandidates).head? with
    | some primary => (.low,some primary,none)
    | none => (.unattributed,none,none)

def attributeDelta (delta : FeatureDelta) (candidateEvents : List (NormalizedExternalEvent ℤ))
    (asOfDate : ℤ) (rules : Option (List AttributionRule)) : ChangeAttribution :=
  let indicator := delta.indicatorType
  let found := collect (activeRules rules) indicator asOfDate candidateEvents
  let allCandidates := sortByLag (found.matchedCandidates.map Prod.snd) ++
    sortByLag found.partialCandidates
  let (confidence,primary,ruleId) := decideOutcome found
  { indicatorType := indicator
    direction := delta.direction
    delta := delta.delta
    confidence := confidence
    candidates := allCandidates
    catalystContext :=
      { indicatorType := indicator
        candidateEventId := primary.map (fun c => c.eventId)
        candidateEventTitle := primary.map (fun c => c.title)
        candidateEventType := primary.map (fun c => c.eventType)
        lagDays := primary.map (fun c => c.lagDays)
        confidence := confidence
        advisoryNote := buildAdvisoryNote indicator confidence primary
        ruleId := ruleId } }

section Lag

theorem totalSeconds_neg_iff (diff : ℤ) : totalSeconds diff < 0 ↔ diff < 0 := by
  constructor
  · intro h
    by_contra hdiff
    have hseconds : (0 : ℚ) ≤ diff / 1000000 :=
      div_nonneg (by exact_mod_cast not_lt.mp hdiff) (by norm_num)
    exact absurd h (not_lt.mpr (roundFloat_nonneg one_lt_two (by norm_num) hseconds))
  · intro h
    refine roundFloat_neg one_lt_two (by norm_num) ?_
    exact div_neg_of_neg_of_pos (by exact_mod_cast h) (by norm_num)

/-- Exactly the events after the as-of date are told apart by their lag. -/
theorem computeLagDays_nonneg_iff (eventOccurredAt asOfDate : ℤ) :
    0 ≤ computeLagDays eventOccurredAt asOfDate ↔ eventOccurredAt ≤ asOfDate := by
  have hfuture : asOfDate - eventOccurredAt < 0 ↔ ¬ eventOccurredAt ≤ asOfDate := by omega
  unfold computeLagDays
  simp only [totalSeconds_neg_iff]
  split
  · rename_i h
    exact iff_of_false (by decide) (hfuture.mp h)
  · rename_i h
    refine iff_of_true (Int.floor_nonneg.mpr ?_) (not_not.mp (mt hfuture.mpr h))
    refine roundFloat_nonneg one_lt_two (by norm_num) (div_nonneg ?_ (by norm_num))
    exact not_lt.mp (mt (totalSeconds_neg_iff _).mp h)

end Lag

/-- The candidate with the smallest lag, the first of equals. -/
def nearest (candidates : List CandidateEventContext) : Option CandidateEventContext :=
  firstMax (fun c => -c.lagDays) candidates

theorem head_sortByLag (candidates : List CandidateEventContext) :
    (sortByLag candidates).head? = nearest candidates := by
  rw [nearest,← head_mergeSort]
  simp only [sortByLag,neg_le_neg_iff]

theorem exists_nearest (candidates : List CandidateEventContext) (h : candidates ≠ []) :
    ∃ best, nearest candidates = some best := by
  rw [← Option.ne_none_iff_exists',nearest,Ne,firstMax_eq_none]
  exact h

section Outcome
variable {matched : List (AttributionRule × CandidateEventContext)}
  {partials : List CandidateEventContext} {rule : AttributionRule} {best : CandidateEventContext}

theorem decideOutcome_matched (hrule : matched.head?.map Prod.fst = some rule)
    (hbest : nearest (matched.map Prod.snd) = some best) :
    decideOutcome ⟨matched,partials⟩ =
      (if isHighConfidence best.lagDays rule.maxLagDays best.reliabilityTier then .high
        else .medium,some best,some rule.ruleId) := by
  simp only [decideOutcome,head_sortByLag,hbest,hrule]

theorem decideOutcome_fallback (hbest : nearest partials = some best) :
    decideOutcome ⟨[],partials⟩ = (.low,some best,none) := by
  simp only [decideOutcome,head_sortByLag,hbest,List.head?_nil,Option.map_none]
  rfl

theorem decideOutcome_nothing : decideOutcome ⟨[],[]⟩ = (.unattributed,none,none) := by
  simp [decideOutcome,sortByLag]

end Outcome

end MacroInvest.Attribution
