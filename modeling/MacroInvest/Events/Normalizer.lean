import MacroInvest.Events.Models
import MacroInvest.Features.DateTime
import MacroInvest.Library.Dict

/-! # External events

A normalized event gets its freshness from its age and its status from that and from its summary.
The status of a duplicate or degraded event exists, but the normalization gives it to no event.
-/
namespace MacroInvest.Events
open Features

section Freshness

def hours (n : ℤ) : ℤ := n * 3600000000

def days (n : ℤ) : ℤ := n * 86400000000

/-- The ages in microseconds up to which an event is fresh and recent. -/
def freshnessThresholds : ExternalEventType → ℤ × ℤ
  | .macroRelease => (hours 24,days 3)
  | .centralBankDecision => (hours 48,days 7)
  | .policyAnnouncement => (hours 48,days 7)
  | .earningsEvent => (hours 24,days 5)
  | .geopoliticalDevelopment => (hours 72,days 14)
  | .marketCatalyst => (hours 24,days 3)
  | .other => (hours 48,days 7)

/-- `a - b` in microseconds: by the clock within one zone, by the instant between two, a
`TypeError` between a time with a zone and one without. -/
def minus (a b : DateTime) : Option ℤ :=
  match a.tzinfo, b.tzinfo with
  | none, none => some (a.civil.micros - b.civil.micros)
  | some x, some y =>
    some (a.civil.micros - b.civil.micros -
      if x.sameObject y then 0 else x.utcoffset.micros - y.utcoffset.micros)
  | _, _ => none

def computeEventFreshness (eventType : ExternalEventType) (occurredAt referenceTime : DateTime) :
    Option ExternalEventFreshness :=
  (minus referenceTime occurredAt).map (fun age =>
    if age ≤ (freshnessThresholds eventType).1 then .fresh
    else if age ≤ (freshnessThresholds eventType).2 then .recent
    else .stale)

theorem minus_isSome_iff (a b : DateTime) : (minus a b).isSome ↔ a.Comparable b := by
  unfold minus DateTime.Comparable
  cases a.tzinfo <;> cases b.tzinfo <;> simp

end Freshness

section Reliability

def sourceReliabilityMap : Dict String SourceReliabilityTier := Dict.ofList [
  ("federal_reserve",.tier1),("fed",.tier1),("bls",.tier1),("bea",.tier1),("treasury",.tier1),
  ("ecb",.tier1),("bank_of_england",.tier1),("bank_of_japan",.tier1),("imf",.tier1),
  ("world_bank",.tier1),("fred",.tier1),
  ("reuters",.tier2),("bloomberg",.tier2),("wsj",.tier2),("financial_times",.tier2),
  ("manual_entry",.tier3),("manual_analyst_entry",.tier3)]

/-- `str.isspace` -/
def isSpace (c : Char) : Bool :=
  let n := c.toNat
  9 ≤ n ∧ n ≤ 13 ∨ 28 ≤ n ∧ n ≤ 32 ∨ n = 0x85 ∨ n = 0xa0 ∨ n = 0x1680 ∨
    0x2000 ≤ n ∧ n ≤ 0x200a ∨ n = 0x2028 ∨ n = 0x2029 ∨ n = 0x202f ∨ n = 0x205f ∨ n = 0x3000

def stripChars (cs : List Char) : List Char :=
  (cs.dropWhile isSpace).rdropWhile isSpace

/-- `title.strip()` -/
def strip (text : String) : String := String.ofList (stripChars text.toList)

/-- `c.lower()` as far as it can yield a character of a known source. -/
def lowerChar (c : Char) : List Char :=
  if c = 'İ' then ['i','\u0307'] else if c = '\u212a' then ['k'] else [c.toLower]

def inferReliabilityTier (source : String) : SourceReliabilityTier :=
  (sourceReliabilityMap.get?
    (String.ofList (stripChars (source.toList.flatMap lowerChar)))).getD .unknown

end Reliability

/-- What a caller gives of an event. -/
structure EventInput where
  eventType : ExternalEventType
  title : String
  occurredAt : DateTime
  source : String
  provenance : String
  summary : Option String := none
  entity : Option String := none
  region : Option String := none
  reliabilityTier : Option SourceReliabilityTier := none
  affectedDomains : List String := []

inductive NormalizeError where
  | typeError
  | validationError

/-- What the schema of an event checks. -/
def EventInput.Valid (input : EventInput) : Prop :=
  (1 ≤ (strip input.title).length ∧ (strip input.title).length ≤ 500) ∧
    1 ≤ input.source.length ∧ 1 ≤ input.provenance.length

instance (input : EventInput) : Decidable input.Valid :=
  inferInstanceAs (Decidable (_ ∧ _ ∧ _))

def statusOf (summary : Option String) (freshness : ExternalEventFreshness) :
    ExternalEventStatus :=
  if summary.getD "" = "" then .partialRecord
  else if freshness = .stale then .stale
  else .active

/-- `normalize_external_event` at a reference time, under the id drawn for the record. -/
def normalizeExternalEvent (input : EventInput) (eventId : String) (refTime : DateTime) :
    Except NormalizeError (NormalizedExternalEvent DateTime) :=
  match computeEventFreshness input.eventType input.occurredAt refTime with
  | none => .error .typeError
  | some freshness =>
    if h : input.Valid then
      .ok {
        eventId := eventId
        eventType := input.eventType
        title := strip input.title
        summary := input.summary
        entity := input.entity
        region := input.region
        occurredAt := input.occurredAt
        source := input.source
        freshness := freshness
        provenance := input.provenance
        reliabilityTier := input.reliabilityTier.getD (inferReliabilityTier input.source)
        affectedDomains := input.affectedDomains
        status := statusOf input.summary freshness
        titled := h.1
        sourceNamed := h.2.1
        provenanceNamed := h.2.2 }
    else .error .validationError

section Normalized
variable {input : EventInput} {eventId : String} {refTime : DateTime}
  {event : NormalizedExternalEvent DateTime}

/-- An input is normalized where its time can be compared with the clock and its texts pass. -/
theorem normalize_ok_iff : (∃ event, normalizeExternalEvent input eventId refTime = .ok event) ↔
    refTime.Comparable input.occurredAt ∧ input.Valid := by
  rw [← minus_isSome_iff]
  unfold normalizeExternalEvent computeEventFreshness
  cases minus refTime input.occurredAt with
  | none => simp
  | some age =>
    by_cases hvalid : input.Valid
    · simp [hvalid]
    · simp [hvalid]

/-- A normalized event keeps the triple of its input, and every one is usable. -/
theorem normalize_ok (h : normalizeExternalEvent input eventId refTime = .ok event) :
    event.eventId = eventId ∧ event.eventType = input.eventType ∧
      event.source = input.source ∧ event.occurredAt = input.occurredAt ∧
      event.isUsable = true := by
  unfold normalizeExternalEvent at h
  split at h
  · cases h
  · split at h
    · cases h
      refine ⟨rfl,rfl,rfl,rfl,?_⟩
      unfold NormalizedExternalEvent.isUsable statusOf
      dsimp only
      split_ifs <;> simp_all
    · cases h

end Normalized

end MacroInvest.Events
