import Mathlib

/-! # Event records

One record of a real-world event, as the normalization makes it and as the stores, the impacts and
the attribution read it.
-/
namespace MacroInvest.Events

inductive ExternalEventType where
  | macroRelease
  | centralBankDecision
  | policyAnnouncement
  | earningsEvent
  | geopoliticalDevelopment
  | marketCatalyst
  | other
  deriving DecidableEq, Repr

def ExternalEventType.value : ExternalEventType → String
  | .macroRelease => "macro_release"
  | .centralBankDecision => "central_bank_decision"
  | .policyAnnouncement => "policy_announcement"
  | .earningsEvent => "earnings_event"
  | .geopoliticalDevelopment => "geopolitical_development"
  | .marketCatalyst => "market_catalyst"
  | .other => "other"

inductive SourceReliabilityTier where
  | tier1
  | tier2
  | tier3
  | unknown
  deriving DecidableEq, Repr

def SourceReliabilityTier.value : SourceReliabilityTier → String
  | .tier1 => "tier_1"
  | .tier2 => "tier_2"
  | .tier3 => "tier_3"
  | .unknown => "unknown"

inductive ExternalEventFreshness where
  | fresh
  | recent
  | stale
  | unknown
  deriving DecidableEq

inductive ExternalEventStatus where
  | active
  | stale
  | partialRecord
  | duplicate
  | degraded
  deriving DecidableEq

/-- An event as it is stored; `T` is what times are told by. -/
structure NormalizedExternalEvent (T : Type) where
  eventId : String
  eventType : ExternalEventType
  title : String
  summary : Option String := none
  entity : Option String := none
  region : Option String := none
  occurredAt : T
  source : String
  freshness : ExternalEventFreshness
  provenance : String
  reliabilityTier : SourceReliabilityTier := .unknown
  affectedDomains : List String := []
  status : ExternalEventStatus := .active
  titled : 1 ≤ title.length ∧ title.length ≤ 500
  sourceNamed : 1 ≤ source.length
  provenanceNamed : 1 ≤ provenance.length

namespace NormalizedExternalEvent
variable {T : Type}

def isStale (e : NormalizedExternalEvent T) : Bool :=
  e.freshness = .stale ∨ e.freshness = .unknown

def isUsable (e : NormalizedExternalEvent T) : Bool :=
  if e.status = .duplicate then false else !(decide (e.status = .degraded) && e.isStale)

end NormalizedExternalEvent

end MacroInvest.Events
