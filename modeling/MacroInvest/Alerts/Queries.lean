import MacroInvest.Events.Impact
import MacroInvest.Library.RecentQuery

/-! # Alert queries

The store holds one version of each alert. A query takes its bounds as they come: one without a
time zone raises as soon as an alert is compared with it, while the event store reads such a bound
as UTC.
-/
namespace MacroInvest.Alerts
open Features RecentQuery

inductive AlertTriggerType where
  | thresholdBreach
  | regimeTransition
  | signalReversal
  | stalenessWarning
  | trustDegradation
  deriving DecidableEq

namespace AlertTriggerType

def value : AlertTriggerType → String
  | thresholdBreach => "threshold_breach"
  | regimeTransition => "regime_transition"
  | signalReversal => "signal_reversal"
  | stalenessWarning => "staleness_warning"
  | trustDegradation => "trust_degradation"

def all : List AlertTriggerType :=
  [thresholdBreach,regimeTransition,signalReversal,stalenessWarning,trustDegradation]

end AlertTriggerType

inductive AlertSeverity where
  | info
  | warning
  | critical
  deriving DecidableEq

namespace AlertSeverity

def value : AlertSeverity → String
  | info => "info"
  | warning => "warning"
  | critical => "critical"

def all : List AlertSeverity := [info,warning,critical]

end AlertSeverity

inductive AlertAcknowledgementState where
  | active
  | acknowledged
  | snoozed
  deriving DecidableEq

def AlertAcknowledgementState.value : AlertAcknowledgementState → String
  | .active => "active"
  | .acknowledged => "acknowledged"
  | .snoozed => "snoozed"

structure AlertEvent where
  alertId : String
  triggeredAt : DateTime
  triggerType : AlertTriggerType
  severity : AlertSeverity
  sourceRegime : Option String := none
  targetRegime : Option String := none
  indicatorType : Option String := none
  contextSnapshotId : Option String := none
  country : Option String := none
  ruleId : String
  ruleName : String
  message : String
  acknowledgementState : AlertAcknowledgementState := .active
  acknowledgedAt : Option DateTime := none
  snoozedUntil : Option DateTime := none
  metadata : List (String × String) := []
  deriving DecidableEq

/-- `model_copy(update=...)` -/
def AlertEvent.acknowledge (alert : AlertEvent) (state : AlertAcknowledgementState)
    (acknowledgedAt snoozedUntil : Option DateTime) : AlertEvent :=
  { alert with
    acknowledgementState := state
    acknowledgedAt := acknowledgedAt
    snoozedUntil := snoozedUntil }

/-- The comparison of times; one with a zone and one without cannot be compared. -/
def timeClock : Clock DateTime where
  comparable a b := decide (a.Comparable b)
  later := DateTime.later

/-- A query as the route hands it to the store. -/
structure AlertQuery where
  limit : ℕ := 50
  triggerType : Option AlertTriggerType := none
  severity : Option AlertSeverity := none
  country : Option String := none
  since : Option DateTime := none
  upTo : Option DateTime := none
  admitted : 1 ≤ limit ∧ limit ≤ 200

def AlertQuery.passes (q : AlertQuery) (alert : AlertEvent) : Bool :=
  q.triggerType.all (fun t => alert.triggerType = t) &&
    q.severity.all (fun s => alert.severity = s) &&
    q.country.all (fun c => alert.country = some c)

structure InMemoryAlertStore where
  store : Dict String AlertEvent

namespace InMemoryAlertStore

def save (s : InMemoryAlertStore) (alert : AlertEvent) : InMemoryAlertStore :=
  ⟨s.store.set alert.alertId alert⟩

def getById (s : InMemoryAlertStore) (alertId : String) : Option AlertEvent :=
  s.store.get? alertId

def updateAcknowledgement (s : InMemoryAlertStore) (alertId : String)
    (state : AlertAcknowledgementState) (acknowledgedAt snoozedUntil : Option DateTime) :
    InMemoryAlertStore × Option AlertEvent :=
  match s.store.get? alertId with
  | none => (s,none)
  | some existing =>
    let updated := existing.acknowledge state acknowledgedAt snoozedUntil
    (⟨s.store.set alertId updated⟩,some updated)

/-- None is a `TypeError`. -/
def listRecent (s : InMemoryAlertStore) (q : AlertQuery) : Option (List AlertEvent) :=
  RecentQuery.listRecent timeClock AlertEvent.triggeredAt q.passes q.since q.upTo q.limit
    s.store.values

end InMemoryAlertStore

section Events
open Events

/-- `t.replace(tzinfo=UTC) if t.tzinfo is None else t` -/
def asUtc (t : DateTime) : DateTime :=
  if t.tzinfo = none then { t with tzinfo := some .utc } else t

/-- The query of the event store, which reads a bound without a zone as UTC. -/
def listRecentEvents (s : InMemoryEventStore) (limit : ℕ) (eventType : Option ExternalEventType)
    (status : Option ExternalEventStatus) (region : Option String)
    (since upTo : Option DateTime) : Option (List (NormalizedExternalEvent DateTime)) :=
  RecentQuery.listRecent timeClock NormalizedExternalEvent.occurredAt
    (fun e => eventType.all (fun t => e.eventType = t) && status.all (fun t => e.status = t) &&
      region.all (fun r => e.region = some r))
    (since.map asUtc) (upTo.map asUtc) limit s.store.values

end Events

section Route

structure AlertParams where
  limit : ℤ := 50
  triggerType : Option String := none
  severity : Option String := none
  country : Option String := none
  since : Option DateTime := none
  upTo : Option DateTime := none

inductive AlertsError where
  | limitOutOfRange
  | unprocessable (detail : String)
  | typeError

structure AlertEventDTO where
  alertId : String
  triggeredAt : DateTime
  triggerType : String
  severity : String
  sourceRegime : Option String
  targetRegime : Option String
  indicatorType : Option String
  contextSnapshotId : Option String
  country : Option String
  ruleId : String
  ruleName : String
  message : String
  acknowledgementState : String
  acknowledgedAt : Option DateTime
  snoozedUntil : Option DateTime
  metadata : List (String × String)

structure AlertsRecentResponse where
  alerts : List AlertEventDTO
  total : ℕ
  limitApplied : ℤ

def alertToDto (a : AlertEvent) : AlertEventDTO where
  alertId := a.alertId
  triggeredAt := a.triggeredAt
  triggerType := a.triggerType.value
  severity := a.severity.value
  sourceRegime := a.sourceRegime
  targetRegime := a.targetRegime
  indicatorType := a.indicatorType
  contextSnapshotId := a.contextSnapshotId
  country := a.country
  ruleId := a.ruleId
  ruleName := a.ruleName
  message := a.message
  acknowledgementState := a.acknowledgementState.value
  acknowledgedAt := a.acknowledgedAt
  snoozedUntil := a.snoozedUntil
  metadata := a.metadata

/-- An enumeration by its values, or the detail of the refusal. -/
def parseFilter {E : Type} (name : String) (all : List E) (value : E → String) :
    Option String → Except AlertsError (Option E)
  | none => .ok none
  | some text =>
    match all.find? (fun e => value e = text) with
    | some e => .ok (some e)
    | none => .error (.unprocessable ("Invalid " ++ name ++ " '" ++ text ++ "'. Valid values: [" ++
        Agent.joinText ", " (all.map (fun e => "'" ++ value e ++ "'")) ++ "]"))

/-- The query of a request, whose limit the framework checks before the filters are read. -/
def parseQuery (params : AlertParams) : Except AlertsError AlertQuery :=
  if h : 1 ≤ params.limit.toNat ∧ params.limit.toNat ≤ 200 then do
    let triggerType ← parseFilter "trigger_type" AlertTriggerType.all AlertTriggerType.value
      params.triggerType
    let severity ← parseFilter "severity" AlertSeverity.all AlertSeverity.value params.severity
    return {
      limit := params.limit.toNat
      triggerType := triggerType
      severity := severity
      country := params.country
      since := params.since
      upTo := params.upTo
      admitted := h }
  else .error .limitOutOfRange

def listRecentAlerts (s : InMemoryAlertStore) (params : AlertParams) :
    Except AlertsError AlertsRecentResponse := do
  let q ← parseQuery params
  match s.listRecent q with
  | none => .error .typeError
  | some alerts => return ⟨alerts.map alertToDto,alerts.length,params.limit⟩

end Route

end MacroInvest.Alerts
