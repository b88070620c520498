import MacroInvest.Alerts.Queries
import MacroInvest.Library.Fallible

/-! # What an alert query answers

After any saves and acknowledgements the store holds the latest version of every alert, and a
query returns the newest of those that match it, unless a bound without a time zone meets an alert.
-/
namespace MacroInvest.Alerts
open Features RecentQuery

inductive AlertOp where
  | save (alert : AlertEvent)
  | updateAcknowledgement (alertId : String) (state : AlertAcknowledgementState)
      (acknowledgedAt snoozedUntil : Option DateTime)

namespace AlertOp

def apply (s : InMemoryAlertStore) : AlertOp → InMemoryAlertStore
  | save alert => s.save alert
  | updateAcknowledgement alertId state acknowledgedAt snoozedUntil =>
    (s.updateAcknowledgement alertId state acknowledgedAt snoozedUntil).1

/-- What one step makes of the latest versions. -/
def version (latest : String → Option AlertEvent) : AlertOp → String → Option AlertEvent
  | save alert => Function.update latest alert.alertId (some alert)
  | updateAcknowledgement alertId state acknowledgedAt snoozedUntil =>
    Function.update latest alertId
      ((latest alertId).map (fun a => a.acknowledge state acknowledgedAt snoozedUntil))

/-- The time of the alert that is saved. -/
def savedTime : AlertOp → Option DateTime
  | save alert => some alert.triggeredAt
  | updateAcknowledgement _ _ _ _ => none

theorem getById_apply (s : InMemoryAlertStore) (op : AlertOp) :
    (op.apply s).getById = op.version s.getById := by
  funext i
  cases op with
  | save alert =>
    rw [apply,InMemoryAlertStore.save,InMemoryAlertStore.getById,Dict.get?_set,version,
      Function.update_apply]
    rfl
  | updateAcknowledgement alertId state acknowledgedAt snoozedUntil =>
    simp only [apply,InMemoryAlertStore.updateAcknowledgement,version,Function.update_apply,
      InMemoryAlertStore.getById]
    cases hget : s.store.get? alertId with
    | none =>
      by_cases hid : i = alertId
      · rw [if_pos hid,hid]
        exact hget
      · rw [if_neg hid]
    | some existing => exact Dict.get?_set s.store alertId i _

end AlertOp

def after (ops : List AlertOp) : InMemoryAlertStore := ops.foldl AlertOp.apply ⟨.empty⟩

/-- The latest version of every alert. -/
def latest (ops : List AlertOp) : String → Option AlertEvent :=
  ops.foldl AlertOp.version (fun _ => none)

def savedTimes (ops : List AlertOp) : List DateTime := ops.filterMap AlertOp.savedTime

section Versions
variable {ops : List AlertOp}

theorem latest_concat (ops : List AlertOp) (op : AlertOp) :
    latest (ops ++ [op]) = op.version (latest ops) := by
  rw [latest,List.foldl_append]
  rfl

theorem getById_after (ops : List AlertOp) : (after ops).getById = latest ops := by
  induction ops using List.reverseRecOn with
  | nil => rfl
  | append_singleton ops op ih =>
    rw [after,List.foldl_append,← after,List.foldl_cons,List.foldl_nil,AlertOp.getById_apply,ih,
      latest_concat]

/-- A version is stored under its own id and keeps the time it was saved with. -/
theorem latest_some {i : String} {a : AlertEvent} (h : latest ops i = some a) :
    a.alertId = i ∧ a.triggeredAt ∈ savedTimes ops := by
  induction ops using List.reverseRecOn generalizing a with
  | nil => cases h
  | append_singleton ops op ih =>
    rw [latest_concat] at h
    rw [savedTimes,List.filterMap_append,List.mem_append,← savedTimes]
    cases op with
    | save alert =>
      rw [AlertOp.version,Function.update_apply] at h
      split at h
      · rename_i hid
        cases h
        exact ⟨hid.symm,.inr (by simp [AlertOp.savedTime])⟩
      · exact ⟨(ih h).1,.inl (ih h).2⟩
    | updateAcknowledgement alertId state acknowledgedAt snoozedUntil =>
      rw [AlertOp.version,Function.update_apply] at h
      split at h
      · rename_i hid
        obtain ⟨b,hb,rfl⟩ := Option.map_eq_some_iff.mp h
        rw [← hid] at hb
        exact ⟨(ih hb).1,.inl (ih hb).2⟩
      · exact ⟨(ih h).1,.inl (ih h).2⟩

theorem mem_values_after {a : AlertEvent} :
    a ∈ (after ops).store.values ↔ latest ops a.alertId = some a := by
  rw [← getById_after]
  refine Dict.mem_values_iff_get? ?_
  intro i b hb
  have hlatest : (after ops).getById i = some b := hb
  rw [getById_after] at hlatest
  exact (latest_some hlatest).1

theorem values_after_pairwise (ops : List AlertOp) :
    (after ops).store.values.Pairwise (fun a b => a.alertId ≠ b.alertId) := by
  refine Dict.values_pairwise ?_
  intro i b hb
  have hlatest : (after ops).getById i = some b := hb
  rw [getById_after] at hlatest
  exact (latest_some hlatest).1

end Versions

/-- The instant of a time with a zone. -/
def rank (t : DateTime) : ℤ := t.instant.getD 0

/-- The times compare as their instants, as they do in fixed offsets. -/
def OrderedByInstant (times : List DateTime) : Prop :=
  ∀ a ∈ times, ∀ b ∈ times, a.later b = decide (rank b < rank a)

/-- The times in fixed offsets, `UTC` among them, are ordered by their instants. -/
theorem orderedByInstant_of_fixed {times : List DateTime}
    (h : ∀ t ∈ times, ∃ offset, t.tzinfo = some (.timezone offset)) : OrderedByInstant times := by
  intro a ha b hb
  obtain ⟨x,hx⟩ := h a ha
  obtain ⟨y,hy⟩ := h b hb
  simp only [DateTime.later,rank,DateTime.instant,hx,hy,TzInfo.sameObject,TzInfo.utcoffset]
  rfl

/-- An alert passes the filters and lies within the bounds, read as UTC where they have no zone. -/
def AlertQuery.Matches (q : AlertQuery) (a : AlertEvent) : Prop :=
  q.passes a = true ∧ (∀ b ∈ q.since, rank (asUtc b) ≤ rank a.triggeredAt) ∧
    ∀ b ∈ q.upTo, rank a.triggeredAt ≤ rank (asUtc b)

/-- The query returns the newest of exactly the latest versions that match it. -/
def AnswersQuery (ops : List AlertOp) (q : AlertQuery) : Prop :=
  ∃ result rest, (after ops).listRecent q = some result ∧
    ((result ++ rest).map AlertEvent.alertId).Nodup ∧
    (∀ a, a ∈ result ++ rest ↔ latest ops a.alertId = some a ∧ q.Matches a) ∧
    result.length = min q.limit (result ++ rest).length ∧
    result.Pairwise (fun a b => rank b.triggeredAt ≤ rank a.triggeredAt) ∧
    ∀ a ∈ result, ∀ b ∈ rest, rank b.triggeredAt ≤ rank a.triggeredAt

/-- No alert meets a bound without a time zone. -/
structure BoundsMet (ops : List AlertOp) (q : AlertQuery) : Prop where
  since : ∀ b ∈ q.since, b.tzinfo = none → ∀ i a, latest ops i = some a → q.passes a = false
  upTo : ∀ b ∈ q.upTo, b.tzinfo = none → ∀ i a, latest ops i = some a → q.passes a = true →
    ∃ s ∈ q.since, rank a.triggeredAt < rank (asUtc s)

section Answers
variable {ops : List AlertOp} {q : AlertQuery}

theorem timeClock_later : timeClock.later = DateTime.later := rfl

theorem asUtc_of_aware {t : DateTime} (h : t.tzinfo ≠ none) : asUtc t = t := if_neg h

/-- An aware time is compared with exactly the bounds that have a zone. -/
theorem comparable_aware_iff {t b : DateTime} (ht : t.tzinfo ≠ none) :
    timeClock.comparable t b = true ↔ b.tzinfo ≠ none := by
  rw [timeClock,decide_eq_true_iff,DateTime.Comparable,Option.isSome_iff_ne_none.mpr ht,
    eq_comm,Option.isSome_iff_ne_none]

/-- The bounds of a query as the event store reads them. -/
def AlertQuery.bounds (q : AlertQuery) : List DateTime :=
  (q.since.toList ++ q.upTo.toList).map asUtc

theorem latest_aware (haware : ∀ t ∈ savedTimes ops, t.tzinfo ≠ none) {a : AlertEvent}
    (h : a ∈ (after ops).store.values) : a.triggeredAt.tzinfo ≠ none :=
  haware _ (latest_some (mem_values_after.mp h)).2

theorem later_bound (hclock : OrderedByInstant (savedTimes ops ++ q.bounds)) {t b : DateTime}
    (ht : t ∈ savedTimes ops) (hb : b ∈ q.since ∨ b ∈ q.upTo) (hzone : b.tzinfo ≠ none) :
    t.later b = decide (rank b < rank t) ∧ b.later t = decide (rank t < rank b) := by
  have hbound : b ∈ q.bounds := by
    refine List.mem_map.mpr ⟨b,?_,asUtc_of_aware hzone⟩
    simpa [Option.mem_toList] using hb
  have ht' := List.mem_append_left q.bounds ht
  have hb' := List.mem_append_right (savedTimes ops) hbound
  exact ⟨hclock t ht' b hb',hclock b hb' t ht'⟩

theorem inside_since_iff (hclock : OrderedByInstant (savedTimes ops ++ q.bounds)) {t : DateTime}
    (ht : t ∈ savedTimes ops) (hzones : ∀ b ∈ q.since, b.tzinfo ≠ none) :
    inside (early timeClock) q.since t = true ↔ ∀ b ∈ q.since, rank (asUtc b) ≤ rank t := by
  rw [inside,Option.all_eq_true]
  refine forall₂_congr (fun b hb => ?_)
  rw [asUtc_of_aware (hzones b hb),early,timeClock_later,(later_bound hclock ht (.inl hb)
    (hzones b hb)).2,← decide_not,decide_eq_true_iff,not_lt]

theorem inside_upTo_iff (hclock : OrderedByInstant (savedTimes ops ++ q.bounds)) {t : DateTime}
    (ht : t ∈ savedTimes ops) (hzones : ∀ b ∈ q.upTo, b.tzinfo ≠ none) :
    inside (late timeClock) q.upTo t = true ↔ ∀ b ∈ q.upTo, rank t ≤ rank (asUtc b) := by
  rw [inside,Option.all_eq_true]
  refine forall₂_congr (fun b hb => ?_)
  rw [asUtc_of_aware (hzones b hb),late,timeClock_later,(later_bound hclock ht (.inr hb)
    (hzones b hb)).1,← decide_not,decide_eq_true_iff,not_lt]

theorem comparable_rows (haware : ∀ t ∈ savedTimes ops, t.tzinfo ≠ none) :
    ∀ a ∈ (after ops).store.values, ∀ b ∈ (after ops).store.values,
      timeClock.comparable a.triggeredAt b.triggeredAt = true :=
  fun _ ha _ hb => (comparable_aware_iff (latest_aware haware ha)).mpr (latest_aware haware hb)

/-- Where an alert passes the filters, the first bound has a zone. -/
theorem BoundsMet.since_aware (h : BoundsMet ops q) {a : AlertEvent}
    (ha : a ∈ (after ops).store.values) (hpass : q.passes a = true) :
    ∀ b ∈ q.since, b.tzinfo ≠ none := by
  intro b hb hzone
  have hfail := h.since b hb hzone a.alertId a (mem_values_after.mp ha)
  exact Bool.false_ne_true (hfail.symm.trans hpass)

theorem BoundsMet.upTo_aware (h : BoundsMet ops q) {a : AlertEvent}
    (ha : a ∈ (after ops).store.values) (hpass : q.passes a = true)
    (hsince : ∀ b ∈ q.since, rank (asUtc b) ≤ rank a.triggeredAt) :
    ∀ b ∈ q.upTo, b.tzinfo ≠ none := by
  intro b hb hzone
  obtain ⟨s,hs,hlt⟩ := h.upTo b hb hzone a.alertId a (mem_values_after.mp ha) hpass
  exact absurd (hsince s hs) (not_le.mpr hlt)

/-- The query answers exactly where no alert meets a bound without a zone. -/
theorem listRecent_isSome_iff (haware : ∀ t ∈ savedTimes ops, t.tzinfo ≠ none)
    (hclock : OrderedByInstant (savedTimes ops ++ q.bounds)) :
    ((after ops).listRecent q).isSome ↔ BoundsMet ops q := by
  rw [InMemoryAlertStore.listRecent,listRecent_eq (comparable_rows haware),Option.isSome_ite]
  constructor
  · rintro ⟨hsince,hupTo⟩
    have hfilters : ∀ b ∈ q.since, b.tzinfo = none → ∀ a ∈ (after ops).store.values,
        q.passes a = false := by
      intro b hb hzone a ha
      by_contra hpass
      have hcomparable := hsince b hb a
        (List.mem_filter.mpr ⟨ha,Bool.eq_true_of_not_eq_false hpass⟩)
      exact (comparable_aware_iff (latest_aware haware ha)).mp hcomparable hzone
    constructor
    · intro b hb hzone i a ha
      refine hfilters b hb hzone a (mem_values_after.mpr ?_)
      rwa [(latest_some ha).1]
    · intro b hb hzone i a ha hpass
      have hrow : a ∈ (after ops).store.values :=
        mem_values_after.mpr (by rwa [(latest_some ha).1])
      by_contra hbefore
      push Not at hbefore
      have hzones : ∀ s ∈ q.since, s.tzinfo ≠ none := by
        intro s hs hnone
        exact Bool.false_ne_true ((hfilters s hs hnone a hrow).symm.trans hpass)
      have hcomparable := hupTo b hb a (mem_reaching.mpr ⟨⟨hrow,hpass⟩,
        (inside_since_iff hclock (latest_some ha).2 hzones).mpr hbefore⟩)
      exact (comparable_aware_iff (latest_aware haware hrow)).mp hcomparable hzone
  · intro hmet
    constructor
    · intro b hb a ha
      obtain ⟨hrow,hpass⟩ := List.mem_filter.mp ha
      exact (comparable_aware_iff (latest_aware haware hrow)).mpr
        (hmet.since_aware hrow hpass b hb)
    · intro b hb a ha
      obtain ⟨⟨hrow,hpass⟩,hinside⟩ := mem_reaching.mp ha
      have htime := (latest_some (mem_values_after.mp hrow)).2
      have hsince := (inside_since_iff hclock htime (hmet.since_aware hrow hpass)).mp hinside
      exact (comparable_aware_iff (latest_aware haware hrow)).mpr
        (hmet.upTo_aware hrow hpass hsince b hb)

/-- The rows that the query wants are the latest versions that match it. -/
theorem mem_wanted_iff (hclock : OrderedByInstant (savedTimes ops ++ q.bounds))
    (hmet : BoundsMet ops q) {a : AlertEvent} :
    a ∈ wanted timeClock AlertEvent.triggeredAt q.passes q.since q.upTo (after ops).store.values ↔
      latest ops a.alertId = some a ∧ q.Matches a := by
  rw [mem_wanted,← mem_values_after,AlertQuery.Matches,and_assoc,and_assoc]
  refine and_congr_right (fun hrow => and_congr_right (fun hpass => ?_))
  have htime := (latest_some (mem_values_after.mp hrow)).2
  rw [inside_since_iff hclock htime (hmet.since_aware hrow hpass)]
  refine and_congr_right (fun hsince => ?_)
  rw [inside_upTo_iff hclock htime (hmet.upTo_aware hrow hpass hsince)]

theorem answersQuery_of_boundsMet (haware : ∀ t ∈ savedTimes ops, t.tzinfo ≠ none)
    (hclock : OrderedByInstant (savedTimes ops ++ q.bounds)) (hmet : BoundsMet ops q) :
    AnswersQuery ops q := by
  obtain ⟨result,hresult⟩ :=
    Option.isSome_iff_exists.mp ((listRecent_isSome_iff haware hclock).mpr hmet)
  have htime : ∀ a ∈ (after ops).store.values, a.triggeredAt ∈ savedTimes ops ++ q.bounds :=
    fun a ha => List.mem_append_left _ (latest_some (mem_values_after.mp ha)).2
  have hrank : ∀ a ∈ (after ops).store.values, ∀ b ∈ (after ops).store.values,
      timeClock.later a.triggeredAt b.triggeredAt =
        decide (rank b.triggeredAt < rank a.triggeredAt) :=
    fun a ha b hb => hclock _ (htime a ha) _ (htime b hb)
  obtain ⟨⟨rest,hperm,hrest⟩,hlength,hsorted⟩ :=
    newest_of_listRecent (comparable_rows haware) hrank hresult
  refine ⟨result,rest,hresult,?_,?_,?_,hsorted,hrest⟩
  · have hids := values_after_pairwise ops
    refine (hperm.map AlertEvent.alertId).nodup_iff.mpr (List.pairwise_map.mpr ?_)
    rw [wanted,reaching]
    exact ((hids.filter _).filter _).filter _
  · intro a
    rw [hperm.mem_iff,mem_wanted_iff hclock hmet]
  · rw [hperm.length_eq]
    exact hlength

end Answers

/-- After any saves of aware alerts and any acknowledgements, the query answers as it should
exactly where no alert meets a bound without a time zone. -/
theorem answersQuery_iff (ops : List AlertOp) (q : AlertQuery)
    (haware : ∀ t ∈ savedTimes ops, t.tzinfo ≠ none)
    (hclock : OrderedByInstant (savedTimes ops ++ q.bounds)) :
    AnswersQuery ops q ↔ BoundsMet ops q := by
  refine ⟨?_,answersQuery_of_boundsMet haware hclock⟩
  rintro ⟨result,-,hresult,-⟩
  rw [← listRecent_isSome_iff haware hclock,hresult,Option.isSome_some]

def regimeAlert : AlertEvent where
  alertId := "alert-1"
  triggeredAt := Events.releaseTime
  triggerType := .regimeTransition
  severity := .warning
  country := some "US"
  ruleId := "regime_change"
  ruleName := "Regime change"
  message := "Regime changed"

def plainQuery : AlertQuery where
  admitted := by decide

/-- All alerts since a time that is given without a zone. -/
def naiveQuery : AlertQuery where
  since := some { Events.releaseTime with tzinfo := none }
  admitted := plainQuery.admitted

/-- Two hours later. -/
def laterTime : DateTime where
  civil := ⟨2026,3,11,14,30,0,0⟩
  tzinfo := some .utc
  valid := by decide

def staleAlert : AlertEvent := { regimeAlert with
  alertId := "alert-2"
  triggeredAt := laterTime
  triggerType := .stalenessWarning }

def breachAlert : AlertEvent := { regimeAlert with
  alertId := "alert-3"
  triggerType := .thresholdBreach
  severity := .critical }

/-- Three alerts, of which the first is acknowledged. -/
def threeAlerts : List AlertOp := [.save regimeAlert,.save staleAlert,.save breachAlert,
  .updateAcknowledgement "alert-1" .acknowledged (some laterTime) none]

/-- The warnings since the first of them. -/
def warningsQuery : AlertQuery where
  severity := some .warning
  since := some Events.releaseTime
  admitted := plainQuery.admitted

theorem answersQuery_warnings : AnswersQuery threeAlerts warningsQuery := by
  refine (answersQuery_iff _ _ ?_ ?_).mpr ⟨?_,?_⟩
  · decide +kernel
  · refine orderedByInstant_of_fixed ?_
    have hutc : ∀ t ∈ savedTimes threeAlerts ++ warningsQuery.bounds,
        t.tzinfo = some (.timezone ⟨0,TzInfo.utc_inDay⟩) := by decide +kernel
    exact fun t ht => ⟨_,hutc t ht⟩
  · intro b hb hzone
    obtain rfl : Events.releaseTime = b := Option.some.inj hb
    cases hzone
  · intro b hb
    cases hb

theorem naive_bound_raises : (after [.save regimeAlert]).listRecent naiveQuery = none ∧
    ¬AnswersQuery [.save regimeAlert] naiveQuery := by
  have hnone : (after [.save regimeAlert]).listRecent naiveQuery = none := by decide +kernel
  refine ⟨hnone,?_⟩
  rintro ⟨result,-,hresult,-⟩
  rw [hnone] at hresult
  cases hresult

section Admitted

theorem parseFilter_value {E : Type} {name : String} {all : List E} {value : E → String} {e : E}
    (he : e ∈ all) (hvalue : ∀ e ∈ all, ∀ e' ∈ all, value e = value e' → e = e') :
    parseFilter name all value (some (value e)) = .ok (some e) := by
  rw [parseFilter]
  cases hfind : all.find? (fun e' => value e' = value e) with
  | none =>
    rw [List.find?_eq_none] at hfind
    exact absurd (hfind e he) (by simp)
  | some e' =>
    have hsame := List.find?_some hfind
    rw [hvalue e' (List.mem_of_find?_eq_some hfind) e he (by simpa using hsame)]

/-- Every query of the store is one that the route admits. -/
theorem parseQuery_surjective (q : AlertQuery) : ∃ params, parseQuery params = .ok q := by
  refine ⟨⟨q.limit,q.triggerType.map AlertTriggerType.value,q.severity.map AlertSeverity.value,
    q.country,q.since,q.upTo⟩,?_⟩
  have htrigger : parseFilter "trigger_type" AlertTriggerType.all AlertTriggerType.value
      (q.triggerType.map AlertTriggerType.value) = .ok q.triggerType := by
    cases htype : q.triggerType with
    | none => rfl
    | some t => exact parseFilter_value (by cases t <;> decide) (by decide +kernel)
  have hseverity : parseFilter "severity" AlertSeverity.all AlertSeverity.value
      (q.severity.map AlertSeverity.value) = .ok q.severity := by
    cases hs : q.severity with
    | none => rfl
    | some t => exact parseFilter_value (by cases t <;> decide) (by decide +kernel)
  simp only [parseQuery,Int.toNat_natCast,q.admitted,and_self,dif_pos,htrigger,hseverity]
  rfl

end Admitted

section Route
variable {ops : List AlertOp} {q : AlertQuery} {params : AlertParams}

/-- The route shows the newest alerts that match the query of the request exactly where no alert
meets a bound without a time zone, and raises where one does. -/
theorem listRecentAlerts_law (hq : parseQuery params = .ok q)
    (haware : ∀ t ∈ savedTimes ops, t.tzinfo ≠ none)
    (hclock : OrderedByInstant (savedTimes ops ++ q.bounds)) :
    (BoundsMet ops q → AnswersQuery ops q ∧ ∃ alerts, (after ops).listRecent q = some alerts ∧
      listRecentAlerts (after ops) params =
        .ok ⟨alerts.map alertToDto,alerts.length,params.limit⟩) ∧
    (¬BoundsMet ops q → listRecentAlerts (after ops) params = .error .typeError) := by
  rw [listRecentAlerts,hq,Fallible.ok_bind,← listRecent_isSome_iff haware hclock]
  constructor
  · intro hsome
    obtain ⟨alerts,halerts⟩ := Option.isSome_iff_exists.mp hsome
    rw [halerts]
    exact ⟨answersQuery_of_boundsMet haware hclock ((listRecent_isSome_iff haware hclock).mp hsome),
      alerts,rfl,rfl⟩
  · intro hnone
    rw [Option.not_isSome_iff_eq_none.mp hnone]

end Route

section EventStore
open Events

theorem asUtc_aware (t : DateTime) : (asUtc t).tzinfo ≠ none := by
  unfold asUtc
  split
  · exact Option.some_ne_none _
  · assumption

/-- The query of the event store answers for every bounds. -/
theorem listRecentEvents_isSome {s : InMemoryEventStore}
    (haware : ∀ e ∈ s.store.values, e.occurredAt.tzinfo ≠ none) (limit : ℕ)
    (eventType : Option ExternalEventType) (status : Option ExternalEventStatus)
    (region : Option String) (since upTo : Option DateTime) :
    (listRecentEvents s limit eventType status region since upTo).isSome := by
  have hbound : ∀ bound : Option DateTime, ∀ b ∈ bound.map asUtc, ∀ e ∈ s.store.values,
      timeClock.comparable e.occurredAt b = true := by
    intro bound b hb e he
    obtain ⟨t,-,rfl⟩ := Option.mem_map.mp hb
    exact (comparable_aware_iff (haware e he)).mpr (asUtc_aware t)
  rw [listRecentEvents,listRecent_eq (fun a ha b hb =>
    (comparable_aware_iff (haware a ha)).mpr (haware b hb)),Option.isSome_ite]
  constructor
  · exact fun b hb e he => hbound since b hb e (List.mem_of_mem_filter he)
  · exact fun b hb e he => hbound upTo b hb e (mem_reaching.mp he).1.1

end EventStore

end MacroInvest.Alerts
