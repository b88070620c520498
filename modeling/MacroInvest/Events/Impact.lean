import MacroInvest.Agent.Context
import MacroInvest.Events.Normalizer

/-! # Event impacts

Each type of event has its own handler, and all of them build the impact in the same way. The
store keeps one record for an id; a second record of the same occurrence comes under an id of its
own, and the adapter counts both.
-/
namespace MacroInvest.Events
open Features

structure ExternalEventImpactRouting where
  hasExplanationEvidence : Bool := false
  hasCaveatNotes : Bool := false
  hasConflictContributors : Bool := false
  hasConfidenceDowngrade : Bool := false
  hasChangeContext : Bool := false

structure ExternalEventImpact where
  sourceEventId : String
  sourceEventType : ExternalEventType
  explanationEvidence : List String := []
  caveatNotes : List String := []
  conflictContributors : List String := []
  confidenceDowngradeHint : Bool := false
  confidenceDowngradeReason : Option String := none
  changeContextAnnotation : Option String := none
  impactSeverity : String
  affectedDomains : List String := []
  routing : ExternalEventImpactRouting
  isHeuristic : Bool := true

section Handlers
variable (event : NormalizedExternalEvent DateTime)

def buildImpact (explanationEvidence caveatNotes conflictContributors : List String)
    (confidenceDowngradeReason changeContextAnnotation : Option String)
    (confidenceDowngradeHint : Bool) (impactSeverity : String) : ExternalEventImpact where
  sourceEventId := event.eventId
  sourceEventType := event.eventType
  explanationEvidence := explanationEvidence
  caveatNotes := caveatNotes
  conflictContributors := conflictContributors
  confidenceDowngradeHint := confidenceDowngradeHint
  confidenceDowngradeReason := confidenceDowngradeReason
  changeContextAnnotation := changeContextAnnotation
  impactSeverity := impactSeverity
  affectedDomains := event.affectedDomains
  routing := {
    hasExplanationEvidence := !explanationEvidence.isEmpty
    hasCaveatNotes := !caveatNotes.isEmpty
    hasConflictContributors := !conflictContributors.isEmpty
    hasConfidenceDowngrade := confidenceDowngradeHint
    hasChangeContext := changeContextAnnotation.isSome }

def reliabilityCaveat : List String :=
  if event.reliabilityTier = .tier3 ∨ event.reliabilityTier = .unknown then
    ["Event source '" ++ event.source ++ "' has heuristic reliability tier '" ++
      event.reliabilityTier.value ++ "' — interpret with caution."]
  else []

/-- The parts of a text that are set and not empty. -/
def given (text : Option String) : List String :=
  if text.getD "" = "" then [] else [text.getD ""]

def entityFragment : String :=
  Agent.joinText " " (given event.entity ++ (given event.region).map (fun r => "(" ++ r ++ ")"))

/-- The title under a label, with the entity if there is one, and the summary if there is one. -/
def evidenceWithEntity (label : String) : List String :=
  (if entityFragment event = "" then label ++ ": " ++ event.title
    else label ++ " (" ++ entityFragment event ++ "): " ++ event.title) :: given event.summary

def evidence (label : String) : List String := (label ++ ": " ++ event.title) :: given event.summary

def handleCentralBankDecision : ExternalEventImpact :=
  buildImpact event (evidenceWithEntity event "Central bank decision")
    ("A central bank decision is active — policy uncertainty may affect current regime assessment."
      :: reliabilityCaveat event)
    ["policy_catalyst_active"]
    (some ("Central bank decisions introduce forward-looking policy uncertainty " ++
      "not yet reflected in macro data."))
    (some ("Central bank action recorded: " ++ event.title ++ ". " ++
      "Policy-sensitive indicators may shift in subsequent snapshots."))
    true "high"

def handlePolicyAnnouncement : ExternalEventImpact :=
  buildImpact event (evidenceWithEntity event "Policy announcement")
    ("A policy announcement is active — changes may affect forward-looking signals."
      :: reliabilityCaveat event)
    ["policy_catalyst_active"]
    (some "Policy announcements may introduce uncertainty in macro signal interpretation.")
    none true "moderate"

def handleGeopoliticalDevelopment : ExternalEventImpact :=
  buildImpact event (evidenceWithEntity event "Geopolitical development")
    ("Geopolitical risk is elevated — macro interpretation should be conservative." ::
      ("Geopolitical causality is heuristic; " ++
        "direct regime impact is not statistically validated.") :: reliabilityCaveat event)
    ["geopolitical_risk_elevated"]
    (some "Elevated geopolitical risk creates uncertainty not captured in current macro data.")
    none true "moderate"

def handleMacroRelease : ExternalEventImpact :=
  buildImpact event (evidence event "Macro data release") (reliabilityCaveat event) [] none none
    false "low"

def handleEarningsEvent : ExternalEventImpact :=
  buildImpact event (evidenceWithEntity event "Earnings event") (reliabilityCaveat event) [] none
    none false "low"

def handleMarketCatalyst : ExternalEventImpact :=
  buildImpact event (evidence event "Market catalyst")
    ("Market catalyst detected — may not yet be reflected in macro data snapshots." ::
      reliabilityCaveat event) [] none none false "moderate"

def handleOther : ExternalEventImpact :=
  buildImpact event (evidence event "External event") (reliabilityCaveat event) [] none none
    false "low"

def adapt : ExternalEventImpact :=
  match event.eventType with
  | .centralBankDecision => handleCentralBankDecision event
  | .policyAnnouncement => handlePolicyAnnouncement event
  | .geopoliticalDevelopment => handleGeopoliticalDevelopment event
  | .macroRelease => handleMacroRelease event
  | .earningsEvent => handleEarningsEvent event
  | .marketCatalyst => handleMarketCatalyst event
  | .other => handleOther event

/-- An impact names the event it comes from. -/
theorem adapt_source : (adapt event).sourceEventId = event.eventId ∧
    (adapt event).sourceEventType = event.eventType := by
  unfold adapt
  split <;> exact ⟨rfl,rfl⟩

end Handlers

def adaptMany (events : List (NormalizedExternalEvent DateTime)) : List ExternalEventImpact :=
  (events.filter NormalizedExternalEvent.isUsable).map adapt

structure InMemoryEventStore where
  store : Dict String (NormalizedExternalEvent DateTime)

namespace InMemoryEventStore

def save (s : InMemoryEventStore) (event : NormalizedExternalEvent DateTime) :
    InMemoryEventStore :=
  ⟨s.store.set event.eventId event⟩

def getById (s : InMemoryEventStore) (eventId : String) :
    Option (NormalizedExternalEvent DateTime) :=
  s.store.get? eventId

end InMemoryEventStore

/-- An event that is handed in, with the id and the reference time of its normalization. The same
submission again is the same record saved again. -/
structure Submission where
  input : EventInput
  eventId : String
  refTime : DateTime

namespace Submission

def normalize (s : Submission) : Except NormalizeError (NormalizedExternalEvent DateTime) :=
  normalizeExternalEvent s.input s.eventId s.refTime

/-- The normalization does not raise. -/
def Accepted (s : Submission) : Prop :=
  s.refTime.Comparable s.input.occurredAt ∧ s.input.Valid

/-- The same type, source and time of occurrence. -/
def SameOccurrence (s t : Submission) : Prop :=
  s.input.eventType = t.input.eventType ∧ s.input.source = t.input.source ∧
    s.input.occurredAt.eq t.input.occurredAt = true

end Submission

/-- One submission is normalized and saved, unless the normalization raises. -/
def InMemoryEventStore.accept (store : InMemoryEventStore) (s : Submission) : InMemoryEventStore :=
  match s.normalize with
  | .error _ => store
  | .ok event => store.save event

def ingest (submissions : List Submission) : InMemoryEventStore :=
  submissions.foldl InMemoryEventStore.accept ⟨.empty⟩

/-- Two records with the same type, source and time of occurrence. -/
def NormalizedExternalEvent.SameOccurrence (a b : NormalizedExternalEvent DateTime) : Prop :=
  a.eventType = b.eventType ∧ a.source = b.source ∧ a.occurredAt.eq b.occurredAt = true

instance (a b : NormalizedExternalEvent DateTime) : Decidable (a.SameOccurrence b) :=
  inferInstanceAs (Decidable (_ ∧ _ ∧ _))

/-- Two impacts whose source events are of one occurrence. -/
def SameSource (s : InMemoryEventStore) (i j : ExternalEventImpact) : Prop :=
  ∃ a b, s.getById i.sourceEventId = some a ∧ s.getById j.sourceEventId = some b ∧
    a.SameOccurrence b

/-- No two usable records are of one occurrence, and no two impacts come from one. -/
structure CountedOnce (s : InMemoryEventStore) : Prop where
  distinct : (s.store.values.filter NormalizedExternalEvent.isUsable).Pairwise
    (fun a b => ¬a.SameOccurrence b)
  impacts : (adaptMany s.store.values).Pairwise (fun i j => ¬SameSource s i j)

section Records
variable {submissions : List Submission}

/-- The records that are saved, in their order. -/
def records (submissions : List Submission) : List (NormalizedExternalEvent DateTime) :=
  submissions.filterMap (fun s => s.normalize.toOption)

theorem ingest_eq (submissions : List Submission) : (ingest submissions).store =
    Dict.setAll NormalizedExternalEvent.eventId (records submissions) := by
  induction submissions using List.reverseRecOn with
  | nil => rfl
  | append_singleton submissions s ih =>
    rw [ingest,List.foldl_append,← ingest,List.foldl_cons,List.foldl_nil,records,
      List.filterMap_append,← records,InMemoryEventStore.accept]
    cases hs : s.normalize with
    | error exc => simp [hs,ih,Except.toOption]
    | ok event => simp [hs,ih,Except.toOption,Dict.setAll,InMemoryEventStore.save]

theorem mem_records {event : NormalizedExternalEvent DateTime} :
    event ∈ records submissions ↔ ∃ s ∈ submissions, s.normalize = .ok event := by
  rw [records,List.mem_filterMap]
  refine exists_congr (fun s => and_congr_right (fun _ => ?_))
  cases s.normalize <;> simp [Except.toOption]

theorem mem_values_ingest {event : NormalizedExternalEvent DateTime} :
    event ∈ (ingest submissions).store.values ↔
      (ingest submissions).getById event.eventId = some event := by
  rw [InMemoryEventStore.getById,ingest_eq]
  exact Dict.mem_values_setAll_iff

theorem mem_records_of_getById {event : NormalizedExternalEvent DateTime} {eventId : String}
    (h : (ingest submissions).getById eventId = some event) : event ∈ records submissions := by
  rw [InMemoryEventStore.getById,ingest_eq] at h
  exact (Dict.get?_setAll_some h).1

/-- Every stored record is usable: the normalization marks none as a duplicate. -/
theorem usable_ingest (submissions : List Submission) :
    (ingest submissions).store.values.filter NormalizedExternalEvent.isUsable =
      (ingest submissions).store.values := by
  rw [List.filter_eq_self]
  intro event hevent
  obtain ⟨s,-,hs⟩ := mem_records.mp (mem_records_of_getById (mem_values_ingest.mp hevent))
  exact (normalize_ok hs).2.2.2.2

/-- With fresh ids every record that was saved is stored. -/
theorem mem_values_of_record {s : Submission} {event : NormalizedExternalEvent DateTime}
    (hfresh : ∀ s ∈ submissions, ∀ t ∈ submissions, s.eventId = t.eventId → s = t)
    (hs : s ∈ submissions) (hevent : s.normalize = .ok event) :
    event ∈ (ingest submissions).store.values := by
  have hrecord : event ∈ records submissions := mem_records.mpr ⟨s,hs,hevent⟩
  rw [mem_values_ingest,InMemoryEventStore.getById,ingest_eq]
  cases hget : (Dict.setAll NormalizedExternalEvent.eventId (records submissions)).get?
      event.eventId with
  | none =>
    rw [Dict.get?_setAll,List.find?_eq_none] at hget
    exact absurd (hget event (List.mem_reverse.mpr hrecord)) (by simp)
  | some event' =>
    obtain ⟨hrecord',hid⟩ := Dict.get?_setAll_some hget
    obtain ⟨t,ht,hevent'⟩ := mem_records.mp hrecord'
    have hsame : s = t := by
      refine hfresh s hs t ht ?_
      rw [← (normalize_ok hevent).1,← (normalize_ok hevent').1,hid]
    subst hsame
    rw [hevent] at hevent'
    cases hevent'
    rfl

end Records

section Counted
variable {submissions : List Submission}

theorem NormalizedExternalEvent.SameOccurrence.symm {a b : NormalizedExternalEvent DateTime}
    (h : a.SameOccurrence b) : b.SameOccurrence a :=
  ⟨h.1.symm,h.2.1.symm,DateTime.eq_swap a.occurredAt b.occurredAt ▸ h.2.2⟩

/-- A record has the triple of the submission it was made of. -/
theorem sameOccurrence_iff {s t : Submission} {a b : NormalizedExternalEvent DateTime}
    (ha : s.normalize = .ok a) (hb : t.normalize = .ok b) :
    a.SameOccurrence b ↔ s.SameOccurrence t := by
  obtain ⟨-,htype,hsource,htime,-⟩ := normalize_ok ha
  obtain ⟨-,htype',hsource',htime',-⟩ := normalize_ok hb
  rw [NormalizedExternalEvent.SameOccurrence,htype,htype',hsource,hsource',htime,htime']
  rfl

/-- The impacts of the stored records come from different ones. -/
theorem impacts_pairwise
    (h : (ingest submissions).store.values.Pairwise (fun a b => ¬a.SameOccurrence b)) :
    (adaptMany (ingest submissions).store.values).Pairwise
      (fun i j => ¬SameSource (ingest submissions) i j) := by
  rw [adaptMany,usable_ingest,List.pairwise_map]
  refine h.imp_of_mem ?_
  rintro a b ha hb hdiffer ⟨a',b',ha',hb',hsame⟩
  rw [(adapt_source a).1,mem_values_ingest.mp ha] at ha'
  rw [(adapt_source b).1,mem_values_ingest.mp hb] at hb'
  cases ha'
  cases hb'
  exact hdiffer hsame

end Counted

/-- With fresh ids the stored events are counted once exactly where no occurrence is normalized
into two records. -/
theorem countedOnce_iff (submissions : List Submission)
    (hfresh : ∀ s ∈ submissions, ∀ t ∈ submissions, s.eventId = t.eventId → s = t) :
    CountedOnce (ingest submissions) ↔ ∀ s ∈ submissions, ∀ t ∈ submissions,
      s.Accepted → t.Accepted → s.SameOccurrence t → s.eventId = t.eventId := by
  constructor
  · intro hcounted s hs t ht haccepted haccepted' hsame
    obtain ⟨a,ha⟩ := normalize_ok_iff.mpr haccepted
    obtain ⟨b,hb⟩ := normalize_ok_iff.mpr haccepted'
    have hdistinct := hcounted.distinct
    rw [usable_ingest] at hdistinct
    have hsymm : Std.Symm (fun a b : NormalizedExternalEvent DateTime => ¬a.SameOccurrence b) :=
      ⟨fun _ _ h hsame => h hsame.symm⟩
    have hequal : a = b := by
      by_contra hne
      exact hdistinct.forall (mem_values_of_record hfresh hs ha)
        (mem_values_of_record hfresh ht hb) hne ((sameOccurrence_iff ha hb).mpr hsame)
    rw [← (normalize_ok ha).1,← (normalize_ok hb).1,hequal]
  · intro hcondition
    have hdistinct : (ingest submissions).store.values.Pairwise
        (fun a b => ¬a.SameOccurrence b) := by
      have hids := Dict.values_setAll_pairwise NormalizedExternalEvent.eventId
        (records submissions)
      rw [← ingest_eq] at hids
      refine hids.imp_of_mem ?_
      intro a b ha hb hdiffer hsame
      obtain ⟨s,hs,ha⟩ := mem_records.mp (mem_records_of_getById (mem_values_ingest.mp ha))
      obtain ⟨t,ht,hb⟩ := mem_records.mp (mem_records_of_getById (mem_values_ingest.mp hb))
      refine hdiffer ?_
      rw [(normalize_ok ha).1,(normalize_ok hb).1]
      exact hcondition s hs t ht (normalize_ok_iff.mp ⟨a,ha⟩) (normalize_ok_iff.mp ⟨b,hb⟩)
        ((sameOccurrence_iff ha hb).mp hsame)
    refine ⟨?_,impacts_pairwise hdistinct⟩
    rw [usable_ingest]
    exact hdistinct

def releaseTime : DateTime where
  civil := ⟨2026,3,11,12,30,0,0⟩
  tzinfo := some .utc
  valid := by decide

def cpiRelease : EventInput where
  eventType := .macroRelease
  title := "CPI release"
  occurredAt := releaseTime
  source := "bls"
  provenance := "manual_analyst_entry"
  summary := some "Inflation at 2.9%"

/-- One release, normalized twice. -/
def repeatedRelease : List Submission :=
  [⟨cpiRelease,"event-1",releaseTime⟩,⟨cpiRelease,"event-2",releaseTime⟩]

def nextDay : DateTime := { releaseTime with civil := ⟨2026,3,12,12,30,0,0⟩, valid := by decide }

/-- Four occurrences that differ in the source, the type or the time, and the first without a
title, which is refused. -/
def distinctReleases : List Submission :=
  [⟨cpiRelease,"event-1",releaseTime⟩,
   ⟨{ cpiRelease with source := "statistics office" },"event-2",releaseTime⟩,
   ⟨{ cpiRelease with eventType := .centralBankDecision, summary := none },"event-3",nextDay⟩,
   ⟨{ cpiRelease with occurredAt := nextDay },"event-4",nextDay⟩,
   ⟨{ cpiRelease with title := " " },"event-5",releaseTime⟩]

theorem countedOnce_distinctReleases : CountedOnce (ingest distinctReleases) ∧
    (adaptMany (ingest distinctReleases).store.values).length = 4 := by
  refine ⟨(countedOnce_iff _ ?_).mpr ?_,by decide +kernel⟩
  · intro s hs t ht hid
    have hids : (distinctReleases.map Submission.eventId).Nodup := by decide
    exact List.inj_on_of_nodup_map hids hs ht hid
  · intro s hs t ht haccepted haccepted' hsame
    have hdistinct : ∀ s ∈ distinctReleases, ∀ t ∈ distinctReleases, s.input.Valid →
        t.input.Valid → s.input.eventType = t.input.eventType → s.input.source = t.input.source →
        s.input.occurredAt.eq t.input.occurredAt = true → s.eventId = t.eventId := by
      decide +kernel
    exact hdistinct s hs t ht haccepted.2 haccepted'.2 hsame.1 hsame.2.1 hsame.2.2

theorem release_counted_twice : ¬CountedOnce (ingest repeatedRelease) ∧
    (adaptMany (ingest repeatedRelease).store.values).length = 2 := by
  refine ⟨?_,by decide +kernel⟩
  intro hcounted
  have hdistinct := hcounted.distinct
  exact absurd hdistinct (by decide +kernel)

end MacroInvest.Events
