import MacroInvest.Broker.Schema
import MacroInvest.Library.CallRun
import MacroInvest.Library.RecentLog

/-! # Alerts of regime transitions

Every tick of a stream compares its regime label with the last one and creates a task for a
change; the task records the alert when it starts. The streams share the last label, the
tasks start in the order of their creation, and the ring keeps the newest thirty alerts.
-/
namespace MacroInvest.Live
open Broker CallRun RecentLog

/-- `_REGIME_CACHE` as far as labels and alerts read it. -/
structure RegimeCache where
  regimeName : String
  confidenceScore : ℚ

def defaultRegime : RegimeCache := ⟨"POLICY_TIGHTENING",0.85⟩

/-- The label a tick computes from the rows of its matrix. -/
def liveRegimeName (anyRegimeSwitch anyVolSpike : Bool) (cache : RegimeCache) : String :=
  if anyRegimeSwitch then "CRISIS_MODE"
  else if anyVolSpike then "VOLATILITY_REGIME"
  else cache.regimeName

inductive Severity where
  | critical
  | warning

/-- A reading of the clock, as `strftime` and `isoformat` write it. -/
structure ClockText where
  compact : String
  iso : String

structure AlertEntry where
  alertId : String
  trigger : String
  severity : Severity
  oldRegime : String
  newRegime : String
  confidence : ℚ
  message : String
  occurredAt : String

def AlertEntry.transition (e : AlertEntry) : String × String := (e.oldRegime,e.newRegime)

/-- The format `.0%`. -/
def percent (x : ℚ) : String := toString (pyRound 0 (100 * x)).num ++ "%"

def alertEntry (cache : RegimeCache) (now : ClockText) (oldRegime newRegime : String) :
    AlertEntry :=
  { alertId := "regime:" ++ now.compact
    trigger := "regime_transition"
    severity := if "CRISIS".toList <:+: newRegime.toList then .critical else .warning
    oldRegime := oldRegime
    newRegime := newRegime
    confidence := cache.confidenceScore
    message := "레짐 전환: " ++ oldRegime ++ " → " ++ newRegime ++
      " (신뢰도 " ++ percent cache.confidenceScore ++ ")"
    occurredAt := now.iso }

def alertRingMax : ℕ := 30

/-- The globals, and the broadcasts created and not started, oldest first. -/
structure AlertState where
  regimeCache : RegimeCache
  lastNotifiedRegime : String
  pending : List (String × String)
  alertRing : List AlertEntry

def noAlerts : AlertState := ⟨defaultRegime,"",[],[]⟩

inductive AlertEvent where
  | loadRegime (row : Option RegimeCache)
  | tick (anyRegimeSwitch anyVolSpike : Bool)
  | startBroadcast (now : ClockText)

/-- The detection in `_build_payload`: an empty last label means that there was none. -/
def detectTransition (label : String) (s : AlertState) : AlertState :=
  { s with
    pending := if s.lastNotifiedRegime ≠ "" ∧ label ≠ s.lastNotifiedRegime then
      s.pending ++ [(s.lastNotifiedRegime,label)] else s.pending
    lastNotifiedRegime := label }

/-- `_record_regime_alert`, the first thing a broadcast does. -/
def recordRegimeAlert (now : ClockText) (oldRegime newRegime : String) (s : AlertState) :
    AlertState :=
  { s with alertRing :=
      pushRecent alertRingMax (alertEntry s.regimeCache now oldRegime newRegime) s.alertRing }

/-- The reply of a tick is its label. -/
def alertStep (s : AlertState) : AlertEvent → AlertState × Option String
  | .loadRegime none => (s,none)
  | .loadRegime (some row) => ({ s with regimeCache := row },none)
  | .tick anyRegimeSwitch anyVolSpike =>
    let label := liveRegimeName anyRegimeSwitch anyVolSpike s.regimeCache
    (detectTransition label s,some label)
  | .startBroadcast now =>
    match s.pending with
    | [] => (s,none)
    | (oldRegime,newRegime) :: rest =>
      ({ recordRegimeAlert now oldRegime newRegime s with pending := rest },none)

/-- The labels of a run, in the order of its ticks. -/
def labels (h : List (AlertEvent × Option String)) : List String := h.filterMap Prod.snd

/-- The ring as a chain of transitions without gaps. An empty label counts as no label. -/
structure AlertLaw (s : AlertState) (labels : List String) : Prop where
  bounded : s.alertRing.length ≤ alertRingMax
  distinct : ∀ e ∈ s.alertRing, e.oldRegime ≠ e.newRegime
  linked : s.alertRing.IsChain
    (fun newer older => older.newRegime ≠ "" → newer.oldRegime = older.newRegime)
  newest : s.pending = [] → ∀ e, s.alertRing.head? = some e →
    e.newRegime ≠ "" → e.newRegime = s.lastNotifiedRegime
  pendingLast : s.pending <:+ told "" labels
  kept : ∀ older t newer, told "" labels = older ++ [t] ++ newer ++ s.pending →
    newer.length < alertRingMax →
    (s.alertRing[newer.length]?).map AlertEntry.transition = some t

/-- What every event keeps: the transitions told so far are the recorded ones and then the
pending ones, and the ring holds the newest of the recorded. -/
structure Recorded (s : AlertState) (labels recorded : List _) : Prop where
  last : s.lastNotifiedRegime = labels.getLast?.getD ""
  split : told "" labels = recorded ++ s.pending
  ring : s.alertRing.map AlertEntry.transition = recorded.reverse.take alertRingMax

variable {s : AlertState} {observed : List String} {recorded : List (String × String)}

theorem Recorded.detect (h : Recorded s observed recorded) (label : String) :
    Recorded (detectTransition label s) (observed ++ [label]) recorded := by
  have hlast := h.last
  refine ⟨by simp [detectTransition],?_,h.ring⟩
  cases observed using List.reverseRecOn with
  | nil =>
    have hsplit := h.split
    simp at hlast
    simpa [detectTransition,hlast,told,changes] using hsplit
  | append_singleton observed a =>
    simp at hlast
    rw [told_concat,h.split]
    by_cases hnew : a ≠ "" ∧ label ≠ a
    · simp [detectTransition,hlast,hnew]
    · simp only [detectTransition,hlast,if_neg hnew,List.append_nil]

theorem Recorded.record (h : Recorded s observed recorded) (now : ClockText)
    {oldRegime newRegime : String} {rest : List (String × String)}
    (hpending : s.pending = (oldRegime,newRegime) :: rest) :
    Recorded { recordRegimeAlert now oldRegime newRegime s with pending := rest } observed
      (recorded ++ [(oldRegime,newRegime)]) := by
  refine ⟨h.last,?_,?_⟩
  · rw [h.split,hpending]
    simp
  · simp only [recordRegimeAlert]
    rw [map_pushRecent,h.ring]
    exact pushRecent_take alertRingMax (oldRegime,newRegime) recorded

theorem Recorded.law (h : Recorded s observed recorded) : AlertLaw s observed := by
  have hchain : (told "" observed).IsChain (fun p q => p.2 ≠ "" → q.1 = p.2) :=
    told_chain observed
  have hsplit := h.split
  have hring := h.ring
  have hmem : ∀ e ∈ s.alertRing, e.transition ∈ told "" observed := by
    intro e he
    have hmap : e.transition ∈ recorded.reverse.take alertRingMax :=
      hring ▸ List.mem_map_of_mem he
    rw [hsplit]
    exact List.mem_append_left _ (List.mem_reverse.mp (List.mem_of_mem_take hmap))
  refine ⟨?_,?_,?_,?_,?_,?_⟩
  · have hlen := congrArg List.length hring
    simp at hlen
    omega
  · intro e he
    exact changes_ne observed e.transition (List.mem_filter.mp (hmem e he)).1
  · rw [hsplit] at hchain
    have hrecorded := (List.isChain_append.mp hchain).1
    have hnewest := (List.isChain_reverse.mpr hrecorded).take alertRingMax
    rw [← hring,List.isChain_map] at hnewest
    exact hnewest
  · intro hnone e he hset
    have hhead : recorded.getLast? = some e.transition := by
      have hmap := congrArg List.head? hring
      simpa [he,List.head?_take,alertRingMax] using hmap.symm
    rw [hnone,List.append_nil] at hsplit
    cases observed using List.reverseRecOn with
    | nil =>
      rw [← hsplit] at hhead
      simp [told,changes] at hhead
    | append_singleton observed a =>
      rw [← hsplit] at hhead
      have hlast := h.last
      simp at hlast
      rw [hlast]
      exact told_getLast hhead hset
  · rw [hsplit]
    exact List.suffix_append _ _
  · intro older t newer htold hlen
    rw [hsplit] at htold
    have hrecorded := List.append_cancel_right htold
    rw [← List.getElem?_map,hring,hrecorded]
    simp [hlen]

theorem alertStep_recorded {h : List (AlertEvent × Option String)} {e : AlertEvent}
    (hrecorded : ∃ recorded, Recorded s (labels h) recorded) :
    ∃ recorded, Recorded (alertStep s e).1 (labels (h ++ [(e,(alertStep s e).2)])) recorded := by
  obtain ⟨recorded,hrecorded⟩ := hrecorded
  cases e with
  | loadRegime row =>
    refine ⟨recorded,?_⟩
    cases row with
    | none => simpa [labels,alertStep] using hrecorded
    | some row => exact ⟨by simpa [labels,alertStep] using hrecorded.last,
        by simpa [labels,alertStep] using hrecorded.split,hrecorded.ring⟩
  | tick anyRegimeSwitch anyVolSpike =>
    refine ⟨recorded,?_⟩
    have hdetect := hrecorded.detect (liveRegimeName anyRegimeSwitch anyVolSpike s.regimeCache)
    simpa [labels,alertStep] using hdetect
  | startBroadcast now =>
    cases hpending : s.pending with
    | nil => exact ⟨recorded,by simpa [labels,alertStep,hpending] using hrecorded⟩
    | cons p rest =>
      obtain ⟨oldRegime,newRegime⟩ := p
      refine ⟨recorded ++ [(oldRegime,newRegime)],?_⟩
      simpa [labels,alertStep,hpending] using hrecorded.record now hpending

/-- After every run the ring is a chain of the newest transitions. -/
theorem alert_law (events : List AlertEvent) :
    AlertLaw (final alertStep noAlerts events) (labels (trace alertStep noAlerts events)) := by
  have hrun : ∃ recorded, Recorded (final alertStep noAlerts events)
      (labels (trace alertStep noAlerts events)) recorded := by
    refine run_induction (G := fun _ _ => True)
      (P := fun s h => ∃ recorded, Recorded s (labels h) recorded) ?_ ?_ events
      (admits_of_forall (fun _ _ _ => trivial))
    · exact ⟨[],rfl,rfl,rfl⟩
    · intro s h e _ hprev
      exact alertStep_recorded hprev
  obtain ⟨recorded,hrecorded⟩ := hrun
  exact hrecorded.law

/-- The stored regime has an empty name, which counts as no label: the transition away from
it is not told, and the chain breaks there. -/
def emptyNameEvents : List AlertEvent :=
  [.loadRegime (some ⟨"",0.5⟩),.tick true false,.tick false false,.tick false true,
   .tick true false,.startBroadcast ⟨"",""⟩,.startBroadcast ⟨"",""⟩]

theorem alert_chain_broken :
    ((final alertStep noAlerts emptyNameEvents).alertRing.map AlertEntry.transition =
      [("VOLATILITY_REGIME","CRISIS_MODE"),("CRISIS_MODE","")]) ∧
    ¬(final alertStep noAlerts emptyNameEvents).alertRing.IsChain
      (fun newer older => newer.oldRegime = older.newRegime) := by
  have hring : (final alertStep noAlerts emptyNameEvents).alertRing.map AlertEntry.transition =
      [("VOLATILITY_REGIME","CRISIS_MODE"),("CRISIS_MODE","")] := by decide
  refine ⟨hring,?_⟩
  intro hchain
  have hmap := List.isChain_map_of_isChain (S := fun p q : String × String => p.1 = q.2)
    AlertEntry.transition (fun _ _ h => h) hchain
  rw [hring] at hmap
  exact absurd hmap (by decide)

end MacroInvest.Live
