import MacroInvest.Macro.RegimeService

/-! # The chain of regime transitions

Every saved regime should be related to the latest regime that was stored before it for an
earlier date. The log of saved regimes only grows, so the chain holds after a run exactly when
each save of the run looked back to a regime of the same standing.
-/
namespace MacroInvest.Macro
open FirstMax CallRun

structure MacroStores where
  snapshots : MacroSnapshotStore := {}
  regimes : MacroRegimeStore := {}

def MacroStores.service (s : MacroStores) : MacroRegimeService := ⟨s.snapshots,some s.regimes⟩

inductive MacroCall where
  | saveSnapshot (snapshot : MacroSnapshotState)
  | buildAndSaveRegime (asOfDate : Date) (fresh : Fresh)

/-- A call that raises leaves both stores as they were. -/
def MacroStores.step (s : MacroStores) :
    MacroCall → MacroStores × Except ServiceError (Option MacroRegime)
  | .saveSnapshot snapshot => ({ s with snapshots := s.snapshots.saveSnapshot snapshot },.ok none)
  | .buildAndSaveRegime asOfDate fresh =>
    match s.service.buildAndSaveRegime fresh asOfDate with
    | .error e => (s,.error e)
    | .ok (regime,regimes) => ({ s with regimes := regimes },.ok (some regime))

/-- Every regime of the log is related to the latest regime logged before it for an earlier
date, as comparing relates the two. -/
def TransitionChain (regimes : List MacroRegime) : Prop :=
  ∀ before regime after, regimes = before ++ regime :: after →
    regime.transition = deriveRegimeTransition regime (priorTo before regime.asOfDate)

/-- Two baselines stand alike to a regime: both absent, or of one label and, where the regime
keeps that label, on the same side of its confidence. -/
def SameStanding (label : RegimeLabel) (confidence : RegimeConfidence) :
    Option MacroRegime → Option MacroRegime → Prop
  | none, none => True
  | some p, some q => p.regimeLabel = q.regimeLabel ∧ (label = p.regimeLabel →
      compare (confidenceRank confidence) (confidenceRank p.confidence) =
        compare (confidenceRank confidence) (confidenceRank q.confidence))
  | _, _ => False

/-- A regime is built from a snapshot to whose regime the latest one before the requested date
and the latest one before the snapshot's own date stand alike. -/
def BaselinesAgree (s : MacroStores) : MacroCall → Prop
  | .saveSnapshot _ => True
  | .buildAndSaveRegime asOfDate _ => ∀ snapshot,
      s.snapshots.getLatestOnOrBefore asOfDate = some snapshot → snapshot.snapshotId ≠ "" →
      SameStanding (mapSnapshotToRegimeLabel snapshot) (snapshotConfidence snapshot)
        (priorTo s.regimes.regimes asOfDate) (priorTo s.regimes.regimes snapshot.asOfDate)

theorem sameStanding_refl (label : RegimeLabel) (confidence : RegimeConfidence)
    (p : Option MacroRegime) : SameStanding label confidence p p := by
  cases p with
  | none => trivial
  | some p => exact ⟨rfl,fun _ => rfl⟩

def standingType : Ordering → RegimeTransitionType
  | .lt => .weakening
  | .eq => .unchanged
  | .gt => .strengthening

theorem deriveRegimeTransition_sameLabel {current p : MacroRegime}
    (h : current.regimeLabel = p.regimeLabel) :
    deriveRegimeTransition current (some p) =
      let standing := compare (confidenceRank current.confidence) (confidenceRank p.confidence)
      ⟨some p.regimeLabel.value,standingType standing,standing ≠ .eq⟩ := by
  rcases lt_trichotomy (confidenceRank current.confidence) (confidenceRank p.confidence) with
    hlt | heq | hgt
  · simp [deriveRegimeTransition,h,hlt,hlt.not_gt,compare_lt_iff_lt.mpr hlt,standingType]
  · simp [deriveRegimeTransition,h,heq,standingType]
  · simp [deriveRegimeTransition,h,hgt,compare_gt_iff_gt.mpr hgt,standingType]

theorem deriveRegimeTransition_shift {current p : MacroRegime}
    (h : current.regimeLabel ≠ p.regimeLabel) :
    deriveRegimeTransition current (some p) = ⟨some p.regimeLabel.value,.shift,true⟩ := by
  simp [deriveRegimeTransition,h]

theorem standingType_injective : Function.Injective standingType := by
  intro a b h
  cases a <;> cases b <;> first | rfl | cases h

theorem deriveRegimeTransition_prior (current p : MacroRegime) :
    (deriveRegimeTransition current (some p)).transitionFromPrior = some p.regimeLabel.value := by
  by_cases h : current.regimeLabel = p.regimeLabel
  · rw [deriveRegimeTransition_sameLabel h]
  · rw [deriveRegimeTransition_shift h]

theorem deriveRegimeTransition_none_ne (current p : MacroRegime) :
    deriveRegimeTransition current none ≠ deriveRegimeTransition current (some p) := by
  intro h
  have hprior := congrArg RegimeTransition.transitionFromPrior h
  rw [deriveRegimeTransition_prior] at hprior
  cases hprior

/-- The prior label is part of the transition, so two priors of one transition share it. -/
theorem priorLabel_eq {current p q : MacroRegime}
    (h : deriveRegimeTransition current (some p) = deriveRegimeTransition current (some q)) :
    p.regimeLabel = q.regimeLabel := by
  have hprior := congrArg RegimeTransition.transitionFromPrior h
  rw [deriveRegimeTransition_prior,deriveRegimeTransition_prior] at hprior
  exact RegimeLabel.value_injective (Option.some.inj hprior)

theorem deriveRegimeTransition_some_iff (current p q : MacroRegime) :
    deriveRegimeTransition current (some p) = deriveRegimeTransition current (some q) ↔
      SameStanding current.regimeLabel current.confidence (some p) (some q) := by
  by_cases hlabels : p.regimeLabel = q.regimeLabel
  · by_cases hp : current.regimeLabel = p.regimeLabel
    · rw [deriveRegimeTransition_sameLabel hp,deriveRegimeTransition_sameLabel (hp.trans hlabels)]
      simp only [SameStanding,hlabels,hp,true_and,forall_const]
      constructor
      · intro h
        exact standingType_injective (congrArg RegimeTransition.transitionType h)
      · intro h
        rw [h]
    · rw [deriveRegimeTransition_shift hp,
        deriveRegimeTransition_shift (fun h => hp (h.trans hlabels.symm))]
      simp [SameStanding,hlabels,hlabels ▸ hp]
  · exact ⟨fun h => absurd (priorLabel_eq h) hlabels,fun h => absurd h.1 hlabels⟩

/-- Two baselines give one transition exactly when they stand alike. -/
theorem deriveRegimeTransition_eq_iff (current : MacroRegime) (p q : Option MacroRegime) :
    deriveRegimeTransition current p = deriveRegimeTransition current q ↔
      SameStanding current.regimeLabel current.confidence p q := by
  cases p with
  | none =>
    cases q with
    | none => exact ⟨fun _ => trivial,fun _ => rfl⟩
    | some q => exact ⟨fun h => absurd h (deriveRegimeTransition_none_ne current q),False.elim⟩
  | some p =>
    cases q with
    | none =>
      exact ⟨fun h => absurd h.symm (deriveRegimeTransition_none_ne current p),False.elim⟩
    | some q => exact deriveRegimeTransition_some_iff current p q

theorem transitionChain_nil : TransitionChain [] := by
  intro before regime after h
  simp at h

theorem transitionChain_concat {regimes : List MacroRegime} {regime : MacroRegime} :
    TransitionChain (regimes ++ [regime]) ↔ TransitionChain regimes ∧
      regime.transition = deriveRegimeTransition regime (priorTo regimes regime.asOfDate) := by
  constructor
  · intro h
    refine ⟨?_,h regimes regime [] rfl⟩
    rintro before earlier after rfl
    exact h before earlier (after ++ [regime]) (by simp)
  · rintro ⟨hchain,hlast⟩ before earlier after h
    rcases List.eq_nil_or_concat after with rfl | ⟨after,last,rfl⟩
    · obtain ⟨rfl,heq⟩ := List.append_inj' h rfl
      cases heq
      exact hlast
    · rw [List.concat_eq_append,← List.cons_append,← List.append_assoc] at h
      exact hchain before earlier after (List.append_inj' h rfl).1

/-- A request that raises finds no snapshot, or one without an id, or no day before it. -/
theorem step_refused {s : MacroStores} {asOfDate : Date} {fresh : Fresh}
    (h : ∀ snapshot, s.snapshots.getLatestOnOrBefore asOfDate = some snapshot →
      snapshot.snapshotId = "" ∨ asOfDate.minusOneDay = none) :
    (s.step (.buildAndSaveRegime asOfDate fresh)).1 = s := by
  simp only [MacroStores.step,MacroStores.service,MacroRegimeService.buildAndSaveRegime,
    MacroRegimeService.buildRegime]
  cases hsnapshot : s.snapshots.getLatestOnOrBefore asOfDate with
  | none => rfl
  | some snapshot =>
    by_cases hid : snapshot.snapshotId = ""
    · simp only [regimeOfSnapshot,dif_pos hid]
      rfl
    · have hd := (h snapshot hsnapshot).resolve_left hid
      simp only [regimeOfSnapshot,dif_neg hid,dayBefore,hd]
      rfl

/-- On the first date nothing is earlier than the request or than its snapshot. -/
theorem baselinesAgree_refused {s : MacroStores} {asOfDate : Date} {fresh : Fresh}
    (h : ∀ snapshot, s.snapshots.getLatestOnOrBefore asOfDate = some snapshot →
      snapshot.snapshotId = "" ∨ asOfDate.minusOneDay = none) :
    BaselinesAgree s (.buildAndSaveRegime asOfDate fresh) := by
  intro snapshot hsnapshot hid
  have hd := (h snapshot hsnapshot).resolve_left hid
  have hle := (DatedRows.latestOnOrBefore_mem hsnapshot).2
  have hdate := hle.eq_of_not_lt (Date.not_lt_of_minusOneDay hd _)
  rw [hdate]
  exact sameStanding_refl _ _ _

/-- One call keeps the chain exactly when its baselines agree. -/
theorem step_transitionChain (s : MacroStores) (call : MacroCall) :
    TransitionChain (s.step call).1.regimes.regimes ↔
      TransitionChain s.regimes.regimes ∧ BaselinesAgree s call := by
  cases call with
  | saveSnapshot snapshot => exact (and_iff_left trivial).symm
  | buildAndSaveRegime asOfDate fresh =>
    by_cases hrefused : ∀ snapshot, s.snapshots.getLatestOnOrBefore asOfDate = some snapshot →
        snapshot.snapshotId = "" ∨ asOfDate.minusOneDay = none
    · rw [step_refused hrefused]
      exact (and_iff_left (baselinesAgree_refused hrefused)).symm
    · push Not at hrefused
      obtain ⟨snapshot,hsnapshot,hid,hd⟩ := hrefused
      obtain ⟨e,he⟩ := Option.ne_none_iff_exists'.mp hd
      have hyesterday : dayBefore asOfDate = .ok e := by simp [dayBefore,he]
      obtain ⟨regime,hsave,hdate,hlabel,hconfidence,htransition⟩ :=
        buildAndSaveRegime_saved s.regimes fresh hsnapshot hid hyesterday
      simp only [MacroStores.step,MacroStores.service,hsave,MacroRegimeStore.saveRegime]
      rw [transitionChain_concat,htransition,deriveRegimeTransition_eq_iff,hlabel,hconfidence,
        hdate]
      simp [BaselinesAgree,hsnapshot,hid]

/-- The two baselines are one when nothing is stored from the snapshot's date up to the day
before the request. -/
theorem priorTo_eq_of_noneBetween {regimes : List MacroRegime} {d e : Date} (hde : d ≤ e)
    (h : ∀ r ∈ regimes, ¬ (d ≤ r.asOfDate ∧ r.asOfDate < e)) :
    priorTo regimes e = priorTo regimes d := by
  have hfilter : regimes.filter (fun r => r.asOfDate < e) =
      regimes.filter (fun r => r.asOfDate < d) := by
    apply List.filter_congr
    intro r hr
    rw [decide_eq_decide]
    constructor
    · intro hlt
      exact not_le.mp (fun hle => h r hr ⟨hle,hlt⟩)
    · intro hlt
      exact hlt.trans_le hde
  rw [priorTo,priorTo,hfilter]

/-- So a request for a date that has its own snapshot always keeps the chain. -/
theorem baselinesAgree_of_noneBetween {s : MacroStores} {asOfDate : Date} (fresh : Fresh)
    (h : ∀ snapshot, s.snapshots.getLatestOnOrBefore asOfDate = some snapshot →
      ∀ r ∈ s.regimes.regimes, ¬ (snapshot.asOfDate ≤ r.asOfDate ∧ r.asOfDate < asOfDate)) :
    BaselinesAgree s (.buildAndSaveRegime asOfDate fresh) := by
  intro snapshot hsnapshot _
  rw [priorTo_eq_of_noneBetween (DatedRows.latestOnOrBefore_mem hsnapshot).2
    (h snapshot hsnapshot)]
  exact sameStanding_refl _ _ _

/-- The chain holds after a run exactly when the baselines agreed at each of its saves, and
comparing always takes the chain's baseline. -/
theorem transition_chain_law (calls : List MacroCall) :
    (TransitionChain (final MacroStores.step {} calls).regimes.regimes ↔
      Admits MacroStores.step BaselinesAgree {} calls) ∧
    ∀ d current previous,
      (final MacroStores.step {} calls).service.compareLatestWithPrior d =
        .ok (current,previous) →
      previous = priorTo (final MacroStores.step {} calls).regimes.regimes current.asOfDate := by
  constructor
  · induction calls using List.reverseRecOn with
    | nil => exact iff_of_true transitionChain_nil trivial
    | append_singleton calls call ih =>
      rw [final_concat,step_transitionChain,admits_concat,ih]
  · intro d current previous h
    exact compareLatestWithPrior_prior rfl h

section StaleSnapshot

def calmSnapshot : MacroSnapshotState where
  snapshotId := "s"
  asOfDate := newYear
  snapshotTimestamp := 0
  freshnessStatus := .fresh
  degradedStatus := .none
  growthState := .accelerating
  inflationState := .cooling
  laborState := .tight
  policyState := .neutral
  financialConditionsState := .neutral
  missingIndicators := []

/-- One snapshot, then a request on its own date and one three days later. -/
def staleRun : List MacroCall :=
  [.saveSnapshot calmSnapshot,.buildAndSaveRegime newYear ⟨"a",1⟩,
   .buildAndSaveRegime ⟨newYear.ordinal + 3,by decide,by decide⟩ ⟨"b",2⟩]

def SnapshotOnHand (s : MacroStores) : MacroCall → Prop
  | .saveSnapshot _ => True
  | .buildAndSaveRegime asOfDate _ => (s.snapshots.getLatestOnOrBefore asOfDate).isSome

theorem transition_chain_broken : ¬ ∀ calls : List MacroCall,
    Admits MacroStores.step SnapshotOnHand {} calls →
    TransitionChain (final MacroStores.step {} calls).regimes.regimes := by
  intro h
  have hhand : Admits MacroStores.step SnapshotOnHand {} staleRun := by
    unfold staleRun
    simp only [Admits,SnapshotOnHand,true_and,and_true]
    decide +kernel
  let regimes := (final MacroStores.step {} staleRun).regimes.regimes
  have hchain := h staleRun hhand (regimes.take 1) (regimes.get ⟨1,by decide +kernel⟩)
    (regimes.drop 2) (by decide +kernel)
  exact absurd hchain (by decide +kernel)

end StaleSnapshot

end MacroInvest.Macro
