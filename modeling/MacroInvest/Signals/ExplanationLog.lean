import MacroInvest.Signals.Explanations

/-! # What the explanation registry remembers

Every call generates a list of explanations that does not depend on the registry, and the
registry is the dictionary of all of them. An id tells the run, so no run loses an explanation to
another one, and a regime keeps the last one.
-/
namespace MacroInvest.Signals
open Macro Features CallRun ExplanationStore

section Log
variable (formats : Formats) (registry : SignalRegistry)

/-- What a call generates, whatever is registered. -/
def generated : ExplanationCall → List ExplanationResponse
  | .latestSignals query =>
    match query.regime with
    | some regime => groundedExplanations formats regime query
    | none =>
      match fallbackRun registry query with
      | .ok (some result) => fallbackExplanations formats query result
      | _ => []
  | .regimeExplanation latest generatedAt =>
    (getRegimeExplanation latest generatedAt).toOption.toList
  | _ => []

def generatedBy (calls : List ExplanationCall) : List ExplanationResponse :=
  calls.flatMap (generated formats registry)

theorem saveAll_setAll (log explanations : List ExplanationResponse) :
    (ExplanationStore.mk (Dict.setAll (·.explanationId) log)).saveAll explanations =
      ⟨Dict.setAll (·.explanationId) (log ++ explanations)⟩ := by
  induction explanations generalizing log with
  | nil => rw [List.append_nil]; rfl
  | cons e explanations ih =>
    have hsave : (ExplanationStore.mk (Dict.setAll (·.explanationId) log)).save e =
        ⟨Dict.setAll (·.explanationId) (log ++ [e])⟩ := by
      rw [Dict.setAll_concat]
      rfl
    rw [saveAll,List.foldl_cons,hsave,← saveAll,ih]
    simp

theorem step_saves (repository : ExplanationStore) (call : ExplanationCall) :
    (repository.step formats registry call).1 =
      repository.saveAll (generated formats registry call) := by
  cases call with
  | latestSignals query =>
    simp only [step,latestSignals,generated]
    cases query.regime with
    | some regime => rfl
    | none =>
      cases fallbackRun registry query with
      | error e => rfl
      | ok result => cases result <;> rfl
  | regimeExplanation latest generatedAt =>
    simp only [step,generated]
    cases getRegimeExplanation latest generatedAt <;> rfl
  | getExplanation explanationId => rfl
  | listExplanationsByRun runId => rfl

/-- The registry is the dictionary of what was generated. -/
theorem run_saves (calls : List ExplanationCall) :
    final (step formats registry) {} calls =
      ⟨Dict.setAll (·.explanationId) (generatedBy formats registry calls)⟩ := by
  induction calls using List.reverseRecOn with
  | nil => rfl
  | append_singleton calls call ih =>
    rw [final_concat,ih,step_saves,saveAll_setAll,generatedBy,generatedBy,List.flatMap_append]
    simp

end Log

section Ids

/-- What `uuid4` draws: 36 letters and no colon among them. -/
def IsUuid (id : String) : Prop := id.toList.length = 36 ∧ ':' ∉ id.toList

/-- An id up to its first colon. -/
def stem (id : String) : List Char := id.toList.takeWhile (fun c => c ≠ ':')

theorem stem_explanationId {runId : String} (h : ':' ∉ runId.toList) (signalId : Option String) :
    stem (explanationId runId signalId) = runId.toList := by
  have hall : ∀ c ∈ runId.toList, decide (c ≠ ':') = true := by
    intro c hc
    simpa using fun hcolon : c = ':' => h (hcolon ▸ hc)
  have hplain : stem runId = runId.toList := List.takeWhile_eq_self_iff.mpr hall
  cases signalId with
  | none => exact hplain
  | some signalId =>
    rw [explanationId]
    split
    · exact hplain
    · rw [stem,String.toList_append,String.toList_append,List.append_assoc,
        List.takeWhile_append_of_pos hall]
      simp

theorem stem_regime (id : String) : stem ("regime:" ++ id) = "regime".toList := by
  rw [stem,String.toList_append]
  rfl

/-- The id drawn for the run of a call. -/
def runIdOf : ExplanationCall → Option String
  | .latestSignals query => some query.runId
  | _ => none

/-- The regime that a call tells of. -/
def regimeIdOf : ExplanationCall → Option String
  | .regimeExplanation (.ok (some regime)) _ => some regime.regimeId
  | _ => none

/-- The ids of the runs are drawn: no two are alike, and none is that of a regime. -/
structure Drawn (calls : List ExplanationCall) : Prop where
  nodup : (calls.filterMap runIdOf).Nodup
  uuid : ∀ id ∈ calls.filterMap runIdOf, IsUuid id
  apart : ∀ id ∈ calls.filterMap runIdOf, id ∉ calls.filterMap regimeIdOf

end Ids

section Origins
variable {formats : Formats} {registry : SignalRegistry} {query : SignalsQuery}
  {e : ExplanationResponse}

theorem fallbackRun_runId {result : SignalResult}
    (h : fallbackRun registry query = .ok (some result)) :
    result.runId = query.runId ∧ result.signals ≠ [] := by
  unfold fallbackRun at h
  split at h
  · cases h
  · rename_i definitions hdefinitions
    split_ifs at h with hempty
    · cases h
    · split at h
      · cases h
      · rename_i snapshot hsnapshot
        obtain ⟨run,hrun,hid,htypes⟩ := runEngine_ok query.runId snapshot hempty
        rw [hrun] at h
        cases h
        refine ⟨hid,fun hnil => hempty ?_⟩
        rw [hnil] at htypes
        exact List.map_eq_nil_iff.mp htypes.symm

theorem generated_signals (h : e ∈ generated formats registry (.latestSignals query)) :
    e.runId = query.runId ∧ ∃ signalId, e.explanationId = explanationId query.runId signalId := by
  simp only [generated] at h
  split at h
  · obtain ⟨i,hi,rfl⟩ := List.mem_mapIdx.mp h
    exact ⟨rfl,some _,rfl⟩
  · split at h
    · rename_i result hrun
      obtain ⟨hid,hne⟩ := fallbackRun_runId hrun
      rw [fallbackExplanations,if_neg hne] at h
      obtain ⟨i,hi,rfl⟩ := List.mem_mapIdx.mp h
      rw [← hid]
      exact ⟨rfl,some _,rfl⟩
    · cases h

theorem explainRegime_ok {regime : MacroRegime} {t : ℤ} (h : explainRegime regime t = .ok e) :
    e.explanationId = "regime:" ++ regime.regimeId ∧ e.runId = regime.regimeId := by
  obtain ⟨status,-,h⟩ := Fallible.ok_of_bind h
  cases h
  exact ⟨rfl,rfl⟩

theorem generated_regime {latest : Except String (Option MacroRegime)} {t : ℤ}
    (h : e ∈ generated formats registry (.regimeExplanation latest t)) :
    ∃ regime, latest = .ok (some regime) ∧ explainRegime regime t = .ok e := by
  simp only [generated,getRegimeExplanation] at h
  split at h
  · cases h
  · cases h
  · rename_i regime
    cases hexplained : explainRegime regime t with
    | error failure => simp [hexplained,Except.toOption] at h
    | ok explanation =>
      simp only [hexplained,Except.toOption,Option.toList_some,List.mem_singleton] at h
      exact ⟨regime,rfl,h ▸ hexplained⟩

/-- What is generated is of a run or of a regime. -/
theorem generatedBy_cases {calls : List ExplanationCall}
    (h : e ∈ generatedBy formats registry calls) :
    (e.runId ∈ calls.filterMap runIdOf ∧
      ∃ signalId, e.explanationId = explanationId e.runId signalId) ∨
    (e.runId ∈ calls.filterMap regimeIdOf ∧ e.explanationId = "regime:" ++ e.runId) := by
  obtain ⟨call,hcall,he⟩ := List.mem_flatMap.mp h
  cases call with
  | latestSignals query =>
    obtain ⟨hrun,signalId,hid⟩ := generated_signals he
    refine .inl ⟨List.mem_filterMap.mpr ⟨_,hcall,?_⟩,signalId,?_⟩
    · rw [runIdOf,hrun]
    · rw [hid,hrun]
  | regimeExplanation latest t =>
    obtain ⟨regime,rfl,hexplained⟩ := generated_regime he
    obtain ⟨hid,hrun⟩ := explainRegime_ok hexplained
    refine .inr ⟨List.mem_filterMap.mpr ⟨_,hcall,?_⟩,?_⟩
    · rw [regimeIdOf,hrun]
    · rw [hid,hrun]
  | getExplanation explanationId => cases he
  | listExplanationsByRun runId => cases he

end Origins

section Runs
variable {formats : Formats} {registry : SignalRegistry} {calls : List ExplanationCall}

theorem uuid_ne_regime {id : String} (h : IsUuid id) : id.toList ≠ "regime".toList := by
  intro heq
  have hlength := h.1
  rw [heq] at hlength
  exact absurd hlength (by decide)

/-- The id of an explanation tells its run. -/
theorem run_of_id (h : Drawn calls) : ∀ a ∈ generatedBy formats registry calls,
    ∀ b ∈ generatedBy formats registry calls, a.explanationId = b.explanationId →
      a.runId = b.runId := by
  intro a ha b hb hid
  have hstem : stem a.explanationId = stem b.explanationId := by rw [hid]
  rcases generatedBy_cases ha with ⟨hruna,sa,hida⟩ | ⟨hruna,hida⟩ <;>
    rcases generatedBy_cases hb with ⟨hrunb,sb,hidb⟩ | ⟨hrunb,hidb⟩
  · rw [hida,hidb,stem_explanationId (h.uuid _ hruna).2,stem_explanationId (h.uuid _ hrunb).2]
      at hstem
    exact String.toList_injective hstem
  · rw [hida,hidb,stem_explanationId (h.uuid _ hruna).2,stem_regime] at hstem
    exact absurd hstem (uuid_ne_regime (h.uuid _ hruna))
  · rw [hida,hidb,stem_explanationId (h.uuid _ hrunb).2,stem_regime] at hstem
    exact absurd hstem.symm (uuid_ne_regime (h.uuid _ hrunb))
  · rw [hida,hidb] at hid
    exact (String.append_right_inj _).mp hid

theorem listByRunId_eq (h : Drawn calls) (runId : String) :
    (final (step formats registry) {} calls).listByRunId runId =
      sortedByTime (Dict.setAll (·.explanationId) ((generatedBy formats registry calls).filter
        (fun e => decide (e.runId = runId)))).values := by
  rw [run_saves,listByRunId,Dict.values_setAll_filter]
  intro a ha b hb hid
  rw [run_of_id h a ha b hb hid]

/-- What a run generated is all that the log has of it. -/
theorem filter_generated (h : Drawn calls) {query : SignalsQuery}
    (hquery : .latestSignals query ∈ calls) :
    (generatedBy formats registry calls).filter (fun e => decide (e.runId = query.runId)) =
      generated formats registry (.latestSignals query) := by
  obtain ⟨before,after,rfl⟩ := List.append_of_mem hquery
  have hnodup := h.nodup
  rw [List.filterMap_append,List.filterMap_cons_some (f := runIdOf) (b := query.runId) rfl,
    List.nodup_append] at hnodup
  obtain ⟨-,hafter,hbefore⟩ := hnodup
  have hregimes := h.apart query.runId (List.mem_filterMap.mpr ⟨_,hquery,rfl⟩)
  -- an explanation of another call is of another run, or of a regime
  have hforeign : ∀ other : List ExplanationCall, query.runId ∉ other.filterMap runIdOf →
      query.runId ∉ other.filterMap regimeIdOf →
      (generatedBy formats registry other).filter (fun e => decide (e.runId = query.runId)) =
        [] := by
    intro other hruns hothers
    rw [List.filter_eq_nil_iff]
    intro e he heq
    rw [← of_decide_eq_true heq] at hruns hothers
    exact (generatedBy_cases he).elim (fun hrun => hruns hrun.1)
      (fun hregime => hothers hregime.1)
  have hown : (generated formats registry (.latestSignals query)).filter
      (fun e => decide (e.runId = query.runId)) =
        generated formats registry (.latestSignals query) :=
    List.filter_eq_self.mpr (fun e he => decide_eq_true (generated_signals he).1)
  rw [List.filterMap_append,List.mem_append,not_or] at hregimes
  obtain ⟨hfront,hback⟩ := hregimes
  have hbefore' : query.runId ∉ before.filterMap runIdOf :=
    fun hmem => hbefore _ hmem _ List.mem_cons_self rfl
  have hback' : query.runId ∉ after.filterMap regimeIdOf := by
    rwa [List.filterMap_cons_none (f := regimeIdOf) rfl] at hback
  rw [generatedBy,List.flatMap_append,List.flatMap_cons,List.filter_append,List.filter_append,
    hown,← generatedBy,← generatedBy,hforeign before hbefore' hfront,
    hforeign after (List.nodup_cons.mp hafter).1 hback',List.nil_append,List.append_nil]

theorem getById_of_mem {repository : ExplanationStore} {runId : String} {e : ExplanationResponse}
    (hrepository : repository = final (step formats registry) {} calls)
    (h : e ∈ repository.listByRunId runId) : repository.getById e.explanationId = some e := by
  rw [hrepository,run_saves] at h ⊢
  have hvalues := (List.perm_insertionSort _ _).mem_iff.mp h
  exact Dict.mem_values_setAll_iff.mp (List.mem_of_mem_filter hvalues)

end Runs

section Grounded
variable {formats : Formats} {regime : MacroRegime} {query : SignalsQuery}

theorem explanationId_some {signalId : String} (h : signalId ≠ "") (runId : String) :
    explanationId runId (some signalId) = runId ++ ":" ++ signalId := by
  rw [explanationId,if_neg h]

theorem grounded_map {β : Type} (f : ExplanationResponse → β) (g : RegimeSignalOutput → β)
    (h : ∀ signal t, f (signalExplanation formats regime query.runId signal t) = g signal) :
    (groundedExplanations formats regime query).map f =
      (runRegimeGroundedEngine query.runId query.now regime).signals.map g := by
  refine List.ext_getElem (by simp [groundedExplanations]) ?_
  intro i hi hi'
  simp [groundedExplanations,h]

theorem grounded_ids_nodup :
    ((groundedExplanations formats regime query).map (·.explanationId)).Nodup := by
  rw [grounded_map _ (fun signal => explanationId query.runId (some signal.signalId))
    (fun _ _ => rfl),runRegimeGroundedEngine,List.map_map]
  have hids := signalId_nodup regime.regimeLabel
  refine List.Nodup.map_on ?_ (List.Nodup.of_map _ hids)
  intro a ha b hb hsame
  simp only [Function.comp_apply,signalOfRule] at hsame
  rw [explanationId_some (texts_ne_empty _ a ha).1,explanationId_some (texts_ne_empty _ b hb).1]
    at hsame
  exact List.inj_on_of_nodup_map hids ha hb ((String.append_right_inj _).mp hsame)

theorem caveat_ne_empty {c : String} (h : regimeCaveat regime = some c) : c ≠ "" := by
  unfold regimeCaveat at h
  split_ifs at h
  all_goals
    cases h
    rw [Ne,String.append_eq_empty_iff]
    exact fun hboth => absurd hboth.2 (by decide)

/-- What an explanation tells of a call of an answer. -/
structure Explains (e : ExplanationResponse) (call : RegimeSignalOutput)
    (response : SignalsLatestResponse) : Prop where
  run : e.runId = response.runId
  signal : e.signalId = some call.signalId
  summary : e.summary = call.rationale
  label : e.regimeLabel = some response.regimeLabel
  conflict : e.conflictStatus = call.conflict.conflictStatus.value ∧
    e.conflictNote = call.conflict.conflictNote ∧
    e.quantSupportLevel = call.conflict.quantSupportLevel
  caveat : call.isDegraded = true →
    ∃ c, call.caveat = some c ∧ "Caveat: " ++ c ∈ e.rationalePoints
  unflagged : e.trust.isDegraded = false

theorem explains_call {call : RegimeSignalOutput}
    (h : call ∈ (groundedResponse regime query.country query.runId query.now).signals) (t : ℤ) :
    Explains (signalExplanation formats regime query.runId call t) call
      (groundedResponse regime query.country query.runId query.now) := by
  obtain ⟨rule,hrule,rfl⟩ := mem_response.mp h
  refine ⟨rfl,rfl,if_neg (texts_ne_empty _ rule hrule).2,rfl,⟨rfl,rfl,rfl⟩,?_,rfl⟩
  intro hdegraded
  have hcaveat : (regimeCaveat regime).isSome = true := (caveat_isSome regime).trans hdegraded
  obtain ⟨c,hc⟩ := Option.isSome_iff_exists.mp hcaveat
  refine ⟨c,hc,List.mem_append_right _ ?_⟩
  simp [signalOfRule,hc,caveat_ne_empty hc]

end Grounded

section Narrated
variable {formats : Formats} {registry : SignalRegistry} {calls : List ExplanationCall}
  {id : String}

/-- What a call answers of a regime. -/
def toldBy (id : String) : ExplanationCall → Option ExplanationResponse
  | .regimeExplanation (.ok (some regime)) t =>
    if regime.regimeId = id then (explainRegime regime t).toOption else none
  | _ => none

/-- What was told of a regime last. -/
def lastTold (id : String) (calls : List ExplanationCall) : Option ExplanationResponse :=
  (calls.filterMap (toldBy id)).getLast?

theorem explainRegime_none_iff {regime : MacroRegime} {t : ℤ} :
    (explainRegime regime t).toOption = none ↔ regime.freshnessStatus = .late := by
  unfold explainRegime
  cases regime.freshnessStatus
  case late => exact iff_of_true rfl rfl
  all_goals exact iff_of_false nofun nofun

theorem generated_toldBy {call : ExplanationCall} (h : runIdOf call ≠ some id) :
    (generated formats registry call).filter (fun e => decide (e.runId = id)) =
      (toldBy id call).toList := by
  cases call with
  | latestSignals query =>
    have hquery : query.runId ≠ id := fun heq => h (congrArg some heq)
    rw [List.filter_eq_nil_iff.mpr]
    · rfl
    · intro e he heq
      exact hquery ((generated_signals he).1.symm.trans (of_decide_eq_true heq))
  | regimeExplanation latest t =>
    rcases latest with e | ⟨_ | regime⟩
    · rfl
    · rfl
    · simp only [generated,getRegimeExplanation,toldBy]
      cases hexplained : explainRegime regime t with
      | error failure => simp [Except.toOption]
      | ok explanation =>
        simp only [Except.toOption,Option.toList_some,List.filter_cons,List.filter_nil,
          (explainRegime_ok hexplained).2,decide_eq_true_eq]
        split <;> rfl
  | getExplanation explanationId => rfl
  | listExplanationsByRun runId => rfl

theorem filter_told (h : id ∉ calls.filterMap runIdOf) :
    (generatedBy formats registry calls).filter (fun e => decide (e.runId = id)) =
      calls.filterMap (toldBy id) := by
  induction calls with
  | nil => rfl
  | cons call calls ih =>
    have hcall : runIdOf call ≠ some id :=
      fun heq => h (List.mem_filterMap.mpr ⟨call,List.mem_cons_self,heq⟩)
    have hrest : id ∉ calls.filterMap runIdOf := by
      intro hmem
      obtain ⟨other,hother,hid⟩ := List.mem_filterMap.mp hmem
      exact h (List.mem_filterMap.mpr ⟨other,List.mem_cons_of_mem _ hother,hid⟩)
    rw [generatedBy,List.flatMap_cons,List.filter_append,generated_toldBy hcall,← generatedBy,
      ih hrest,List.filterMap_cons]
    cases toldBy id call <;> rfl

theorem id_of_told {e : ExplanationResponse} (h : e ∈ calls.filterMap (toldBy id)) :
    e.explanationId = "regime:" ++ id := by
  obtain ⟨call,-,htold⟩ := List.mem_filterMap.mp h
  unfold toldBy at htold
  split at htold
  · rename_i regime t
    split_ifs at htold with hid
    cases hexplained : explainRegime regime t with
    | error failure => simp [hexplained,Except.toOption] at htold
    | ok explanation =>
      rw [hexplained] at htold
      cases htold
      rw [(explainRegime_ok hexplained).1,hid]
  · cases htold

/-- Under the id of a regime is what was told of it last. -/
theorem getById_regime (h : Drawn calls) (hid : id ∉ calls.filterMap runIdOf) :
    (final (step formats registry) {} calls).getById ("regime:" ++ id) = lastTold id calls := by
  have hkeys : ∀ e ∈ generatedBy formats registry calls,
      decide (e.explanationId = "regime:" ++ id) = decide (e.runId = id) := by
    intro e he
    rw [decide_eq_decide]
    rcases generatedBy_cases he with ⟨hrun,signalId,hexplanation⟩ | ⟨hregime,hexplanation⟩
    · refine iff_of_false ?_ (fun heq => hid (heq ▸ hrun))
      intro heq
      have hstem : stem e.explanationId = "regime".toList := by rw [heq,stem_regime]
      rw [hexplanation,stem_explanationId (h.uuid _ hrun).2] at hstem
      exact uuid_ne_regime (h.uuid _ hrun) hstem
    · rw [hexplanation,String.append_right_inj]
  rw [run_saves,getById,Dict.get?_setAll_eq_getLast?,List.filter_congr hkeys,filter_told hid]
  rfl

theorem listByRunId_regime (h : Drawn calls) (hid : id ∉ calls.filterMap runIdOf) :
    (final (step formats registry) {} calls).listByRunId id = (lastTold id calls).toList := by
  rw [listByRunId_eq h,filter_told hid,Dict.values_setAll_of_eq (fun e he => id_of_told he),
    lastTold]
  cases (calls.filterMap (toldBy id)).getLast? <;> rfl

theorem lastTold_none_iff : lastTold id calls = none ↔
    ∀ regime t, .regimeExplanation (.ok (some regime)) t ∈ calls → regime.regimeId = id →
      regime.freshnessStatus = .late := by
  rw [lastTold,List.getLast?_eq_none_iff,List.filterMap_eq_nil_iff]
  constructor
  · intro hnone regime t hcall hregime
    have htold := hnone _ hcall
    rw [toldBy,if_pos hregime] at htold
    exact explainRegime_none_iff.mp htold
  · intro hlate call hcall
    unfold toldBy
    split
    · rename_i regime t
      split_ifs with hregime
      · exact explainRegime_none_iff.mpr (hlate regime t hcall hregime)
      · rfl
    · rfl

end Narrated

section Law
variable (formats : Formats) (registry : SignalRegistry)

/-- What can be read again after a run of calls. -/
structure Registered (calls : List ExplanationCall) (repository : ExplanationStore) : Prop where
  grounded : ∀ query regime, .latestSignals query ∈ calls → query.regime = some regime →
    let response := groundedResponse regime query.country query.runId query.now
    (repository.listByRunId response.runId).length = response.signalsCount ∧
      ∀ call ∈ response.signals, ∃ e ∈ repository.listByRunId response.runId,
        repository.getById (response.runId ++ ":" ++ call.signalId) = some e ∧
          Explains e call response
  ordered : ∀ query regime, .latestSignals query ∈ calls → query.regime = some regime →
    Monotone query.stamps → (repository.listByRunId query.runId).map (·.signalId) =
      (groundedResponse regime query.country query.runId query.now).signals.map
        (fun call => some call.signalId)
  fallback : ∀ query result, .latestSignals query ∈ calls → query.regime = none →
    fallbackRun registry query = .ok (some result) → result.signals ≠ [] ∧
      ∀ signal ∈ result.signals, ∃ e ∈ repository.listByRunId query.runId,
        e.explanationId = explanationId query.runId (some signal.signalId) ∧ e.regimeLabel = none
  regimes : ∀ id, id ∉ calls.filterMap runIdOf →
    repository.getById ("regime:" ++ id) = lastTold id calls ∧
      repository.listByRunId id = (lastTold id calls).toList
  untold : ∀ id, lastTold id calls = none ↔
    ∀ regime t, .regimeExplanation (.ok (some regime)) t ∈ calls → regime.regimeId = id →
      regime.freshnessStatus = .late
  known : ∀ id e, repository.getById id = some e →
    e.explanationId = id ∧ ∃ call ∈ calls, e ∈ generated formats registry call

variable {formats registry} {calls : List ExplanationCall}

theorem listByRunId_grounded (h : Drawn calls) {query : SignalsQuery} {regime : MacroRegime}
    (hquery : .latestSignals query ∈ calls) (hregime : query.regime = some regime) :
    (final (step formats registry) {} calls).listByRunId query.runId =
      sortedByTime (groundedExplanations formats regime query) := by
  have hgenerated : generated formats registry (.latestSignals query) =
      groundedExplanations formats regime query := by simp only [generated,hregime]
  rw [listByRunId_eq h,filter_generated h hquery,hgenerated,
    Dict.values_setAll_of_nodup grounded_ids_nodup]

theorem pairwise_grounded {query : SignalsQuery} (regime : MacroRegime)
    (h : Monotone query.stamps) : (groundedExplanations formats regime query).Pairwise
      (fun a b => a.generatedAt ≤ b.generatedAt) := by
  rw [List.pairwise_iff_getElem]
  intro i j hi hj hij
  simp only [groundedExplanations,List.getElem_mapIdx,signalExplanation,buildExplanation]
  exact h hij.le

/-- A call of a regime is listed, and found under its own id. -/
theorem call_registered (h : Drawn calls) {query : SignalsQuery} {regime : MacroRegime}
    {call : RegimeSignalOutput} (hquery : .latestSignals query ∈ calls)
    (hregime : query.regime = some regime)
    (hcall : call ∈ (groundedResponse regime query.country query.runId query.now).signals) :
    ∃ e ∈ (final (step formats registry) {} calls).listByRunId query.runId,
      (final (step formats registry) {} calls).getById (query.runId ++ ":" ++ call.signalId) =
        some e ∧
      Explains e call (groundedResponse regime query.country query.runId query.now) := by
  obtain ⟨i,hi,rfl⟩ := List.mem_iff_getElem.mp hcall
  set response := groundedResponse regime query.country query.runId query.now
  have hmem : signalExplanation formats regime query.runId response.signals[i]
      (query.stamps i) ∈ groundedExplanations formats regime query :=
    List.mem_mapIdx.mpr ⟨i,hi,rfl⟩
  have hlisted := (List.perm_insertionSort (fun a b : ExplanationResponse =>
    a.generatedAt ≤ b.generatedAt) _).mem_iff.mpr hmem
  have hlist : (final (step formats registry) {} calls).listByRunId query.runId = _ :=
    listByRunId_grounded h hquery hregime
  rw [← sortedByTime,← hlist] at hlisted
  refine ⟨_,hlisted,?_,explains_call hcall _⟩
  obtain ⟨rule,hrule,hcalled⟩ := mem_response.mp hcall
  have hne : response.signals[i].signalId ≠ "" := by
    rw [← hcalled]
    exact (texts_ne_empty _ rule hrule).1
  rw [← explanationId_some hne]
  exact getById_of_mem rfl hlisted

/-- Without a regime the calls of the run are listed, those of one id once. -/
theorem fallback_registered (h : Drawn calls) {query : SignalsQuery} {result : SignalResult}
    {signal : SignalOutput} (hquery : .latestSignals query ∈ calls) (hregime : query.regime = none)
    (hrun : fallbackRun registry query = .ok (some result))
    (hsignal : signal ∈ result.signals) :
    ∃ e ∈ (final (step formats registry) {} calls).listByRunId query.runId,
      e.explanationId = explanationId query.runId (some signal.signalId) ∧
        e.regimeLabel = none := by
  obtain ⟨hid,hne⟩ := fallbackRun_runId hrun
  have hgenerated : generated formats registry (.latestSignals query) =
      result.signals.mapIdx (fun i signal =>
        fallbackExplanation formats result.runId signal (query.stamps i)) := by
    simp only [generated,hregime,hrun,fallbackExplanations,if_neg hne]
  obtain ⟨i,hi,rfl⟩ := List.mem_iff_getElem.mp hsignal
  have hmem : fallbackExplanation formats result.runId result.signals[i] (query.stamps i) ∈
      generated formats registry (.latestSignals query) := by
    rw [hgenerated]
    exact List.mem_mapIdx.mpr ⟨i,hi,rfl⟩
  obtain ⟨e,he,hkept,hkey⟩ := Dict.exists_mem_values_setAll (·.explanationId) hmem
  refine ⟨e,?_,?_,?_⟩
  · rw [listByRunId_eq h,filter_generated h hquery]
    exact (List.perm_insertionSort _ _).mem_iff.mpr he
  · rw [hkey,← hid]
    rfl
  · rw [hgenerated] at hkept
    obtain ⟨j,hj,rfl⟩ := List.mem_mapIdx.mp hkept
    rfl

/-- Whatever is asked in whatever order, the registry answers as the calls have told. -/
theorem explanations_registered (formats : Formats) (registry : SignalRegistry)
    (calls : List ExplanationCall) (h : Drawn calls) :
    Registered formats registry calls (final (step formats registry) {} calls) where
  grounded := by
    intro query regime hquery hregime response
    refine ⟨?_,fun call hcall => call_registered h hquery hregime hcall⟩
    rw [show response.runId = query.runId from rfl,listByRunId_grounded h hquery hregime,
      sortedByTime,List.length_insertionSort]
    exact List.length_mapIdx
  ordered := by
    intro query regime hquery hregime hstamps
    rw [listByRunId_grounded h hquery hregime,sortedByTime,
      (pairwise_grounded regime hstamps).insertionSort_eq]
    exact grounded_map _ _ (fun _ _ => rfl)
  fallback := by
    intro query result hquery hregime hrun
    exact ⟨(fallbackRun_runId hrun).2,fun signal hsignal =>
      fallback_registered h hquery hregime hrun hsignal⟩
  regimes := fun id hid => ⟨getById_regime h hid,listByRunId_regime h hid⟩
  untold := fun id => lastTold_none_iff
  known := by
    intro id e he
    rw [run_saves] at he
    obtain ⟨hmem,hkey⟩ := Dict.get?_setAll_some he
    exact ⟨hkey,List.mem_flatMap.mp hmem⟩

/-- The signals of a regime, what is told of it, and the list of the run. -/
def callsOf (regime : MacroRegime) : List ExplanationCall :=
  [.latestSignals
    { country := "US"
      regime := some regime
      snapshot := .error "not asked for"
      runId := "1b4e28ba-2fa1-41d2-883f-0016d3cca427"
      now := 1
      stamps := Nat.cast },
   .regimeExplanation (.ok (some regime)) 5,
   .listExplanationsByRun "1b4e28ba-2fa1-41d2-883f-0016d3cca427"]

theorem explanations_registered_calm : ∃ regime ∈ turned.regimes.regimes,
    Drawn (callsOf regime) ∧ Registered exactFormats ⟨.empty⟩ (callsOf regime)
      (final (step exactFormats ⟨.empty⟩) {} (callsOf regime)) ∧
    (runRegimeGroundedEngine "1b4e28ba-2fa1-41d2-883f-0016d3cca427" 1 regime).signals.map
      (·.signalId) = ["goldilocks_equities_buy","goldilocks_bonds_hold"] := by
  have hmem := List.get_mem turned.regimes.regimes ⟨0,by decide +kernel⟩
  have hid : (turned.regimes.regimes.get ⟨0,by decide +kernel⟩).regimeId = "a" := by
    decide +kernel
  have hdrawn : Drawn (callsOf (turned.regimes.regimes.get ⟨0,by decide +kernel⟩)) :=
    { nodup := List.nodup_singleton _
      uuid := by
        simp only [callsOf,runIdOf,List.filterMap_cons,List.filterMap_nil,List.mem_singleton,
          forall_eq]
        exact ⟨by decide,by decide⟩
      apart := by
        simp only [callsOf,runIdOf,regimeIdOf,List.filterMap_cons,List.filterMap_nil,
          List.mem_singleton,forall_eq,hid]
        decide }
  exact ⟨_,hmem,hdrawn,explanations_registered _ _ _ hdrawn,by decide +kernel⟩

end Law

end MacroInvest.Signals
