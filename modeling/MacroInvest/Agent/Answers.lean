import MacroInvest.Agent.Runtime

/-! # Answers under a context

The hint reaches the answer only through the system message that is formatted and thrown away.
A request is therefore answered as in an empty context exactly when the texts carried over are
templates of its prompt's names, or when nothing is rendered for it that could be returned.
-/
namespace MacroInvest.Agent
open Fallible

/-- Both raise or both return the same reply. -/
def SameAnswer (a b : Except RuntimeError AgentReply) : Prop := a.toOption = b.toOption

/-- The service answers with a success, of a signal review one whose counts add up. -/
def Answerable (service : AgentService) : AgentRequest → Prop
  | .signalReview r => ∃ response, service.reviewSignals r = .ok response ∧
      response.success = true ∧ response.signalsGenerated =
        response.buySignals + response.sellSignals + response.holdSignals
  | .snapshotSummary r => ∃ response, service.summarizeMacroSnapshot r = .ok response ∧
      response.success = true
  | .snapshotComparison r => ∃ response, service.compareSnapshots r = .ok response ∧
      response.success = true

section Hint
variable {names : List String} {hint : String}

/-- A reformatting that renders under a hint, and gives the same whenever it renders. -/
structure RendersUnder (names : List String) (hint : String) {R : Type}
    (reformat : String → R → Except TemplateError R) (render : R → String → R) : Prop where
  same : TemplateText names hint → ∀ response, reformat hint response = reformat "" response
  raises : ¬TemplateText names hint → ∀ response, ∃ exc, reformat hint response = .error exc
  empty : ∀ response, ∃ summary, reformat "" response = .ok (render response summary)

theorem rendersUnder_of_render {R : Type} (prompt : Prompt) (hint : String)
    (values : R → List (String × String)) (hvalues : ∀ r, (values r).map Prod.fst = prompt.names)
    (render : R → String → R) :
    RendersUnder prompt.names hint
      (fun hint r => (prompt.render (values r) hint).map (render r)) render := by
  have hplain : TemplateText prompt.names "" := templateText_empty
  constructor
  · intro hhint r
    rcases render_cases (hvalues r) hint with ⟨-,h⟩ | ⟨hnot,-⟩
    · rcases render_cases (hvalues r) "" with ⟨-,h'⟩ | ⟨hnot,-⟩
      · simp only [h,h']
      · exact absurd hplain hnot
    · exact absurd hhint hnot
  · intro hhint r
    rcases render_cases (hvalues r) hint with ⟨htext,-⟩ | ⟨-,exc,h⟩
    · exact absurd htext hhint
    · exact ⟨exc,by simp only [h,Except.map]⟩
  · intro r
    obtain ⟨summary,hsummary⟩ := exists_human (hvalues r)
    rcases render_cases (hvalues r) "" with ⟨-,h⟩ | ⟨hnot,-⟩
    · exact ⟨summary,by simp only [h,hsummary,Except.map]⟩
    · exact absurd hplain hnot

section Invoked
variable {R : Type} {reply : R → AgentReply} {reformat : R → Except TemplateError R}
  {response r : R} {exc : TemplateError}

theorem invokeWith_unsuccessful (hfailed : (reply response).base.success ≠ true) :
    invokeWith reply (.ok response) reformat = .ok (reply response) := by
  simp only [invokeWith,serviceResult,ok_bind,if_neg hfailed]
  rfl

theorem invokeWith_rendered (hsuccess : (reply response).base.success = true)
    (h : reformat response = .ok r) : invokeWith reply (.ok response) reformat = .ok (reply r) := by
  simp only [invokeWith,serviceResult,ok_bind,hsuccess,if_true,h,templateResult]
  rfl

theorem invokeWith_raises (hsuccess : (reply response).base.success = true)
    (h : reformat response = .error exc) :
    invokeWith reply (.ok response) reformat = .error (.template exc) := by
  simp only [invokeWith,serviceResult,ok_bind,hsuccess,if_true,h,templateResult]
  rfl

end Invoked

/-- For one kind of request: the answers agree unless a reply that would be returned cannot be
rendered. -/
theorem sameAnswer_invokeWith_iff {R : Type} (reply : R → AgentReply)
    {reformat : String → R → Except TemplateError R} {render : R → String → R}
    (h : RendersUnder names hint reformat render) (valid : R → Prop)
    (hvalid : ∀ response summary,
      (∃ r, validateRuntimeResult (reply (render response summary)) = .ok r) ↔ valid response)
    (service : Except ServiceError R) :
    SameAnswer (invokeWith reply service (reformat hint) >>= validateRuntimeResult)
        (invokeWith reply service (reformat "") >>= validateRuntimeResult) ↔
      ((∃ response, service = .ok response ∧ (reply response).base.success = true ∧
        valid response) → TemplateText names hint) := by
  by_cases hhint : TemplateText names hint
  · have hsame : reformat hint = reformat "" := funext (h.same hhint)
    rw [hsame]
    exact iff_of_true rfl fun _ => hhint
  · cases service with
    | error exc => exact iff_of_true rfl (by simp)
    | ok response =>
      by_cases hsuccess : (reply response).base.success = true
      · obtain ⟨exc,hexc⟩ := h.raises hhint response
        obtain ⟨summary,hsummary⟩ := h.empty response
        rw [invokeWith_raises hsuccess hexc,invokeWith_rendered hsuccess hsummary,ok_bind]
        constructor
        · rintro hsame ⟨_,⟨⟩,-,hok⟩
          obtain ⟨r,hr⟩ := (hvalid response summary).mpr hok
          rw [hr] at hsame
          cases hsame
        · intro hnone
          cases hr : validateRuntimeResult (reply (render response summary)) with
          | error exc' => rfl
          | ok r =>
            have hok := (hvalid response summary).mp ⟨r,hr⟩
            exact absurd (hnone ⟨response,rfl,hsuccess,hok⟩) hhint
      · rw [invokeWith_unsuccessful hsuccess,invokeWith_unsuccessful hsuccess]
        refine iff_of_true rfl ?_
        rintro ⟨_,⟨⟩,hsuccess',-⟩
        exact absurd hsuccess' hsuccess

end Hint

section Kinds
variable (hint : String)

theorem rendersUnder_signalReview (r : SignalReviewRequest) :
    RendersUnder signalReviewPrompt.names hint
      (fun hint response => reformatSignalReview response r hint) signalReviewWith :=
  rendersUnder_of_render signalReviewPrompt hint
    (fun response : SignalReviewResponse =>
      [("signal_ids",joinText ", " r.signalIds),("country",r.country),
        ("signals_generated",toString response.signalsGenerated),
        ("buy_signals",toString response.buySignals),
        ("sell_signals",toString response.sellSignals),
        ("hold_signals",toString response.holdSignals),
        ("dominant_direction",dominantSignalType response.buySignals response.sellSignals
          response.holdSignals),
        ("engine_run_id",response.engineRunId),
        ("execution_time_ms",FixedWidth.formatFixed 1 response.executionTimeMs)])
    (fun _ => rfl) signalReviewWith

theorem rendersUnder_snapshotSummary : RendersUnder snapshotSummaryPrompt.names hint
    (fun hint response => reformatSnapshotSummary response hint) snapshotSummaryWith :=
  rendersUnder_of_render snapshotSummaryPrompt hint
    (fun response : MacroSnapshotSummaryResponse =>
      [("country",response.country),("features_count",toString response.featuresCount),
        ("snapshot_timestamp",tsStr response.snapshotTimestamp)])
    (fun _ => rfl) snapshotSummaryWith

theorem rendersUnder_snapshotComparison : RendersUnder snapshotComparisonPrompt.names hint
    (fun hint response => reformatComparisonSummary response hint) snapshotComparisonWith :=
  rendersUnder_of_render snapshotComparisonPrompt hint
    (fun response : SnapshotComparisonResponse =>
      [("country",response.country),("prior_snapshot_label",response.priorSnapshotLabel),
        ("changed_count",toString response.changedCount),
        ("unchanged_count",toString response.unchangedCount),
        ("no_prior_suffix",if 0 < response.noPriorCount then
          ", " ++ toString response.noPriorCount ++ " with no prior data" else "")])
    (fun _ => rfl) snapshotComparisonWith

end Kinds

theorem sameAnswer_iff (service : AgentService) (hint : String) (request : AgentRequest) :
    SameAnswer (answer service hint request) (answer service "" request) ↔
      (Answerable service request → TemplateText request.prompt.names hint) := by
  cases request with
  | signalReview r =>
    have hvalid : ∀ (response : SignalReviewResponse) (summary : String),
        (∃ a, validateRuntimeResult (.signalReview (signalReviewWith response summary)) = .ok a) ↔
        response.signalsGenerated =
          response.buySignals + response.sellSignals + response.holdSignals := by
      intro response summary
      simp only [validateRuntimeResult,signalReviewWith]
      split
      · rename_i hbad
        exact iff_of_false (by simp) hbad.2
      · rename_i hgood
        simpa using hgood
    exact sameAnswer_invokeWith_iff .signalReview (rendersUnder_signalReview hint r) _ hvalid
      (service.reviewSignals r)
  | snapshotSummary r =>
    have h := sameAnswer_invokeWith_iff .snapshotSummary (rendersUnder_snapshotSummary hint)
      (fun _ => True) (fun _ _ => iff_of_true ⟨_,rfl⟩ trivial) (service.summarizeMacroSnapshot r)
    simp only [and_true] at h
    exact h
  | snapshotComparison r =>
    have h := sameAnswer_invokeWith_iff .snapshotComparison
      (rendersUnder_snapshotComparison hint) (fun _ => True)
      (fun _ _ => iff_of_true ⟨_,rfl⟩ trivial) (service.compareSnapshots r)
    simp only [and_true] at h
    exact h

section Returned

/-- The service's response to a request, whatever its kind. -/
def AgentService.respond (service : AgentService) : AgentRequest → Except ServiceError AgentReply
  | .signalReview r => (service.reviewSignals r).map .signalReview
  | .snapshotSummary r => (service.summarizeMacroSnapshot r).map .snapshotSummary
  | .snapshotComparison r => (service.compareSnapshots r).map .snapshotComparison

/-- A successful response is reformatted where that does not raise. -/
def plainWith {R : Type} (reply : R → AgentReply) (reformat : R → Except TemplateError R)
    (response : R) : AgentReply :=
  if (reply response).base.success then
    match reformat response with
    | .ok r => reply r
    | .error _ => reply response
  else reply response

/-- What a request returns for a response of the service when it returns. -/
def plainReply : AgentRequest → AgentReply → AgentReply
  | .signalReview r, .signalReview response =>
    plainWith .signalReview (fun response => reformatSignalReview response r "") response
  | .snapshotSummary _, .snapshotSummary response =>
    plainWith .snapshotSummary (fun response => reformatSnapshotSummary response "") response
  | .snapshotComparison _, .snapshotComparison response =>
    plainWith .snapshotComparison (fun response => reformatComparisonSummary response "") response
  | _, response => response

theorem invokeWith_ok {R : Type} {reply : R → AgentReply} {names : List String} {hint : String}
    {reformat : String → R → Except TemplateError R} {render : R → String → R}
    (h : RendersUnder names hint reformat render) {service : Except ServiceError R}
    {result : AgentReply} (hok : invokeWith reply service (reformat hint) = .ok result) :
    ∃ response, service = .ok response ∧ result = plainWith reply (reformat "") response := by
  cases service with
  | error exc => cases hok
  | ok response =>
    refine ⟨response,rfl,?_⟩
    by_cases hsuccess : (reply response).base.success = true
    · by_cases hhint : TemplateText names hint
      · obtain ⟨summary,hsummary⟩ := h.empty response
        rw [invokeWith_rendered hsuccess ((h.same hhint response).trans hsummary)] at hok
        rw [plainWith,if_pos hsuccess,hsummary]
        exact (Except.ok.inj hok).symm
      · obtain ⟨exc,hexc⟩ := h.raises hhint response
        rw [invokeWith_raises hsuccess hexc] at hok
        cases hok
    · rw [invokeWith_unsuccessful hsuccess] at hok
      rw [plainWith,if_neg hsuccess]
      exact (Except.ok.inj hok).symm

theorem validateRuntimeResult_ok {reply result : AgentReply}
    (h : validateRuntimeResult reply = .ok result) : result = reply := by
  unfold validateRuntimeResult at h
  split at h
  · simp only at h
    split at h
    · cases h
    · exact (Except.ok.inj h).symm
  · exact (Except.ok.inj h).symm

/-- A request that returns gives back its response as it would without a context. -/
theorem answer_ok {service : AgentService} {hint : String} {request : AgentRequest}
    {reply : AgentReply} (h : answer service hint request = .ok reply) :
    ∃ response, service.respond request = .ok response ∧ reply = plainReply request response := by
  obtain ⟨result,hdispatch,hvalid⟩ := ok_of_bind h
  obtain rfl := validateRuntimeResult_ok hvalid
  cases request with
  | signalReview r =>
    obtain ⟨response,hservice,rfl⟩ := invokeWith_ok (rendersUnder_signalReview hint r) hdispatch
    exact ⟨.signalReview response,by simp [AgentService.respond,hservice,Except.map],rfl⟩
  | snapshotSummary r =>
    obtain ⟨response,hservice,rfl⟩ := invokeWith_ok (rendersUnder_snapshotSummary hint) hdispatch
    exact ⟨.snapshotSummary response,by simp [AgentService.respond,hservice,Except.map],rfl⟩
  | snapshotComparison r =>
    obtain ⟨response,hservice,rfl⟩ :=
      invokeWith_ok (rendersUnder_snapshotComparison hint) hdispatch
    exact ⟨.snapshotComparison response,by simp [AgentService.respond,hservice,Except.map],rfl⟩

end Returned

namespace ConversationContext

/-- The context after earlier requests, each answered by the service at its time. -/
def after (ctx : ConversationContext) (history : List (AgentService × AgentRequest)) :
    ConversationContext :=
  history.foldl (fun ctx p => (ctx.invoke p.1 p.2).1) ctx

end ConversationContext

theorem invoke_snd (ctx : ConversationContext) (service : AgentService) (request : AgentRequest) :
    (ctx.invoke service request).2 = answer service ctx.contextSummary request := by
  unfold ConversationContext.invoke
  split
  · rename_i h
    exact h.symm
  · rename_i h
    exact h.symm

theorem create_contextSummary {maxTurns : ℤ} {empty : ConversationContext}
    (h : ConversationContext.create maxTurns = some empty) : empty.contextSummary = "" := by
  unfold ConversationContext.create at h
  split at h
  · cases h
    simp [ConversationContext.contextSummary,ConversationContext.recentTurns,
      AnalysisParameters.asContextHint,AnalysisParameters.hintPart,joinText,FormatString.join]
  · cases h

/-- After any earlier requests the next one is answered as in an empty context exactly when,
if the service gives it something to return, every text carried over is a template of its
prompt's names. -/
theorem context_answer_law {maxTurns : ℤ} {empty : ConversationContext}
    (h : ConversationContext.create maxTurns = some empty)
    (history : List (AgentService × AgentRequest)) (service : AgentService)
    (request : AgentRequest) :
    SameAnswer ((empty.after history).invoke service request).2
        (empty.invoke service request).2 ↔
      (Answerable service request →
        ∀ text ∈ (empty.after history).carried, TemplateText request.prompt.names text) := by
  rw [invoke_snd,invoke_snd,create_contextSummary h,sameAnswer_iff,
    templateText_contextSummary]

section Braces

/-- A service that finds three features for every country. -/
def threeFeatures : AgentService where
  reviewSignals _ := .error "unused"
  summarizeMacroSnapshot r := .ok
    { requestId := r.requestId
      timestamp := 0
      success := true
      summary := "3 features"
      explained := AgentResponse.success_explained
      country := r.country
      featuresCount := 3 }
  compareSnapshots _ := .error "unused"

/-- A service that finds nothing to report. -/
def noData : AgentService where
  reviewSignals _ := .error "no data"
  summarizeMacroSnapshot r := .ok
    { requestId := r.requestId
      timestamp := 0
      success := false
      errorMessage := some "no data"
      explained := fun _ => by decide }
  compareSnapshots r := .ok
    { requestId := r.requestId
      timestamp := 0
      success := false
      errorMessage := some "no data"
      explained := fun _ => by decide }

def summaryOf (country : String) : AgentRequest :=
  .snapshotSummary
    { requestId := "r", timestamp := 0, sessionId := some "s", country := country,
      identified := by decide }

theorem answerable_summaryOf (country : String) :
    Answerable threeFeatures (summaryOf country) := ⟨_,rfl,rfl⟩

def tenTurns : ConversationContext := ⟨10,[],{},by decide,by decide⟩

theorem context_answer_law_plainCountry :
    SameAnswer ((tenTurns.after [(noData,summaryOf "US")]).invoke threeFeatures
      (summaryOf "KR")).2 (tenTurns.invoke threeFeatures (summaryOf "KR")).2 := by
  have hcreate : ConversationContext.create 10 = some tenTurns := rfl
  refine (context_answer_law hcreate [(noData,summaryOf "US")] threeFeatures
    (summaryOf "KR")).mpr fun _ text htext => ?_
  have hcarried : (tenTurns.after [(noData,summaryOf "US")]).carried = ["US","","","",""] := by
    decide +kernel
  rw [hcarried] at htext
  refine templateText_of_braceFree snapshotSummaryPrompt ?_
  simp only [List.mem_cons,List.not_mem_nil,or_false] at htext
  rcases htext with rfl | rfl | rfl | rfl | rfl <;> decide +kernel

theorem not_templateText_unknown :
    ¬TemplateText snapshotSummaryPrompt.names (String.ofList [openBrace,'x',closeBrace]) := by
  intro htext
  obtain ⟨text,hok⟩ : ∃ text, formatTemplate [("country",""),("features_count",""),
      ("snapshot_timestamp","")] (String.ofList [openBrace,'x',closeBrace]) = .ok text :=
    (formatTemplate_isOk_iff _).mpr htext
  have hunknown : formatTemplate [("country",""),("features_count",""),("snapshot_timestamp","")]
      (String.ofList [openBrace,'x',closeBrace]) = .error (.unknownName ['x']) := by decide +kernel
  rw [hunknown] at hok
  cases hok

/-- A country in braces is read as the name of a field by every later prompt. -/
theorem braces_change_answer : ¬ ∀ (maxTurns : ℤ) (empty : ConversationContext),
    ConversationContext.create maxTurns = some empty →
    ∀ (history : List (AgentService × AgentRequest)) (service : AgentService)
      (request : AgentRequest),
      SameAnswer ((empty.after history).invoke service request).2
        (empty.invoke service request).2 := by
  intro h
  have hcreate : ConversationContext.create 10 = some tenTurns := rfl
  have hsame := h 10 tenTurns hcreate [(noData,summaryOf "{x}")] threeFeatures (summaryOf "US")
  rw [invoke_snd,invoke_snd,create_contextSummary hcreate,sameAnswer_iff] at hsame
  have hcarried : (tenTurns.after [(noData,summaryOf "{x}")]).carried = ["{x}","","","",""] := by
    decide +kernel
  have hall := (templateText_contextSummary _).mp (hsame (answerable_summaryOf "US"))
  rw [hcarried] at hall
  exact not_templateText_unknown (hall _ List.mem_cons_self)

end Braces

end MacroInvest.Agent
