import MacroInvest.Agent.Answers
import MacroInvest.Library.CallRun
import MacroInvest.Library.ObjectStore

/-! # Sessions

A request takes its context and its hint before it awaits the service and records its turn
after that, in whatever order the service answers. The context of a session holds the last turns
of its own completed requests and the parameters they set last, whatever else is under way.
-/
namespace MacroInvest.Agent
open CallRun ObjectStore

/-- A request awaiting the service, with the context it will be recorded in. -/
structure AwaitingCall where
  request : AgentRequest
  context : Option ℕ
  contextHint : String

/-- A call holds the context of its session, or that of the runtime when it names no session. -/
def AwaitingCall.ResolvedIn (contexts : Store String ConversationContext) (context : Option ℕ)
    (call : AwaitingCall) : Prop :=
  match call.request.session with
  | some s => ∃ i, call.context = some i ∧ contexts.ref s = some i
  | none => call.context = context

/-- The context for requests without a session is none of the sessions' contexts. -/
structure LangChainAgentRuntime where
  maxContextTurns : ℤ
  context : Option ℕ
  contexts : Store String ConversationContext
  awaiting : List AwaitingCall
  unnamed : ∀ i ∈ context, contexts.Unnamed i
  resolved : ∀ call ∈ awaiting, call.ResolvedIn contexts context

inductive RuntimeEvent where
  | start (request : AgentRequest)
  | respond (i : ℕ) (service : AgentService)

/-- What is seen of an event: the context a request reads, or how a request ends. -/
inductive Observation where
  | read (context : Option ConversationContext)
  | refused (exc : RuntimeError)
  | settled (request : AgentRequest) (response : Except ServiceError AgentReply)
      (result : Except RuntimeError AgentReply)
  | nothing

namespace LangChainAgentRuntime

/-- `LangChainAgentRuntime(…)`; `none` when it raises `ValueError`. -/
def create (enableContext : Bool) (maxContextTurns : ℤ) : Option LangChainAgentRuntime :=
  if enableContext then
    (ConversationContext.create maxContextTurns).map (fun ctx =>
      { maxContextTurns := maxContextTurns
        context := some 0
        contexts := ⟨[ctx],[],nofun,List.nodup_nil⟩
        awaiting := []
        unnamed := by
          rintro i ⟨⟩
          exact ⟨Nat.zero_lt_one,nofun⟩
        resolved := nofun })
  else
    some
      { maxContextTurns := maxContextTurns
        context := none
        contexts := ⟨[],[],nofun,List.nodup_nil⟩
        awaiting := []
        unnamed := nofun
        resolved := nofun }

variable (runtime : LangChainAgentRuntime)

/-- The contexts with the one of the request; `none` when making one raises. -/
def resolveContext (request : AgentRequest) :
    Option (Store String ConversationContext × Option ℕ) :=
  match request.session with
  | some s => (runtime.contexts.getOrCreate s
      (ConversationContext.create runtime.maxContextTurns)).map (fun p => (p.1,some p.2))
  | none => some (runtime.contexts,runtime.context)

variable {runtime} in
theorem resolveContext_cases {request : AgentRequest} {contexts : Store String ConversationContext}
    {active : Option ℕ} (h : runtime.resolveContext request = some (contexts,active)) :
    (∃ s i, request.session = some s ∧ active = some i ∧ runtime.contexts.getOrCreate s
      (ConversationContext.create runtime.maxContextTurns) = some (contexts,i)) ∨
    (request.session = none ∧ contexts = runtime.contexts ∧ active = runtime.context) := by
  unfold resolveContext at h
  split at h
  · rename_i s hs
    obtain ⟨⟨contexts',i⟩,hcreated,hpair⟩ := Option.map_eq_some_iff.mp h
    obtain ⟨rfl,rfl⟩ := Prod.mk.inj hpair
    exact .inl ⟨s,i,hs,rfl,hcreated⟩
  · rename_i hnone
    obtain ⟨rfl,rfl⟩ := Prod.mk.inj (Option.some.inj h)
    exact .inr ⟨hnone,rfl,rfl⟩

variable {runtime} in
theorem resolveContext_unnamed {request : AgentRequest}
    {contexts : Store String ConversationContext} {active : Option ℕ}
    (h : runtime.resolveContext request = some (contexts,active)) :
    ∀ i ∈ runtime.context, contexts.Unnamed i := by
  intro i hi
  rcases resolveContext_cases h with ⟨s,j,-,-,hcreated⟩ | ⟨-,rfl,-⟩
  · exact (runtime.unnamed i hi).getOrCreate hcreated
  · exact runtime.unnamed i hi

variable {runtime} in
theorem resolveContext_resolved {request : AgentRequest}
    {contexts : Store String ConversationContext} {active : Option ℕ}
    (h : runtime.resolveContext request = some (contexts,active)) (contextHint : String) :
    ∀ call ∈ runtime.awaiting ++ [⟨request,active,contextHint⟩],
      call.ResolvedIn contexts runtime.context := by
  intro call hcall
  rcases List.mem_append.mp hcall with hcall | hcall
  · have hold := runtime.resolved call hcall
    rcases resolveContext_cases h with ⟨s,j,-,-,hcreated⟩ | ⟨-,rfl,-⟩
    · unfold AwaitingCall.ResolvedIn at hold ⊢
      split at hold
      · obtain ⟨i,hi,href⟩ := hold
        exact ⟨i,hi,Store.ref_getOrCreate_of_some hcreated href⟩
      · exact hold
    · exact hold
  · obtain rfl := List.mem_singleton.mp hcall
    unfold AwaitingCall.ResolvedIn
    rcases resolveContext_cases h with ⟨s,i,hs,rfl,hcreated⟩ | ⟨hnone,-,rfl⟩
    · simp only [hs]
      exact ⟨i,rfl,Store.ref_getOrCreate hcreated⟩
    · simp only [hnone]

/-- `invoke` up to the call of the service. -/
def beginInvoke (request : AgentRequest) : LangChainAgentRuntime × Observation :=
  match h : runtime.resolveContext request with
  | none => (runtime,.refused (.valueError ("max_turns must be >= 1, got " ++
      toString runtime.maxContextTurns)))
  | some (contexts,active) =>
    let ctx := active.bind contexts.object
    let contextHint := (ctx.map ConversationContext.contextSummary).getD ""
    ({ maxContextTurns := runtime.maxContextTurns
       context := runtime.context
       contexts := contexts
       awaiting := runtime.awaiting ++ [⟨request,active,contextHint⟩]
       unnamed := resolveContext_unnamed h
       resolved := resolveContext_resolved h contextHint },.read ctx)

end LangChainAgentRuntime

/-- A request that returns is recorded in the context it took. -/
def AwaitingCall.record (call : AwaitingCall) (result : Except RuntimeError AgentReply)
    (contexts : Store String ConversationContext) : Store String ConversationContext :=
  match call.context, result with
  | some i, .ok reply => contexts.update i (fun ctx => ctx.addTurn (turnOf call.request reply))
  | _, _ => contexts

section Record
variable {call : AwaitingCall} {result : Except RuntimeError AgentReply}
  {contexts : Store String ConversationContext}

@[simp] theorem ref_record (s : String) : (call.record result contexts).ref s = contexts.ref s := by
  unfold AwaitingCall.record
  split <;> rfl

theorem unnamed_record {i : ℕ} (h : contexts.Unnamed i) :
    (call.record result contexts).Unnamed i := by
  unfold AwaitingCall.record
  split
  · exact h.update _ _
  · exact h

theorem resolvedIn_record {call' : AwaitingCall} {context : Option ℕ} :
    call'.ResolvedIn (call.record result contexts) context ↔ call'.ResolvedIn contexts context := by
  simp only [AwaitingCall.ResolvedIn,ref_record]

/-- A call of a session changes what the session stands for, and nothing else. -/
theorem valueOr_record {fresh : ConversationContext} {context : Option ℕ} {reply : AgentReply}
    (hunnamed : ∀ i ∈ context, contexts.Unnamed i) (hresolved : call.ResolvedIn contexts context)
    (s : String) : (call.record (.ok reply) contexts).valueOr fresh s =
      if call.request.session = some s then
        (contexts.valueOr fresh s).addTurn (turnOf call.request reply)
      else contexts.valueOr fresh s := by
  unfold AwaitingCall.ResolvedIn at hresolved
  split at hresolved
  · rename_i t ht
    obtain ⟨i,hi,href⟩ := hresolved
    simp only [AwaitingCall.record,hi,ht,Option.some.injEq]
    split
    · rename_i hts
      exact Store.valueOr_update (hts ▸ href) _
    · rename_i hts
      exact Store.valueOr_update_of_ne (fun hs => hts (Store.ref_injective href hs)) _
  · rename_i hnone
    rw [if_neg (by simp [hnone])]
    unfold AwaitingCall.record
    split
    · rename_i i result hi hok
      have hcontext : i ∈ context := hresolved ▸ hi
      exact Store.valueOr_update_of_ne ((hunnamed i hcontext).ne s) _
    · rfl

end Record

namespace LangChainAgentRuntime
variable (runtime : LangChainAgentRuntime)

/-- `invoke` from the response of the service on. -/
def endInvoke (i : ℕ) (service : AgentService) : LangChainAgentRuntime × Observation :=
  match runtime.awaiting[i]? with
  | none => (runtime,.nothing)
  | some call =>
    let result := answer service call.contextHint call.request
    ({ maxContextTurns := runtime.maxContextTurns
       context := runtime.context
       contexts := call.record result runtime.contexts
       awaiting := runtime.awaiting.eraseIdx i
       unnamed := fun j hj => unnamed_record (runtime.unnamed j hj)
       resolved := fun call' hcall => resolvedIn_record.mpr
         (runtime.resolved call' (List.mem_of_mem_eraseIdx hcall)) },
      .settled call.request (service.respond call.request) result)

def step (runtime : LangChainAgentRuntime) : RuntimeEvent → LangChainAgentRuntime × Observation
  | .start request => runtime.beginInvoke request
  | .respond i service => runtime.endInvoke i service

end LangChainAgentRuntime

section Completed

/-- A request of the session that returned, with the response of the service. -/
def completedIn (s : String) : Observation → Option (AgentRequest × AgentReply)
  | .settled request (.ok response) (.ok _) =>
    if request.session = some s then some (request,response) else none
  | _ => none

/-- The completed requests of a session, in the order of their completion. -/
def completed (s : String) (trace : List (RuntimeEvent × Observation)) :
    List (AgentRequest × AgentReply) := trace.filterMap (fun p => completedIn s p.2)

theorem completed_concat (s : String) (trace : List (RuntimeEvent × Observation))
    (event : RuntimeEvent) (observed : Observation) :
    completed s (trace ++ [(event,observed)]) =
      completed s trace ++ (completedIn s observed).toList := by
  rw [completed,List.filterMap_append]
  cases h : completedIn s observed <;> simp [completed,h]

def turnAfter (p : AgentRequest × AgentReply) : ConversationTurn :=
  turnOf p.1 (plainReply p.1 p.2)

/-- The most recent value that is set. -/
def latest {α β : Type} (value : α → Option β) (log : List α) : Option β :=
  log.reverse.findSome? value

theorem latest_concat {α β : Type} (value : α → Option β) (log : List α) (a : α) :
    latest value (log ++ [a]) = (value a).or (latest value log) := by
  rw [latest,List.reverse_append,List.reverse_singleton,List.singleton_append,
    List.findSome?_cons]
  cases value a with
  | none => rfl
  | some b => rfl

def latestParameters (log : List (AgentRequest × AgentReply)) : AnalysisParameters where
  country := latest (fun p => (extractParameters p.1).country) log
  timeframe := latest (fun p => (extractParameters p.1).timeframe) log
  signalType := latest (fun p => (extractParameters p.1).signalType) log
  comparisonTarget := latest (fun p => (extractParameters p.1).comparisonTarget) log

theorem latestParameters_concat (log : List (AgentRequest × AgentReply))
    (p : AgentRequest × AgentReply) : latestParameters (log ++ [p]) =
      (extractParameters p.1).merge (latestParameters log) := by
  simp only [latestParameters,latest_concat,AnalysisParameters.merge]

theorem rtake_concat_rtake {α : Type} (l : List α) (a : α) (n : ℕ) :
    (l.rtake n ++ [a]).rtake n = (l ++ [a]).rtake n := by
  simp only [List.rtake_eq_reverse_take_reverse,List.reverse_append,List.reverse_reverse,
    List.reverse_singleton,List.singleton_append]
  cases n with
  | zero => rfl
  | succ n => simp [List.take_take]

/-- What a session stands for after its completed requests: their last turns, and of each
parameter the value set last. -/
structure Remembers (maxTurns : ℕ) (log : List (AgentRequest × AgentReply))
    (ctx : ConversationContext) : Prop where
  limit : ctx.maxTurns = maxTurns
  turns : ctx.turns = (log.map turnAfter).rtake maxTurns
  activeParameters : ctx.activeParameters = latestParameters log

variable {maxTurns : ℕ} {log : List (AgentRequest × AgentReply)} {ctx : ConversationContext}

theorem Remembers.unique {ctx' : ConversationContext} (h : Remembers maxTurns log ctx)
    (h' : Remembers maxTurns log ctx') : ctx = ctx' := by
  obtain ⟨hlimit,hturns,hparameters⟩ := h
  obtain ⟨hlimit',hturns',hparameters'⟩ := h'
  cases ctx
  cases ctx'
  simp_all

theorem Remembers.addTurn (h : Remembers maxTurns log ctx) (p : AgentRequest × AgentReply) :
    Remembers maxTurns (log ++ [p]) (ctx.addTurn (turnAfter p)) where
  limit := h.limit
  turns := by
    have hdeque : (ctx.addTurn (turnAfter p)).turns =
        (ctx.turns ++ [turnAfter p]).rtake ctx.maxTurns := by
      rw [List.rtake,List.length_append,List.length_singleton]
      rfl
    rw [hdeque,h.limit,h.turns,List.map_append,List.map_singleton,rtake_concat_rtake]
  activeParameters := by
    rw [latestParameters_concat,← h.activeParameters]
    rfl

end Completed

section Run

/-- Every session stands for what its completed requests leave in it. -/
structure Isolated (fresh : ConversationContext) (maxContextTurns : ℤ)
    (runtime : LangChainAgentRuntime) (trace : List (RuntimeEvent × Observation)) : Prop where
  limit : runtime.maxContextTurns = maxContextTurns
  remembers : ∀ s, Remembers maxContextTurns.toNat (completed s trace)
    (runtime.contexts.valueOr fresh s)

variable {fresh : ConversationContext} {maxContextTurns : ℤ} {runtime : LangChainAgentRuntime}
  {trace : List (RuntimeEvent × Observation)}

theorem create_limit {enableContext : Bool}
    (h : LangChainAgentRuntime.create enableContext maxContextTurns = some runtime) :
    runtime.maxContextTurns = maxContextTurns := by
  unfold LangChainAgentRuntime.create at h
  split at h
  · obtain ⟨ctx,-,rfl⟩ := Option.map_eq_some_iff.mp h
    rfl
  · obtain rfl := Option.some.inj h
    rfl

theorem create_ref {enableContext : Bool}
    (h : LangChainAgentRuntime.create enableContext maxContextTurns = some runtime) (s : String) :
    runtime.contexts.ref s = none := by
  unfold LangChainAgentRuntime.create at h
  split at h
  · obtain ⟨ctx,-,rfl⟩ := Option.map_eq_some_iff.mp h
    rfl
  · obtain rfl := Option.some.inj h
    rfl

variable (hfresh : ConversationContext.create maxContextTurns = some fresh)
include hfresh

theorem remembers_fresh : Remembers maxContextTurns.toNat [] fresh := by
  unfold ConversationContext.create at hfresh
  split at hfresh
  · obtain rfl := Option.some.inj hfresh
    exact ⟨rfl,(List.rtake_nil _).symm,rfl⟩
  · cases hfresh

theorem isolated_create {enableContext : Bool}
    (h : LangChainAgentRuntime.create enableContext maxContextTurns = some runtime) :
    Isolated fresh maxContextTurns runtime [] where
  limit := create_limit h
  remembers := by
    intro s
    rw [Store.valueOr,create_ref h]
    exact remembers_fresh hfresh

theorem Isolated.beginInvoke (h : Isolated fresh maxContextTurns runtime trace)
    (request : AgentRequest) : Isolated fresh maxContextTurns (runtime.beginInvoke request).1
      (trace ++ [(.start request,(runtime.beginInvoke request).2)]) := by
  unfold LangChainAgentRuntime.beginInvoke
  split
  · refine ⟨h.limit,fun s => ?_⟩
    simpa [completed_concat,completedIn] using h.remembers s
  · rename_i contexts active hresolve
    refine ⟨h.limit,fun s => ?_⟩
    have hvalue : contexts.valueOr fresh s = runtime.contexts.valueOr fresh s := by
      rcases LangChainAgentRuntime.resolveContext_cases hresolve with
        ⟨t,i,-,-,hcreated⟩ | ⟨-,rfl,-⟩
      · rw [h.limit,hfresh] at hcreated
        exact Store.valueOr_getOrCreate hcreated s
      · rfl
    simpa [completed_concat,completedIn,hvalue] using h.remembers s

omit hfresh in
/-- A session remembers a request when it is its own and it returns. -/
theorem remembers_settled {call : AwaitingCall} {service : AgentService} {event : RuntimeEvent}
    {result : Except RuntimeError AgentReply}
    (hresult : answer service call.contextHint call.request = result)
    (hcall : call ∈ runtime.awaiting) {n : ℕ} {s : String}
    (h : Remembers n (completed s trace) (runtime.contexts.valueOr fresh s)) :
    Remembers n (completed s (trace ++
        [(event,.settled call.request (service.respond call.request) result)]))
      ((call.record result runtime.contexts).valueOr fresh s) := by
  cases result with
  | error exc =>
    have hrecord : call.record (.error exc) runtime.contexts = runtime.contexts := by
      unfold AwaitingCall.record
      split
      · rename_i hok
        cases hok
      · rfl
    simpa [completed_concat,completedIn,hrecord] using h
  | ok reply =>
    obtain ⟨response,hrespond,rfl⟩ := answer_ok hresult
    rw [valueOr_record runtime.unnamed (runtime.resolved call hcall),completed_concat,hrespond]
    simp only [completedIn]
    split
    · exact h.addTurn (call.request,response)
    · simpa using h

omit hfresh in
theorem Isolated.endInvoke (h : Isolated fresh maxContextTurns runtime trace) (i : ℕ)
    (service : AgentService) : Isolated fresh maxContextTurns (runtime.endInvoke i service).1
      (trace ++ [(.respond i service,(runtime.endInvoke i service).2)]) := by
  unfold LangChainAgentRuntime.endInvoke
  split
  · refine ⟨h.limit,fun s => ?_⟩
    simpa [completed_concat,completedIn] using h.remembers s
  · rename_i call hcall
    exact ⟨h.limit,fun s =>
      remembers_settled rfl (List.mem_of_getElem? hcall) (h.remembers s)⟩

theorem isolated_run {enableContext : Bool} {initial : LangChainAgentRuntime}
    (h : LangChainAgentRuntime.create enableContext maxContextTurns = some initial)
    (events : List RuntimeEvent) : Isolated fresh maxContextTurns
      (final LangChainAgentRuntime.step initial events)
      (CallRun.trace LangChainAgentRuntime.step initial events) := by
  refine run_induction (G := fun _ _ => True) (isolated_create hfresh h) ?_ events
    (admits_of_forall fun _ _ _ => trivial)
  intro t trace event _ hisolated
  cases event with
  | start request => exact hisolated.beginInvoke hfresh request
  | respond i service => exact hisolated.endInvoke i service

/-- A request of a session reads what the session stands for. -/
theorem read_session (hlimit : runtime.maxContextTurns = maxContextTurns) {request : AgentRequest}
    {s : String} (hsession : request.session = some s) :
    (runtime.beginInvoke request).2 = .read (some (runtime.contexts.valueOr fresh s)) := by
  obtain ⟨⟨contexts,i⟩,hcreated⟩ := Store.exists_getOrCreate runtime.contexts s fresh
  have hresolve : runtime.resolveContext request = some (contexts,some i) := by
    rw [LangChainAgentRuntime.resolveContext,hsession]
    simp only [hlimit,hfresh,hcreated,Option.map_some]
  unfold LangChainAgentRuntime.beginInvoke
  split
  · rename_i hnone
    rw [hresolve] at hnone
    cases hnone
  · rename_i contexts' active hsome
    rw [hresolve] at hsome
    obtain ⟨rfl,rfl⟩ := Prod.mk.inj (Option.some.inj hsome)
    exact congrArg Observation.read (Store.object_getOrCreate hcreated)

end Run

/-- Two runs, whatever else they interleave, that completed the same requests of a session with
the same responses show the same context to its next request. -/
theorem same_completed_same_context {enableContext enableContext' : Bool} {maxContextTurns : ℤ}
    {initial initial' : LangChainAgentRuntime}
    (hcreate : LangChainAgentRuntime.create enableContext maxContextTurns = some initial)
    (hcreate' : LangChainAgentRuntime.create enableContext' maxContextTurns = some initial')
    (hturns : 1 ≤ maxContextTurns) {events events' : List RuntimeEvent} {s : String}
    (hcompleted : completed s (trace LangChainAgentRuntime.step initial events) =
      completed s (trace LangChainAgentRuntime.step initial' events'))
    {request request' : AgentRequest} (hsession : request.session = some s)
    (hsession' : request'.session = some s) :
    ((final LangChainAgentRuntime.step initial events).step (.start request)).2 =
      ((final LangChainAgentRuntime.step initial' events').step (.start request')).2 := by
  obtain ⟨fresh,hfresh⟩ : ∃ fresh, ConversationContext.create maxContextTurns = some fresh :=
    ⟨_,dif_pos hturns⟩
  have hrun := isolated_run hfresh hcreate events
  have hrun' := isolated_run hfresh hcreate' events'
  have hsame := (hrun.remembers s).unique (hcompleted ▸ hrun'.remembers s)
  have hread := read_session hfresh hrun.limit hsession
  have hread' := read_session hfresh hrun'.limit hsession'
  rw [← hsame] at hread'
  exact hread.trans hread'.symm

/-- Whatever requests are interleaved, a request of a session reads the last turns of the
session's completed requests and the parameters they set last. -/
theorem session_isolation {enableContext : Bool} {maxContextTurns : ℤ}
    {initial : LangChainAgentRuntime}
    (hcreate : LangChainAgentRuntime.create enableContext maxContextTurns = some initial)
    (hturns : 1 ≤ maxContextTurns) (events : List RuntimeEvent) {request : AgentRequest}
    {s : String} (hsession : request.session = some s) :
    ∃ ctx,
      ((final LangChainAgentRuntime.step initial events).step (.start request)).2 =
        .read (some ctx) ∧
      ctx.turns = ((completed s (trace LangChainAgentRuntime.step initial events)).map
        turnAfter).rtake maxContextTurns.toNat ∧
      ctx.activeParameters =
        latestParameters (completed s (trace LangChainAgentRuntime.step initial events)) := by
  obtain ⟨fresh,hfresh⟩ : ∃ fresh, ConversationContext.create maxContextTurns = some fresh :=
    ⟨_,dif_pos hturns⟩
  have hrun := isolated_run hfresh hcreate events
  have hremembers := hrun.remembers s
  exact ⟨_,read_session hfresh hrun.limit hsession,hremembers.turns,hremembers.activeParameters⟩

section TwoSessions

def comparisonIn (s : String) : AgentRequest :=
  .snapshotComparison
    { requestId := "c", timestamp := 0, sessionId := some s, priorSnapshotLabel := "Q1",
      identified := by decide, labelled := by decide }

def summaryIn (s country : String) : AgentRequest :=
  .snapshotSummary
    { requestId := "b", timestamp := 0, sessionId := some s, country := country,
      identified := by decide }

/-- Two requests of session a and one of session b, answered in another order. -/
def interleaved : List RuntimeEvent :=
  [.start (comparisonIn "a"),.start (summaryIn "b" "JP"),.respond 0 noData,
    .start (summaryIn "a" "KR"),.respond 1 noData,.respond 0 noData]

theorem session_isolation_interleaved : ∃ ctx,
    ((final LangChainAgentRuntime.step ((LangChainAgentRuntime.create true 1).get (by decide))
      interleaved).step (.start (summaryIn "a" "US"))).2 = .read (some ctx) ∧
    ctx.turns.map (·.requestSnapshot) = [summaryIn "a" "KR"] ∧
    ctx.activeParameters = { country := some "KR", comparisonTarget := some "Q1" } := by
  have hsession : (summaryIn "a" "US").session = some "a" := rfl
  obtain ⟨ctx,hread,hturns,hparameters⟩ := session_isolation
    (Option.some_get (by decide : (LangChainAgentRuntime.create true 1).isSome)).symm le_rfl
    interleaved hsession
  refine ⟨ctx,hread,?_,?_⟩
  · rw [hturns]
    rfl
  · rw [hparameters]
    decide +kernel

end TwoSessions

end MacroInvest.Agent
