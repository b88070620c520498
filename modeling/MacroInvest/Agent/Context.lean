import MacroInvest.Agent.Schemas
import MacroInvest.Agent.Templates

/-! # Conversation contexts

A context keeps the last turns of a conversation and the parameters set last. Its summary
carries texts of earlier requests and responses: the parameters and the beginnings of the
summaries of the last three turns.
-/
namespace MacroInvest.Agent
open FormatString

structure AnalysisParameters where
  country : Option String := none
  timeframe : Option String := none
  signalType : Option String := none
  comparisonTarget : Option String := none
  deriving DecidableEq, Repr

namespace AnalysisParameters

/-- What is not set here is inherited. -/
def merge (current prior : AnalysisParameters) : AnalysisParameters where
  country := current.country.or prior.country
  timeframe := current.timeframe.or prior.timeframe
  signalType := current.signalType.or prior.signalType
  comparisonTarget := current.comparisonTarget.or prior.comparisonTarget

/-- `f"{name}={value}"` when the value is set and not empty. -/
def hintPart (name : String) (value : Option String) : List String :=
  if value.getD "" = "" then [] else [name ++ "=" ++ value.getD ""]

end AnalysisParameters

/-- `sep.join(parts)`. -/
def joinText (sep : String) (parts : List String) : String :=
  String.ofList (join sep.toList (parts.map String.toList))

def AnalysisParameters.asContextHint (p : AnalysisParameters) : String :=
  joinText ", " (hintPart "country" p.country ++ hintPart "timeframe" p.timeframe ++
    hintPart "signal_type" p.signalType ++ hintPart "comparison_target" p.comparisonTarget)

structure ConversationTurn where
  requestType : String
  requestSnapshot : AgentRequest
  responseSummary : String
  success : Bool
  activeParameters : AnalysisParameters
  typed : requestType = requestSnapshot.typeName

/-- A context never holds more turns than its limit, and the limit is at least one. -/
structure ConversationContext where
  maxTurns : ℕ
  turns : List ConversationTurn
  activeParameters : AnalysisParameters
  positive : 1 ≤ maxTurns
  bounded : turns.length ≤ maxTurns

namespace ConversationContext

/-- `ConversationContext(max_turns=n)`; `none` when it raises `ValueError`. -/
def create (maxTurns : ℤ) : Option ConversationContext :=
  if h : 1 ≤ maxTurns then some ⟨maxTurns.toNat,[],{},by omega,Nat.zero_le _⟩ else none

/-- The deque drops its oldest turn when it is full. -/
def addTurn (ctx : ConversationContext) (turn : ConversationTurn) : ConversationContext where
  maxTurns := ctx.maxTurns
  turns := (ctx.turns ++ [turn]).drop (ctx.turns.length + 1 - ctx.maxTurns)
  activeParameters := turn.activeParameters.merge ctx.activeParameters
  positive := ctx.positive
  bounded := by
    rw [List.length_drop,List.length_append,List.length_singleton]
    have hpositive := ctx.positive
    omega

end ConversationContext

/-- The first 80 characters of a summary. -/
def digestText (summary : String) : String := String.ofList (summary.toList.take 80)

def digest (i : ℕ) (turn : ConversationTurn) : String :=
  let status := if turn.success then "ok" else "failed"
  "[" ++ toString i ++ "] " ++ turn.requestType ++ " (" ++ status ++ ")" ++
    if turn.responseSummary = "" then "" else ": " ++ digestText turn.responseSummary

namespace ConversationContext
variable (ctx : ConversationContext)

/-- At most three turns are told in a hint. -/
def recentTurns : List ConversationTurn := ctx.turns.drop (ctx.turns.length - 3)

def digests : List String := ctx.recentTurns.zipIdx.map (fun p => digest (p.2 + 1) p.1)

def contextSummary : String :=
  let paramsHint := ctx.activeParameters.asContextHint
  let parts := if paramsHint = "" then [] else ["Active parameters: " ++ paramsHint ++ "."]
  let recent :=
    if ctx.recentTurns = [] then []
    else ["Recent turns: " ++ joinText " | " ctx.digests ++ "."]
  joinText " " (parts ++ recent)

end ConversationContext

/-- The texts of earlier requests and responses in the summary. -/
def ConversationContext.carried (ctx : ConversationContext) : List String :=
  [ctx.activeParameters.country.getD "",ctx.activeParameters.timeframe.getD "",
    ctx.activeParameters.signalType.getD "",ctx.activeParameters.comparisonTarget.getD ""] ++
    ctx.recentTurns.map (fun turn => digestText turn.responseSummary)

section Hint

theorem braceFree_toString (n : ℕ) : BraceFree (toString n) := by
  have hdigit : ∀ c ∈ (toString n).toList, c.isDigit := by
    intro c hc
    have hlist : (toString n).toList = Nat.toDigits 10 n := Nat.toList_repr
    exact Nat.isDigit_of_mem_toDigits (by decide) (by decide) (hlist ▸ hc)
  exact ⟨fun h => absurd (hdigit _ h) (by decide +kernel),
    fun h => absurd (hdigit _ h) (by decide +kernel)⟩

theorem braceFree_typeName (request : AgentRequest) : BraceFree request.typeName := by
  cases request with
  | signalReview =>
    show BraceFree "SignalReviewRequest"
    decide +kernel
  | snapshotSummary =>
    show BraceFree "MacroSnapshotSummaryRequest"
    decide +kernel
  | snapshotComparison =>
    show BraceFree "SnapshotComparisonRequest"
    decide +kernel

variable {prompt : Prompt}

theorem templateText_literal_append {text s : String} (htext : BraceFree text) :
    TemplateText prompt.names (text ++ s) ↔ TemplateText prompt.names s := by
  rw [TemplateText,String.toList_append,wellFormed_literal_iff htext.1 htext.2,TemplateText]

theorem templateText_of_braceFree (prompt : Prompt) {text : String} (htext : BraceFree text) :
    TemplateText prompt.names text := wellFormed_of_literal htext.1 htext.2

theorem templateText_append_stop (s : String) :
    TemplateText prompt.names (s ++ ".") ↔ TemplateText prompt.names s := by
  have hstop : ".".toList = ['.'] := rfl
  rw [TemplateText,String.toList_append,hstop,wellFormed_append_iff (prompt.separates (by decide))]
  exact and_iff_left .nil

theorem templateText_joinText {sep : String} {x : Char} (tail : List Char)
    (hsep : sep.toList = x :: tail) (hx : x ∈ separators) (hop : openBrace ∉ tail)
    (hcl : closeBrace ∉ tail) (parts : List String) :
    TemplateText prompt.names (joinText sep parts) ↔
      ∀ p ∈ parts, TemplateText prompt.names p := by
  rw [TemplateText,joinText,String.toList_ofList,hsep,
    wellFormed_join_iff (prompt.separates hx) hop hcl,List.forall_mem_map]
  rfl

theorem templateText_empty : TemplateText prompt.names "" := .nil

theorem templateText_hintPart (name : String) (hname : BraceFree (name ++ "="))
    (value : Option String) :
    (∀ p ∈ AnalysisParameters.hintPart name value, TemplateText prompt.names p) ↔
      TemplateText prompt.names (value.getD "") := by
  unfold AnalysisParameters.hintPart
  split
  · rename_i hempty
    rw [hempty]
    simpa using templateText_empty
  · rw [List.forall_mem_singleton,templateText_literal_append hname]

theorem templateText_asContextHint (p : AnalysisParameters) :
    TemplateText prompt.names p.asContextHint ↔
      ∀ text ∈ [p.country.getD "",p.timeframe.getD "",p.signalType.getD "",
        p.comparisonTarget.getD ""], TemplateText prompt.names text := by
  rw [AnalysisParameters.asContextHint,
    templateText_joinText [' '] rfl (by decide) (by decide) (by decide)]
  simp only [List.forall_mem_append,List.forall_mem_cons,
    templateText_hintPart "country" (by decide +kernel),
    templateText_hintPart "timeframe" (by decide +kernel),
    templateText_hintPart "signal_type" (by decide +kernel),
    templateText_hintPart "comparison_target" (by decide +kernel)]
  simp [and_assoc]

theorem templateText_digest (i : ℕ) (turn : ConversationTurn) :
    TemplateText prompt.names (digest i turn) ↔
      TemplateText prompt.names (digestText turn.responseSummary) := by
  have hstatus : BraceFree (if turn.success then "ok" else "failed") := by
    split <;> decide +kernel
  have htype : BraceFree turn.requestType := turn.typed ▸ braceFree_typeName _
  have hhead : BraceFree ("[" ++ toString i ++ "] " ++ turn.requestType ++ " (" ++
      (if turn.success then "ok" else "failed") ++ ")") := by
    refine BraceFree.append (.append (.append (.append (.append (.append ?_ ?_) ?_) htype) ?_)
      hstatus) ?_
    · decide +kernel
    · exact braceFree_toString i
    · decide +kernel
    · decide +kernel
    · decide +kernel
  rw [digest,templateText_literal_append hhead]
  split
  · rename_i hempty
    rw [hempty]
    rfl
  · rw [templateText_literal_append (by decide +kernel)]

theorem templateText_digests (turns : List ConversationTurn) (n : ℕ) :
    (∀ text ∈ (turns.zipIdx n).map (fun p => digest (p.2 + 1) p.1),
      TemplateText prompt.names text) ↔
    ∀ turn ∈ turns, TemplateText prompt.names (digestText turn.responseSummary) := by
  induction turns generalizing n with
  | nil => simp
  | cons turn turns ih =>
    rw [List.zipIdx_cons,List.map_cons,List.forall_mem_cons,ih,templateText_digest,
      List.forall_mem_cons]

/-- A summary is a template of the prompt's names exactly when every carried text is. -/
theorem templateText_contextSummary (ctx : ConversationContext) :
    TemplateText prompt.names ctx.contextSummary ↔
      ∀ text ∈ ctx.carried, TemplateText prompt.names text := by
  have hparams : (∀ p ∈ (if ctx.activeParameters.asContextHint = "" then []
      else ["Active parameters: " ++ ctx.activeParameters.asContextHint ++ "."]),
        TemplateText prompt.names p) ↔
      TemplateText prompt.names ctx.activeParameters.asContextHint := by
    split
    · rename_i hempty
      rw [hempty]
      simpa using templateText_empty
    · rw [List.forall_mem_singleton,String.append_assoc,
        templateText_literal_append (by decide +kernel),templateText_append_stop]
  have hrecent : (∀ p ∈ (if ctx.recentTurns = [] then []
      else ["Recent turns: " ++ joinText " | " ctx.digests ++ "."]),
        TemplateText prompt.names p) ↔
      ∀ turn ∈ ctx.recentTurns, TemplateText prompt.names (digestText turn.responseSummary) := by
    split
    · rename_i hempty
      simp [hempty]
    · rw [List.forall_mem_singleton,String.append_assoc,
        templateText_literal_append (by decide +kernel),templateText_append_stop,
        templateText_joinText ['|',' '] rfl (by decide) (by decide +kernel)
          (by decide +kernel),ConversationContext.digests,templateText_digests]
  rw [ConversationContext.contextSummary,
    templateText_joinText [] rfl (by decide) (by decide) (by decide),
    List.forall_mem_append,hparams,hrecent,templateText_asContextHint,
    ConversationContext.carried,List.forall_mem_append,List.forall_mem_map]

end Hint

end MacroInvest.Agent
