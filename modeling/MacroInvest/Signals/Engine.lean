import MacroInvest.Features.Models
import MacroInvest.Library.Dict

/-! # The signal engine

Every definition is evaluated by itself, and one whose evaluation raises is left out. The rules
are placeholders and no evaluation raises: infinite weights too give a score within its bounds.
-/
namespace MacroInvest.Signals
open Features

inductive SignalType where
  | buy
  | sell
  | hold
  | neutral
  deriving DecidableEq

inductive SignalStrength where
  | veryWeak
  | weak
  | moderate
  | strong
  | veryStrong
  deriving DecidableEq

/-- A float that is not negative: a number, the infinity or NaN. -/
inductive FloatValue where
  | number (value : ℚ)
  | infinite
  | nan

namespace FloatValue

def add : FloatValue → FloatValue → FloatValue
  | number a, number b => number (a + b)
  | nan, _ => nan
  | _, nan => nan
  | _, _ => infinite

def mul : FloatValue → FloatValue → FloatValue
  | number a, number b => number (a * b)
  | nan, _ => nan
  | _, nan => nan
  | number a, infinite => if a = 0 then nan else infinite
  | infinite, number b => if b = 0 then nan else infinite
  | infinite, infinite => infinite

/-- `a / b` where `b` is not zero. -/
def div : FloatValue → FloatValue → FloatValue
  | number a, number b => number (a / b)
  | number _, infinite => number 0
  | infinite, number _ => infinite
  | _, _ => nan

/-- `a < b` -/
def less : FloatValue → FloatValue → Bool
  | number a, number b => decide (a < b)
  | number _, infinite => true
  | _, _ => false

/-- `a <= b` -/
def atMost : FloatValue → FloatValue → Bool
  | number a, number b => decide (a ≤ b)
  | number _, infinite => true
  | infinite, infinite => true
  | _, _ => false

/-- `max(0.0, min(1.0, x))`; `min` and `max` keep their first argument unless the other one
compares as better, so NaN becomes one. -/
def clamp (x : FloatValue) : FloatValue :=
  let upper := if x.less (number 1) then x else number 1
  if (number 0).less upper then upper else number 0

theorem clamp_bounds (x : FloatValue) :
    (number 0).atMost x.clamp = true ∧ x.clamp.atMost (number 1) = true := by
  cases x with
  | number value =>
    by_cases hlow : value < 1
    · by_cases hpositive : 0 < value
      · simp [clamp,less,atMost,hlow,hpositive,hpositive.le,hlow.le]
      · simp [clamp,less,atMost,hlow,hpositive]
    · simp [clamp,less,atMost,hlow]
  | infinite => simp [clamp,less,atMost]
  | nan => simp [clamp,less,atMost]

theorem zero_atMost_one : (number 0).atMost (number 1) = true := by decide +kernel

end FloatValue

open FloatValue

structure SignalRule where
  name : String
  condition : String
  weight : FloatValue := number 1
  weighted : (number 0).atMost weight = true

structure SignalDefinition where
  signalId : String
  name : String
  signalType : SignalType
  rules : List SignalRule
  ruled : rules ≠ []

structure SignalOutput where
  signalId : String
  signalType : SignalType
  strength : SignalStrength
  score : FloatValue
  rationale : String
  ruleResults : Dict String Bool
  scored : (number 0).atMost score = true ∧ score.atMost (number 1) = true

structure SignalResult where
  runId : String
  signals : List SignalOutput

def SignalResult.getSignalsByType (result : SignalResult) (signalType : SignalType) :
    List SignalOutput :=
  result.signals.filter (fun s => s.signalType = signalType)

/-- The placeholder: one half for every condition. -/
def evaluateRules (_ruleName _condition : String) (_snapshot : MacroSnapshot) : FloatValue :=
  number (1 / 2)

/-- What the loop over the rules sums up. -/
structure RuleTally where
  ruleResults : Dict String Bool := .empty
  totalWeight : FloatValue := number 0
  weightedScore : FloatValue := number 0

def RuleTally.count (snapshot : MacroSnapshot) (tally : RuleTally) (rule : SignalRule) :
    RuleTally :=
  let ruleScore := evaluateRules rule.name rule.condition snapshot
  { ruleResults := tally.ruleResults.set rule.name ((number (1 / 2)).less ruleScore)
    totalWeight := tally.totalWeight.add rule.weight
    weightedScore := tally.weightedScore.add (ruleScore.mul rule.weight) }

def RuleTally.finalScore (tally : RuleTally) : FloatValue :=
  (if (number 0).less tally.totalWeight then tally.weightedScore.div tally.totalWeight
    else number 0).clamp

theorem finalScore_bounds (tally : RuleTally) : (number 0).atMost tally.finalScore = true ∧
    tally.finalScore.atMost (number 1) = true := clamp_bounds _

def scoreToStrength (score : FloatValue) : SignalStrength :=
  if (number 0.9).atMost score then .veryStrong
  else if (number 0.7).atMost score then .strong
  else if (number 0.5).atMost score then .moderate
  else if (number 0.3).atMost score then .weak
  else .veryWeak

/-- The output of a definition; none where its schema refuses the score. -/
def evaluateSignal (signalDef : SignalDefinition) (snapshot : MacroSnapshot) :
    Option SignalOutput :=
  let tally := signalDef.rules.foldl (RuleTally.count snapshot) {}
  let score := tally.finalScore
  if h : (number 0).atMost score = true ∧ score.atMost (number 1) = true then
    some {
      signalId := signalDef.signalId
      signalType := signalDef.signalType
      strength := scoreToStrength score
      score := score
      rationale := "Signal " ++ signalDef.name ++ " evaluated with " ++
        toString tally.ruleResults.entries.length ++ " rules"
      ruleResults := tally.ruleResults
      scored := h }
  else none

/-- `SignalEngine.run` under the id drawn for it. -/
def runSignals (runId : String) (signalDefinitions : List SignalDefinition)
    (snapshot : MacroSnapshot) : Except String SignalResult :=
  if signalDefinitions = [] then .error "Signal definitions cannot be empty"
  else if snapshot.features = [] then .error "Snapshot must contain features"
  else .ok ⟨runId,signalDefinitions.filterMap (fun d => evaluateSignal d snapshot)⟩

/-- `SignalService.run_engine`. -/
def runEngine (runId : String) (signalDefinitions : List SignalDefinition)
    (snapshot : MacroSnapshot) : Except String SignalResult :=
  if signalDefinitions = [] then .error "At least one signal definition is required"
  else runSignals runId signalDefinitions snapshot

structure SignalRegistry where
  definitions : Dict String SignalDefinition

namespace SignalRegistry

/-- `KeyError` is none. -/
def get (registry : SignalRegistry) (signalId : String) : Option SignalDefinition :=
  registry.definitions.get? signalId

def register (registry : SignalRegistry) (definition : SignalDefinition) : SignalRegistry :=
  ⟨registry.definitions.set definition.signalId definition⟩

end SignalRegistry

section Evaluation
variable {signalDefinitions : List SignalDefinition}

/-- Every definition is evaluated, to a signal of its own type. -/
theorem evaluateSignal_ok (signalDef : SignalDefinition) (snapshot : MacroSnapshot) :
    ∃ output, evaluateSignal signalDef snapshot = some output ∧
      output.signalId = signalDef.signalId ∧ output.signalType = signalDef.signalType := by
  simp only [evaluateSignal]
  rw [dif_pos (finalScore_bounds _)]
  exact ⟨_,rfl,rfl,rfl⟩

/-- No definition is dropped by the engine. -/
theorem evaluateSignal_types (signalDefinitions : List SignalDefinition) (snapshot : MacroSnapshot) :
    (signalDefinitions.filterMap (fun d => evaluateSignal d snapshot)).map
        SignalOutput.signalType =
      signalDefinitions.map SignalDefinition.signalType := by
  induction signalDefinitions with
  | nil => rfl
  | cons d rest ih =>
    obtain ⟨output,houtput,-,htype⟩ := evaluateSignal_ok d snapshot
    rw [List.filterMap_cons_some (f := fun d => evaluateSignal d snapshot) houtput,List.map_cons,
      List.map_cons,htype,ih]

theorem runEngine_ok (runId : String) (snapshot : MacroSnapshot)
    (hdefinitions : signalDefinitions ≠ []) :
    ∃ result, runEngine runId signalDefinitions snapshot = .ok result ∧ result.runId = runId ∧
      result.signals.map SignalOutput.signalType =
        signalDefinitions.map SignalDefinition.signalType := by
  unfold runEngine runSignals
  rw [if_neg hdefinitions,if_neg hdefinitions,if_neg snapshot.nonEmpty]
  exact ⟨_,rfl,rfl,evaluateSignal_types signalDefinitions snapshot⟩

/-- The signals of a type are counted as the definitions of the type. -/
theorem length_getSignalsByType {result : SignalResult}
    (h : result.signals.map SignalOutput.signalType =
      signalDefinitions.map SignalDefinition.signalType) (signalType : SignalType) :
    (result.getSignalsByType signalType).length =
      (signalDefinitions.map SignalDefinition.signalType).count signalType := by
  rw [← h,SignalResult.getSignalsByType,List.count_eq_countP,List.countP_map,
    List.countP_eq_length_filter]
  rfl

/-- Buy, sell and hold make up the whole exactly where nothing is neutral. -/
theorem length_eq_counts_iff (types : List SignalType) :
    types.length = types.count .buy + types.count .sell + types.count .hold ↔
      .neutral ∉ types := by
  have htotal : types.length =
      types.count .buy + types.count .sell + types.count .hold + types.count .neutral := by
    induction types with
    | nil => rfl
    | cons t rest ih =>
      rw [List.length_cons,ih]
      cases t <;> simp <;> omega
  rw [htotal,← List.count_eq_zero]
  omega

end Evaluation

end MacroInvest.Signals
