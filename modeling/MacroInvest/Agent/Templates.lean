import MacroInvest.Library.FormatString

/-! # Prompt templates

Each operation has a prompt of a system and a human message, formatted with one set of values.
The human message is the summary. A context hint is appended to the system message and becomes
part of its template, so a hint that is no template of the prompt's names makes the rendering
fail.
-/
namespace MacroInvest.Agent
open FormatString

def openBrace : Char := Char.ofNat 123
def closeBrace : Char := Char.ofNat 125

theorem openBrace_ne_closeBrace : openBrace ≠ closeBrace := by decide

abbrev TemplateError := FormatError Char

/-- A text that can be formatted when these names have values. -/
def TemplateText (names : List String) (text : String) : Prop :=
  WellFormed openBrace closeBrace (fun name => String.ofList name ∈ names) text.toList

/-- `template.format(**values)` for a template of plain fields. -/
def formatTemplate (values : List (String × String)) (template : String) :
    Except TemplateError String :=
  (format openBrace closeBrace
    (fun name => (values.lookup (String.ofList name)).map String.toList) template.toList).map
      String.ofList

/-- The characters that stand next to a carried text in a hint. -/
def separators : List Char := [',','.',' ',']']

def plainName (name : String) : Bool := separators.all (fun x => x ∉ name.toList)

structure Prompt where
  system : String
  human : String
  names : List String
  systemPlain : openBrace ∉ system.toList ∧ closeBrace ∉ system.toList
  humanFits : TemplateText names human
  namesPlain : ∀ name ∈ names, plainName name

section Formatting
variable {names : List String} {values : List (String × String)}

theorem lookup_isSome_iff (name : String) :
    (values.lookup name).isSome ↔ name ∈ values.map Prod.fst := by
  induction values with
  | nil => simp
  | cons p values ih =>
    by_cases h : name = p.1
    · simp [List.lookup,h]
    · simp [List.lookup,h,beq_false_of_ne h,ih]

theorem formatTemplate_isOk_iff (template : String) :
    (∃ text, formatTemplate values template = .ok text) ↔
      TemplateText (values.map Prod.fst) template := by
  have hmap : ∀ x : Except TemplateError (List Char),
      (∃ text, x.map String.ofList = .ok text) ↔ ∃ text, x = .ok text := by
    intro x
    cases x with
    | error e => simp [Except.map]
    | ok text => simp [Except.map]
  rw [formatTemplate,hmap,format_isOk_iff openBrace_ne_closeBrace,TemplateText]
  simp only [Option.isSome_map,lookup_isSome_iff]

theorem Prompt.separates (prompt : Prompt) {x : Char} (hx : x ∈ separators) :
    Separates openBrace closeBrace (fun name => String.ofList name ∈ prompt.names) x := by
  have hbraces : separators.all (fun x => x ≠ openBrace ∧ x ≠ closeBrace) := by decide +kernel
  obtain ⟨hop,hcl⟩ := of_decide_eq_true (List.all_eq_true.mp hbraces x hx)
  refine ⟨hop,hcl,fun name hname => ?_⟩
  have hplain := List.all_eq_true.mp (prompt.namesPlain _ hname) x hx
  simpa using hplain

end Formatting

def BraceFree (text : String) : Prop := openBrace ∉ text.toList ∧ closeBrace ∉ text.toList

instance (text : String) : Decidable (BraceFree text) := inferInstanceAs (Decidable (_ ∧ _))

theorem BraceFree.append {a b : String} (ha : BraceFree a) (hb : BraceFree b) :
    BraceFree (a ++ b) := by
  simp only [BraceFree,String.toList_append,List.mem_append,not_or]
  exact ⟨⟨ha.1,hb.1⟩,ha.2,hb.2⟩

section Literals
variable {l : List Char} {names : List String} {a b : String}

theorem braceFree_ofList (h : l.all (fun c => c ≠ openBrace ∧ c ≠ closeBrace)) :
    BraceFree (String.ofList l) := by
  have hplain : ∀ c ∈ l, c ≠ openBrace ∧ c ≠ closeBrace := by simpa using h
  rw [BraceFree,String.toList_ofList]
  exact ⟨fun hop => (hplain _ hop).1 rfl,fun hcl => (hplain _ hcl).2 rfl⟩

/-- The scan of a template finds known fields only. -/
def fits (names : List String) (l : List Char) : Bool :=
  match scan openBrace closeBrace l with
  | none => false
  | some pieces => pieces.all (fun
    | .char _ => true
    | .field name => String.ofList name ∈ names)

theorem templateText_ofList (h : fits names l) : TemplateText names (String.ofList l) := by
  have haccepts : Accepts openBrace closeBrace (fun name => String.ofList name ∈ names) .text l ↔
      _ := accepts_iff openBrace_ne_closeBrace trivial
  rw [TemplateText,String.toList_ofList]
  unfold fits at h
  split at h
  · cases h
  · rename_i pieces hscan
    refine haccepts.mp ⟨pieces,hscan,fun name hname => ?_⟩
    have hknown := List.all_eq_true.mp h _ hname
    simpa using hknown

theorem TemplateText.append (ha : TemplateText names a) (hb : TemplateText names b) :
    TemplateText names (a ++ b) := by
  rw [TemplateText,String.toList_append]
  exact WellFormed.append ha hb

end Literals

namespace Prompt
variable (prompt : Prompt)

/-- The system message with the hint. -/
def systemWith (contextSummary : String) : String :=
  if contextSummary = "" then prompt.system
  else prompt.system ++ " [Session context: " ++ contextSummary ++ "]"

/-- The human message; the system message is formatted too. -/
def render (values : List (String × String)) (contextSummary : String) :
    Except TemplateError String := do
  let _ ← formatTemplate values (prompt.systemWith contextSummary)
  formatTemplate values prompt.human

end Prompt

section Render
variable {prompt : Prompt} {values : List (String × String)}

/-- The hint stands between text without braces and a separator. -/
theorem templateText_systemWith (contextSummary : String) :
    TemplateText prompt.names (prompt.systemWith contextSummary) ↔
      TemplateText prompt.names contextSummary := by
  have hopening : openBrace ∉ " [Session context: ".toList ∧
      closeBrace ∉ " [Session context: ".toList := by decide +kernel
  have hsystem : TemplateText prompt.names prompt.system :=
    wellFormed_of_literal prompt.systemPlain.1 prompt.systemPlain.2
  unfold Prompt.systemWith
  split
  · rename_i hempty
    subst hempty
    exact iff_of_true hsystem .nil
  · have hclosing : "]".toList = [']'] := rfl
    rw [TemplateText,String.toList_append,String.toList_append,String.toList_append,
      List.append_assoc,List.append_assoc,
      wellFormed_literal_iff prompt.systemPlain.1 prompt.systemPlain.2,
      wellFormed_literal_iff hopening.1 hopening.2,hclosing,
      wellFormed_append_iff (prompt.separates (by decide))]
    exact and_iff_left .nil

variable (hvalues : values.map Prod.fst = prompt.names)
include hvalues

theorem exists_human : ∃ text, formatTemplate values prompt.human = .ok text := by
  rw [formatTemplate_isOk_iff,hvalues]
  exact prompt.humanFits

/-- Rendering gives the human message when the hint is a template of the names, and raises
otherwise. -/
theorem render_cases (contextSummary : String) :
    (TemplateText prompt.names contextSummary ∧
      prompt.render values contextSummary = formatTemplate values prompt.human) ∨
    (¬TemplateText prompt.names contextSummary ∧
      ∃ exc, prompt.render values contextSummary = .error exc) := by
  have hsystem : (∃ text, formatTemplate values (prompt.systemWith contextSummary) = .ok text) ↔
      _ := formatTemplate_isOk_iff _
  rw [hvalues,templateText_systemWith] at hsystem
  by_cases hhint : TemplateText prompt.names contextSummary
  · obtain ⟨text,htext⟩ := hsystem.mpr hhint
    refine .inl ⟨hhint,?_⟩
    rw [Prompt.render,htext]
    rfl
  · refine .inr ⟨hhint,?_⟩
    cases h : formatTemplate values (prompt.systemWith contextSummary) with
    | ok text => exact absurd (hsystem.mp ⟨text,h⟩) hhint
    | error exc =>
      rw [Prompt.render,h]
      exact ⟨exc,rfl⟩

end Render

section Prompts

def signalReviewPrompt : Prompt where
  system := "You are a read-only macro-investment signal review assistant. " ++
    "Your job is to present the results of a deterministic signal engine run. " ++
    "Report exactly what the engine produced — signal counts, dominant " ++
    "direction, execution metadata — without adding interpretation, opinion, " ++
    "or investment advice. Never override or contradict the engine output."
  human := "Signal review for [{signal_ids}] (country={country}): " ++
    "{signals_generated} signal(s) generated " ++
    "(BUY={buy_signals}, SELL={sell_signals}, HOLD={hold_signals}). " ++
    "Dominant signal direction: {dominant_direction}. " ++
    "Engine run ID: {engine_run_id}. " ++
    "Execution time: {execution_time_ms}ms."
  names := ["signal_ids","country","signals_generated","buy_signals","sell_signals",
    "hold_signals","dominant_direction","engine_run_id","execution_time_ms"]
  systemPlain := by
    refine BraceFree.append (.append (.append (.append ?_ ?_) ?_) ?_) ?_
    all_goals exact braceFree_ofList (by decide +kernel)
  humanFits := by
    refine .append (.append (.append (.append (.append ?_ ?_) ?_) ?_) ?_) ?_
    all_goals exact templateText_ofList (by decide +kernel)
  namesPlain := by decide +kernel

def snapshotSummaryPrompt : Prompt where
  system := "You are a read-only macro-investment data assistant. " ++
    "Your job is to present the contents of a macro-economic snapshot. " ++
    "Report exactly what data is available — feature count and timestamp — " ++
    "without adding interpretation, opinion, or investment advice."
  human := "Macro snapshot for country={country}: " ++
    "{features_count} feature(s) available as of {snapshot_timestamp}."
  names := ["country","features_count","snapshot_timestamp"]
  systemPlain := by
    refine BraceFree.append (.append (.append ?_ ?_) ?_) ?_
    all_goals exact braceFree_ofList (by decide +kernel)
  humanFits := by
    refine .append ?_ ?_
    all_goals exact templateText_ofList (by decide +kernel)
  namesPlain := by decide +kernel

def snapshotComparisonPrompt : Prompt where
  system := "You are a read-only macro-investment data assistant. " ++
    "Your job is to present the results of a deterministic snapshot comparison. " ++
    "Report exactly what changed — indicator counts, directions — without " ++
    "adding interpretation, opinion, or investment advice. " ++
    "Never override or contradict the deterministic comparison output."
  human := "Snapshot comparison for country={country} vs prior ({prior_snapshot_label}): " ++
    "{changed_count} indicator(s) changed, " ++
    "{unchanged_count} unchanged" ++
    "{no_prior_suffix}."
  names := ["country","prior_snapshot_label","changed_count","unchanged_count",
    "no_prior_suffix"]
  systemPlain := by
    refine BraceFree.append (.append (.append (.append ?_ ?_) ?_) ?_) ?_
    all_goals exact braceFree_ofList (by decide +kernel)
  humanFits := by
    refine .append (.append (.append ?_ ?_) ?_) ?_
    all_goals exact templateText_ofList (by decide +kernel)
  namesPlain := by decide +kernel

def renderSignalReviewSummary (signalIds country : String)
    (signalsGenerated buySignals sellSignals holdSignals : ℕ)
    (dominantDirection engineRunId executionTimeMs contextSummary : String) :
    Except TemplateError String :=
  signalReviewPrompt.render [("signal_ids",signalIds),("country",country),
    ("signals_generated",toString signalsGenerated),("buy_signals",toString buySignals),
    ("sell_signals",toString sellSignals),("hold_signals",toString holdSignals),
    ("dominant_direction",dominantDirection),("engine_run_id",engineRunId),
    ("execution_time_ms",executionTimeMs)] contextSummary

def renderSnapshotSummary (country : String) (featuresCount : ℕ)
    (snapshotTimestamp contextSummary : String) : Except TemplateError String :=
  snapshotSummaryPrompt.render [("country",country),("features_count",toString featuresCount),
    ("snapshot_timestamp",snapshotTimestamp)] contextSummary

def renderSnapshotComparisonSummary (country priorSnapshotLabel : String)
    (changedCount unchangedCount noPriorCount : ℕ) (contextSummary : String) :
    Except TemplateError String :=
  let noPriorSuffix :=
    if 0 < noPriorCount then ", " ++ toString noPriorCount ++ " with no prior data" else ""
  snapshotComparisonPrompt.render [("country",country),
    ("prior_snapshot_label",priorSnapshotLabel),("changed_count",toString changedCount),
    ("unchanged_count",toString unchangedCount),("no_prior_suffix",noPriorSuffix)] contextSummary

end Prompts

end MacroInvest.Agent
