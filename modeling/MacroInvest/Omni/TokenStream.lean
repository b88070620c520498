import MacroInvest.Omni.EventLines
import MacroInvest.Library.LineStream
import MacroInvest.Library.Dict
import MacroInvest.Events.Normalizer

/-! # The token stream of the command terminal

The backend sends a report as one `meta` event, a `token` event for every word and a
`done` event. The proxy sends its offline report the same way, cut at single blanks.
-/
namespace MacroInvest.Omni
open JsonText

section Words

/-- `text.split()` -/
def split (text : Text) : List Text := Words.words Events.isSpace text

/-- `" ".join(words)` -/
def joinBlank (words : List Text) : Text := [' '].intercalate words

/-- Every word but the last carries the blank after it. -/
def chunks (words : List Text) : List Text :=
  words.mapIdx fun i word => word ++ if i + 1 < words.length then [' '] else []

theorem chunks_cons_cons (w v : Text) (ws : List Text) :
    chunks (w :: v :: ws) = (w ++ [' ']) :: chunks (v :: ws) := by
  simp [chunks,List.mapIdx_cons]

theorem flatten_chunks (words : List Text) : (chunks words).flatten = joinBlank words := by
  induction words with
  | nil => rfl
  | cons w ws ih =>
    cases ws with
    | nil => simp [chunks,joinBlank]
    | cons v ws =>
      rw [chunks_cons_cons,List.flatten_cons,ih,joinBlank,joinBlank,
        List.intercalate_cons_cons]

@[simp] theorem length_chunks (words : List Text) : (chunks words).length = words.length := by
  simp [chunks]

/-- Cut at single blanks, a text comes back as it was. -/
theorem joinBlank_splitOn (text : Text) : joinBlank (text.splitOn ' ') = text :=
  List.intercalate_splitOn ' '

end Words

section Backend

structure Scenario where
  keywords : List Text
  report : Text

/-- The first scenario that shares a word with the query. -/
def matchScenario (scenarios : List Scenario) (defaultReport query : Text) : Text :=
  let words := split (query.flatMap Events.lowerChar)
  match scenarios.find? (fun s => s.keywords.any (· ∈ words)) with
  | some s => s.report
  | none => defaultReport

/-- The entries of the agent's response that are read. -/
structure AgentResponse where
  omniReport : Option Text := none
  briefing : Option Text := none
  macroRegime : Option Json := none
  portfolioHealth : Option Json := none
  activeSignals : Option Json := none

/-- `response.get("omni_report") or response.get("briefing") or ""` -/
def AgentResponse.report (r : AgentResponse) : Text :=
  (r.omniReport.filter (· ≠ [])).getD ((r.briefing.filter (· ≠ [])).getD [])

def fallbackConfidence : Numeral where
  lexeme := ['0','.','8','5']
  chars := by decide
  grammar := by decide

def fallbackScore : Numeral where
  lexeme := ['7','5','.','0']
  chars := by decide
  grammar := by decide

def offlineZero : Numeral where
  lexeme := ['0']
  chars := by decide
  grammar := by decide

/-- The response sent when the agent raised. -/
def fallbackResponse (regimeCache : Dict String Json) (report : Text) : AgentResponse where
  omniReport := some report
  macroRegime := some (.obj [
    ("regime_name".toList,(regimeCache.get? "regime_name").getD
      (.str "POLICY_TIGHTENING".toList)),
    ("market_phase".toList,(regimeCache.get? "market_phase").getD (.str "LATE_CYCLE".toList)),
    ("confidence_score".toList,(regimeCache.get? "confidence_score").getD
      (.num fallbackConfidence))])
  portfolioHealth := some (.obj [("score".toList,.num fallbackScore),
    ("source".toList,.str "FALLBACK".toList)])
  activeSignals := some (.arr [])

def metaData (timestamp : Text) (r : AgentResponse) : Json := .obj [
  ("type".toList,.str "meta".toList),
  ("timestamp".toList,.str timestamp),
  ("macro_regime".toList,r.macroRegime.getD (.obj [])),
  ("portfolio_health".toList,r.portfolioHealth.getD (.obj [])),
  ("active_signals".toList,r.activeSignals.getD (.arr []))]

def tokenData (content : Text) : Json :=
  .obj [("type".toList,.str "token".toList),("content".toList,.str content)]

def doneData : Json := .obj [("type".toList,.str "done".toList)]

/-- What one response is streamed as, in order. -/
def streamData (timestamp : Text) (r : AgentResponse) : List Json :=
  metaData timestamp r :: (chunks (split r.report)).map tokenData ++ [doneData]

/-- The backend's whole stream: the agent's response, or the scenario that fits the query. -/
def commandStream (scenarios : List Scenario) (defaultReport : Text)
    (regimeCache : Dict String Json) (timestamp query : Text) (agent : Option AgentResponse) :
    List Json :=
  streamData timestamp (agent.getD
    (fallbackResponse regimeCache (matchScenario scenarios defaultReport query)))

/-- The channel the terminal's events are written on. -/
def commandChannel : Channel where
  name := "message".toList
  style := pythonStyle
  printable := by simp [Printable]

end Backend

section Proxy

def offlineMeta : Json := .obj [
  ("type".toList,.str "meta".toList),
  ("macro_regime".toList,.obj [("regime_name".toList,.str "OFFLINE".toList),
    ("market_phase".toList,.str "UNKNOWN".toList),
    ("confidence_score".toList,.num offlineZero)]),
  ("portfolio_health".toList,.obj [("score".toList,.num offlineZero),
    ("source".toList,.str "OFFLINE".toList)]),
  ("active_signals".toList,.arr [])]

def offlineStream (report : Text) : List Json :=
  offlineMeta :: (chunks (report.splitOn ' ')).map tokenData ++ [doneData]

end Proxy

end MacroInvest.Omni
