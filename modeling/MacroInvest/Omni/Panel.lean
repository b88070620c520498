import MacroInvest.Omni.TokenStream

/-! # The panel that reads the token stream

What the panel shows is compared with what the backend sent, for every cut of the stream
into pieces, for a stream that stops short, and for the proxy's stream.
-/
namespace MacroInvest.Omni
open JsonText

section Hook

/-- The five entries of the panel's header; a missing property is none. -/
structure PanelMeta where
  regime : Option Json
  phase : Option Json
  confidence : Option Json
  signal : Option Json
  health : Option Json

structure View where
  busy : Bool := false
  streaming : Bool := false
  panelContent : Text := []
  panelMeta : Option PanelMeta := none
  panelQuery : Text := []

/-- `value ?? {}`, as far as properties are read of it. -/
def orEmpty (v : Option Json) : Json :=
  match v with
  | none | some .null => .obj []
  | some v => v

/-- `(evt.active_signals ?? [])[0]` -/
def firstItem (v : Option Json) : Option Json :=
  match v with
  | some (.arr items) => items.head?
  | some (.str s) => s.head?.map fun c => .str [c]
  | some (.obj fields) => (Json.obj fields).field? ['0']
  | _ => none

def panelMetaOf (evt : Json) : PanelMeta where
  regime := (orEmpty (evt.field? "macro_regime".toList)).field? "regime_name".toList
  phase := (orEmpty (evt.field? "macro_regime".toList)).field? "market_phase".toList
  confidence := (orEmpty (evt.field? "macro_regime".toList)).field? "confidence_score".toList
  signal := (firstItem (evt.field? "active_signals".toList)).bind (·.field? "action".toList)
  health := (orEmpty (evt.field? "portfolio_health".toList)).field? "score".toList

variable (display : Json → Text)

/-- `evt.content ?? ''` when it is appended; `display` is how a value that is no string
turns into one. -/
def contentText : Option Json → Text
  | none | some .null => []
  | some (.str s) => s
  | some v => display v

def handleEvent (v : View) (evt : Json) : View :=
  match evt.field? "type".toList with
  | some (.str kind) =>
    if kind = "meta".toList then {v with panelMeta := some (panelMetaOf evt)}
    else if kind = "token".toList then
      {v with panelContent := v.panelContent ++ contentText display (evt.field? "content".toList)}
    else if kind = "done".toList then {v with streaming := false}
    else v
  | _ => v

/-- What the body of a response hands over before it ends. -/
inductive Ending where
  | closed
  | failed (message : Text)

inductive Answer where
  | refused (message : Text)
  | body (pieces : List Text) (ending : Ending)

def linkError (message : Text) : Text := "NEURAL LINK ERROR — ".toList ++ message

/-- The view when a request has just been sent. -/
def opened (query : Text) : View :=
  {busy := true,streaming := true,panelQuery := query}

def View.finished (v : View) : View := {v with busy := false,streaming := false}

variable (trim : Text → Text)

def exec (query : Text) (v : View) (answer : Answer) : View :=
  let q := trim query
  if q = [] ∨ v.busy then v
  else
    match answer with
    | .refused message => {(opened q) with panelContent := linkError message}.finished
    | .body pieces .closed => (readBodyPieces (handleEvent display) (opened q) pieces).1.finished
    | .body pieces (.failed message) =>
      {(readBodyPieces (handleEvent display) (opened q) pieces).1 with
        panelContent := linkError message}.finished

end Hook

section Views
variable (display : Json → Text)

/-- The header the panel takes from a response. -/
def headerOf (r : AgentResponse) : PanelMeta where
  regime := (orEmpty r.macroRegime).field? "regime_name".toList
  phase := (orEmpty r.macroRegime).field? "market_phase".toList
  confidence := (orEmpty r.macroRegime).field? "confidence_score".toList
  signal := (firstItem r.activeSignals).bind (·.field? "action".toList)
  health := (orEmpty r.portfolioHealth).field? "score".toList

theorem field_metaData (timestamp : Text) (r : AgentResponse) :
    (metaData timestamp r).field? "type".toList = some (.str "meta".toList) ∧
    (metaData timestamp r).field? "macro_regime".toList = some (r.macroRegime.getD (.obj [])) ∧
    (metaData timestamp r).field? "portfolio_health".toList =
      some (r.portfolioHealth.getD (.obj [])) ∧
    (metaData timestamp r).field? "active_signals".toList =
      some (r.activeSignals.getD (.arr [])) := by
  unfold metaData
  refine ⟨?_,?_,?_,?_⟩
  · exact Json.field?_cons_self _ (by
      simp only [List.map_cons,List.map_nil]
      decide)
  · iterate 2 rw [Json.field?_cons_of_ne (by decide)]
    exact Json.field?_cons_self _ (by
      simp only [List.map_cons,List.map_nil]
      decide)
  · iterate 3 rw [Json.field?_cons_of_ne (by decide)]
    exact Json.field?_cons_self _ (by
      simp only [List.map_cons,List.map_nil]
      decide)
  · iterate 4 rw [Json.field?_cons_of_ne (by decide)]
    exact Json.field?_cons_self _ (by
      simp only [List.map_nil]
      decide)

theorem orEmpty_getD (v : Option Json) : orEmpty (some (v.getD (.obj []))) = orEmpty v := by
  cases v <;> rfl

theorem firstItem_getD (v : Option Json) : firstItem (some (v.getD (.arr []))) = firstItem v := by
  cases v <;> rfl

theorem handleEvent_meta (timestamp : Text) (r : AgentResponse) (v : View) :
    handleEvent display v (metaData timestamp r) = {v with panelMeta := some (headerOf r)} := by
  obtain ⟨hkind,hregime,hhealth,hsignals⟩ := field_metaData timestamp r
  have hmeta : panelMetaOf (metaData timestamp r) = headerOf r := by
    rw [panelMetaOf,hregime,hhealth,hsignals]
    simp only [orEmpty_getD,firstItem_getD,headerOf]
  rw [handleEvent,hkind]
  simp only [if_true,hmeta]

theorem handleEvent_token (content : Text) (v : View) :
    handleEvent display v (tokenData content) =
      {v with panelContent := v.panelContent ++ content} := by
  have hkind : (tokenData content).field? "type".toList = some (.str "token".toList) :=
    Json.field?_cons_self _ (by
      simp only [List.map_cons,List.map_nil]
      decide)
  have hcontent : (tokenData content).field? "content".toList = some (.str content) := by
    rw [tokenData,Json.field?_cons_of_ne (by decide)]
    exact Json.field?_cons_self _ (by
      simp only [List.map_nil]
      decide)
  rw [handleEvent,hkind,hcontent]
  dsimp only
  rw [if_neg (by decide),if_pos rfl,contentText]

theorem handleEvent_done (v : View) :
    handleEvent display v doneData = {v with streaming := false} := by
  have hkind : doneData.field? "type".toList = some (.str "done".toList) :=
    Json.field?_cons_self _ (by simp)
  rw [handleEvent,hkind]
  dsimp only
  rw [if_neg (by decide),if_neg (by decide),if_pos rfl]

theorem foldl_tokens (contents : List Text) (v : View) :
    (contents.map tokenData).foldl (handleEvent display) v =
      {v with panelContent := v.panelContent ++ contents.flatten} := by
  induction contents generalizing v with
  | nil => simp
  | cons content contents ih =>
    rw [List.map_cons,List.foldl_cons,handleEvent_token,ih,List.flatten_cons,
      List.append_assoc]

/-- What the whole stream of a response makes of a view. -/
theorem foldl_streamData (timestamp : Text) (r : AgentResponse) (v : View) :
    (streamData timestamp r).foldl (handleEvent display) v =
      {v with
        panelMeta := some (headerOf r)
        panelContent := v.panelContent ++ joinBlank (split r.report)
        streaming := false} := by
  rw [streamData,List.foldl_append,List.foldl_cons (l := List.map _ _),handleEvent_meta,
    foldl_tokens,flatten_chunks,List.foldl_cons,List.foldl_nil,handleEvent_done]

/-- A beginning of the stream: nothing, the header with some tokens, or everything. -/
theorem prefix_streamData {timestamp : Text} {r : AgentResponse} {data : List Json}
    (h : data <+: streamData timestamp r) :
    data = [] ∨ data = streamData timestamp r ∨
      ∃ k, data = metaData timestamp r :: ((chunks (split r.report)).take k).map tokenData := by
  cases data with
  | nil => exact .inl rfl
  | cons d data =>
    right
    rw [streamData,List.cons_append,List.cons_prefix_cons] at h
    obtain ⟨rfl,h⟩ := h
    rcases List.prefix_concat_iff.mp h with h | h
    · left
      rw [h,streamData,List.cons_append]
    · right
      obtain ⟨seen,hseen,rfl⟩ := List.prefix_map_iff.mp h
      exact ⟨seen.length,by rw [List.prefix_iff_eq_take.mp hseen]; simp⟩

end Views

section Shown
variable (display : Json → Text) (trim : Text → Text) (enc : SseEncoder)

/-- However the network cuts the stream and wherever comments stand in it, the panel ends up
with the response's header and with the report's words, a blank between each two. -/
theorem exec_shows_report (timestamp : Text) (r : AgentResponse) (sent : List Sent)
    (hline : ∀ s ∈ sent, s.OneLine)
    (hsent : sent.filterMap Sent.datum? = streamData timestamp r)
    (pieces : List Text) (hpieces : pieces.flatten = enc.wire commandChannel sent) (query : Text)
    (hquery : trim query ≠ []) (v : View) (hv : v.busy = false) :
    exec display trim query v (.body pieces .closed) =
      {panelContent := joinBlank (split r.report)
       panelMeta := some (headerOf r)
       panelQuery := trim query} := by
  have hread := read_whole (handleEvent display) enc commandChannel hline hpieces
    (opened (trim query))
  rw [hsent,foldl_streamData] at hread
  simp only [exec,hquery,hv,Bool.false_eq_true,or_self,if_false]
  rw [hread]
  rfl

/-- A report of two lines, sent after a comment. -/
def twoLineStream : List Sent :=
  .ping ['p'] :: (streamData [] {omniReport := some ['a','\n','b']}).map .data

theorem twoLineStream_data :
    twoLineStream.filterMap Sent.datum? = streamData [] {omniReport := some ['a','\n','b']} := by
  simp [twoLineStream,List.filterMap_cons,Sent.datum?,List.filterMap_map,Function.comp_def]

theorem twoLineStream_oneLine : ∀ s ∈ twoLineStream, s.OneLine := by
  simp [twoLineStream,Sent.OneLine,Printable]

theorem exec_shows_report_two_lines :
    exec (fun _ => []) id ['q'] {}
      (.body [starlette.wire commandChannel twoLineStream] .closed) =
      {panelContent := ['a',' ','b'],panelMeta := some (headerOf {}),panelQuery := ['q']} := by
  have hwords : joinBlank (split ['a','\n','b']) = ['a',' ','b'] := by decide
  rw [exec_shows_report (fun _ => []) id starlette [] {omniReport := some ['a','\n','b']}
    twoLineStream twoLineStream_oneLine twoLineStream_data
    [starlette.wire commandChannel twoLineStream] (by simp) ['q'] (by simp) {} rfl]
  exact congrArg (fun c => View.mk false false c _ _) hwords

/-- A stream that stops anywhere leaves whole words of the report in the panel, from its
beginning on, and the header as soon as there are words. The end of the body alone does not
tell a report that was cut from a whole one; a failure replaces the content by its message. -/
theorem exec_cut (timestamp : Text) (r : AgentResponse) (sent : List Sent)
    (hline : ∀ s ∈ sent, s.OneLine)
    (hsent : sent.filterMap Sent.datum? = streamData timestamp r)
    (pieces : List Text) (hpieces : pieces.flatten <+: enc.wire commandChannel sent) (query : Text)
    (hquery : trim query ≠ []) (v : View) (hv : v.busy = false) :
    ∃ k shown,(shown = some (headerOf r) ∨ shown = none ∧ k = 0) ∧
      exec display trim query v (.body pieces .closed) =
        {panelContent := ((chunks (split r.report)).take k).flatten
         panelMeta := shown
         panelQuery := trim query} ∧
      ∀ message,exec display trim query v (.body pieces (.failed message)) =
        {panelContent := linkError message,panelMeta := shown,panelQuery := trim query} := by
  obtain ⟨data,hdata,hread⟩ := read_beginning (handleEvent display) enc commandChannel
    hline hpieces (opened (trim query))
  rw [hsent] at hdata
  simp only [exec,hquery,hv,Bool.false_eq_true,or_self,if_false]
  rw [hread]
  rcases prefix_streamData hdata with rfl | rfl | ⟨k,rfl⟩
  · exact ⟨0,none,.inr ⟨rfl,rfl⟩,rfl,fun _ => rfl⟩
  · refine ⟨(chunks (split r.report)).length,_,.inl rfl,?_⟩
    rw [foldl_streamData,List.take_length,flatten_chunks]
    exact ⟨rfl,fun _ => rfl⟩
  · refine ⟨k,_,.inl rfl,?_⟩
    rw [List.foldl_cons,handleEvent_meta,foldl_tokens]
    exact ⟨rfl,fun _ => rfl⟩

/-- Cut in the middle of the second word. -/
theorem exec_cut_in_word :
    (∃ k shown,(shown = some (headerOf {omniReport := some ['a','\n','b']}) ∨
        shown = none ∧ k = 0) ∧
      exec (fun _ => []) id ['q'] {}
        (.body [(starlette.wire commandChannel twoLineStream).take 200] .closed) =
        {panelContent := ((chunks (split ['a','\n','b'])).take k).flatten
         panelMeta := shown
         panelQuery := ['q']} ∧
      ∀ message,exec (fun _ => []) id ['q'] {}
        (.body [(starlette.wire commandChannel twoLineStream).take 200] (.failed message)) =
        {panelContent := linkError message,panelMeta := shown,panelQuery := ['q']}) ∧
    (exec (fun _ => []) id ['q'] {}
      (.body [(starlette.wire commandChannel twoLineStream).take 200] .closed)).panelContent =
        ['a',' '] :=
  ⟨exec_cut (fun _ => []) id starlette [] {omniReport := some ['a','\n','b']} twoLineStream
    twoLineStream_oneLine twoLineStream_data
    [(starlette.wire commandChannel twoLineStream).take 200]
    (by simpa using List.take_prefix 200 _) ['q'] (by simp) {} rfl,by decide +kernel⟩

/-- The report of the first scenario with a word of the query, or the default one. -/
def Told (scenarios : List Scenario) (defaultReport query report : Text) : Prop :=
  let fits := fun s : Scenario => ∃ w ∈ s.keywords, w ∈ split (query.flatMap Events.lowerChar)
  (report = defaultReport ∧ ∀ s ∈ scenarios, ¬fits s) ∨
    ∃ before s after, scenarios = before ++ s :: after ∧ report = s.report ∧ fits s ∧
      ∀ earlier ∈ before, ¬fits earlier

theorem told_matchScenario (scenarios : List Scenario) (defaultReport query : Text) :
    Told scenarios defaultReport query (matchScenario scenarios defaultReport query) := by
  unfold matchScenario
  cases hfind : scenarios.find? (fun s =>
      s.keywords.any (· ∈ split (query.flatMap Events.lowerChar))) with
  | none => exact .inl ⟨by simp [hfind],by simpa using hfind⟩
  | some s =>
    obtain ⟨hfits,before,after,hsplit,hbefore⟩ := List.find?_eq_some_iff_append.mp hfind
    exact .inr ⟨before,s,after,hsplit,by simp [hfind],by simpa using hfits,by simpa using hbefore⟩

theorem report_fallbackResponse (regimeCache : Dict String Json) (report : Text) :
    (fallbackResponse regimeCache report).report = report := by
  cases report with
  | nil => rfl
  | cons c report => rfl

/-- When the agent raised, the panel tells the report of the scenario that fits the query, with
the cached regime in its header. -/
theorem exec_shows_scenario (scenarios : List Scenario) (defaultReport : Text)
    (regimeCache : Dict String Json) (timestamp : Text) (sent : List Sent)
    (hline : ∀ s ∈ sent, s.OneLine) (pieces : List Text)
    (hpieces : pieces.flatten = enc.wire commandChannel sent) (query : Text)
    (hsent : sent.filterMap Sent.datum? =
      commandStream scenarios defaultReport regimeCache timestamp (trim query) none)
    (hquery : trim query ≠ []) (v : View) (hv : v.busy = false) :
    ∃ report, Told scenarios defaultReport (trim query) report ∧
      exec display trim query v (.body pieces .closed) =
        {panelContent := joinBlank (split report)
         panelMeta := some (headerOf (fallbackResponse regimeCache report))
         panelQuery := trim query} := by
  refine ⟨_,told_matchScenario scenarios defaultReport (trim query),?_⟩
  have hread := read_whole (handleEvent display) enc commandChannel hline hpieces
    (opened (trim query))
  rw [hsent,commandStream,Option.getD_none,foldl_streamData,report_fallbackResponse] at hread
  simp only [exec,hquery,hv,Bool.false_eq_true,or_self,if_false]
  rw [hread]
  rfl

end Shown

section Offline
variable (display : Json → Text) (trim : Text → Text)

theorem handleEvent_offlineMeta (v : View) :
    handleEvent display v offlineMeta = {v with panelMeta := some (panelMetaOf offlineMeta)} := by
  have hkind : offlineMeta.field? "type".toList = some (.str "meta".toList) :=
    Json.field?_cons_self _ (by
      simp only [List.map_cons,List.map_nil]
      decide)
  rw [handleEvent,hkind]
  dsimp only
  rw [if_pos rfl]

/-- The proxy's own report reaches the panel character by character, line breaks and runs of
blanks included: cutting at single blanks loses nothing. -/
theorem exec_shows_offline (report : Text) (pieces : List Text)
    (hpieces : pieces.flatten = proxyWire (offlineStream report)) (query : Text)
    (hquery : trim query ≠ []) (v : View) (hv : v.busy = false) :
    exec display trim query v (.body pieces .closed) =
      {panelContent := report
       panelMeta := some (panelMetaOf offlineMeta)
       panelQuery := trim query} := by
  have hread := read_proxy (handleEvent display) hpieces (opened (trim query))
  simp only [exec,hquery,hv,Bool.false_eq_true,or_self,if_false]
  rw [hread,offlineStream,List.foldl_append,List.foldl_cons (l := List.map _ _),
    handleEvent_offlineMeta,foldl_tokens,flatten_chunks,joinBlank_splitOn,List.foldl_cons,
    List.foldl_nil,handleEvent_done]
  rfl

theorem exec_shows_offline_two_lines :
    exec (fun _ => []) id ['q'] {}
      (.body [proxyWire (offlineStream ['a',' ',' ','\n','b'])] .closed) =
      {panelContent := ['a',' ',' ','\n','b']
       panelMeta := some (panelMetaOf offlineMeta)
       panelQuery := ['q']} :=
  exec_shows_offline (fun _ => []) id ['a',' ',' ','\n','b']
    [proxyWire (offlineStream ['a',' ',' ','\n','b'])] (by simp) ['q'] (by simp) {} rfl

end Offline

end MacroInvest.Omni
