import MacroInvest.Omni.Panel

/-! # The summary of a headline

Every headline that is shown starts a request of its own, and the requests of earlier
headlines may still answer. The effect that replaces a headline cancels the request before
it; what is shown under the last headline is what its own request delivered, in whatever
order the requests answer.
-/
namespace MacroInvest.Omni
open JsonText LineStream

section Backend

/-- The text of the last message that has one; a message whose content is no text is none. -/
def lastText (messages : List (Option Text)) : Text :=
  (messages.reverse.findSome? fun m => m.filter (fun s => split s ≠ [])).getD []

def summaryToken (text : Text) : Json :=
  .obj [("type".toList,.str "token".toList),("text".toList,.str text)]

def summaryError : Json :=
  .obj [("type".toList,.str "error".toList),("text".toList,.str "분석을 불러올 수 없습니다.".toList)]

/-- The stream for the messages of the agent, or for an agent that raised. -/
def newsSummarize (agent : Option (List (Option Text))) : List Json :=
  match agent with
  | some messages =>
    (split (lastText messages)).map (fun word => summaryToken (word ++ [' '])) ++ [doneData]
  | none => [summaryError]

def summaryChannel : Channel where
  name := "summary".toList
  style := asciiStyle
  printable := by simp [Printable]

end Backend

section Hook

structure SummaryView where
  text : Text := []
  streaming : Bool := false
  done : Bool := false
  error : Bool := false

/-- One request: whether its headline was replaced, whether its loop has ended, and the line
it has not finished. -/
structure Request where
  cancelled : Bool := false
  finished : Bool := false
  buffer : Text := []

structure SummaryHook where
  view : SummaryView := {}
  requests : List Request := []

inductive Delivery where
  | piece (text : Text)
  | ended
  | failed

inductive HookAction where
  | change (title : Text)
  | deliver (request : ℕ) (d : Delivery)

variable (display : Json → Text)

def handleSummary (v : SummaryView) (evt : Json) : SummaryView :=
  match evt.field? "type".toList with
  | some (.str kind) =>
    if kind = "token".toList then
      {v with text := v.text ++ contentText display (evt.field? "text".toList)}
    else if kind = "done".toList then {v with done := true}
    else if kind = "error".toList then {v with error := true,done := true}
    else v
  | _ => v

/-- What one delivery does to the view and to the request it is for. -/
def receive (p : SummaryView × Request) (d : Delivery) : SummaryView × Request :=
  if p.2.finished then p
  else
    match d with
    | .piece text =>
      if p.2.cancelled then (p.1,{p.2 with finished := true})
      else
        let read := consume '\n' (handleLine (handleSummary display)) (p.1,p.2.buffer) text
        (read.1,{p.2 with buffer := read.2})
    | .ended =>
      (if p.2.cancelled then p.1 else {p.1 with streaming := false},{p.2 with finished := true})
    | .failed =>
      (if p.2.cancelled then p.1 else {p.1 with error := true,streaming := false},
        {p.2 with finished := true})

def SummaryHook.step (h : SummaryHook) : HookAction → SummaryHook
  | .change title =>
    let requests := h.requests.map fun r => {r with cancelled := true}
    if title = [] then {view := {},requests := requests}
    else {view := {streaming := true},requests := requests ++ [{}]}
  | .deliver i d =>
    match h.requests[i]? with
    | none => h
    | some r =>
      let p := receive display (h.view,r) d
      {view := p.1,requests := h.requests.set i p.2}

def SummaryHook.run (h : SummaryHook) (actions : List HookAction) : SummaryHook :=
  actions.foldl (SummaryHook.step display) h

/-- What an action delivers to one request. -/
def HookAction.for? (i : ℕ) : HookAction → Option Delivery
  | .change _ => none
  | .deliver j d => if j = i then some d else none

def HookAction.isChange : HookAction → Bool
  | .change _ => true
  | .deliver _ _ => false

end Hook

section Isolation
variable (display : Json → Text)

/-- The request `i` is the one whose headline is shown: every other is cancelled. -/
structure Shown (h : SummaryHook) (i : ℕ) (p : SummaryView × Request) : Prop where
  view : h.view = p.1
  own : h.requests[i]? = some p.2
  others : ∀ j r,j ≠ i → h.requests[j]? = some r → r.cancelled = true

theorem receive_cancelled {v : SummaryView} {r : Request} (h : r.cancelled = true)
    (d : Delivery) :
    (receive display (v,r) d).1 = v ∧ (receive display (v,r) d).2.cancelled = true := by
  unfold receive
  cases d <;> split <;> simp_all

variable {display} in
theorem Shown.step {h : SummaryHook} {i : ℕ} {p : SummaryView × Request} (hs : Shown h i p)
    {a : HookAction} (ha : a.isChange = false) :
    Shown (h.step display a) i ((a.for? i).elim p (receive display p)) := by
  obtain ⟨v,r⟩ := p
  cases a with
  | change title => simp [HookAction.isChange] at ha
  | deliver j d =>
    by_cases hj : j = i
    · subst hj
      have hstep : h.step display (.deliver j d) =
          {view := (receive display (v,r) d).1
           requests := h.requests.set j (receive display (v,r) d).2} := by
        simp only [SummaryHook.step,hs.own,hs.view]
      rw [hstep]
      constructor
      · simp [HookAction.for?]
      · obtain ⟨hlt,-⟩ := List.getElem?_eq_some_iff.mp hs.own
        simp [HookAction.for?,hlt]
      · intro k q hk hq
        rw [List.getElem?_set_ne (Ne.symm hk)] at hq
        exact hs.others k q hk hq
    · simp only [HookAction.for?,hj,if_false,Option.elim_none]
      cases hr : h.requests[j]? with
      | none =>
        have hstep : h.step display (.deliver j d) = h := by simp only [SummaryHook.step,hr]
        rwa [hstep]
      | some q =>
        obtain ⟨hview,hcancel⟩ := receive_cancelled display (v := h.view)
          (hs.others j q hj hr) d
        have hstep : h.step display (.deliver j d) =
            {view := h.view,requests := h.requests.set j (receive display (h.view,q) d).2} := by
          simp only [SummaryHook.step,hr,hview]
        rw [hstep]
        constructor
        · exact hs.view
        · rw [List.getElem?_set_ne hj]
          exact hs.own
        · intro k q' hk hq'
          by_cases hkj : k = j
          · subst hkj
            obtain ⟨hlt,-⟩ := List.getElem?_eq_some_iff.mp hr
            simp only [List.getElem?_set_self hlt,Option.some.injEq] at hq'
            rw [← hq']
            exact hcancel
          · rw [List.getElem?_set_ne (Ne.symm hkj)] at hq'
            exact hs.others k q' hk hq'

theorem Shown.run {h : SummaryHook} {i : ℕ} {p : SummaryView × Request} (hs : Shown h i p)
    {actions : List HookAction} (ha : ∀ a ∈ actions, a.isChange = false) :
    Shown (h.run display actions) i
      ((actions.filterMap (HookAction.for? i)).foldl (receive display) p) := by
  induction actions generalizing h p with
  | nil => exact hs
  | cons a actions ih =>
    have hstep : Shown (h.step display a) i ((a.for? i).elim p (receive display p)) :=
      hs.step (ha a (by simp))
    have hrest := ih hstep fun b hb => ha b (List.mem_cons_of_mem _ hb)
    rw [List.filterMap_cons]
    cases hf : a.for? i with
    | none => simpa [hf,SummaryHook.run] using hrest
    | some d => simpa [hf,SummaryHook.run] using hrest

/-- A headline that is put up shows a fresh request. -/
theorem shown_change (h : SummaryHook) {title : Text} (ht : title ≠ []) :
    Shown (h.step display (.change title)) h.requests.length ({streaming := true},{}) := by
  have hstep : h.step display (.change title) =
      {view := {streaming := true}
       requests := (h.requests.map fun r => {r with cancelled := true}) ++ [{}]} := by
    simp only [SummaryHook.step,ht,if_false]
  rw [hstep]
  constructor
  · rfl
  · simp
  · intro j r hj hr
    rw [List.getElem?_append] at hr
    split at hr
    · simp only [List.getElem?_map,Option.map_eq_some_iff] at hr
      obtain ⟨q,-,rfl⟩ := hr
      rfl
    · rename_i hlt
      simp only [List.length_map,not_lt] at hlt
      rw [List.length_map,List.getElem?_singleton,if_neg (by omega)] at hr
      contradiction

/-- In any order of deliveries, the view under the last headline is what the deliveries to its
own request make of an empty one. -/
theorem view_of_last_request (h : SummaryHook) {title : Text} (ht : title ≠ [])
    {later : List HookAction} (hlater : ∀ a ∈ later, a.isChange = false) :
    ((h.step display (.change title)).run display later).view =
      ((later.filterMap (HookAction.for? h.requests.length)).foldl (receive display)
        ({streaming := true},{})).1 :=
  ((shown_change display h ht).run display hlater).view

end Isolation

section Content
variable (display : Json → Text)

theorem foldl_pieces (pieces : List Text) (v : SummaryView) (buffer : Text) :
    (pieces.map Delivery.piece).foldl (receive display) (v,{buffer := buffer}) =
      ((pieces.foldl (consume '\n' (handleLine (handleSummary display))) (v,buffer)).1,
        {buffer := (pieces.foldl (consume '\n' (handleLine (handleSummary display)))
          (v,buffer)).2}) := by
  induction pieces generalizing v buffer with
  | nil => rfl
  | cons piece pieces ih =>
    rw [List.map_cons,List.foldl_cons,List.foldl_cons,← ih]
    rfl

theorem receive_ended (v : SummaryView) (buffer : Text) :
    (receive display (v,{buffer := buffer}) .ended).1 = {v with streaming := false} := rfl

theorem handleSummary_token (text : Text) (v : SummaryView) :
    handleSummary display v (summaryToken text) = {v with text := v.text ++ text} := by
  have hkind : (summaryToken text).field? "type".toList = some (.str "token".toList) :=
    Json.field?_cons_self _ (by
      simp only [List.map_cons,List.map_nil]
      decide)
  have htext : (summaryToken text).field? "text".toList = some (.str text) := by
    rw [summaryToken,Json.field?_cons_of_ne (by decide)]
    exact Json.field?_cons_self _ (by simp)
  rw [handleSummary,hkind,htext]
  dsimp only
  rw [if_pos rfl,contentText]

theorem handleSummary_done (v : SummaryView) :
    handleSummary display v doneData = {v with done := true} := by
  have hkind : doneData.field? "type".toList = some (.str "done".toList) :=
    Json.field?_cons_self _ (by simp)
  rw [handleSummary,hkind]
  dsimp only
  rw [if_neg (by decide),if_pos rfl]

theorem handleSummary_error (v : SummaryView) :
    handleSummary display v summaryError = {v with error := true,done := true} := by
  have hkind : summaryError.field? "type".toList = some (.str "error".toList) :=
    Json.field?_cons_self _ (by
      simp only [List.map_cons,List.map_nil]
      decide)
  rw [handleSummary,hkind]
  dsimp only
  rw [if_neg (by decide),if_neg (by decide),if_pos rfl]

theorem foldl_summaryTokens (words : List Text) (v : SummaryView) :
    (words.map fun word => summaryToken (word ++ [' '])).foldl (handleSummary display) v =
      {v with text := v.text ++ words.flatMap (· ++ [' '])} := by
  induction words generalizing v with
  | nil => simp
  | cons word words ih =>
    rw [List.map_cons,List.foldl_cons,handleSummary_token,ih,List.flatMap_cons,
      List.append_assoc]

/-- What a whole summary looks like: every word with a blank after it, or the error. -/
def summarized : Option (List (Option Text)) → SummaryView
  | some messages => {text := (split (lastText messages)).flatMap (· ++ [' ']),done := true}
  | none => {error := true,done := true}

theorem foldl_newsSummarize (agent : Option (List (Option Text))) :
    {((newsSummarize agent).foldl (handleSummary display) {streaming := true}) with
      streaming := false} = summarized agent := by
  cases agent with
  | none =>
    rw [newsSummarize,List.foldl_cons,List.foldl_nil,handleSummary_error]
    rfl
  | some messages =>
    rw [newsSummarize,List.foldl_append,foldl_summaryTokens,List.foldl_cons,List.foldl_nil,
      handleSummary_done]
    rfl

/-- Whatever was requested before, however the requests' answers interleave and the network
cuts them, the last headline's own answer, once it has ended, is all that is shown. -/
theorem summary_of_last_headline (enc : SseEncoder) (h : SummaryHook) (title : Text)
    (ht : title ≠ []) (later : List HookAction) (hlater : ∀ a ∈ later, a.isChange = false)
    (agent : Option (List (Option Text))) (sent : List Sent) (hline : ∀ s ∈ sent, s.OneLine)
    (hsent : sent.filterMap Sent.datum? = newsSummarize agent) (pieces : List Text)
    (hpieces : pieces.flatten = enc.wire summaryChannel sent)
    (hown : later.filterMap (HookAction.for? h.requests.length) =
      pieces.map Delivery.piece ++ [.ended]) :
    ((h.step display (.change title)).run display later).view = summarized agent := by
  have hread := read_whole (handleSummary display) enc summaryChannel hline hpieces
    {streaming := true}
  rw [hsent] at hread
  rw [view_of_last_request display h ht hlater,hown,List.foldl_append,foldl_pieces,
    List.foldl_cons,List.foldl_nil,receive_ended,← foldl_newsSummarize display agent,← hread]
  rfl

/-- A late piece and a late failure of the first request change nothing under the second. -/
theorem summary_of_second_headline :
    ((({requests := [{}]} : SummaryHook).step (fun _ => []) (.change ['t'])).run (fun _ => [])
      [.deliver 0 (.piece ['x','\n']),
        .deliver 1 (.piece (starlette.wire summaryChannel
          ((newsSummarize (some [some ['a','\n','b']])).map .data))),
        .deliver 0 .failed,.deliver 1 .ended]).view = summarized (some [some ['a','\n','b']]) :=
  summary_of_last_headline (fun _ => []) starlette {requests := [{}]} ['t'] (by simp)
    [.deliver 0 (.piece ['x','\n']),
      .deliver 1 (.piece (starlette.wire summaryChannel
        ((newsSummarize (some [some ['a','\n','b']])).map .data))),
      .deliver 0 .failed,.deliver 1 .ended] (by simp [HookAction.isChange])
    (some [some ['a','\n','b']]) ((newsSummarize (some [some ['a','\n','b']])).map .data)
    (by simp [Sent.OneLine]) (by simp [List.filterMap_map,Function.comp_def,Sent.datum?])
    [starlette.wire summaryChannel ((newsSummarize (some [some ['a','\n','b']])).map .data)]
    (by simp) (by simp [HookAction.for?])

end Content

end MacroInvest.Omni
