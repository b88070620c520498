import MacroInvest.Library.JsonText
import MacroInvest.Library.LineStream

/-! # Events as lines

The backend writes every datum as one JSON text in an event; the hooks of the frontend read
the body of the response line by line and take what follows `data: ` as a datum. Both hooks
share this reader, and both proxies write events of their own without a name.
-/
namespace MacroInvest.Omni
open JsonText LineStream

section Writer

/-- `json.dumps(…,ensure_ascii=False)` -/
def pythonStyle : Style := {ascii := false,spaced := true}

/-- `json.dumps(…)` -/
def asciiStyle : Style := {ascii := true,spaced := true}

/-- `JSON.stringify` -/
def scriptStyle : Style := {ascii := false,spaced := false}

/-- How an endpoint writes its data: the name of its events and the style of its JSON. -/
structure Channel where
  name : Text
  style : Style
  printable : Printable name

structure Event where
  event : Text
  data : Text

/-- What is relied on of the library that writes the events: one line naming the event, one
line of data and an empty line, and comments between events that hold no data. -/
structure SseEncoder where
  lineEnd : Text
  encode : Event → Text
  comment : Text → Text
  lineEnd_eq : lineEnd = ['\n'] ∨ lineEnd = ['\r','\n']
  encode_eq : ∀ e, Printable e.event → Printable e.data → encode e =
    "event: ".toList ++ e.event ++ lineEnd ++ "data: ".toList ++ e.data ++ lineEnd ++ lineEnd
  comment_eq : ∀ text, Printable text →
    comment text = ": ".toList ++ text ++ lineEnd ++ lineEnd

/-- What is sent: a datum of the stream, or a comment that keeps the connection open. -/
inductive Sent where
  | data (v : Json)
  | ping (text : Text)

def Sent.datum? : Sent → Option Json
  | .data v => some v
  | .ping _ => none

/-- A comment is one line. -/
def Sent.OneLine : Sent → Prop
  | .data _ => True
  | .ping text => Printable text

variable (enc : SseEncoder) (channel : Channel)

def SseEncoder.write : Sent → Text
  | .data v => enc.encode ⟨channel.name,dumps channel.style v⟩
  | .ping text => enc.comment text

def SseEncoder.wire (sent : List Sent) : Text := sent.flatMap (enc.write channel)

/-- The proxies' own events, which have no name. -/
def proxyWire (data : List Json) : Text :=
  data.flatMap fun v => "data: ".toList ++ dumps scriptStyle v ++ ['\n','\n']

end Writer

section Reader
variable {V : Type*} (handleEvent : V → Json → V)

/-- One line of the stream; a malformed one is skipped. -/
def handleLine (v : V) (line : Text) : V :=
  if "data: ".toList.isPrefixOf line then
    match parse (line.drop 6) with
    | some evt => handleEvent v evt
    | none => v
  else v

/-- The loop that reads the body, with the buffer it ends with. -/
def readBodyPieces (v : V) (pieces : List Text) : V × Text :=
  readAll '\n' (handleLine handleEvent) v pieces

/-- What a data line says to a hook. -/
theorem means_data (style : Style) (evt : Json) (tail : Text) (h : tail.all isBlank = true) :
    Means (handleLine handleEvent) handleEvent
      ("data: ".toList ++ dumps style evt ++ tail,some evt) := by
  intro v
  have hpre : "data: ".toList.isPrefixOf ("data: ".toList ++ dumps style evt ++ tail) = true := by
    rw [List.isPrefixOf_iff_prefix,List.append_assoc]
    exact List.prefix_append ..
  have hdrop : ("data: ".toList ++ dumps style evt ++ tail).drop 6 =
      dumps style evt ++ tail := by
    rw [List.append_assoc]
    rfl
  rw [handleLine,if_pos hpre,hdrop,parse_pad_dumps style evt tail h]
  rfl

theorem means_other {line : Text} (h : line.head? ≠ some 'd') :
    Means (handleLine handleEvent) handleEvent (line,none) := by
  intro v
  rw [handleLine,if_neg]
  · rfl
  · cases line with
    | nil => simp
    | cons c line =>
      have hc : c ≠ 'd' := fun he => h (by simp [he])
      simp [List.isPrefixOf,Ne.symm hc]

end Reader

section Marked
variable {V : Type*} (handleEvent : V → Json → V) (enc : SseEncoder) (channel : Channel)

/-- What stands before the line feed at the end of a line. -/
def SseEncoder.tail : Text := enc.lineEnd.dropLast

/-- The lines that are written for what is sent, each with the datum it says. -/
def SseEncoder.marked : Sent → List (Text × Option Json)
  | .data v => [("event: ".toList ++ channel.name ++ enc.tail,none),
      ("data: ".toList ++ dumps channel.style v ++ enc.tail,some v),(enc.tail,none)]
  | .ping text => [(": ".toList ++ text ++ enc.tail,none),(enc.tail,none)]

def SseEncoder.lines (sent : List Sent) : List (Text × Option Json) :=
  sent.flatMap (enc.marked channel)

theorem SseEncoder.lineEnd_tail : enc.lineEnd = enc.tail ++ ['\n'] := by
  rcases enc.lineEnd_eq with h | h <;> simp [SseEncoder.tail,h]

theorem SseEncoder.tail_spec : enc.tail.all isBlank = true ∧ '\n' ∉ enc.tail ∧
    enc.tail.head? ≠ some 'd' := by
  rcases enc.lineEnd_eq with h | h <;> simp [SseEncoder.tail,h,isBlank]

theorem SseEncoder.write_marked {s : Sent} (h : s.OneLine) :
    enc.write channel s = (enc.marked channel s).flatMap fun line => line.1 ++ ['\n'] := by
  cases s with
  | data v =>
    rw [SseEncoder.write,enc.encode_eq _ channel.printable (printable_dumps channel.style v)]
    simp [SseEncoder.marked,enc.lineEnd_tail]
  | ping text =>
    rw [SseEncoder.write,enc.comment_eq text h]
    simp [SseEncoder.marked,enc.lineEnd_tail]

theorem SseEncoder.marked_oneLine {s : Sent} (h : s.OneLine) :
    ∀ line ∈ enc.marked channel s, '\n' ∉ line.1 := by
  have htail := enc.tail_spec.2.1
  cases s with
  | data v =>
    have hname := channel.printable.not_mem (c := '\n') (by decide)
    have hv := (printable_dumps channel.style v).not_mem (c := '\n') (by decide)
    simp [SseEncoder.marked,htail,hname,hv]
  | ping text =>
    have ht := Printable.not_mem h (c := '\n') (by decide)
    simp [SseEncoder.marked,htail,ht]

theorem SseEncoder.marked_means (s : Sent) :
    ∀ line ∈ enc.marked channel s, Means (handleLine handleEvent) handleEvent line := by
  obtain ⟨hblank,-,hhead⟩ := enc.tail_spec
  cases s with
  | data v =>
    simp only [SseEncoder.marked,List.forall_mem_cons,List.not_mem_nil,false_implies,
      implies_true,and_true]
    exact ⟨means_other handleEvent (by simp),
      means_data handleEvent channel.style v enc.tail hblank,means_other handleEvent hhead⟩
  | ping text =>
    simp only [SseEncoder.marked,List.forall_mem_cons,List.not_mem_nil,false_implies,
      implies_true,and_true]
    exact ⟨means_other handleEvent (by simp),means_other handleEvent hhead⟩

theorem SseEncoder.wire_lines {sent : List Sent} (h : ∀ s ∈ sent, s.OneLine) :
    enc.wire channel sent = (enc.lines channel sent).flatMap fun line => line.1 ++ ['\n'] := by
  rw [SseEncoder.wire,SseEncoder.lines,List.flatMap_assoc]
  exact List.flatMap_congr fun s hs => enc.write_marked channel (h s hs)

theorem SseEncoder.lines_oneLine {sent : List Sent} (h : ∀ s ∈ sent, s.OneLine) :
    ∀ line ∈ enc.lines channel sent, '\n' ∉ line.1 := by
  intro line hl
  obtain ⟨s,hs,hl⟩ := List.mem_flatMap.mp hl
  exact enc.marked_oneLine channel (h s hs) line hl

theorem SseEncoder.lines_means (sent : List Sent) :
    ∀ line ∈ enc.lines channel sent, Means (handleLine handleEvent) handleEvent line := by
  intro line hl
  obtain ⟨s,-,hl⟩ := List.mem_flatMap.mp hl
  exact enc.marked_means handleEvent channel s line hl

theorem SseEncoder.lines_data (sent : List Sent) :
    (enc.lines channel sent).filterMap (·.2) = sent.filterMap Sent.datum? := by
  induction sent with
  | nil => rfl
  | cons s sent ih =>
    rw [SseEncoder.lines,List.flatMap_cons,List.filterMap_append,← SseEncoder.lines,ih]
    cases s <;> simp [SseEncoder.marked,List.filterMap_cons,Sent.datum?]

/-- A body cut anywhere into pieces says to the hook all the data that were sent. -/
theorem read_whole {sent : List Sent} (hline : ∀ s ∈ sent, s.OneLine) {pieces : List Text}
    (hpieces : pieces.flatten = enc.wire channel sent) (v : V) :
    (readBodyPieces handleEvent v pieces).1 =
      (sent.filterMap Sent.datum?).foldl handleEvent v := by
  rw [← enc.lines_data channel sent]
  apply readAll_whole
  · exact enc.lines_oneLine channel hline
  · exact enc.lines_means handleEvent channel sent
  · rw [hpieces,enc.wire_lines channel hline]

/-- A body that stops short says a beginning of them. -/
theorem read_beginning {sent : List Sent} (hline : ∀ s ∈ sent, s.OneLine) {pieces : List Text}
    (hpieces : pieces.flatten <+: enc.wire channel sent) (v : V) :
    ∃ data, data <+: sent.filterMap Sent.datum? ∧
      (readBodyPieces handleEvent v pieces).1 = data.foldl handleEvent v := by
  rw [← enc.lines_data channel sent]
  apply readAll_beginning
  · exact enc.lines_oneLine channel hline
  · exact enc.lines_means handleEvent channel sent
  · rwa [← enc.wire_lines channel hline]

theorem proxyWire_lines (data : List Json) :
    proxyWire data = (data.flatMap fun v =>
      [("data: ".toList ++ dumps scriptStyle v,some v),([],none)]).flatMap
        fun line => line.1 ++ ['\n'] := by
  simp [proxyWire,List.flatMap_assoc]

theorem proxyWire_data (data : List Json) :
    (data.flatMap fun v =>
      [("data: ".toList ++ dumps scriptStyle v,some v),([],none)]).filterMap (·.2) = data := by
  induction data with
  | nil => rfl
  | cons v data ih => simpa using ih

theorem read_proxy {data : List Json} {pieces : List Text}
    (hpieces : pieces.flatten = proxyWire data) (v : V) :
    (readBodyPieces handleEvent v pieces).1 = data.foldl handleEvent v := by
  conv_rhs => rw [← proxyWire_data data]
  apply readAll_whole
  · intro line hl
    obtain ⟨w,-,hl⟩ := List.mem_flatMap.mp hl
    have hw := (printable_dumps scriptStyle w).not_mem (c := '\n') (by decide)
    rcases List.mem_pair.mp hl with rfl | rfl <;> simp [hw]
  · intro line hl
    obtain ⟨w,-,hl⟩ := List.mem_flatMap.mp hl
    rcases List.mem_pair.mp hl with rfl | rfl
    · simpa using means_data handleEvent scriptStyle w [] rfl
    · exact means_other handleEvent (by simp)
  · rw [hpieces,proxyWire_lines]

end Marked

section Library

/-- A text at its line breaks, whichever of the three kinds they are. -/
def breakLines : Text → List Text
  | [] => [[]]
  | '\r' :: '\n' :: s => [] :: breakLines s
  | c :: s =>
    if c = '\r' ∨ c = '\n' then [] :: breakLines s
    else (breakLines s).modifyHead (c :: ·)

theorem breakLines_printable {s : Text} (h : Printable s) : breakLines s = [s] := by
  induction s with
  | nil => rfl
  | cons c s ih =>
    have hr := h.not_mem (c := '\r') (by decide)
    have hn := h.not_mem (c := '\n') (by decide)
    simp only [List.mem_cons,not_or] at hr hn
    have htail := ih fun d hd => h d (List.mem_cons_of_mem _ hd)
    rw [breakLines.eq_def]
    split
    · contradiction
    · rename_i heq
      injection heq with heq
      exact absurd heq.symm hr.1
    · rename_i heq
      injection heq with heq heq'
      subst heq heq'
      rw [if_neg (by simp [Ne.symm hr.1,Ne.symm hn.1]),htail]
      rfl

/-- The writer in use: data of several lines become several data lines. -/
def starlette : SseEncoder where
  lineEnd := ['\r','\n']
  encode e := "event: ".toList ++ (breakLines e.event).flatten ++ ['\r','\n'] ++
    (breakLines e.data).flatMap (fun line => "data: ".toList ++ line ++ ['\r','\n']) ++
    ['\r','\n']
  comment text := (breakLines text).flatMap (fun line => ": ".toList ++ line ++ ['\r','\n']) ++
    ['\r','\n']
  lineEnd_eq := .inr rfl
  encode_eq e hevent hdata := by
    simp [breakLines_printable hevent,breakLines_printable hdata]
  comment_eq text h := by
    simp [breakLines_printable h]

end Library

end MacroInvest.Omni
