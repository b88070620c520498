import Mathlib

/-! # The shared event source of the dashboard

All components of a page share one event source. A failure closes it and schedules a retry, a
new component may open it again before that, and the last component that leaves closes it and
cancels the retry. Components, frames, failures and timers come in any order.
-/
namespace MacroInvest.AlephStream

inductive StreamStatus where
  | CONNECTING
  | LIVE
  | ERROR
  deriving DecidableEq

/-- What a component shows: the data, the status and the time of the last frame. -/
structure Shown (α : Type*) where
  data : Option α := none
  status : StreamStatus := .CONNECTING
  lastMsgAt : ℕ := 0

/-- The module's variables, the components' states and the sources that are open. -/
structure Hub (α : Type*) where
  es : Option ℕ := none
  retryTimer : Option ℚ := none
  retryCount : ℕ := 0
  last : Shown α := {}
  listeners : Finset ℕ := ∅
  shown : ℕ → Shown α := fun _ => {}
  sources : ℕ := 0
  opened : ℕ → Bool := fun _ => false

/-- `Math.random()` -/
abbrev Random := {r : ℚ // 0 ≤ r ∧ r < 1}

/-- A frame that was parsed: the backend's own error report, or data. -/
inductive Frame (α : Type*) where
  | error
  | data (d : α)

inductive Event (α : Type*) where
  | render (l : ℕ)
  | mount (l : ℕ)
  | unmount (l : ℕ)
  | frame (source now : ℕ) (parsed : Option (Frame α))
  | fault (source : ℕ) (r : Random)
  | timer
  | visible

def baseRetry : ℚ := 3000
def maxRetry : ℚ := 30000

def jitter (ms : ℚ) (r : Random) : ℚ := ms * (3 / 4 + r.1 * (1 / 2))

def nextRetryMs (retryCount : ℕ) : ℚ := min (baseRetry * 2 ^ retryCount) maxRetry

namespace Hub
variable {α : Type*}

def notify (σ : Hub α) (data : Option α) (status : StreamStatus) : Hub α :=
  let last : Shown α := {σ.last with data := data,status := status}
  {σ with last := last,shown := fun l => if l ∈ σ.listeners then last else σ.shown l}

def scheduleRetry (σ : Hub α) (r : Random) : Hub α :=
  if σ.retryTimer ≠ none then σ
  else
    {({σ with retryCount := min (σ.retryCount + 1) 5}.notify σ.last.data .ERROR) with
      retryTimer := some (jitter (nextRetryMs σ.retryCount) r)}

def connect (σ : Hub α) : Hub α :=
  if σ.es ≠ none then σ
  else
    {(σ.notify σ.last.data .CONNECTING) with
      es := some σ.sources
      sources := σ.sources + 1
      opened := Function.update σ.opened σ.sources true}

def handleFrame (σ : Hub α) (now : ℕ) : Option (Frame α) → Hub α
  | some (.data d) =>
    {σ with retryCount := 0,last := {σ.last with lastMsgAt := now}}.notify (some d) .LIVE
  | _ => σ

def closeSource (σ : Hub α) (i : ℕ) : Hub α :=
  {σ with opened := Function.update σ.opened i false,es := none}

def disconnect (σ : Hub α) : Hub α :=
  match σ.es with
  | some i => {(σ.closeSource i) with retryTimer := none}
  | none => {σ with retryTimer := none}

/-- A closed source reports nothing, a cleared timer does not fire. -/
def step (σ : Hub α) : Event α → Hub α
  | .render l => {σ with shown := Function.update σ.shown l σ.last}
  | .mount l => {σ with listeners := insert l σ.listeners}.connect
  | .unmount l =>
    let σ := {σ with listeners := σ.listeners.erase l}
    if σ.listeners = ∅ then σ.disconnect else σ
  | .frame i now parsed => if σ.opened i then σ.handleFrame now parsed else σ
  | .fault i r => if σ.opened i then (σ.closeSource i).scheduleRetry r else σ
  | .timer => if σ.retryTimer = none then σ else {σ with retryTimer := none}.connect
  | .visible =>
    if σ.listeners ≠ ∅ ∧ σ.es = none ∧ σ.retryTimer = none then
      {σ with retryCount := 0}.connect
    else σ

def run (σ : Hub α) (events : List (Event α)) : Hub α := events.foldl step σ

/-- The open source is the shared one, and there is a source or a pending retry exactly while
some component listens. -/
structure Inv (σ : Hub α) : Prop where
  open_iff : ∀ i, σ.opened i = true ↔ σ.es = some i
  served : σ.listeners ≠ ∅ ↔ σ.es ≠ none ∨ σ.retryTimer ≠ none
  count : σ.retryCount ≤ 5
  delay : ∀ d ∈ σ.retryTimer, 2250 ≤ d ∧ d < 37500

theorem inv_init : Inv ({} : Hub α) := by
  constructor <;> simp

theorem nextRetryMs_bounds (n : ℕ) : 3000 ≤ nextRetryMs n ∧ nextRetryMs n ≤ 30000 := by
  have hpow : (1 : ℚ) ≤ 2 ^ n := one_le_pow₀ (by norm_num)
  constructor
  · apply le_min
    · rw [baseRetry]
      linarith
    · norm_num [maxRetry]
  · exact min_le_right _ _

theorem jitter_bounds {ms : ℚ} (h : 3000 ≤ ms ∧ ms ≤ 30000) (r : Random) :
    2250 ≤ jitter ms r ∧ jitter ms r < 37500 := by
  obtain ⟨r,hr⟩ := r
  simp only [jitter]
  constructor <;> nlinarith [h.1,h.2,hr.1,hr.2]

section Frame
variable (σ : Hub α) (data : Option α) (status : StreamStatus)

@[simp] theorem notify_es : (σ.notify data status).es = σ.es := rfl
@[simp] theorem notify_retryTimer : (σ.notify data status).retryTimer = σ.retryTimer := rfl
@[simp] theorem notify_retryCount : (σ.notify data status).retryCount = σ.retryCount := rfl
@[simp] theorem notify_listeners : (σ.notify data status).listeners = σ.listeners := rfl
@[simp] theorem notify_opened : (σ.notify data status).opened = σ.opened := rfl

end Frame

/-- What the invariant speaks about is all that counts for it. -/
theorem Inv.congr {σ σ' : Hub α} (h : σ.Inv) (hes : σ'.es = σ.es)
    (htimer : σ'.retryTimer = σ.retryTimer) (hlisteners : σ'.listeners = σ.listeners)
    (hopened : σ'.opened = σ.opened) (hcount : σ'.retryCount ≤ 5) : σ'.Inv := by
  obtain ⟨hopen,hserved,-,hdelay⟩ := h
  refine ⟨?_,?_,hcount,?_⟩
  · rwa [hopened,hes]
  · rwa [hlisteners,hes,htimer]
  · rwa [htimer]

theorem closed_of_none {σ : Hub α} (h : ∀ i, σ.opened i = true ↔ σ.es = some i)
    (hes : σ.es = none) (i : ℕ) : σ.opened i = false := by
  simpa [hes] using h i

/-- Connecting serves whoever listens, with one open source. -/
theorem inv_connect {σ : Hub α} (hopen : ∀ i, σ.opened i = true ↔ σ.es = some i)
    (hl : σ.listeners ≠ ∅) (hcount : σ.retryCount ≤ 5)
    (hdelay : ∀ d ∈ σ.retryTimer, 2250 ≤ d ∧ d < 37500) : σ.connect.Inv := by
  unfold connect
  split
  · rename_i hes
    exact ⟨hopen,by simp [hl,hes],hcount,hdelay⟩
  · rename_i hes
    refine ⟨?_,?_,hcount,hdelay⟩
    · intro i
      have hclosed := closed_of_none hopen (by simpa using hes) i
      by_cases hi : i = σ.sources
      · simp [hi]
      · simp [hi,hclosed,Ne.symm hi]
    · simp [hl]

theorem open_closeSource {σ : Hub α} (h : ∀ i, σ.opened i = true ↔ σ.es = some i) {i : ℕ}
    (hi : σ.es = some i) (j : ℕ) : Function.update σ.opened i false j = false := by
  by_cases hj : j = i
  · simp [hj]
  · have hclosed := h j
    rw [hi] at hclosed
    simpa [hj,Ne.symm hj] using hclosed

theorem Inv.fault {σ : Hub α} (h : σ.Inv) {i : ℕ} (hi : σ.es = some i) (r : Random) :
    ((σ.closeSource i).scheduleRetry r).Inv := by
  have hclosed := open_closeSource h.open_iff hi
  have hl : σ.listeners ≠ ∅ := h.served.mpr (.inl (by simp [hi]))
  unfold scheduleRetry
  split
  · rename_i htimer
    refine ⟨?_,?_,h.count,h.delay⟩
    · intro j
      simp [closeSource,hclosed j]
    · simpa [closeSource,hl] using htimer
  · refine ⟨?_,?_,?_,?_⟩
    · intro j
      simp [closeSource,hclosed j]
    · simpa [closeSource] using hl
    · simp
    · simpa using jitter_bounds (nextRetryMs_bounds _) r

theorem Inv.disconnect {σ : Hub α} (hopen : ∀ i, σ.opened i = true ↔ σ.es = some i)
    (hl : σ.listeners = ∅) (hcount : σ.retryCount ≤ 5) : σ.disconnect.Inv := by
  unfold Hub.disconnect
  split
  · rename_i i hi
    have hclosed := open_closeSource hopen hi
    refine ⟨?_,?_,hcount,by simp⟩
    · intro j
      simp [closeSource,hclosed j]
    · simp [closeSource,hl]
  · rename_i hes
    refine ⟨?_,?_,hcount,by simp⟩
    · intro j
      simp [closed_of_none hopen hes j,hes]
    · simp [hl,hes]

/-- A tab that becomes visible finds a source or a pending retry, and changes nothing. -/
theorem Inv.visible {σ : Hub α} (h : σ.Inv) : σ.step .visible = σ := by
  rw [step,if_neg]
  rintro ⟨hl,hes,htimer⟩
  have hserved := h.served.mp hl
  simp [hes,htimer] at hserved

theorem Inv.step {σ : Hub α} (h : σ.Inv) (e : Event α) : (σ.step e).Inv := by
  cases e with
  | render l => exact h.congr rfl rfl rfl rfl h.count
  | mount l => exact inv_connect h.open_iff (by simp) h.count h.delay
  | unmount l =>
    simp only [Hub.step]
    split
    · rename_i hl
      exact Inv.disconnect h.open_iff hl h.count
    · rename_i hl
      have hbefore : σ.listeners ≠ ∅ := fun he => hl (by simp [he])
      exact ⟨h.open_iff,by simpa [hl] using h.served.mp hbefore,h.count,h.delay⟩
  | frame i now parsed =>
    simp only [Hub.step]
    split
    · cases parsed with
      | none => exact h
      | some f =>
        cases f with
        | error => exact h
        | data d => exact h.congr rfl rfl rfl rfl (by simp [handleFrame])
    · exact h
  | fault i r =>
    simp only [Hub.step]
    split
    · rename_i hopen
      exact h.fault ((h.open_iff i).mp hopen) r
    · exact h
  | timer =>
    simp only [Hub.step]
    split
    · exact h
    · rename_i htimer
      exact inv_connect h.open_iff (h.served.mpr (.inr htimer)) h.count (by simp)
  | visible =>
    rw [h.visible]
    exact h

theorem Inv.run {σ : Hub α} (h : σ.Inv) (events : List (Event α)) : (σ.run events).Inv := by
  induction events generalizing σ with
  | nil => exact h
  | cons e events ih => exact ih (h.step e)

/-- In every run: at most one source is open, and it is the shared one; while a component
listens there is a source or a pending retry, and otherwise neither; a retry waits between
2.25 and 37.5 seconds; a tab that becomes visible changes nothing. -/
theorem one_source_while_listened (events : List (Event α)) :
    (∀ i,(run {} events).opened i = true ↔ (run {} events).es = some i) ∧
    ((run {} events).listeners ≠ ∅ ↔
      (run {} events).es ≠ none ∨ (run {} events).retryTimer ≠ none) ∧
    (∀ d ∈ (run {} events).retryTimer,2250 ≤ d ∧ d < 37500) ∧
    (run {} events).step .visible = run {} events := by
  have h : (run {} events : Hub α).Inv := inv_init.run events
  exact ⟨h.open_iff,h.served,h.delay,h.visible⟩

end Hub

end MacroInvest.AlephStream
