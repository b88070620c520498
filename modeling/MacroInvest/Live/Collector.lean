import MacroInvest.Library.CallRun

/-! # The collector shared by the streams

The stream endpoint counts a connection and makes sure the collector runs; the `finally` of
the response's generator counts it off and cancels the collector with the last one. The body
of a generator that was never advanced does not run, and neither does its `finally`.
-/
namespace MacroInvest.Live
open CallRun

/-- A response of the stream endpoint: its generator not advanced yet, under way, or closed. -/
inductive StreamStage where
  | requested
  | started
  | closed
  deriving DecidableEq

/-- A collector task. The loop swallows every error, so that it ends by cancellation only. -/
inductive TaskStage where
  | running
  | cancelling
  | done
  deriving DecidableEq

structure Collector where
  streams : List StreamStage
  tasks : List TaskStage
  connectionCount : ℕ
  liveCollectorTask : Option ℕ

inductive StreamEvent where
  | request
  | start (n : ℕ)
  | disconnect (n : ℕ)
  | cancel (n : ℕ)
  | unwind (i : ℕ)

def TaskStage.cancel : TaskStage → TaskStage
  | .running => .cancelling
  | t => t

def TaskStage.unwind : TaskStage → TaskStage
  | .cancelling => .done
  | t => t

namespace Collector
variable (s : Collector)

/-- `_LIVE_COLLECTOR_TASK is None or _LIVE_COLLECTOR_TASK.done()` -/
def needsTask : Bool :=
  match s.liveCollectorTask with
  | none => true
  | some i => s.tasks[i]? = some .done

def createTask : Collector :=
  { s with liveCollectorTask := some s.tasks.length, tasks := s.tasks ++ [.running] }

def intelligenceStream : Collector :=
  let counted := { s with connectionCount := s.connectionCount + 1 }
  let collecting := if counted.needsTask then counted.createTask else counted
  { collecting with streams := s.streams ++ [.requested] }

def onSseDisconnect : Collector :=
  let s := { s with connectionCount := s.connectionCount - 1 }
  match s.liveCollectorTask with
  | none => s
  | some i =>
    if s.connectionCount = 0 then
      { s with tasks := s.tasks.modify i TaskStage.cancel, liveCollectorTask := none }
    else s

def setStream (n : ℕ) (stage : StreamStage) : Collector :=
  { s with streams := s.streams.set n stage }

/-- The first advance of the generator of a response. -/
def start (n : ℕ) : Collector :=
  match s.streams[n]? with
  | some .requested => s.setStream n .started
  | _ => s

/-- The generator sees `is_disconnected`, leaves its loop and runs its `finally`. -/
def disconnect (n : ℕ) : Collector :=
  match s.streams[n]? with
  | some .started => (s.setStream n .closed).onSseDisconnect
  | _ => s

/-- The response is closed from outside: a `finally` runs only where a body was entered. -/
def cancel (n : ℕ) : Collector :=
  match s.streams[n]? with
  | some .requested => s.setStream n .closed
  | some .started => (s.setStream n .closed).onSseDisconnect
  | _ => s

/-- A cancelled task gets its `CancelledError`. -/
def unwind (i : ℕ) : Collector := { s with tasks := s.tasks.modify i TaskStage.unwind }

/-- The connections that are open: requested and not closed. -/
def live : ℕ := s.streams.countP (· ≠ .closed)

def running : Prop := .running ∈ s.tasks

instance : Decidable s.running := inferInstanceAs (Decidable (_ ∈ _))

/-- What the endpoint's docstring says of the counter and of the task. -/
structure Lawful : Prop where
  count : s.connectionCount = s.live
  collector : s.running ↔ 0 < s.live

end Collector

/-- No connection yet, as when the process starts. -/
def noStreams : Collector := ⟨[],[],0,none⟩

def streamStep (s : Collector) : StreamEvent → Collector × Unit
  | .request => (s.intelligenceStream,())
  | .start n => (s.start n,())
  | .disconnect n => (s.disconnect n,())
  | .cancel n => (s.cancel n,())
  | .unwind i => (s.unwind i,())

/-- A response is not closed before its generator is first advanced. -/
def Advanced (s : Collector) : StreamEvent → Prop
  | .cancel n => s.streams[n]? ≠ some .requested
  | _ => True

/-- The global names the only task that runs. -/
def Owns (tasks : List TaskStage) (task : Option ℕ) : Prop :=
  ∀ j, tasks[j]? = some .running ↔ task = some j

theorem Owns.running_iff {tasks : List TaskStage} {task : Option ℕ} (h : Owns tasks task) :
    TaskStage.running ∈ tasks ↔ task.isSome := by
  rw [List.mem_iff_getElem?,Option.isSome_iff_exists]
  exact exists_congr h

theorem Owns.cancel {tasks : List TaskStage} {i : ℕ} (h : Owns tasks (some i)) :
    Owns (tasks.modify i TaskStage.cancel) none := by
  intro j
  refine iff_of_false ?_ (by simp)
  intro hj
  rw [List.getElem?_modify] at hj
  obtain ⟨t,ht,hcancel⟩ := Option.map_eq_some_iff.mp hj
  by_cases hij : i = j
  · rw [if_pos hij] at hcancel
    cases t <;> simp [TaskStage.cancel] at hcancel
  · rw [if_neg hij] at hcancel
    have hji := (h j).mp (by rw [ht,hcancel])
    exact hij (Option.some.inj hji)

theorem Owns.create {tasks : List TaskStage} (h : Owns tasks none) :
    Owns (tasks ++ [.running]) (some tasks.length) := by
  intro j
  have hj : tasks[j]? ≠ some .running := fun hrunning => by simpa using (h j).mp hrunning
  rcases lt_trichotomy j tasks.length with hlt | rfl | hgt
  · rw [List.getElem?_append_left hlt,Option.some.injEq]
    exact iff_of_false hj (by omega)
  · simp
  · rw [List.getElem?_eq_none (by simp; omega),Option.some.injEq]
    exact iff_of_false (by simp) (by omega)

theorem TaskStage.unwind_eq_running {t : TaskStage} : t.unwind = .running ↔ t = .running := by
  cases t <;> simp [TaskStage.unwind]

theorem getElem?_unwind (tasks : List TaskStage) (i j : ℕ) :
    (tasks.modify i TaskStage.unwind)[j]? = some .running ↔ tasks[j]? = some .running := by
  rw [List.getElem?_modify]
  cases tasks[j]? with
  | none => simp
  | some t => by_cases hij : i = j <;> simp [hij,TaskStage.unwind_eq_running]

theorem Owns.unwind {tasks : List TaskStage} {task : Option ℕ} (h : Owns tasks task) (i : ℕ) :
    Owns (tasks.modify i TaskStage.unwind) task := by
  intro j
  rw [getElem?_unwind]
  exact h j

namespace Collector
variable {s : Collector} {n : ℕ}

/-- What the runs keep: the counter is right, and the global holds a task exactly while there
are connections. -/
structure Consistent (s : Collector) : Prop where
  count : s.connectionCount = s.live
  owner : s.liveCollectorTask.isSome ↔ 0 < s.live
  owns : Owns s.tasks s.liveCollectorTask

theorem Consistent.lawful (h : s.Consistent) : s.Lawful :=
  ⟨h.count,h.owns.running_iff.trans h.owner⟩

theorem live_pos {stage : StreamStage} (h : s.streams[n]? = some stage) (hopen : stage ≠ .closed) :
    0 < s.live :=
  List.countP_pos_iff.mpr ⟨stage,List.mem_of_getElem? h,by simpa using hopen⟩

theorem live_setStream {stage : StreamStage} (h : s.streams[n]? = some stage)
    (hopen : stage ≠ .closed) (stage' : StreamStage) :
    (s.setStream n stage').live + 1 = s.live + if stage' = .closed then 0 else 1 := by
  obtain ⟨hn,hget⟩ := List.getElem?_eq_some_iff.mp h
  have hpos := live_pos h hopen
  have hset : (s.setStream n stage').live = s.live - 1 + if stage' = .closed then 0 else 1 := by
    simp [live,setStream,List.countP_set hn,hget,hopen]
  omega

theorem start_consistent (h : s.Consistent) (n : ℕ) : (s.start n).Consistent := by
  unfold start
  split
  · rename_i hn
    have hlive := live_setStream hn (by simp) .started
    have hsame : (s.setStream n .started).live = s.live := by simpa using hlive
    refine ⟨?_,?_,h.owns⟩
    · rw [hsame]
      exact h.count
    · rw [hsame]
      exact h.owner
  · exact h

theorem needsTask_iff (howns : Owns s.tasks s.liveCollectorTask) :
    s.needsTask = true ↔ s.liveCollectorTask = none := by
  unfold needsTask
  cases hc : s.liveCollectorTask with
  | none => simp
  | some i =>
    have hi := (howns i).mpr hc
    simp [hi]

theorem intelligenceStream_consistent (h : s.Consistent) : s.intelligenceStream.Consistent := by
  let counted := { s with connectionCount := s.connectionCount + 1 }
  have howns : Owns counted.tasks counted.liveCollectorTask := h.owns
  have hlive : s.intelligenceStream.live = s.live + 1 := by simp [live,intelligenceStream]
  by_cases hneeds : counted.needsTask = true
  · have hmade : s.intelligenceStream = { counted.createTask with
        streams := s.streams ++ [.requested] } := by simp [intelligenceStream,counted,hneeds]
    rw [(needsTask_iff howns).mp hneeds] at howns
    refine ⟨?_,?_,?_⟩
    · rw [hlive,hmade,← h.count]
      rfl
    · rw [hlive,hmade]
      simp [createTask]
    · rw [hmade]
      exact howns.create
  · have hkept : s.intelligenceStream = { counted with
        streams := s.streams ++ [.requested] } := by simp [intelligenceStream,counted,hneeds]
    have hsome : counted.liveCollectorTask ≠ none := fun hnone =>
      hneeds ((needsTask_iff howns).mpr hnone)
    refine ⟨?_,?_,?_⟩
    · rw [hlive,hkept,← h.count]
    · rw [hlive,hkept]
      simpa [Option.isSome_iff_ne_none] using hsome
    · rw [hkept]
      exact howns

/-- The `finally` of a stream that has just closed. -/
theorem onSseDisconnect_consistent (hcount : s.connectionCount = s.live + 1)
    (howner : s.liveCollectorTask.isSome) (howns : Owns s.tasks s.liveCollectorTask) :
    s.onSseDisconnect.Consistent := by
  obtain ⟨i,hi⟩ := Option.isSome_iff_exists.mp howner
  have hleft : s.connectionCount - 1 = s.live := by omega
  rw [hi] at howns
  simp only [onSseDisconnect,hi,hleft]
  split
  · rename_i hnone
    refine ⟨rfl,?_,howns.cancel⟩
    have hzero : ¬0 < s.live := by omega
    exact iff_of_false (by simp) hzero
  · rename_i hsome
    refine ⟨rfl,?_,howns⟩
    have hpos : 0 < s.live := by omega
    exact iff_of_true rfl hpos

theorem close_consistent (h : s.Consistent) (hn : s.streams[n]? = some .started) :
    (s.setStream n .closed).onSseDisconnect.Consistent := by
  have hlive := live_setStream hn (by simp) .closed
  have hpos := live_pos hn (by simp)
  have hcount := h.count
  apply onSseDisconnect_consistent
  · change s.connectionCount = _
    simp at hlive
    omega
  · exact h.owner.mpr hpos
  · exact h.owns

theorem disconnect_consistent (h : s.Consistent) (n : ℕ) : (s.disconnect n).Consistent := by
  unfold disconnect
  split
  · rename_i hn
    exact close_consistent h hn
  · exact h

theorem cancel_consistent (h : s.Consistent) (hadvanced : s.streams[n]? ≠ some .requested) :
    (s.cancel n).Consistent := by
  unfold cancel
  split
  · rename_i hn
    exact absurd hn hadvanced
  · rename_i hn
    exact close_consistent h hn
  · exact h

/-- The counter stays up: no `finally` takes the connection off it. -/
theorem cancel_requested_not_lawful (h : s.Consistent) (hn : s.streams[n]? = some .requested) :
    ¬(s.cancel n).Lawful := by
  intro hlawful
  have hlive := live_setStream hn (by simp) .closed
  have hcount := h.count
  have hafter := hlawful.count
  simp only [cancel,hn] at hafter
  change s.connectionCount = _ at hafter
  simp at hlive
  omega

end Collector

theorem streamStep_consistent {s : Collector} {e : StreamEvent} (h : s.Consistent)
    (hadvanced : Advanced s e) : (streamStep s e).1.Consistent := by
  cases e with
  | request => exact Collector.intelligenceStream_consistent h
  | start n => exact Collector.start_consistent h n
  | disconnect n => exact Collector.disconnect_consistent h n
  | cancel n => exact Collector.cancel_consistent h hadvanced
  | unwind i => exact ⟨h.count,h.owner,h.owns.unwind i⟩

theorem streamStep_not_lawful {s : Collector} {e : StreamEvent} (h : s.Consistent)
    (hadvanced : ¬Advanced s e) : ¬(streamStep s e).1.Lawful := by
  cases e with
  | cancel n => exact Collector.cancel_requested_not_lawful h (not_not.mp hadvanced)
  | request => exact absurd trivial hadvanced
  | start n => exact absurd trivial hadvanced
  | disconnect n => exact absurd trivial hadvanced
  | unwind i => exact absurd trivial hadvanced

theorem noStreams_consistent : noStreams.Consistent :=
  ⟨rfl,by decide,fun j => by simp [noStreams]⟩

/-- Counter and collector agree with the connections in every state of a run exactly when no
response of the run is closed before its generator was first advanced. -/
theorem collector_law (events : List StreamEvent) :
    (∀ front, front <+: events → (final streamStep noStreams front).Lawful) ↔
      Admits streamStep Advanced noStreams events :=
  forall_prefix_iff_admits (I := Collector.Consistent) (fun _ h => h.lawful)
    (fun _ _ h hadvanced => streamStep_consistent h hadvanced)
    (fun _ _ h hadvanced => streamStep_not_lawful h hadvanced) noStreams_consistent events

/-- A client leaves before its generator is advanced: the counter stays at one and the
collector runs on without a connection. -/
theorem collector_leak :
    ¬(final streamStep noStreams [.request,.cancel 0]).Lawful ∧
    (final streamStep noStreams [.request,.cancel 0]).connectionCount = 1 ∧
    (final streamStep noStreams [.request,.cancel 0]).live = 0 ∧
    (final streamStep noStreams [.request,.cancel 0]).running := by
  refine ⟨?_,by decide⟩
  intro hlawful
  exact absurd hlawful.count (by decide)

end MacroInvest.Live
