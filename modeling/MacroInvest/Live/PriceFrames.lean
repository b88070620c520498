import MacroInvest.Live.PriceState
import MacroInvest.Library.CallRun

/-! # Cached price frames

A frame of the last closes is kept for ten seconds under its ticker, whatever number of rows
it was fetched for. A call that asks for another number within that time gets the frame as it
is. The law says when the frame is still what the call asked for.
-/
namespace MacroInvest.Live
open Broker CallRun Market

/-- An entry of `_DB_PRICE_CACHE`: the frame or nothing, and the time of the fetch. -/
structure FrameEntry where
  frame : Option (List ℚ)
  ts : ℚ

/-- The table, the cache and the monotonic clock. What no code reads, `stored` notes for each
entry: how many rows its ticker had at the fetch. -/
structure FrameState where
  marketTicks : TickTable
  dbPriceCache : String → Option FrameEntry
  clock : ℚ
  stored : String → ℕ

inductive FrameEvent where
  | wait (dt : NNRat)
  | change (ticks : TickTable)
  | clearCache
  | fetch (ticker : String) (nRows : ℕ) (readable : Bool)

namespace FrameState
variable (s : FrameState)

/-- The entry of a ticker while it is young enough. -/
def cached (ticker : String) : Option FrameEntry :=
  (s.dbPriceCache ticker).filter (fun entry => s.clock - entry.ts < dbCacheTtl)

/-- The query of the closes; no rows and a failed read both give nothing. -/
def readFrame (ticker : String) (nRows : ℕ) (readable : Bool) : Option (List ℚ) :=
  if readable then
    let rows := s.marketTicks.lastCloses nRows ticker
    if rows.isEmpty then none else some rows
  else none

def fetchPriceDfFromDb (ticker : String) (nRows : ℕ) (readable : Bool) :
    FrameState × Option (List ℚ) :=
  match s.cached ticker with
  | some entry => (s,entry.frame)
  | none =>
    let df := s.readFrame ticker nRows readable
    ({ s with
      dbPriceCache := Function.update s.dbPriceCache ticker (some ⟨df,s.clock⟩)
      stored := Function.update s.stored ticker (s.marketTicks.newestFirst ticker).length },df)

end FrameState

def frameStep (s : FrameState) : FrameEvent → FrameState × Option (List ℚ)
  | .wait dt => ({ s with clock := s.clock + dt },none)
  | .change ticks => ({ s with marketTicks := ticks },none)
  | .clearCache => ({ s with dbPriceCache := fun _ => none },none)
  | .fetch ticker nRows readable => s.fetchPriceDfFromDb ticker nRows readable

def noFrames (ticks : TickTable) (clock : ℚ) : FrameState :=
  ⟨ticks,fun _ => none,clock,fun _ => 0⟩

/-- A call answered with a cached frame asks for as many rows as that frame has, or for more
when the frame has every row there was. -/
def SameWindow (s : FrameState) : FrameEvent → Prop
  | .fetch ticker nRows _ => ∀ entry, s.cached ticker = some entry →
      ∀ frame, entry.frame = some frame → min nRows (s.stored ticker) = frame.length
  | _ => True

/-- A frame is what the table held at an instant of the run at most the cache time ago. -/
def HeldWithin (start : FrameState) (events : List FrameEvent) (ticker : String) (nRows : ℕ)
    (frame : List ℚ) : Prop :=
  ∃ past, past <+: events ∧
    (final frameStep start past).clock ≤ (final frameStep start events).clock ∧
    (final frameStep start events).clock - (final frameStep start past).clock < dbCacheTtl ∧
    frame = (final frameStep start past).marketTicks.lastCloses nRows ticker

theorem clock_le_frameStep (s : FrameState) (e : FrameEvent) :
    s.clock ≤ (frameStep s e).1.clock := by
  cases e with
  | wait dt => simp [frameStep]
  | change ticks => exact le_refl _
  | clearCache => exact le_refl _
  | fetch ticker nRows readable =>
    simp only [frameStep,FrameState.fetchPriceDfFromDb]
    split <;> exact le_refl _

theorem clock_le_final (s : FrameState) (events : List FrameEvent) :
    s.clock ≤ (final frameStep s events).clock := by
  induction events generalizing s with
  | nil => exact le_refl _
  | cons e events ih =>
    rw [final_cons]
    exact (clock_le_frameStep s e).trans (ih (frameStep s e).1)

/-- Where an entry comes from: a state of the run, which held its frame for some number of
rows. -/
def FetchedIn (start : FrameState) (events : List FrameEvent) (ticker : String) (stored : ℕ)
    (entry : FrameEntry) : Prop :=
  ∃ past, past <+: events ∧ (final frameStep start past).clock = entry.ts ∧
    stored = ((final frameStep start past).marketTicks.newestFirst ticker).length ∧
    ∀ frame, entry.frame = some frame → ∃ nRows,
      frame = (final frameStep start past).marketTicks.lastCloses nRows ticker

theorem FetchedIn.later {start : FrameState} {events : List FrameEvent} {ticker : String}
    {stored : ℕ} {entry : FrameEntry} (h : FetchedIn start events ticker stored entry)
    (e : FrameEvent) : FetchedIn start (events ++ [e]) ticker stored entry := by
  obtain ⟨past,hpast,hrest⟩ := h
  exact ⟨past,hpast.trans (List.prefix_append _ _),hrest⟩

theorem readFrame_eq {s : FrameState} {ticker : String} {nRows : ℕ} {readable : Bool}
    {frame : List ℚ} (h : s.readFrame ticker nRows readable = some frame) :
    frame = s.marketTicks.lastCloses nRows ticker := by
  unfold FrameState.readFrame at h
  cases readable with
  | false => simp at h
  | true =>
    by_cases hempty : (s.marketTicks.lastCloses nRows ticker).isEmpty
    · simp [hempty] at h
    · simpa [hempty] using h.symm

/-- Every entry of the cache was fetched in some state of the run. -/
theorem entries_fetched (ticks : TickTable) (clock : ℚ) (events : List FrameEvent) :
    ∀ ticker entry, (final frameStep (noFrames ticks clock) events).dbPriceCache ticker =
        some entry →
      FetchedIn (noFrames ticks clock) events ticker
        ((final frameStep (noFrames ticks clock) events).stored ticker) entry := by
  induction events using List.reverseRecOn with
  | nil => intro ticker entry h; cases h
  | append_singleton events e ih =>
    intro ticker entry h
    rw [final_concat] at h ⊢
    cases e with
    | wait dt => exact (ih ticker entry h).later _
    | change ticks' => exact (ih ticker entry h).later _
    | clearCache => cases h
    | fetch asked nRows readable =>
      simp only [frameStep,FrameState.fetchPriceDfFromDb] at h ⊢
      split at h
      · exact (ih ticker entry h).later _
      · by_cases hticker : ticker = asked
        · subst hticker
          simp only [Function.update_self,Option.some.injEq] at h ⊢
          subst h
          refine ⟨events,List.prefix_append _ _,rfl,rfl,?_⟩
          intro frame hframe
          exact ⟨nRows,readFrame_eq hframe⟩
        · simp only [Function.update_of_ne hticker] at h ⊢
          exact (ih ticker entry h).later _

/-- A call that keeps to the window of its entry is answered with what the table held. -/
theorem fetch_held (ticks : TickTable) (clock : ℚ) (events : List FrameEvent) (ticker : String)
    (nRows : ℕ) (readable : Bool) (frame : List ℚ)
    (hwindow : SameWindow (final frameStep (noFrames ticks clock) events)
      (.fetch ticker nRows readable))
    (hreply : ((final frameStep (noFrames ticks clock) events).fetchPriceDfFromDb ticker nRows
      readable).2 = some frame) :
    HeldWithin (noFrames ticks clock) events ticker nRows frame := by
  unfold FrameState.fetchPriceDfFromDb at hreply
  split at hreply
  · rename_i entry hcached
    obtain ⟨hentry,hyoung⟩ := Option.filter_eq_some_iff.mp hcached
    obtain ⟨past,hpast,hts,hstored,hframe⟩ := entries_fetched ticks clock events ticker entry hentry
    obtain ⟨m,hm⟩ := hframe frame hreply
    refine ⟨past,hpast,?_,?_,?_⟩
    · obtain ⟨rest,rfl⟩ := hpast
      rw [final_append]
      exact clock_le_final _ rest
    · rw [hts]
      simpa using hyoung
    · have hlen := hwindow entry hcached frame hreply
      rw [hm,lastCloses_length,← hstored] at hlen
      rw [hm,← lastCloses_min _ nRows,← lastCloses_min _ m,← hstored,hlen]
  · refine ⟨events,List.prefix_refl _,le_refl _,?_,readFrame_eq hreply⟩
    rw [sub_self]
    norm_num [dbCacheTtl]

/-- In a run whose calls keep to the windows of the cached frames, every frame returned holds
the last closes the table held at some instant within the cache time. -/
theorem frame_law (ticks : TickTable) (clock : ℚ) (events : List FrameEvent)
    (hwindow : Admits frameStep SameWindow (noFrames ticks clock) events) :
    ∀ front ticker nRows readable frame, front ++ [.fetch ticker nRows readable] <+: events →
      (frameStep (final frameStep (noFrames ticks clock) front)
        (.fetch ticker nRows readable)).2 = some frame →
      HeldWithin (noFrames ticks clock) front ticker nRows frame := by
  intro front ticker nRows readable frame hfront hreply
  obtain ⟨rest,rfl⟩ := hfront
  have hfirst := admits_concat.mp (admits_append_left hwindow)
  exact fetch_held ticks clock front ticker nRows readable frame hfirst.2 hreply

/-- Two calls for two rows, with nothing in between. -/
theorem frame_law_weekStored :
    HeldWithin (noFrames weekStored 0) [.fetch "AAPL" 2 true] "AAPL" 2 [196,197] := by
  refine frame_law weekStored 0 [.fetch "AAPL" 2 true,.fetch "AAPL" 2 true] ?_
    [.fetch "AAPL" 2 true] "AAPL" 2 true [196,197] (List.prefix_refl _) (by decide +kernel)
  refine ⟨?_,?_,trivial⟩
  · intro entry hentry
    cases hentry
  · intro entry hentry frame hframe
    have hsame : min 2 ((frameStep (noFrames weekStored 0) (.fetch "AAPL" 2 true)).1.stored
        "AAPL") = 2 := by decide +kernel
    have hcached : ((frameStep (noFrames weekStored 0) (.fetch "AAPL" 2 true)).1.cached
        "AAPL").bind FrameEntry.frame = some [196,197] := by decide +kernel
    rw [hentry,Option.bind_some,hframe] at hcached
    rw [hsame,Option.some.inj hcached]
    rfl

/-- A call for three rows within the time of a frame of two gets two of the three. -/
theorem frame_too_short :
    (frameStep (final frameStep (noFrames weekStored 0) [.fetch "AAPL" 2 true])
      (.fetch "AAPL" 3 true)).2 = some [196,197] ∧
    ¬HeldWithin (noFrames weekStored 0) [.fetch "AAPL" 2 true] "AAPL" 3 [196,197] := by
  refine ⟨by decide +kernel,?_⟩
  rintro ⟨past,hpast,-,-,hframe⟩
  have hstored : weekStored.lastCloses 3 "AAPL" = [195,196,197] := by decide +kernel
  rcases List.prefix_cons_iff.mp hpast with rfl | ⟨rest,rfl,hrest⟩
  · exact absurd (hframe.trans hstored) (by decide)
  · rw [List.prefix_nil.mp hrest] at hframe
    exact absurd (hframe.trans hstored) (by decide)

end MacroInvest.Live
