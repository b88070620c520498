import MacroInvest.Library.CallRun

/-! # The connection pool behind its lock

Threads ask for the pool and close it. A thread that finds no pool takes the lock, looks again
and creates one; the value it returns is read after the lock is given back. Each step below is
one access to what the threads share.
-/
namespace MacroInvest.Broker

/-- Where a thread stands in `get` or in `close`. -/
inductive PoolPhase where
  | idle
  | check
  | await
  | locked
  | create
  | release
  | raising
  | answer
  | closeAwait
  | closeLocked
  | clear
  | closeRelease
  deriving DecidableEq

/-- The phases between taking the lock and giving it back. -/
def PoolPhase.holds : PoolPhase → Bool
  | .locked | .create | .release | .raising | .closeLocked | .clear | .closeRelease => true
  | _ => false

/-- The shared pool, numbered in the order of creation, the pools that are open, the lock and
the threads. -/
structure PoolState where
  inst : Option ℕ := none
  created : ℕ := 0
  opened : ℕ → Bool := fun _ => false
  lock : Option ℕ := none
  phase : ℕ → PoolPhase := fun _ => .idle

inductive PoolOutcome where
  | returned (pool : Option ℕ)
  | raised
  | closed

/-- A thread calls, or goes on; `ok` says whether a pool could be created. -/
inductive PoolAct where
  | get
  | close
  | go (ok : Bool)

namespace PoolState

def goto (σ : PoolState) (t : ℕ) (p : PoolPhase) : PoolState :=
  {σ with phase := Function.update σ.phase t p}

def advance (σ : PoolState) (t : ℕ) (ok : Bool) : PoolState × Option PoolOutcome :=
  match σ.phase t with
  | .idle => (σ,none)
  | .check => (σ.goto t (if σ.inst = none then .await else .answer),none)
  | .await => if σ.lock = none then ({σ with lock := some t}.goto t .locked,none) else (σ,none)
  | .locked => (σ.goto t (if σ.inst = none then .create else .release),none)
  | .create =>
    if ok then
      ({σ with
        inst := some σ.created
        created := σ.created + 1
        opened := Function.update σ.opened σ.created true}.goto t .release,none)
    else (σ.goto t .raising,none)
  | .release => ({σ with lock := none}.goto t .answer,none)
  | .raising => ({σ with lock := none}.goto t .idle,some .raised)
  | .answer => (σ.goto t .idle,some (.returned σ.inst))
  | .closeAwait =>
    if σ.lock = none then ({σ with lock := some t}.goto t .closeLocked,none) else (σ,none)
  | .closeLocked =>
    match σ.inst with
    | none => (σ.goto t .closeRelease,none)
    | some p => ({σ with opened := Function.update σ.opened p false}.goto t .clear,none)
  | .clear => ({σ with inst := none}.goto t .closeRelease,none)
  | .closeRelease => ({σ with lock := none}.goto t .idle,some .closed)

def step (σ : PoolState) (a : ℕ × PoolAct) : PoolState × Option PoolOutcome :=
  match a.2 with
  | .get => (if σ.phase a.1 = .idle then σ.goto a.1 .check else σ,none)
  | .close => (if σ.phase a.1 = .idle then σ.goto a.1 .closeAwait else σ,none)
  | .go ok => σ.advance a.1 ok

@[simp] theorem goto_phase_self (σ : PoolState) (t : ℕ) (p : PoolPhase) :
    (σ.goto t p).phase t = p := by
  simp [goto]

theorem goto_phase_ne (σ : PoolState) {t u : ℕ} (h : u ≠ t) (p : PoolPhase) :
    (σ.goto t p).phase u = σ.phase u := by
  simp [goto,h]

@[simp] theorem goto_inst (σ : PoolState) (t : ℕ) (p : PoolPhase) :
    (σ.goto t p).inst = σ.inst := rfl
@[simp] theorem goto_created (σ : PoolState) (t : ℕ) (p : PoolPhase) :
    (σ.goto t p).created = σ.created := rfl
@[simp] theorem goto_opened (σ : PoolState) (t : ℕ) (p : PoolPhase) :
    (σ.goto t p).opened = σ.opened := rfl
@[simp] theorem goto_lock (σ : PoolState) (t : ℕ) (p : PoolPhase) :
    (σ.goto t p).lock = σ.lock := rfl

/-- The lock is with the thread that is between its acquisition and its release, a thread about to
create finds no pool, a thread about to forget a pool has closed it, and while no thread is
about to forget one the open pool is the shared one. -/
structure Inv (σ : PoolState) : Prop where
  holder : ∀ t, (σ.phase t).holds = true ↔ σ.lock = some t
  absent : ∀ t, σ.phase t = .create → σ.inst = none
  closing : ∀ t, σ.phase t = .clear → ∀ p, σ.opened p = false
  agree : (∀ t, σ.phase t ≠ .clear) → ∀ p, σ.opened p = true ↔ σ.inst = some p

theorem inv_init : Inv {} := by
  constructor <;> simp [PoolPhase.holds]

namespace Inv
variable {σ : PoolState} {t : ℕ} {p : PoolPhase}

/-- An open pool is the shared one, at every moment. -/
theorem current (h : σ.Inv) {q : ℕ} (hq : σ.opened q = true) : σ.inst = some q := by
  by_cases hclear : ∃ u, σ.phase u = .clear
  · obtain ⟨u,hu⟩ := hclear
    simp [h.closing u hu q] at hq
  · exact (h.agree (not_exists.mp hclear) q).mp hq

theorem no_other (h : σ.Inv) (ht : (σ.phase t).holds = true) {u : ℕ} (hu : u ≠ t) :
    (σ.phase u).holds = false := by
  by_contra hne
  have hlock := (h.holder u).mp (by simpa using hne)
  rw [(h.holder t).mp ht] at hlock
  exact hu (Option.some.inj hlock).symm

/-- A step that moves one thread and touches nothing shared. -/
theorem move (h : σ.Inv) (hkeep : p.holds = (σ.phase t).holds) (hcreate : p = .create → σ.inst = none)
    (hp : p ≠ .clear) (ht : σ.phase t ≠ .clear) : (σ.goto t p).Inv := by
  constructor
  · intro u
    by_cases hut : u = t
    · subst hut
      rw [goto_phase_self,hkeep]
      exact h.holder u
    · rw [goto_phase_ne σ hut]
      exact h.holder u
  · intro u hu
    by_cases hut : u = t
    · subst hut
      exact hcreate (by simpa using hu)
    · rw [goto_phase_ne σ hut] at hu
      exact h.absent u hu
  · intro u hu
    by_cases hut : u = t
    · subst hut
      exact absurd (by simpa using hu) hp
    · rw [goto_phase_ne σ hut] at hu
      exact h.closing u hu
  · intro hnone
    apply h.agree
    intro u
    by_cases hut : u = t
    · rwa [hut]
    · rw [← goto_phase_ne σ hut p]
      exact hnone u

/-- Only the lock changes hands: the thread that takes it finds it free, the one that gives it
back holds it. -/
theorem relock (h : σ.Inv) {lock : Option ℕ} (hfree : ∀ u, u ≠ t → (σ.phase u).holds = false)
    (hlock : lock = if p.holds then some t else none) (hcreate : p ≠ .create) (hp : p ≠ .clear)
    (ht : σ.phase t ≠ .clear) : ({σ with lock := lock}.goto t p).Inv := by
  have hidle (u : ℕ) (hu : ({σ with lock := lock}.goto t p).phase u = .create ∨
      ({σ with lock := lock}.goto t p).phase u = .clear) : False := by
    by_cases hut : u = t
    · subst hut
      simp [hcreate,hp] at hu
    · rw [goto_phase_ne _ hut] at hu
      have hout : (σ.phase u).holds = false := hfree u hut
      change σ.phase u = .create ∨ σ.phase u = .clear at hu
      rcases hu with hu | hu <;> simp [hu,PoolPhase.holds] at hout
  constructor
  · intro u
    rw [goto_lock,hlock]
    by_cases hut : u = t
    · subst hut
      rw [goto_phase_self]
      cases p.holds <;> simp
    · rw [goto_phase_ne _ hut]
      have hout := hfree u hut
      cases p.holds <;> simp [hout,Ne.symm hut]
  · exact fun u hu => (hidle u (.inl hu)).elim
  · exact fun u hu => (hidle u (.inr hu)).elim
  · intro _
    apply h.agree
    intro u hu
    by_cases hut : u = t
    · exact ht (hut ▸ hu)
    · have := hfree u hut
      simp [hu,PoolPhase.holds] at this

/-- The holder of the lock changes the shared pool and goes on under the lock. -/
theorem write (h : σ.Inv) (ht : (σ.phase t).holds = true) {inst : Option ℕ} {created : ℕ}
    {opened : ℕ → Bool} (hp : p.holds = true) (hcreate : p ≠ .create)
    (hshared : if p = .clear then ∀ q, opened q = false
      else ∀ q, opened q = true ↔ inst = some q) :
    ({σ with inst := inst,created := created,opened := opened}.goto t p).Inv := by
  have hown (u : ℕ)
      (hu : (({σ with inst := inst,created := created,opened := opened}.goto t p).phase u).holds =
        true) : u = t := by
    by_contra hut
    rw [goto_phase_ne _ hut] at hu
    simp [h.no_other ht hut] at hu
  constructor
  · intro u
    by_cases hut : u = t
    · subst hut
      simp [hp,(h.holder u).mp ht]
    · rw [goto_phase_ne _ hut]
      exact h.holder u
  · intro u hu
    have hut := hown u (by rw [hu]; rfl)
    subst hut
    exact absurd (by simpa using hu) hcreate
  · intro u hu
    have hut := hown u (by rw [hu]; rfl)
    subst hut
    have hclear : p = .clear := by simpa using hu
    rwa [if_pos hclear] at hshared
  · intro hnone
    have hclear : p ≠ .clear := by simpa using hnone t
    rwa [if_neg hclear] at hshared

theorem free (h : σ.Inv) (hl : σ.lock = none) (u : ℕ) : (σ.phase u).holds = false := by
  by_contra hne
  have hlock := (h.holder u).mp (by simpa using hne)
  simp [hl] at hlock

/-- Every access keeps the invariant. -/
theorem advance (h : σ.Inv) (t : ℕ) (ok : Bool) : (σ.advance t ok).1.Inv := by
  cases hph : σ.phase t with
  | idle => simpa [PoolState.advance,hph] using h
  | check =>
    simp only [PoolState.advance,hph]
    split
    · exact h.move (by simp [hph,PoolPhase.holds]) (by simp) (by simp) (by simp [hph])
    · exact h.move (by simp [hph,PoolPhase.holds]) (by simp) (by simp) (by simp [hph])
  | await =>
    simp only [PoolState.advance,hph]
    split
    · rename_i hl
      exact h.relock (fun u _ => h.free hl u) rfl (by simp) (by simp) (by simp [hph])
    · exact h
  | locked =>
    simp only [PoolState.advance,hph]
    split
    · rename_i hnone
      exact h.move (by simp [hph,PoolPhase.holds]) (fun _ => hnone) (by simp) (by simp [hph])
    · exact h.move (by simp [hph,PoolPhase.holds]) (by simp) (by simp) (by simp [hph])
  | create =>
    have hholds : (σ.phase t).holds = true := by simp [hph,PoolPhase.holds]
    have habsent := h.absent t hph
    have hnone (q : ℕ) : σ.opened q = false := by
      by_contra hq
      simp [h.current (by simpa using hq)] at habsent
    simp only [PoolState.advance,hph]
    split
    · apply h.write hholds rfl (by simp)
      simp [Function.update_apply,hnone,eq_comm]
    · exact h.move (by simp [hph,PoolPhase.holds]) (by simp) (by simp) (by simp [hph])
  | release =>
    have hholds : (σ.phase t).holds = true := by simp [hph,PoolPhase.holds]
    simp only [PoolState.advance,hph]
    exact h.relock (fun u hu => h.no_other hholds hu) rfl (by simp)
      (by simp) (by simp [hph])
  | raising =>
    have hholds : (σ.phase t).holds = true := by simp [hph,PoolPhase.holds]
    simp only [PoolState.advance,hph]
    exact h.relock (fun u hu => h.no_other hholds hu) rfl (by simp)
      (by simp) (by simp [hph])
  | answer =>
    simp only [PoolState.advance,hph]
    exact h.move (by simp [hph,PoolPhase.holds]) (by simp) (by simp) (by simp [hph])
  | closeAwait =>
    simp only [PoolState.advance,hph]
    split
    · rename_i hl
      exact h.relock (fun u _ => h.free hl u) rfl (by simp) (by simp) (by simp [hph])
    · exact h
  | closeLocked =>
    have hholds : (σ.phase t).holds = true := by simp [hph,PoolPhase.holds]
    simp only [PoolState.advance,hph]
    split
    · exact h.move (by simp [hph,PoolPhase.holds]) (by simp) (by simp) (by simp [hph])
    · rename_i q hq
      apply h.write hholds rfl (by simp)
      rw [if_pos rfl]
      intro r
      by_cases hr : r = q
      · simp [hr]
      · rw [Function.update_of_ne hr]
        by_contra hopen
        have := h.current (by simpa using hopen)
        simp [hq,Ne.symm hr] at this
  | clear =>
    have hholds : (σ.phase t).holds = true := by simp [hph,PoolPhase.holds]
    simp only [PoolState.advance,hph]
    apply h.write hholds rfl (by simp)
    simp [h.closing t hph]
  | closeRelease =>
    have hholds : (σ.phase t).holds = true := by simp [hph,PoolPhase.holds]
    simp only [PoolState.advance,hph]
    exact h.relock (fun u hu => h.no_other hholds hu) rfl (by simp)
      (by simp) (by simp [hph])

theorem step (h : σ.Inv) (a : ℕ × PoolAct) : (σ.step a).1.Inv := by
  obtain ⟨t,act⟩ := a
  cases act with
  | get =>
    simp only [PoolState.step]
    split
    · rename_i hph
      exact h.move (by simp [hph,PoolPhase.holds]) (by simp) (by simp) (by simp [hph])
    · exact h
  | close =>
    simp only [PoolState.step]
    split
    · rename_i hph
      exact h.move (by simp [hph,PoolPhase.holds]) (by simp) (by simp) (by simp [hph])
    · exact h
  | go ok => exact h.advance t ok

/-- A thread that holds the lock is never blocked. -/
theorem holder_moves (ht : (σ.phase t).holds = true) (ok : Bool) :
    (σ.advance t ok).1.phase t ≠ σ.phase t := by
  cases hph : σ.phase t <;> simp_all [PoolPhase.holds,PoolState.advance] <;> split <;> simp

/-- While a call is under way some thread can go on. -/
theorem moves (h : σ.Inv) (ht : σ.phase t ≠ .idle) (ok : Bool) :
    ∃ u,(σ.advance u ok).1.phase u ≠ σ.phase u := by
  cases hl : σ.lock with
  | some u => exact ⟨u,holder_moves ((h.holder u).mpr hl) ok⟩
  | none =>
    refine ⟨t,?_⟩
    have hfree := h.free hl t
    cases hph : σ.phase t <;> simp_all [PoolPhase.holds,PoolState.advance]
    split <;> simp

end Inv

/-- As long as nobody closes: no thread is in `close`, at most one pool was created, a thread
that is about to answer finds it, and it is the only answer so far. -/
structure Sole (σ : PoolState) (answers : List ((ℕ × PoolAct) × Option PoolOutcome)) : Prop where
  inv : σ.Inv
  open_ : ∀ t, σ.phase t ∉ [.closeAwait,.closeLocked,.clear,.closeRelease]
  count : σ.inst = none ∧ σ.created = 0 ∨ σ.inst = some 0 ∧ σ.created = 1
  found : ∀ t, σ.phase t = .release ∨ σ.phase t = .answer → σ.inst ≠ none
  same : ∀ a pool,(a,some (.returned pool)) ∈ answers → pool = some 0 ∧ σ.inst = some 0

namespace Sole
variable {σ σ' : PoolState} {answers : List ((ℕ × PoolAct) × Option PoolOutcome)}

theorem init : Sole {} [] := ⟨inv_init,by simp,.inl ⟨rfl,rfl⟩,by simp,by simp⟩

theorem only (h : Sole σ answers) (hinst : σ.inst ≠ none) : σ.inst = some 0 := by
  rcases h.count with hcount | hcount
  · exact absurd hcount.1 hinst
  · exact hcount.1

/-- A step that leaves the shared pool as it is. -/
theorem keep (h : Sole σ answers) (hinv : σ'.Inv) (t : ℕ) (hinst : σ'.inst = σ.inst)
    (hcreated : σ'.created = σ.created) (hothers : ∀ u, u ≠ t → σ'.phase u = σ.phase u)
    (hopen : σ'.phase t ∉ [.closeAwait,.closeLocked,.clear,.closeRelease])
    (hfound : σ'.phase t = .release ∨ σ'.phase t = .answer → σ.inst ≠ none)
    (a : ℕ × PoolAct) (o : Option PoolOutcome)
    (ho : ∀ pool,o = some (.returned pool) → pool = σ.inst ∧ σ.inst ≠ none) :
    Sole σ' (answers ++ [(a,o)]) := by
  refine ⟨hinv,?_,by rw [hinst,hcreated]; exact h.count,?_,?_⟩
  · intro u
    by_cases hu : u = t
    · rwa [hu]
    · rw [hothers u hu]
      exact h.open_ u
  · intro u hphase
    rw [hinst]
    by_cases hu : u = t
    · exact hfound (hu ▸ hphase)
    · rw [hothers u hu] at hphase
      exact h.found u hphase
  · intro b pool hmem
    rw [hinst]
    rcases List.mem_append.mp hmem with hmem | hmem
    · exact h.same b pool hmem
    · simp only [List.mem_singleton,Prod.mk.injEq] at hmem
      obtain ⟨hpool,hinst'⟩ := ho pool hmem.2.symm
      rw [hpool]
      exact ⟨h.only hinst',h.only hinst'⟩

/-- The thread that creates the pool was the first to do so. -/
theorem create (h : Sole σ answers) {t : ℕ} (hph : σ.phase t = .create) (a : ℕ × PoolAct)
    (hinv : ({σ with
      inst := some σ.created
      created := σ.created + 1
      opened := Function.update σ.opened σ.created true}.goto t .release).Inv) :
    Sole ({σ with
      inst := some σ.created
      created := σ.created + 1
      opened := Function.update σ.opened σ.created true}.goto t .release)
      (answers ++ [(a,none)]) := by
  have habsent := h.inv.absent t hph
  have hzero : σ.created = 0 := by
    rcases h.count with hcount | hcount
    · exact hcount.2
    · simp [hcount.1] at habsent
  refine ⟨hinv,?_,.inr (by simp [hzero]),by simp,?_⟩
  · intro u
    by_cases hu : u = t
    · simp [hu]
    · rw [goto_phase_ne _ hu]
      exact h.open_ u
  · intro b pool hmem
    rcases List.mem_append.mp hmem with hmem | hmem
    · simp [(h.same b pool hmem).2] at habsent
    · simp at hmem

theorem step (h : Sole σ answers) {a : ℕ × PoolAct} (ha : a.2 ≠ .close) :
    Sole (σ.step a).1 (answers ++ [(a,(σ.step a).2)]) := by
  have hinv := h.inv.step a
  obtain ⟨t,act⟩ := a
  have hquiet (p : PoolPhase) (u : ℕ) (hu : u ≠ t) : (σ.goto t p).phase u = σ.phase u :=
    goto_phase_ne σ hu p
  cases act with
  | close => simp at ha
  | get =>
    revert hinv
    simp only [PoolState.step]
    split
    · intro hinv
      exact h.keep hinv t rfl rfl (hquiet _) (by simp) (by simp) _ _ (by simp)
    · rename_i hidle
      intro hinv
      refine h.keep hinv t rfl rfl (fun _ _ => rfl) (h.open_ t) (h.found t) _ _ (by simp)
  | go ok =>
    revert hinv
    simp only [PoolState.step,PoolState.advance]
    cases hph : σ.phase t with
    | idle =>
      intro hinv
      exact h.keep hinv t rfl rfl (fun _ _ => rfl) (h.open_ t) (h.found t) _ _ (by simp)
    | check =>
      intro hinv
      apply h.keep hinv t rfl rfl (hquiet _) _ _ _ _ (by simp)
      · dsimp only
        rw [goto_phase_self]
        split <;> simp
      · dsimp only
        rw [goto_phase_self]
        split
        · simp
        · intro _
          assumption
    | await =>
      dsimp only
      split
      · intro hinv
        exact h.keep hinv t rfl rfl (hquiet _) (by simp) (by simp) _ _ (by simp)
      · intro hinv
        exact h.keep hinv t rfl rfl (fun _ _ => rfl) (h.open_ t) (h.found t) _ _ (by simp)
    | locked =>
      intro hinv
      apply h.keep hinv t rfl rfl (hquiet _) _ _ _ _ (by simp)
      · dsimp only
        rw [goto_phase_self]
        split <;> simp
      · dsimp only
        rw [goto_phase_self]
        split
        · simp
        · intro _
          assumption
    | create =>
      dsimp only
      split
      · intro hinv
        exact h.create hph _ hinv
      · intro hinv
        exact h.keep hinv t rfl rfl (hquiet _) (by simp) (by simp) _ _ (by simp)
    | release =>
      intro hinv
      exact h.keep hinv t rfl rfl (hquiet _) (by simp) (fun _ => h.found t (.inl hph)) _ _
        (by simp)
    | raising =>
      intro hinv
      exact h.keep hinv t rfl rfl (hquiet _) (by simp) (by simp) _ _ (by simp)
    | answer =>
      intro hinv
      refine h.keep hinv t rfl rfl (hquiet _) (by simp) (by simp) _ _ ?_
      intro pool hpool
      exact ⟨by simpa using hpool.symm,h.found t (.inr hph)⟩
    | closeAwait => exact absurd (h.open_ t) (by simp [hph])
    | closeLocked => exact absurd (h.open_ t) (by simp [hph])
    | clear => exact absurd (h.open_ t) (by simp [hph])
    | closeRelease => exact absurd (h.open_ t) (by simp [hph])

end Sole

/-- As long as nobody closes, every answer is the one pool that was created, however the
threads interleave and however often its creation failed before. -/
theorem get_answers_one_pool (acts : List (ℕ × PoolAct)) (h : ∀ a ∈ acts, a.2 ≠ .close) :
    (CallRun.final step {} acts).created ≤ 1 ∧
    ∀ a pool,(a,some (.returned pool)) ∈ CallRun.trace step {} acts → pool = some 0 := by
  have hsole : Sole (CallRun.final step {} acts) (CallRun.trace step {} acts) :=
    CallRun.run_induction (G := fun _ a => a.2 ≠ .close) Sole.init
      (fun σ answers a ha hs => hs.step ha) acts (CallRun.admits_of_forall fun _ => h)
  refine ⟨?_,fun a pool hmem => (hsole.same a pool hmem).1⟩
  rcases hsole.count with hcount | hcount <;> omega

/-- Two threads that find no pool, and a creation that fails between them. -/
theorem get_answers_one_pool_race :
    (CallRun.final step {} [(0,.get),(1,.get),(0,.go true),(1,.go true),(0,.go true),
        (0,.go true),(0,.go false),(0,.go true),(1,.go true),(1,.go true),(1,.go true)]).created ≤
        1 ∧
    ∀ a pool,(a,some (.returned pool)) ∈ CallRun.trace step {} [(0,.get),(1,.get),(0,.go true),
      (1,.go true),(0,.go true),(0,.go true),(0,.go false),(0,.go true),(1,.go true),
      (1,.go true),(1,.go true)] → pool = some 0 :=
  get_answers_one_pool _ (by simp)

end PoolState

end MacroInvest.Broker
