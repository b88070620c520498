import Mathlib

/-! # Fallible computations

A computation that succeeded did so step by step, and a list of fallible casts that
succeeded has one result for each element. A call that may fail is tried until it succeeds, a
given number of times more after the first, with a pause after each failure but the last that
doubles from one to the next.
-/
namespace MacroInvest.Fallible
variable {α β ε : Type}

theorem ok_bind (a : α) (f : α → Except ε β) : (Except.ok a >>= f) = f a := rfl

theorem ok_of_bind {x : Except ε α} {f : α → Except ε β} {b : β}
    (h : (x >>= f) = .ok b) : ∃ a, x = .ok a ∧ f a = .ok b := by
  cases x with
  | error e => cases h
  | ok a => exact ⟨a,rfl,h⟩

theorem forall₂_of_mapM {f : α → Except ε β} {l : List α} {l' : List β}
    (h : l.mapM f = .ok l') : List.Forall₂ (fun a b => f a = .ok b) l l' := by
  induction l generalizing l' with
  | nil =>
    cases h
    exact .nil
  | cons a l ih =>
    rw [List.mapM_cons] at h
    obtain ⟨b,hb,h⟩ := ok_of_bind h
    obtain ⟨bs,hbs,h⟩ := ok_of_bind h
    cases h
    exact .cons hb (ih hbs)

section Pointwise
variable {R : α → β → Prop} {l : List α} {l' : List β}

theorem exists_right (h : List.Forall₂ R l l') {a : α} (ha : a ∈ l) : ∃ b ∈ l', R a b := by
  induction h with
  | nil => cases ha
  | cons hab _ ih =>
    rcases List.mem_cons.mp ha with rfl | ha
    · exact ⟨_,List.mem_cons_self,hab⟩
    · obtain ⟨b,hb,hr⟩ := ih ha
      exact ⟨b,List.mem_cons_of_mem _ hb,hr⟩

theorem exists_left (h : List.Forall₂ R l l') {b : β} (hb : b ∈ l') : ∃ a ∈ l, R a b :=
  exists_right h.flip hb

end Pointwise

end MacroInvest.Fallible

namespace MacroInvest.Retry
variable {ε α : Type*} {attempt : ℕ → Except ε α}

/-- The answer and the pauses of a call that has failed `k` times and may be tried `left` times
after the next attempt. -/
def retry (attempt : ℕ → Except ε α) (baseDelay : ℚ) : ℕ → ℕ → Except ε α × List ℚ
  | 0, k => (attempt k,[])
  | left + 1, k =>
    match attempt k with
    | .ok a => (.ok a,[])
    | .error _ =>
      let later := retry attempt baseDelay left (k + 1)
      (later.1,baseDelay * 2 ^ k :: later.2)

/-- The attempts before the `j`-th one failed. -/
def Failed (attempt : ℕ → Except ε α) (k j : ℕ) : Prop :=
  ∀ i < j, ∃ e, attempt (k + i) = .error e

theorem shift (k i : ℕ) : k + 1 + i = k + (i + 1) := by omega

theorem failed_succ {k j : ℕ} : Failed attempt k (j + 1) ↔
    (∃ e, attempt k = .error e) ∧ Failed attempt (k + 1) j := by
  constructor
  · intro h
    refine ⟨h 0 (Nat.succ_pos j),?_⟩
    intro i hi
    rw [shift]
    exact h (i + 1) (Nat.succ_lt_succ hi)
  · rintro ⟨hfirst,hrest⟩ i hi
    cases i with
    | zero => exact hfirst
    | succ i =>
      rw [← shift]
      exact hrest i (Nat.lt_of_succ_lt_succ hi)

/-- The answer is that of the first attempt that succeeds. -/
theorem retry_ok_iff (base : ℚ) (left k : ℕ) (a : α) : (retry attempt base left k).1 = .ok a ↔
    ∃ j ≤ left, attempt (k + j) = .ok a ∧ Failed attempt k j := by
  induction left generalizing k with
  | zero =>
    rw [retry]
    constructor
    · intro h
      exact ⟨0,le_rfl,h,fun i hi => absurd hi (Nat.not_lt_zero i)⟩
    · rintro ⟨j,hj,h,-⟩
      rwa [Nat.le_zero.mp hj] at h
  | succ left ih =>
    rw [retry]
    cases hk : attempt k with
    | ok b =>
      constructor
      · intro h
        exact ⟨0,Nat.zero_le _,hk.trans h,fun i hi => absurd hi (Nat.not_lt_zero i)⟩
      · rintro ⟨j,-,h,hfailed⟩
        cases j with
        | zero => exact hk.symm.trans h
        | succ j =>
          obtain ⟨⟨e,he⟩,-⟩ := failed_succ.mp hfailed
          cases hk.symm.trans he
    | error e =>
      simp only [ih]
      constructor
      · rintro ⟨j,hj,h,hfailed⟩
        refine ⟨j + 1,Nat.succ_le_succ hj,?_,failed_succ.mpr ⟨⟨e,hk⟩,hfailed⟩⟩
        rwa [← shift]
      · rintro ⟨j,hj,h,hfailed⟩
        cases j with
        | zero => cases hk.symm.trans h
        | succ j =>
          refine ⟨j,Nat.le_of_succ_le_succ hj,?_,(failed_succ.mp hfailed).2⟩
          rwa [shift]

/-- The error is that of the last attempt, and none before it succeeded. -/
theorem retry_error_iff (base : ℚ) (left k : ℕ) (e : ε) :
    (retry attempt base left k).1 = .error e ↔
      attempt (k + left) = .error e ∧ Failed attempt k left := by
  induction left generalizing k with
  | zero => exact (and_iff_left (fun i hi => absurd hi (Nat.not_lt_zero i))).symm
  | succ left ih =>
    rw [retry,failed_succ,← shift]
    cases hk : attempt k with
    | ok b => simp
    | error first => simpa [shift] using ih (k + 1)

/-- The pauses together are shorter than one more would be. -/
theorem sum_pauses_le {base : ℚ} (hbase : 0 ≤ base) (left k : ℕ) :
    (retry attempt base left k).2.sum ≤ base * 2 ^ k * (2 ^ left - 1) := by
  induction left generalizing k with
  | zero => simp [retry]
  | succ left ih =>
    rw [retry]
    cases hk : attempt k with
    | ok a =>
      have hpow : (1 : ℚ) ≤ 2 ^ (left + 1) := one_le_pow₀ (by norm_num)
      simpa using mul_nonneg (mul_nonneg hbase (by positivity)) (sub_nonneg.mpr hpow)
    | error e =>
      have hlater := ih (k + 1)
      rw [List.sum_cons]
      calc base * 2 ^ k + (retry attempt base left (k + 1)).2.sum
          ≤ base * 2 ^ k + base * 2 ^ (k + 1) * (2 ^ left - 1) := by gcongr
        _ = base * 2 ^ k * (2 ^ (left + 1) - 1) := by ring

end MacroInvest.Retry
