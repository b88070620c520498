import Mathlib

/-! # Exclusive locks

A lock table names the holder of every locked key. A key is taken when it is free or already
one's own, and a holder gives up all its keys at once. Other holders see neither.
-/
namespace MacroInvest.RowLocks
variable {K : Type*}

abbrev Locks (K : Type*) := K → Option ℕ

namespace Locks

def Free (locks : Locks K) (n : ℕ) (k : K) : Prop := locks k = none ∨ locks k = some n

instance (locks : Locks K) (n : ℕ) (k : K) : Decidable (locks.Free n k) :=
  inferInstanceAs (Decidable (_ ∨ _))

def take [DecidableEq K] (locks : Locks K) (n : ℕ) (k : K) : Locks K :=
  Function.update locks k (some n)

def release (locks : Locks K) (n : ℕ) : Locks K :=
  fun k => if locks k = some n then none else locks k

variable {locks : Locks K} {n m : ℕ} {k k' : K}

theorem take_self [DecidableEq K] : (locks.take n k) k = some n := Function.update_self ..

theorem take_own [DecidableEq K] (h : locks k' = some n) : (locks.take n k) k' = some n := by
  by_cases hk : k' = k
  · rw [hk,take_self]
  · rw [take,Function.update_of_ne hk,h]

/-- Taking a free key moves nothing that another holds. -/
theorem take_other [DecidableEq K] (hfree : locks.Free n k) (hm : m ≠ n) :
    (locks.take n k) k' = some m ↔ locks k' = some m := by
  by_cases hk : k' = k
  · subst hk
    have hne : locks k' ≠ some m := by
      rcases hfree with hnone | hown
      · simp [hnone]
      · simp [hown,hm.symm]
    simp [take_self,hne,hm.symm]
  · rw [take,Function.update_of_ne hk]

theorem release_held (h : (locks.release n) k = some m) : locks k = some m := by
  unfold release at h
  split at h
  · cases h
  · exact h

theorem release_other (hm : m ≠ n) : (locks.release n) k = some m ↔ locks k = some m := by
  unfold release
  split
  · rename_i hown
    simp [hown,hm.symm]
  · rfl

end Locks
end MacroInvest.RowLocks
