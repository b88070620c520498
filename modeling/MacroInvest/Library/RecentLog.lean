import Mathlib

/-! # A bounded log of the changes of a value

A value is observed again and again, and each change is a pair of the value before and after.
The changes away from a value that stands for nothing observed yet are not told. A log keeps
the newest entries, newest first.
-/
namespace MacroInvest.RecentLog
variable {α : Type*}

/-- One more entry in front, and the oldest one out when there are too many. -/
def pushRecent (cap : ℕ) (x : α) (log : List α) : List α :=
  if cap < (x :: log).length then (x :: log).dropLast else x :: log

/-- Whatever was pushed so far, the log is the newest part of it. -/
theorem pushRecent_take (cap : ℕ) (x : α) (history : List α) :
    pushRecent cap x (history.reverse.take cap) = (history ++ [x]).reverse.take cap := by
  have hlen : (x :: history.reverse.take cap).length = min cap history.length + 1 := by simp
  have hfront : (history ++ [x]).reverse.take cap = (x :: history.reverse.take cap).take cap := by
    cases cap with
    | zero => simp
    | succ n => simp [List.take_take]
  unfold pushRecent
  rw [hlen,hfront]
  split
  · rename_i hfull
    have hmin : min cap history.length = cap := by omega
    rw [List.dropLast_eq_take,hlen,hmin,Nat.add_sub_cancel]
  · rename_i hroom
    exact (List.take_of_length_le (by omega)).symm

theorem map_pushRecent {β : Type*} (f : α → β) (cap : ℕ) (x : α) (log : List α) :
    (pushRecent cap x log).map f = pushRecent cap (f x) (log.map f) := by
  by_cases hfull : cap < log.length + 1 <;> simp [pushRecent,hfull,List.map_dropLast]

variable [DecidableEq α]

/-- The changes in a sequence of observations. -/
def changes : List α → List (α × α)
  | [] => []
  | [_] => []
  | a :: b :: rest => if a ≠ b then (a,b) :: changes (b :: rest) else changes (b :: rest)

theorem changes_concat (observed : List α) (a b : α) :
    changes (observed ++ [a] ++ [b]) =
      changes (observed ++ [a]) ++ if a ≠ b then [(a,b)] else [] := by
  induction observed with
  | nil => by_cases hab : a = b <;> simp [changes,hab]
  | cons c observed ih =>
    cases observed with
    | nil =>
      simp only [List.nil_append,List.cons_append] at ih ⊢
      by_cases hca : c = a <;> simp [changes,hca]
    | cons d observed =>
      simp only [List.cons_append] at ih ⊢
      by_cases hcd : c = d
      · simpa [changes,hcd] using ih
      · simpa [changes,hcd] using ih

theorem changes_ne (observed : List α) : ∀ p ∈ changes observed, p.1 ≠ p.2 := by
  induction observed using List.twoStepInduction with
  | nil => simp [changes]
  | singleton a => simp [changes]
  | cons_cons a b rest _ ih =>
    intro p hp
    by_cases hab : a = b
    · exact ih b p (by simpa [changes,hab] using hp)
    · rcases List.mem_cons.mp (by simpa [changes,hab] using hp) with rfl | hp
      · exact hab
      · exact ih b p hp

/-- The changes told: those away from `unset` are not. -/
def told (unset : α) (observed : List α) : List (α × α) :=
  (changes observed).filter (fun p => p.1 ≠ unset)

variable {unset : α}

theorem told_concat (observed : List α) (a b : α) :
    told unset (observed ++ [a] ++ [b]) =
      told unset (observed ++ [a]) ++ if a ≠ unset ∧ b ≠ a then [(a,b)] else [] := by
  unfold told
  rw [changes_concat,List.filter_append]
  by_cases hab : a = b
  · simp [hab]
  · by_cases ha : a = unset
    · simp [ha]
    · simp [ha,hab,Ne.symm hab]

/-- The newest change told ends in the value observed last, unless it ends in `unset`. -/
theorem told_getLast {observed : List α} {a : α} {p : α × α}
    (hp : (told unset (observed ++ [a])).getLast? = some p) : p.2 ≠ unset → p.2 = a := by
  induction observed using List.reverseRecOn generalizing a with
  | nil => simp [told,changes] at hp
  | append_singleton observed b ih =>
    rw [told_concat] at hp
    intro hset
    by_cases hnew : b ≠ unset ∧ a ≠ b
    · simp [hnew] at hp
      rw [← hp]
    · simp only [if_neg hnew,List.append_nil] at hp
      have hb := ih hp hset
      by_contra hpa
      exact hnew ⟨hb ▸ hset,fun hab => hpa (hb.trans hab.symm)⟩

/-- Each change told begins where the one before ended, unless that was `unset`. -/
theorem told_chain (observed : List α) :
    (told unset observed).IsChain (fun p q => p.2 ≠ unset → q.1 = p.2) := by
  induction observed using List.reverseRecOn with
  | nil => simp [told,changes]
  | append_singleton observed b ih =>
    cases observed using List.reverseRecOn with
    | nil => simp [told,changes]
    | append_singleton observed a =>
      rw [told_concat]
      apply List.IsChain.append ih
      · split <;> simp
      · intro p hp q hq hset
        have hpa := told_getLast hp hset
        split at hq
        · simp at hq
          rw [← hq,hpa]
        · simp at hq

end MacroInvest.RecentLog
