import Mathlib

/-! # The newest rows within bounds

A query keeps the rows that pass its filters and lie within its bounds, and returns the newest of
them. Not all times can be compared; a comparison of two that cannot be raises.
-/
namespace MacroInvest.RecentQuery
variable {R T : Type*}

/-- Which times can be compared, and which of two is later. -/
structure Clock (T : Type*) where
  comparable : T → T → Bool
  later : T → T → Bool

section Query
variable (clock : Clock T) (time : R → T)

/-- The rows that are not outside of a bound, if there is one. -/
def keep (outside : T → T → Bool) (bound : Option T) (rows : List R) : Option (List R) :=
  match bound with
  | none => some rows
  | some b =>
    if ∀ r ∈ rows, clock.comparable (time r) b = true then
      some (rows.filter (fun r => !outside (time r) b))
    else none

/-- `rows.sort(key=time, reverse=True)`, which keeps rows of one time in their order. -/
def newestFirst (rows : List R) : Option (List R) :=
  if rows.Pairwise (fun a b => clock.comparable (time a) (time b) = true) then
    some (rows.mergeSort (fun a b => !clock.later (time b) (time a)))
  else none

/-- A row is before the first bound, or after the last one. -/
def early (t bound : T) : Bool := clock.later bound t

def late (t bound : T) : Bool := clock.later t bound

def listRecent (passes : R → Bool) (first last : Option T) (limit : ℕ) (rows : List R) :
    Option (List R) := do
  let rows ← keep clock time (early clock) first (rows.filter passes)
  let rows ← keep clock time (late clock) last rows
  let rows ← newestFirst clock time rows
  return rows.take limit

end Query

/-- The newest rows of the matching ones, by their rank. -/
structure Newest (rank : R → ℤ) (limit : ℕ) (matching result : List R) : Prop where
  chosen : ∃ rest, (result ++ rest).Perm matching ∧ ∀ a ∈ result, ∀ b ∈ rest, rank b ≤ rank a
  length : result.length = min limit matching.length
  descending : result.Pairwise (fun a b => rank b ≤ rank a)

section Newest
variable {rank : R → ℤ}

theorem pairwise_mergeSort_rank (rank : R → ℤ) (rows : List R) :
    (rows.mergeSort (fun a b => decide (rank b ≤ rank a))).Pairwise
      (fun a b => rank b ≤ rank a) := by
  have hsorted : (rows.mergeSort (fun a b => decide (rank b ≤ rank a))).Pairwise
      (fun a b => decide (rank b ≤ rank a) = true) :=
    List.pairwise_mergeSort (by simpa using fun a b c hab hbc => le_trans hbc hab)
      (by simpa using fun a b => le_total (rank b) (rank a)) rows
  simpa using hsorted

theorem newest_take (rank : R → ℤ) (limit : ℕ) (rows : List R) : Newest rank limit rows
    ((rows.mergeSort (fun a b => decide (rank b ≤ rank a))).take limit) := by
  have hperm := List.mergeSort_perm rows (fun a b => decide (rank b ≤ rank a))
  have hsorted := pairwise_mergeSort_rank rank rows
  rw [← List.take_append_drop limit (rows.mergeSort _),List.pairwise_append] at hsorted
  obtain ⟨hresult,-,hrest⟩ := hsorted
  refine ⟨⟨_,?_,hrest⟩,?_,hresult⟩
  · rw [List.take_append_drop]
    exact hperm
  · rw [List.length_take,hperm.length_eq]

/-- A comparison that agrees with the rank on the rows sorts them by it. -/
theorem mergeSort_congr {le le' : R → R → Bool} {rows : List R}
    (h : ∀ a ∈ rows, ∀ b ∈ rows, le a b = le' a b) : rows.mergeSort le = rows.mergeSort le' := by
  have hmap := List.map_mergeSort (f := id) h
  rwa [List.map_id,List.map_id] at hmap

end Newest

section Answer
variable {clock : Clock T} {time : R → T} {passes : R → Bool} {first last : Option T} {limit : ℕ}
  {rows : List R}

/-- A time is not outside of a bound, if there is one. -/
def inside (outside : T → T → Bool) (bound : Option T) (t : T) : Bool :=
  bound.all (fun b => !outside t b)

theorem keep_eq (outside : T → T → Bool) (bound : Option T) (rows : List R) :
    keep clock time outside bound rows =
      if ∀ b ∈ bound, ∀ r ∈ rows, clock.comparable (time r) b = true then
        some (rows.filter (fun r => inside outside bound (time r)))
      else none := by
  cases bound with
  | none => simp [keep,inside]
  | some b => simp [keep,inside]

/-- The rows that reach the last bound. -/
def reaching (clock : Clock T) (time : R → T) (passes : R → Bool) (first : Option T)
    (rows : List R) : List R :=
  (rows.filter passes).filter (fun r => inside (early clock) first (time r))

def wanted (clock : Clock T) (time : R → T) (passes : R → Bool) (first last : Option T)
    (rows : List R) : List R :=
  (reaching clock time passes first rows).filter (fun r => inside (late clock) last (time r))

theorem mem_reaching {r : R} : r ∈ reaching clock time passes first rows ↔
    (r ∈ rows ∧ passes r = true) ∧ inside (early clock) first (time r) = true := by
  rw [reaching,List.mem_filter,List.mem_filter]

theorem mem_wanted {r : R} : r ∈ wanted clock time passes first last rows ↔
    ((r ∈ rows ∧ passes r = true) ∧ inside (early clock) first (time r) = true) ∧
      inside (late clock) last (time r) = true := by
  rw [wanted,List.mem_filter,mem_reaching]

/-- The query answers where every row that reaches a bound can be compared with it. -/
theorem listRecent_eq
    (hrows : ∀ a ∈ rows, ∀ b ∈ rows, clock.comparable (time a) (time b) = true) :
    listRecent clock time passes first last limit rows =
      if (∀ b ∈ first, ∀ r ∈ rows.filter passes, clock.comparable (time r) b = true) ∧
        ∀ b ∈ last, ∀ r ∈ reaching clock time passes first rows,
          clock.comparable (time r) b = true
      then some (((wanted clock time passes first last rows).mergeSort
        (fun a b => !clock.later (time b) (time a))).take limit)
      else none := by
  unfold listRecent
  simp only [keep_eq,Option.bind_eq_bind]
  by_cases hfirst : ∀ b ∈ first, ∀ r ∈ rows.filter passes, clock.comparable (time r) b = true
  · rw [if_pos hfirst,Option.bind_some,← reaching]
    by_cases hlast : ∀ b ∈ last, ∀ r ∈ reaching clock time passes first rows,
        clock.comparable (time r) b = true
    · have hpairs : (wanted clock time passes first last rows).Pairwise
          (fun a b => clock.comparable (time a) (time b) = true) :=
        List.pairwise_of_forall_mem_list (fun a ha b hb =>
          hrows a (mem_wanted.mp ha).1.1.1 b (mem_wanted.mp hb).1.1.1)
      rw [if_pos hlast,Option.bind_some,← wanted,newestFirst,if_pos hpairs,
        if_pos ⟨hfirst,hlast⟩]
      rfl
    · rw [if_neg hlast,if_neg (fun h => hlast h.2)]
      rfl
  · rw [if_neg hfirst,if_neg (fun h => hfirst h.1)]
    rfl

/-- Where the clock agrees with a rank on the rows, an answer is the newest of the wanted rows. -/
theorem newest_of_listRecent {rank : R → ℤ} {result : List R}
    (hrows : ∀ a ∈ rows, ∀ b ∈ rows, clock.comparable (time a) (time b) = true)
    (hrank : ∀ a ∈ rows, ∀ b ∈ rows, clock.later (time a) (time b) = decide (rank b < rank a))
    (h : listRecent clock time passes first last limit rows = some result) :
    Newest rank limit (wanted clock time passes first last rows) result := by
  rw [listRecent_eq hrows] at h
  split at h
  · have hagree : ∀ a ∈ wanted clock time passes first last rows,
        ∀ b ∈ wanted clock time passes first last rows,
        (!clock.later (time b) (time a)) = decide (rank b ≤ rank a) := by
      intro a ha b hb
      rw [hrank b (mem_wanted.mp hb).1.1.1 a (mem_wanted.mp ha).1.1.1,← decide_not]
      exact decide_eq_decide.mpr not_lt
    rw [mergeSort_congr hagree] at h
    cases h
    exact newest_take rank limit _
  · cases h

end Answer
end MacroInvest.RecentQuery
