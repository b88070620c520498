import MacroInvest.Library.CallRun
import MacroInvest.Library.DatedRows

/-! # Services told by their logs

Two services that stay related and answer alike give the same trace. A log of dated rows keeps the
row that leads its day: rows saved later for that day, or for another one, leave it in front.
-/
namespace MacroInvest.CallRun
variable {S T A O : Type*} {step : S → A → S × O} {step' : T → A → T × O} {R : S → T → Prop}

/-- Related states that answer every call alike and stay related give one trace. -/
theorem simulation (h : ∀ s t a, R s t → (step s a).2 = (step' t a).2 ∧
    R (step s a).1 (step' t a).1) {s : S} {t : T} (hinit : R s t) (calls : List A) :
    R (final step s calls) (final step' t calls) ∧ trace step s calls = trace step' t calls := by
  induction calls using List.reverseRecOn with
  | nil => exact ⟨hinit,rfl⟩
  | append_singleton calls a ih =>
    obtain ⟨hrel,htrace⟩ := ih
    obtain ⟨hanswer,hnext⟩ := h _ _ a hrel
    rw [final_concat,final_concat,trace_concat,trace_concat,htrace,hanswer]
    exact ⟨hnext,rfl⟩

end MacroInvest.CallRun

namespace MacroInvest.DatedRows
open FirstMax
variable {R R' D : Type*} [LinearOrder D] {date : R → D} {date' : R' → D} {rows : List R} {d : D}
  {r : R}

theorem mem_of_mem_sliceTo {limit : ℤ} (h : r ∈ sliceTo rows limit) : r ∈ rows := by
  unfold sliceTo at h
  split_ifs at h
  · exact List.mem_of_mem_take h
  · exact List.mem_of_mem_take h

theorem length_sliceTo {limit : ℤ} (h : 0 ≤ limit) :
    (sliceTo rows limit).length = min limit.toNat rows.length := by
  rw [sliceTo,if_pos h,List.length_take]

theorem mem_of_mem_recentFirst {T : Type*} [LinearOrder T] {stamp : R → T} {limit : ℤ}
    (h : r ∈ recentFirst date stamp rows d limit) : r ∈ rows :=
  (mem_onOrBefore.mp (List.mem_mergeSort.mp (mem_of_mem_sliceTo h))).1

/-- The row that was saved first for the day. -/
def firstAt (date : R → D) (rows : List R) (d : D) : Option R :=
  rows.find? (fun r => date r = d)

/-- The first row of its day leads the day, whatever else was saved. -/
theorem latestOnOrBefore_of_firstAt (h : firstAt date rows d = some r) :
    latestOnOrBefore date rows d = some r := by
  obtain ⟨hr,before,after,rfl,hbefore⟩ := List.find?_eq_some_iff_append.mp h
  have hr := of_decide_eq_true hr
  rw [latestOnOrBefore,onOrBefore,List.filter_append,List.filter_cons,if_pos (by simp [hr])]
  refine firstMax_eq_some_iff.mpr ⟨_,_,rfl,?_,?_⟩
  · intro other hother
    obtain ⟨hmem,hle⟩ := List.mem_filter.mp hother
    rw [hr]
    exact lt_of_le_of_ne (of_decide_eq_true hle) (by simpa using hbefore other hmem)
  · intro other hother
    rw [hr]
    exact of_decide_eq_true (List.mem_filter.mp hother).2

theorem firstAt_append (h : firstAt date rows d = some r) (more : List R) :
    firstAt date (rows ++ more) d = some r := by
  rw [firstAt] at h
  rw [firstAt,List.find?_append,h,Option.some_or]

theorem firstAt_concat (rows : List R) (r : R) :
    firstAt date (rows ++ [r]) (date r) = some ((firstAt date rows (date r)).getD r) := by
  cases h : firstAt date rows (date r) with
  | none =>
    rw [firstAt] at h
    rw [firstAt,List.find?_append,h]
    simp
  | some first => exact firstAt_append h [r]

/-- What leads a day is the first row of its own day. -/
theorem firstAt_of_latest (h : latestOnOrBefore date rows d = some r) :
    firstAt date rows (date r) = some r := by
  have hr := (latestOnOrBefore_mem h).2
  obtain ⟨before,after,hsplit,hbefore,-⟩ := firstMax_split h
  have hfilter : firstAt date rows (date r) = firstAt date (onOrBefore date rows d) (date r) := by
    rw [firstAt,firstAt,onOrBefore,List.find?_filter]
    congr 1
    funext other
    by_cases heq : date other = date r
    · simp [heq,hr]
    · simp [heq]
  rw [hfilter,hsplit,firstAt,List.find?_append,List.find?_eq_none.mpr,Option.none_or]
  · simp
  · intro other hother
    simpa using (hbefore other hother).ne

/-- What leads a day leads it for good. -/
theorem latestOnOrBefore_append (h : latestOnOrBefore date rows d = some r) (hr : date r = d)
    (more : List R) : latestOnOrBefore date (rows ++ more) d = some r := by
  subst hr
  exact latestOnOrBefore_of_firstAt (firstAt_append (firstAt_of_latest h) more)

section Aligned
variable {Q : R → R' → Prop} {rows' : List R'}

theorem map_eq_of_rel {V : Type*} {a : Option R} {b : Option R'} (h : Option.Rel Q a b)
    {f : R → V} {g : R' → V} (hfg : ∀ x y, Q x y → f x = g y) : a.map f = b.map g := by
  cases h with
  | none => rfl
  | some hxy => exact congrArg some (hfg _ _ hxy)

theorem rel_some {a : Option R} {b : Option R'} (h : Option.Rel Q a b) {y : R'}
    (hb : b = some y) : ∃ x, a = some x ∧ Q x y := by
  subst hb
  cases h with
  | some hxy => exact ⟨_,rfl,hxy⟩

theorem forall₂_firstMax (hkey : ∀ a b, Q a b → date a = date' b)
    (h : List.Forall₂ Q rows rows') :
    Option.Rel Q (firstMax date rows) (firstMax date' rows') := by
  induction h with
  | nil => exact .none
  | cons hab _ ih =>
    rw [firstMax_cons,firstMax_cons]
    revert ih
    generalize firstMax date _ = best
    generalize firstMax date' _ = best'
    intro ih
    cases ih with
    | none => exact .some hab
    | some hbest =>
      simp only [hkey _ _ hab,hkey _ _ hbest]
      split
      · exact .some hbest
      · exact .some hab

/-- Aligned logs are led by aligned rows. -/
theorem forall₂_latest (hkey : ∀ a b, Q a b → date a = date' b)
    (h : List.Forall₂ Q rows rows') (d : D) :
    Option.Rel Q (latestOnOrBefore date rows d) (latestOnOrBefore date' rows' d) := by
  refine forall₂_firstMax hkey (List.rel_filter ?_ h)
  intro a b hab
  simp [hkey a b hab]

end Aligned

end MacroInvest.DatedRows
