import Mathlib

/-! # Rows filled from a fallback

A row gives values to some keys, a fallback to others. A weighted total takes the row's value
where there is one and the fallback's where there is none; only positive totals are listed.
-/
namespace MacroInvest.FilledRows
variable {K ι : Type*}

/-- `sum(row.get(k, fallback.get(k, 0)) * w for k, w in weights)` -/
def total (weights : List (K × ℚ)) (fallback row : K → Option ℚ) : ℚ :=
  (weights.map (fun e => ((row e.1).getD ((fallback e.1).getD 0)) * e.2)).sum

section Total
variable {weights : List (K × ℚ)} {fallback fallback' row : K → Option ℚ}

/-- Only the keys that the row leaves out read the fallback. -/
theorem total_congr
    (h : ∀ e ∈ weights, row e.1 = none → fallback e.1 = fallback' e.1) :
    total weights fallback row = total weights fallback' row := by
  refine congrArg List.sum (List.map_congr_left (fun e he => ?_))
  cases hrow : row e.1 with
  | none => rw [Option.getD_none,Option.getD_none,h e he hrow]
  | some x => rfl

variable (weights row) (S : K → Prop) [DecidablePred S]

/-- The weight of the keys that the row leaves out and the fallback has. -/
def missing : ℚ := (weights.map (fun e => if S e.1 ∧ row e.1 = none then e.2 else 0)).sum

/-- A fallback that is constant on its keys counts with the weight that is missing. -/
theorem total_const (x : ℚ) : total weights (fun k => if S k then some x else none) row =
    total weights (fun _ => none) row + x * missing weights row S := by
  unfold total missing
  rw [← List.sum_map_mul_left,← List.sum_map_add]
  refine congrArg List.sum (List.map_congr_left (fun e _ => ?_))
  cases hrow : row e.1 with
  | none => by_cases hS : S e.1 <;> simp [hS]
  | some y => simp

variable {weights row S}

theorem missing_nonneg (h : ∀ e ∈ weights, 0 ≤ e.2) : 0 ≤ missing weights row S := by
  refine List.sum_nonneg (fun x hx => ?_)
  obtain ⟨e,he,rfl⟩ := List.mem_map.mp hx
  split
  · exact h e he
  · rfl

/-- A key that is left out adds its weight. -/
theorem le_missing (h : ∀ e ∈ weights, 0 ≤ e.2) {e : K × ℚ} (he : e ∈ weights) (hS : S e.1)
    (hrow : row e.1 = none) : e.2 ≤ missing weights row S := by
  refine List.single_le_sum (fun x hx => ?_) _ (List.mem_map.mpr ⟨e,he,if_pos ⟨hS,hrow⟩⟩)
  obtain ⟨f,hf,rfl⟩ := List.mem_map.mp hx
  split
  · exact h f hf
  · rfl

end Total

section Listed
variable {l : List ι} {u v : ι → ℚ}

/-- `if value > 0: values.append(value)`, each value with what it belongs to. -/
def listed (l : List ι) (u : ι → ℚ) : List (ι × ℚ) :=
  l.filterMap (fun i => if 0 < u i then some (i,u i) else none)

theorem listed_congr (h : ∀ i ∈ l, u i = v i) : listed l u = listed l v :=
  List.filterMap_congr (fun i hi => by rw [h i hi])

/-- A total that is not listed counts as zero in the sum. -/
theorem sum_listed (l : List ι) (u : ι → ℚ) :
    ((listed l u).map Prod.snd).sum = (l.map (fun i => max (u i) 0)).sum := by
  induction l with
  | nil => rfl
  | cons i l ih =>
    rw [listed] at ih ⊢
    rw [List.filterMap_cons,List.map_cons,List.sum_cons,← ih]
    by_cases hpos : 0 < u i
    · rw [if_pos hpos,max_eq_left hpos.le,List.map_cons,List.sum_cons]
    · rw [if_neg hpos,max_eq_right (not_lt.mp hpos),zero_add]

/-- Totals that grow and list the same values are the same where they are listed. -/
theorem eq_of_listed_eq (hle : ∀ i ∈ l, u i ≤ v i)
    (h : (listed l u).map Prod.snd = (listed l v).map Prod.snd) {i : ι} (hi : i ∈ l)
    (hpos : 0 < u i) : u i = v i := by
  have hsum : (l.map (fun i => max (u i) 0)).sum = (l.map (fun i => max (v i) 0)).sum := by
    rw [← sum_listed,← sum_listed,h]
  by_contra hne
  have hlt : u i < v i := lt_of_le_of_ne (hle i hi) hne
  have hstrict := List.sum_lt_sum (fun i => max (u i) 0) (fun i => max (v i) 0)
    (fun j hj => max_le_max_right 0 (hle j hj))
    ⟨i,hi,by rw [max_eq_left hpos.le,max_eq_left (hpos.trans hlt).le]; exact hlt⟩
  exact hstrict.ne hsum

end Listed
end MacroInvest.FilledRows
