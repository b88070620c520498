import Mathlib

/-! # The first greatest element

A scan that replaces its candidate only by a strictly greater one returns the first of the
greatest elements. The executable scan needs a decidable order and nothing else; over a
linear order it is Mathlib's argmax, whose laws it inherits.
-/
namespace MacroInvest.FirstMax
variable {R T : Type*}

def firstMax [LT T] [DecidableLT T] (key : R → T) (rows : List R) : Option R :=
  rows.foldl (List.argAux (fun b c => key c < key b)) none

variable [LinearOrder T] {key : R → T} {rows : List R} {m : R}

theorem firstMax_eq_argmax (key : R → T) (rows : List R) :
    firstMax key rows = rows.argmax key := rfl

@[simp] theorem firstMax_nil : firstMax key [] = none := rfl

theorem firstMax_concat (row : R) : firstMax key (rows ++ [row]) =
    match firstMax key rows with
    | none => some row
    | some best => if key best < key row then some row else some best := by
  rw [firstMax_eq_argmax,firstMax_eq_argmax,List.argmax_concat]
  cases rows.argmax key with
  | none => rfl
  | some best => rfl

theorem firstMax_cons (row : R) : firstMax key (row :: rows) =
    match firstMax key rows with
    | none => some row
    | some best => if key row < key best then some best else some row := by
  rw [firstMax_eq_argmax,firstMax_eq_argmax,List.argmax_cons]
  cases rows.argmax key with
  | none => rfl
  | some best => rfl

theorem firstMax_mem (h : firstMax key rows = some m) : m ∈ rows :=
  List.argmax_mem (Option.mem_def.mpr h)

theorem le_firstMax (h : firstMax key rows = some m) {row : R} (hrow : row ∈ rows) :
    key row ≤ key m := List.le_of_mem_argmax hrow (Option.mem_def.mpr h)

theorem firstMax_eq_none : firstMax key rows = none ↔ rows = [] := List.argmax_eq_none

/-- Everything before the chosen element is smaller, nothing after it is greater. -/
theorem firstMax_split (h : firstMax key rows = some m) : ∃ before after,
    rows = before ++ m :: after ∧ (∀ row ∈ before, key row < key m) ∧
      ∀ row ∈ after, key row ≤ key m := by
  induction rows using List.reverseRecOn generalizing m with
  | nil => cases h
  | append_singleton rows row ih =>
    rw [firstMax_concat] at h
    cases hbest : firstMax key rows with
    | none =>
      rw [hbest] at h
      cases h
      rw [firstMax_eq_none.mp hbest]
      exact ⟨[],[],rfl,by simp,by simp⟩
    | some best =>
      rw [hbest] at h
      simp only at h
      split at h
      · rename_i hlt
        cases h
        refine ⟨rows,[],rfl,?_,by simp⟩
        intro other hother
        exact (le_firstMax hbest hother).trans_lt hlt
      · rename_i hge
        cases h
        obtain ⟨before,after,rfl,hbefore,hafter⟩ := ih hbest
        refine ⟨before,after ++ [row],by simp,hbefore,?_⟩
        intro other hother
        rcases List.mem_append.mp hother with hother | hother
        · exact hafter other hother
        · rw [List.mem_singleton.mp hother]
          exact not_lt.mp hge

theorem firstMax_eq_some_iff : firstMax key rows = some m ↔ ∃ before after,
    rows = before ++ m :: after ∧ (∀ row ∈ before, key row < key m) ∧
      ∀ row ∈ after, key row ≤ key m := by
  constructor
  · exact firstMax_split
  · rintro ⟨before,after,rfl,hbefore,hafter⟩
    induction after using List.reverseRecOn with
    | nil =>
      rw [firstMax_concat]
      cases hbest : firstMax key before with
      | none => rfl
      | some best => exact if_pos (hbefore best (firstMax_mem hbest))
    | append_singleton after row ih =>
      have hsplit : before ++ m :: (after ++ [row]) = (before ++ m :: after) ++ [row] := by simp
      rw [hsplit,firstMax_concat,ih (fun r hr => hafter r (List.mem_append_left _ hr))]
      exact if_neg (not_lt.mpr (hafter row (by simp)))

theorem firstMax_map {S : Type*} (f : S → R) (rows : List S) :
    firstMax key (rows.map f) = (firstMax (fun s => key (f s)) rows).map f := by
  induction rows using List.reverseRecOn with
  | nil => rfl
  | append_singleton rows row ih =>
    rw [List.map_append,List.map_singleton,firstMax_concat,firstMax_concat,ih]
    cases firstMax (fun s => key (f s)) rows with
    | none => rfl
    | some best =>
      by_cases hlt : key (f best) < key (f row)
      · simp [hlt]
      · simp [hlt]

/-- An element greater than all others is chosen wherever it stands. -/
theorem firstMax_of_strict (hm : m ∈ rows) (h : ∀ row ∈ rows, row ≠ m → key row < key m) :
    firstMax key rows = some m := by
  obtain ⟨best,hbest⟩ : ∃ best, firstMax key rows = some best :=
    Option.ne_none_iff_exists'.mp (firstMax_eq_none.not.mpr (List.ne_nil_of_mem hm))
  by_cases hsame : best = m
  · rw [hbest,hsame]
  · exact absurd (le_firstMax hbest hm) (not_le.mpr (h best (firstMax_mem hbest) hsame))

/-- Sorting the greatest to the front puts the first greatest element there. -/
theorem head_insertionSort (key : R → T) (rows : List R) :
    (rows.insertionSort (fun a b => key b ≤ key a)).head? = firstMax key rows := by
  induction rows with
  | nil => rfl
  | cons row rows ih =>
    rw [List.insertionSort_cons,firstMax_cons,← ih]
    cases rows.insertionSort (fun a b => key b ≤ key a) with
    | nil => rfl
    | cons best rest =>
      rw [List.orderedInsert_cons]
      by_cases hlt : key row < key best
      · simp [hlt,not_le.mpr hlt]
      · simp [hlt,not_lt.mp hlt]

section StableSort

theorem decide_le_trans (key : R → T) (a b c : R) : decide (key b ≤ key a) →
    decide (key c ≤ key b) → decide (key c ≤ key a) := by
  intro hab hbc
  exact decide_eq_true ((of_decide_eq_true hbc).trans (of_decide_eq_true hab))

theorem decide_le_total (key : R → T) (a b : R) :
    decide (key b ≤ key a) || decide (key a ≤ key b) := by
  simpa using le_total (key b) (key a)

/-- An element in front is sorted in before everything that is not greater. -/
theorem mergeSort_cons_cut (key : R → T) (x : R) (l : List R) : ∃ front back,
    (x :: l).mergeSort (fun a b => decide (key b ≤ key a)) = front ++ x :: back ∧
    l.mergeSort (fun a b => decide (key b ≤ key a)) = front ++ back ∧
    (∀ r ∈ front, key x < key r) ∧ ∀ r ∈ back, key r ≤ key x := by
  obtain ⟨front,back,hsort,hrest,hfront⟩ :=
    List.mergeSort_cons (decide_le_trans key) (decide_le_total key) x l
  have hsorted := List.pairwise_mergeSort (decide_le_trans key) (decide_le_total key) (x :: l)
  rw [hsort] at hsorted
  refine ⟨front,back,hsort,hrest,fun r hr => ?_,fun r hr => ?_⟩
  · simpa using hfront r hr
  · exact of_decide_eq_true (List.rel_of_pairwise_cons (List.pairwise_append.mp hsorted).2.1 hr)

/-- A stable descending sort starts with the first greatest element. -/
theorem head_mergeSort (key : R → T) (rows : List R) :
    (rows.mergeSort (fun a b => decide (key b ≤ key a))).head? = firstMax key rows := by
  induction rows with
  | nil => simp
  | cons row rows ih =>
    obtain ⟨before,after,hsort,hrows,hbefore,hafter⟩ := mergeSort_cons_cut key row rows
    rw [hrows] at ih
    rw [hsort,firstMax_cons,← ih]
    cases before with
    | nil =>
      cases after with
      | nil => rfl
      | cons best after => simp [(hafter best List.mem_cons_self).not_gt]
    | cons best before => simp [hbefore best List.mem_cons_self]

/-- A sorted list is cut in one place only into what is greater than a key and what is not. -/
theorem cut_unique {l l' m m' : List R} {k : T} (h : l ++ m = l' ++ m')
    (hl : ∀ r ∈ l, k < key r) (hl' : ∀ r ∈ l', k < key r) (hm : ∀ r ∈ m, key r ≤ k)
    (hm' : ∀ r ∈ m', key r ≤ k) : l = l' := by
  have hcut : ∀ l m : List R, (∀ r ∈ l, k < key r) → (∀ r ∈ m, key r ≤ k) →
      (l ++ m).takeWhile (fun r => k < key r) = l := by
    intro l m hl hm
    rw [List.takeWhile_append_of_pos (by simpa using hl)]
    cases m with
    | nil => simp
    | cons r m => simp [not_lt.mpr (hm r List.mem_cons_self)]
  rw [← hcut l m hl hm,h,hcut l' m' hl' hm']

/-- Sorting moves the first greatest element to the front and sorts the others. -/
theorem mergeSort_split {before after : List R} (hbefore : ∀ row ∈ before, key row < key m)
    (hafter : ∀ row ∈ after, key row ≤ key m) :
    (before ++ m :: after).mergeSort (fun a b => decide (key b ≤ key a)) =
      m :: (before ++ after).mergeSort (fun a b => decide (key b ≤ key a)) := by
  induction before with
  | nil =>
    obtain ⟨front,back,hsort,hrest,hfront,-⟩ := mergeSort_cons_cut key m after
    cases front with
    | nil => rw [List.nil_append,List.nil_append,hsort,hrest]; rfl
    | cons r front =>
      have hmem : r ∈ after := by
        have h : r ∈ after.mergeSort (fun a b => decide (key b ≤ key a)) := by simp [hrest]
        simpa using h
      exact absurd (hfront r List.mem_cons_self) (hafter r hmem).not_gt
  | cons x before ih =>
    have hx : key x < key m := hbefore x List.mem_cons_self
    have hih := ih (fun r hr => hbefore r (List.mem_cons_of_mem x hr))
    obtain ⟨front,back,hsort,hrest,hfront,hback⟩ :=
      mergeSort_cons_cut key x (before ++ m :: after)
    obtain ⟨front',back',hsort',hrest',hfront',hback'⟩ :=
      mergeSort_cons_cut key x (before ++ after)
    have hwhole : front ++ back = (m :: front') ++ back' := by
      rw [← hrest,hih,hrest']
      rfl
    have hcut : front = m :: front' := by
      refine cut_unique hwhole hfront ?_ hback hback'
      intro r hr
      rcases List.mem_cons.mp hr with rfl | hr
      · exact hx
      · exact hfront' r hr
    have hsame : back = back' := by
      rw [hcut] at hwhole
      exact List.append_cancel_left hwhole
    rw [List.cons_append,hsort,List.cons_append,hsort',hcut,hsame]
    rfl

end StableSort

end MacroInvest.FirstMax
