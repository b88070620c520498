import MacroInvest.Library.FirstMax

/-! # Sorting rows with distinct keys

Where no two rows share a key, the ascending and the descending sort are each other's reverse,
and the descending one starts with the greatest key.
-/
namespace MacroInvest.KeySort
open FirstMax
variable {R T : Type*} [LinearOrder T] {key : R → T} {rows : List R}

theorem strict_of_nodup {l : List R} (hnodup : (l.map key).Nodup)
    (hsorted : l.Pairwise (fun a b => key a ≤ key b)) : l.Pairwise (fun a b => key a < key b) := by
  have hne : l.Pairwise (fun a b => key a ≠ key b) := List.pairwise_map.mp hnodup
  exact (hsorted.and hne).imp (fun h => lt_of_le_of_ne h.1 h.2)

/-- An ascending sort of distinct keys ascends strictly. -/
theorem ascending (key : R → T) (hnodup : (rows.map key).Nodup) :
    (rows.insertionSort (fun a b => key a ≤ key b)).Pairwise (fun a b => key a < key b) := by
  have htotal : Std.Total (fun a b : R => key a ≤ key b) := ⟨fun a b => le_total (key a) (key b)⟩
  have htrans : IsTrans R (fun a b : R => key a ≤ key b) := ⟨fun _ _ _ => le_trans⟩
  refine strict_of_nodup ?_ (List.pairwise_insertionSort _ rows)
  exact ((List.perm_insertionSort _ rows).map key).nodup_iff.mpr hnodup

theorem descending (key : R → T) (hnodup : (rows.map key).Nodup) :
    (rows.insertionSort (fun a b => key b ≤ key a)).Pairwise (fun a b => key b < key a) :=
  ascending (fun r => OrderDual.toDual (key r)) hnodup

/-- Rows in strictly descending order are sorted ascending by reversing them. -/
theorem ascending_eq_reverse {l : List R} (h : l.Pairwise (fun a b => key b < key a))
    (hrows : l.Perm rows) : rows.insertionSort (fun a b => key a ≤ key b) = l.reverse := by
  have hnodup : (l.map key).Nodup := List.pairwise_map.mpr (h.imp (fun hlt => hlt.ne'))
  have hperm := (List.perm_insertionSort (fun a b : R => key a ≤ key b) rows).trans
    (hrows.symm.trans (List.reverse_perm l).symm)
  exact hperm.eq_of_pairwise (fun a b _ _ hab hba => absurd hab hba.asymm)
    (ascending key ((hrows.map key).nodup_iff.mp hnodup)) (List.pairwise_reverse.mpr h)

theorem head_descending (hnodup : (rows.map key).Nodup) :
    (rows.insertionSort (fun a b => key b ≤ key a)).head? = firstMax key rows := by
  have hsorted := descending key hnodup
  have hperm := List.perm_insertionSort (fun a b : R => key b ≤ key a) rows
  cases hsort : rows.insertionSort (fun a b => key b ≤ key a) with
  | nil =>
    rw [hsort] at hperm
    rw [hperm.nil_eq.symm]
    rfl
  | cons m rest =>
    rw [hsort] at hperm hsorted
    have hm : m ∈ rows := hperm.mem_iff.mp List.mem_cons_self
    have hne : firstMax key rows ≠ none := fun hnone => by
      rw [firstMax_eq_none.mp hnone] at hm
      cases hm
    obtain ⟨best,hbest⟩ := Option.ne_none_iff_exists'.mp hne
    have hle := le_firstMax hbest hm
    rw [hbest,List.head?_cons]
    rcases List.mem_cons.mp (hperm.mem_iff.mpr (firstMax_mem hbest)) with rfl | hrest
    · rfl
    · exact absurd hle (List.rel_of_pairwise_cons hsorted hrest).not_ge

end MacroInvest.KeySort
