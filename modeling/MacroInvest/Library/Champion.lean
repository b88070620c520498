import Mathlib

/-! # The champion of a scan

A scan holds one element and replaces it by each element that beats it. The relation need not be
an order, so which element is held at the end depends on how the scanned ones come. Over all
arrangements the possible champions are the elements at the head of a line, each of whose
members beats the next, such that nothing outside the line beats all of it.
-/
namespace MacroInvest.Champion
variable {T : Type*} (beats : T → T → Bool)

def hold (held : Option T) (x : T) : Option T :=
  match held with
  | none => some x
  | some y => if beats x y then some x else some y

def champion (xs : List T) : Option T := xs.foldl (hold beats) none

/-- The head of a line that nothing outside beats as a whole. -/
def Leads (xs : List T) (w : T) : Prop :=
  ∃ line rest, xs.Perm (w :: line ++ rest) ∧
    List.IsChain (fun x y => beats x y = true) (w :: line) ∧
    ∀ x ∈ rest, ∃ y ∈ w :: line, beats x y = false

variable {beats} {xs ys : List T} {w : T}

theorem champion_concat (x : T) :
    champion beats (xs ++ [x]) = hold beats (champion beats xs) x := by
  rw [champion,List.foldl_append,← champion,List.foldl_cons,List.foldl_nil]

theorem champion_eq_none : champion beats xs = none ↔ xs = [] := by
  induction xs using List.reverseRecOn with
  | nil => simp [champion]
  | append_singleton xs x _ =>
    rw [champion_concat]
    cases champion beats xs with
    | none => simp [hold]
    | some y =>
      rw [hold]
      split <;> simp

/-- Elements that fail against the held one leave it. -/
theorem champion_append_of_fail (h : champion beats xs = some w)
    (hfail : ∀ y ∈ ys, beats y w = false) : champion beats (xs ++ ys) = some w := by
  induction ys generalizing xs with
  | nil => rwa [List.append_nil]
  | cons y ys ih =>
    have hy : champion beats (xs ++ [y]) = some w := by
      rw [champion_concat,h,hold,hfail y List.mem_cons_self]
      rfl
    rw [← List.singleton_append,← List.append_assoc]
    exact ih hy (fun z hz => hfail z (List.mem_cons_of_mem _ hz))

/-- The held elements form the line, and each of the others failed against one of them. -/
theorem leads_of_champion (h : champion beats xs = some w) : Leads beats xs w := by
  induction xs using List.reverseRecOn generalizing w with
  | nil => cases h
  | append_singleton xs x ih =>
    rw [champion_concat] at h
    cases hheld : champion beats xs with
    | none =>
      rw [hheld] at h
      cases h
      rw [champion_eq_none.mp hheld]
      exact ⟨[],[],List.Perm.refl _,List.isChain_singleton _,by simp⟩
    | some y =>
      obtain ⟨line,rest,hperm,hline,hrest⟩ := ih hheld
      rw [hheld,hold] at h
      split at h
      · rename_i hbeats
        cases h
        refine ⟨y :: line,rest,?_,List.isChain_cons_cons.mpr ⟨hbeats,hline⟩,?_⟩
        · exact (List.perm_append_singleton x xs).trans (hperm.cons x)
        · intro z hz
          obtain ⟨v,hv,hfail⟩ := hrest z hz
          exact ⟨v,List.mem_cons_of_mem _ hv,hfail⟩
      · rename_i hbeats
        cases h
        refine ⟨line,rest ++ [x],?_,hline,?_⟩
        · rw [← List.append_assoc]
          exact hperm.append_right [x]
        · intro z hz
          rcases List.mem_append.mp hz with hz | hz
          · exact hrest z hz
          · rw [List.mem_singleton.mp hz]
            exact ⟨w,List.mem_cons_self,Bool.eq_false_of_not_eq_true hbeats⟩

/-- The line comes in from its end, each member followed by what fails against it. -/
theorem exists_champion_of_line (line rest : List T)
    (hline : List.IsChain (fun x y => beats x y = true) (w :: line))
    (hrest : ∀ x ∈ rest, ∃ y ∈ w :: line, beats x y = false) :
    ∃ ys, ys.Perm (w :: line ++ rest) ∧ champion beats ys = some w := by
  induction line generalizing w rest with
  | nil =>
    refine ⟨[w] ++ rest,List.Perm.refl _,champion_append_of_fail rfl ?_⟩
    intro x hx
    obtain ⟨y,hy,hfail⟩ := hrest x hx
    rwa [List.mem_singleton.mp hy] at hfail
  | cons v line ih =>
    obtain ⟨hbeats,hline⟩ := List.isChain_cons_cons.mp hline
    let late := rest.filter (fun x => !beats x w)
    let early := rest.filter (fun x => beats x w)
    have hearly : ∀ x ∈ early, ∃ y ∈ v :: line, beats x y = false := by
      intro x hx
      obtain ⟨hx,hwins⟩ := List.mem_filter.mp hx
      obtain ⟨y,hy,hfail⟩ := hrest x hx
      rcases List.mem_cons.mp hy with rfl | hy
      · rw [hwins] at hfail
        cases hfail
      · exact ⟨y,hy,hfail⟩
    obtain ⟨ys,hperm,hheld⟩ := ih early hline hearly
    have hw : champion beats (ys ++ [w]) = some w := by
      rw [champion_concat,hheld,hold,if_pos hbeats]
    have hlate : ∀ x ∈ late, beats x w = false := by
      intro x hx
      simpa using (List.mem_filter.mp hx).2
    refine ⟨ys ++ [w] ++ late,?_,champion_append_of_fail hw hlate⟩
    have hsplit : (early ++ late).Perm rest := List.filter_append_perm _ rest
    have hys : (ys ++ [w]).Perm (w :: (v :: line ++ early)) :=
      (List.perm_append_singleton w ys).trans (hperm.cons w)
    have hall : w :: (v :: line ++ early) ++ late = w :: v :: line ++ (early ++ late) := by simp
    rw [← List.perm_append_left_iff (w :: v :: line),← hall] at hsplit
    exact (hys.append_right late).trans hsplit

/-- The possible champions over all arrangements. -/
theorem exists_champion_iff :
    (∃ ys, ys.Perm xs ∧ champion beats ys = some w) ↔ Leads beats xs w := by
  constructor
  · rintro ⟨ys,hperm,hchampion⟩
    obtain ⟨line,rest,hline,hchain,hrest⟩ := leads_of_champion hchampion
    exact ⟨line,rest,hperm.symm.trans hline,hchain,hrest⟩
  · rintro ⟨line,rest,hline,hchain,hrest⟩
    obtain ⟨ys,hperm,hchampion⟩ := exists_champion_of_line line rest hchain hrest
    exact ⟨ys,hperm.trans hline.symm,hchampion⟩

theorem champion_mem (h : champion beats xs = some w) : w ∈ xs := by
  obtain ⟨line,rest,hperm,-,-⟩ := leads_of_champion h
  exact hperm.mem_iff.mpr List.mem_cons_self

section Key
variable {K : Type*} [LinearOrder K] {key : T → K}

theorem key_le_head {line : List T} (hline : List.IsChain (fun x y => key y < key x) (w :: line)) :
    ∀ y ∈ w :: line, key y ≤ key w := by
  induction line generalizing w with
  | nil =>
    intro y hy
    rw [List.mem_singleton.mp hy]
  | cons v line ih =>
    obtain ⟨hlt,hline⟩ := List.isChain_cons_cons.mp hline
    intro y hy
    rcases List.mem_cons.mp hy with rfl | hy
    · exact le_rfl
    · exact (ih hline y hy).trans hlt.le

/-- Where beating is being greater, the leaders are the greatest elements. -/
theorem leads_iff_of_key (hkey : ∀ x ∈ xs, ∀ y ∈ xs, beats x y = true ↔ key y < key x) :
    Leads beats xs w ↔ w ∈ xs ∧ ∀ x ∈ xs, key x ≤ key w := by
  constructor
  · rintro ⟨line,rest,hperm,hline,hrest⟩
    have hmem : ∀ y ∈ w :: line, y ∈ xs := fun y hy =>
      hperm.mem_iff.mpr (List.mem_append_left rest hy)
    have hle : ∀ y ∈ w :: line, key y ≤ key w := by
      refine key_le_head (List.IsChain.imp_of_mem_imp ?_ hline)
      intro x y hx hy hbeats
      exact (hkey x (hmem x hx) y (hmem y hy)).mp hbeats
    refine ⟨hmem w List.mem_cons_self,?_⟩
    intro x hx
    rcases List.mem_append.mp (hperm.mem_iff.mp hx) with hline | hx'
    · exact hle x hline
    · obtain ⟨y,hy,hfail⟩ := hrest x hx'
      have hnot : ¬key y < key x := by
        rw [← hkey x hx y (hmem y hy),hfail]
        exact Bool.false_ne_true
      exact (not_lt.mp hnot).trans (hle y hy)
  · rintro ⟨hw,hgreatest⟩
    obtain ⟨before,after,rfl⟩ := List.append_of_mem hw
    refine ⟨[],before ++ after,List.perm_middle,List.isChain_singleton w,?_⟩
    intro x hx
    have hx' : x ∈ before ++ w :: after := by
      rcases List.mem_append.mp hx with hx | hx <;> simp [hx]
    refine ⟨w,List.mem_cons_self,?_⟩
    rw [Bool.eq_false_iff,Ne,hkey x hx' w hw]
    exact not_lt.mpr (hgreatest x hx')

end Key

end MacroInvest.Champion
