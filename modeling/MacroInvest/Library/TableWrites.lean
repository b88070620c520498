import Mathlib

/-! # Writes to a table

Rows belong to a group and carry a time; group and time together are the key. A batch
replaces the rows of its groups from a start onwards. What the batch does not bring back
is lost exactly when its key lies in the window and not in the batch. A state may also be read at
one cell that each write sets to a value or leaves. After a list of writes the cell has the value
set last, and the one it had before if none was set.
-/
namespace MacroInvest.WindowTable
variable {R G T : Type*} [DecidableEq G] [LinearOrder T] (group : R → G) (time : R → T)

def SameKey (a b : R) : Prop := group a = group b ∧ time a = time b

/-- The rows of the batch's groups from the start onwards. -/
def InWindow (batch : List R) (start : T) (row : R) : Prop :=
  group row ∈ batch.map group ∧ start ≤ time row

instance (batch : List R) (start : T) (row : R) :
    Decidable (InWindow group time batch start row) :=
  inferInstanceAs (Decidable (_ ∧ _))

def replaceFrom (table : List R) (start : T) (batch : List R) : List R :=
  table.filter (fun row => ¬InWindow group time batch start row) ++ batch

variable {group time} {table batch : List R} {start : T}

theorem mem_replaceFrom {row : R} : row ∈ replaceFrom group time table start batch ↔
    (row ∈ table ∧ ¬InWindow group time batch start row) ∨ row ∈ batch := by
  simp [replaceFrom]

/-- Nothing outside the batch is lost exactly when the batch covers its own window. -/
theorem keeps_iff (group : R → G) (time : R → T) (table batch : List R) (start : T) :
    (∀ row ∈ table, (∀ b ∈ batch, ¬SameKey group time b row) →
      row ∈ replaceFrom group time table start batch) ↔
    ∀ row ∈ table, InWindow group time batch start row →
      ∃ b ∈ batch, SameKey group time b row := by
  constructor
  · intro h row hrow hin
    by_contra hnone
    have hfresh : ∀ b ∈ batch, ¬SameKey group time b row :=
      fun b hb hkey => hnone ⟨b,hb,hkey⟩
    rcases mem_replaceFrom.mp (h row hrow hfresh) with ⟨_,hout⟩ | hb
    · exact hout hin
    · exact hfresh row hb ⟨rfl,rfl⟩
  · intro h row hrow hfresh
    refine mem_replaceFrom.mpr (.inl ⟨hrow,?_⟩)
    intro hin
    obtain ⟨b,hb,hkey⟩ := h row hrow hin
    exact hfresh b hb hkey

end MacroInvest.WindowTable

namespace MacroInvest.CellWrites
variable {S W V : Type*} {apply : S → W → S} {read : S → V} {sets : W → Option V}

/-- Each write sets the cell or leaves it. -/
def Cell (apply : S → W → S) (read : S → V) (sets : W → Option V) : Prop :=
  ∀ s w, read (apply s w) = (sets w).getD (read s)

namespace Cell
variable {s : S} {writes : List W} (h : Cell apply read sets)
include h

/-- The cell after the writes depends on nothing but the cell before. -/
theorem congr {s' : S} (hs : read s = read s') :
    read (writes.foldl apply s) = read (writes.foldl apply s') := by
  induction writes generalizing s s' with
  | nil => exact hs
  | cons w writes ih =>
    refine ih ?_
    rw [h s w,h s' w,hs]

/-- Untouched, the cell stays as it was. -/
theorem kept (hnone : ∀ w ∈ writes, sets w = none) : read (writes.foldl apply s) = read s := by
  induction writes generalizing s with
  | nil => rfl
  | cons w writes ih =>
    rw [List.foldl_cons,ih (fun w hw => hnone w (List.mem_cons_of_mem _ hw)),h s w,
      hnone w List.mem_cons_self,Option.getD_none]

/-- What holds of the cell before and of every value set holds of it after. -/
theorem invariant {P : V → Prop} (hbefore : P (read s))
    (hset : ∀ w ∈ writes, ∀ v, sets w = some v → P v) : P (read (writes.foldl apply s)) := by
  induction writes generalizing s with
  | nil => exact hbefore
  | cons w writes ih =>
    refine ih ?_ (fun w hw => hset w (List.mem_cons_of_mem _ hw))
    rw [h s w]
    cases hw : sets w with
    | none => exact hbefore
    | some v => exact hset w List.mem_cons_self v hw

/-- Writes that agree on a value leave it, once it was there or is set. -/
theorem settled {v : V} (hall : ∀ w ∈ writes, ∀ v', sets w = some v' → v' = v)
    (hv : read s = v ∨ ∃ w ∈ writes, sets w = some v) : read (writes.foldl apply s) = v := by
  induction writes generalizing s with
  | nil => simpa using hv
  | cons w writes ih =>
    refine ih (fun w hw => hall w (List.mem_cons_of_mem _ hw)) ?_
    rw [h s w]
    cases hw : sets w with
    | some v' => exact .inl (hall w List.mem_cons_self v' hw)
    | none =>
      refine hv.imp_right ?_
      rintro ⟨w',hw',hset⟩
      rcases List.mem_cons.mp hw' with rfl | hrest
      · rw [hw] at hset
        cases hset
      · exact ⟨w',hrest,hset⟩

end Cell
end MacroInvest.CellWrites
