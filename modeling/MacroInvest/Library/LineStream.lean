import Mathlib

/-! # Lines and words of a text

A reader of a text that arrives in pieces keeps what stands after the last separator and hands on
the lines before it. Where the pieces are cut has no influence on the lines, and a text that stops
short has handed on a beginning of the lines of the whole. The words of a text are its longest
runs without a separator. Joining two texts with a separator between them joins their words.
-/
namespace MacroInvest.LineStream
variable {α S : Type*} [DecidableEq α] (sep : α)

/-- The lines of a text that a separator has closed. -/
def completed (text : List α) : List (List α) := (text.splitOn sep).dropLast

/-- What stands after the last separator. -/
def pending (text : List α) : List α := (text.splitOn sep).getLast?.getD []

/-- One piece: every completed line is handled and the rest is kept. -/
def consume (handle : S → List α → S) (p : S × List α) (piece : List α) : S × List α :=
  ((completed sep (p.2 ++ piece)).foldl handle p.1,pending sep (p.2 ++ piece))

def readAll (handle : S → List α → S) (s : S) (pieces : List (List α)) : S × List α :=
  pieces.foldl (consume sep handle) (s,[])

variable {sep}

theorem completed_of_not_mem {text : List α} (h : sep ∉ text) : completed sep text = [] := by
  simp [completed,List.splitOn_eq_singleton h]

theorem pending_of_not_mem {text : List α} (h : sep ∉ text) : pending sep text = text := by
  simp [pending,List.splitOn_eq_singleton h]

theorem completed_append_cons (p q : List α) :
    completed sep (p ++ sep :: q) = p.splitOn sep ++ completed sep q := by
  rw [completed,List.splitOn_append_cons_self,
    List.dropLast_append_of_ne_nil (List.splitOn_ne_nil sep q),completed]

theorem pending_append_cons (p q : List α) : pending sep (p ++ sep :: q) = pending sep q := by
  rw [pending,List.splitOn_append_cons_self,
    List.getLast?_append_of_ne_nil _ (List.splitOn_ne_nil sep q),pending]

variable (sep) in
/-- A text without a separator, or cut at its last one. -/
theorem cut_last (text : List α) :
    sep ∉ text ∨ ∃ p q, text = p ++ sep :: q ∧ sep ∉ q := by
  induction text using List.reverseRecOn with
  | nil => simp
  | append_singleton text c ih =>
    by_cases hc : c = sep
    · exact .inr ⟨text,[],by simp [hc],by simp⟩
    · rcases ih with h | ⟨p,q,rfl,hq⟩
      · left
        simp [h,Ne.symm hc]
      · exact .inr ⟨p,q ++ [c],by simp,by simp [hq,Ne.symm hc]⟩

theorem completed_append (a b : List α) :
    completed sep (a ++ b) = completed sep a ++ completed sep (pending sep a ++ b) := by
  rcases cut_last sep a with h | ⟨p,q,rfl,hq⟩
  · rw [completed_of_not_mem h,pending_of_not_mem h,List.nil_append]
  · rw [List.append_assoc,List.cons_append,completed_append_cons,completed_append_cons,
      pending_append_cons,completed_of_not_mem hq,pending_of_not_mem hq,List.append_nil]

theorem pending_append (a b : List α) :
    pending sep (a ++ b) = pending sep (pending sep a ++ b) := by
  rcases cut_last sep a with h | ⟨p,q,rfl,hq⟩
  · rw [pending_of_not_mem h]
  · rw [List.append_assoc,List.cons_append,pending_append_cons,pending_append_cons,
      pending_of_not_mem hq]

@[simp] theorem completed_nil : completed sep ([] : List α) = [] := rfl
@[simp] theorem pending_nil : pending sep ([] : List α) = [] := rfl

/-- A line and its separator in front of a text come out as the first line. -/
theorem completed_line {line : List α} (h : sep ∉ line) (rest : List α) :
    completed sep (line ++ sep :: rest) = line :: completed sep rest := by
  rw [completed_append_cons,List.splitOn_eq_singleton h,List.singleton_append]

/-- What a text completes is a beginning of what any continuation completes. -/
theorem completed_mono {a text : List α} (h : a <+: text) :
    completed sep a <+: completed sep text := by
  obtain ⟨b,rfl⟩ := h
  rw [completed_append]
  exact List.prefix_append ..

/-- The lines of a text that is written line by line. -/
theorem completed_lines {lines : List (List α)} (h : ∀ line ∈ lines, sep ∉ line) :
    completed sep (lines.flatMap (· ++ [sep])) = lines := by
  induction lines with
  | nil => rfl
  | cons line lines ih =>
    rw [List.flatMap_cons,List.append_assoc,List.singleton_append,
      completed_line (h line (by simp)),ih (fun l hl => h l (List.mem_cons_of_mem _ hl))]

/-- However the text is cut, the reader handles exactly its completed lines. -/
theorem readAll_eq (handle : S → List α → S) (s : S) (pieces : List (List α)) :
    readAll sep handle s pieces =
      ((completed sep pieces.flatten).foldl handle s,pending sep pieces.flatten) := by
  induction pieces using List.reverseRecOn with
  | nil => rfl
  | append_singleton pieces piece ih =>
    have hstep : readAll sep handle s (pieces ++ [piece]) =
        consume sep handle (readAll sep handle s pieces) piece := by
      simp [readAll]
    rw [hstep,ih,consume,List.flatten_append,List.flatten_singleton,
      completed_append pieces.flatten,pending_append pieces.flatten,List.foldl_append]

section Marked
variable {D : Type*} {handle : S → List α → S} {apply : S → D → S}
  {lines : List (List α × Option D)}

/-- A line says a datum, or nothing, to the handler. -/
def Means (handle : S → List α → S) (apply : S → D → S) (line : List α × Option D) : Prop :=
  ∀ s, handle s line.1 = line.2.elim s (apply s)

omit [DecidableEq α] in
theorem foldl_means (h : ∀ line ∈ lines, Means handle apply line) (s : S) :
    (lines.map (·.1)).foldl handle s = (lines.filterMap (·.2)).foldl apply s := by
  induction lines generalizing s with
  | nil => rfl
  | cons line lines ih =>
    have ih := ih (fun l hl => h l (List.mem_cons_of_mem _ hl))
    obtain ⟨text,datum⟩ := line
    rw [List.map_cons,List.foldl_cons,h (text,datum) (by simp),ih]
    cases datum <;> simp

theorem completed_marked (h : ∀ line ∈ lines, sep ∉ line.1) :
    completed sep (lines.flatMap fun line => line.1 ++ [sep]) = lines.map (·.1) := by
  have hmap := @completed_lines α _ sep (lines.map (·.1)) (by simpa using h)
  rwa [List.flatMap_map] at hmap

/-- A text cut anywhere into pieces says all its data, in their order. -/
theorem readAll_whole (hsep : ∀ line ∈ lines, sep ∉ line.1)
    (hmeans : ∀ line ∈ lines, Means handle apply line) {pieces : List (List α)}
    (h : pieces.flatten = lines.flatMap fun line => line.1 ++ [sep]) (s : S) :
    (readAll sep handle s pieces).1 = (lines.filterMap (·.2)).foldl apply s := by
  rw [readAll_eq,h,completed_marked hsep]
  exact foldl_means hmeans s

/-- A text that stops short says a beginning of its data. -/
theorem readAll_beginning (hsep : ∀ line ∈ lines, sep ∉ line.1)
    (hmeans : ∀ line ∈ lines, Means handle apply line) {pieces : List (List α)}
    (h : pieces.flatten <+: lines.flatMap fun line => line.1 ++ [sep]) (s : S) :
    ∃ data, data <+: lines.filterMap (·.2) ∧
      (readAll sep handle s pieces).1 = data.foldl apply s := by
  have hprefix := @completed_mono α _ sep _ _ h
  rw [completed_marked hsep] at hprefix
  obtain ⟨seen,hseen,hmap⟩ := List.prefix_map_iff.mp hprefix
  refine ⟨seen.filterMap (·.2),hseen.filterMap _,?_⟩
  rw [readAll_eq,hmap]
  exact foldl_means (fun line hl => hmeans line (hseen.subset hl)) s

end Marked

end MacroInvest.LineStream

namespace MacroInvest.Words
variable {α : Type*} (p : α → Bool)

def words (text : List α) : List (List α) := (text.splitOnP p).filter (fun w => ! w.isEmpty)

variable {p}

@[simp] theorem words_nil : words p [] = [] := rfl

theorem words_append_cons {c : α} (h : p c = true) (a b : List α) :
    words p (a ++ c :: b) = words p a ++ words p b := by
  simp [words,List.splitOnP_append_cons _ _ h]

end MacroInvest.Words
