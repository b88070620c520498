import Mathlib

/-! # Runs of a service that answers calls

A service is a total step function from a state and a call to a state and a reply.
The trace keeps every call with its reply, so that a law may speak about what was
answered and not only about the state reached. What a run records may be a journal: an entry is
written, the journal is cleared, or nothing happens. The balance of a journal is an opening
amount plus what the entries since the last clearing contribute, in any commutative group.
-/
namespace MacroInvest.CallRun
variable {S A O : Type*} (step : S → A → S × O)

def extend (p : S × List (A × O)) (a : A) : S × List (A × O) :=
  ((step p.1 a).1,p.2 ++ [(a,(step p.1 a).2)])

def run (s : S) (calls : List A) : S × List (A × O) := calls.foldl (extend step) (s,[])

def final (s : S) (calls : List A) : S := (run step s calls).1

def trace (s : S) (calls : List A) : List (A × O) := (run step s calls).2

@[simp] theorem final_nil (s : S) : final step s [] = s := rfl
@[simp] theorem trace_nil (s : S) : trace step s [] = [] := rfl

@[simp] theorem final_concat (s : S) (calls : List A) (a : A) :
    final step s (calls ++ [a]) = (step (final step s calls) a).1 := by
  simp [final,run,extend]

@[simp] theorem trace_concat (s : S) (calls : List A) (a : A) :
    trace step s (calls ++ [a]) =
      trace step s calls ++ [(a,(step (final step s calls) a).2)] := by
  simp [trace,final,run,extend]

/-- Every call of the list is admitted in the state in which it is issued. -/
def Admits (G : S → A → Prop) : S → List A → Prop
  | _, [] => True
  | s, a :: calls => G s a ∧ Admits G (step s a).1 calls

@[simp] theorem final_cons (s : S) (a : A) (calls : List A) :
    final step s (a :: calls) = final step (step s a).1 calls := by
  induction calls using List.reverseRecOn with
  | nil => simp [final,run,extend]
  | append_singleton calls b ih => rw [← List.cons_append,final_concat,final_concat,ih]

theorem final_append (s : S) (calls calls' : List A) :
    final step s (calls ++ calls') = final step (final step s calls) calls' := by
  induction calls generalizing s with
  | nil => rfl
  | cons a calls ih => rw [List.cons_append,final_cons,final_cons,ih]

variable {step} {G : S → A → Prop} {s : S}

theorem admits_concat {calls : List A} {a : A} :
    Admits step G s (calls ++ [a]) ↔ Admits step G s calls ∧ G (final step s calls) a := by
  induction calls generalizing s with
  | nil => simp [Admits]
  | cons b calls ih => simp only [List.cons_append,Admits,ih,final_cons,and_assoc]

theorem admits_of_forall {calls : List A} (h : ∀ s, ∀ a ∈ calls, G s a) :
    Admits step G s calls := by
  induction calls generalizing s with
  | nil => trivial
  | cons a calls ih =>
    exact ⟨h s a List.mem_cons_self,ih (fun t b hb => h t b (List.mem_cons_of_mem a hb))⟩

theorem admits_append_left {calls calls' : List A} (h : Admits step G s (calls ++ calls')) :
    Admits step G s calls := by
  induction calls generalizing s with
  | nil => trivial
  | cons b calls ih => exact ⟨h.1,ih h.2⟩

/-- What holds at the start and survives every admitted call holds after every run. -/
theorem run_induction {P : S → List (A × O) → Prop} (hinit : P s [])
    (hstep : ∀ t h a, G t a → P t h → P (step t a).1 (h ++ [(a,(step t a).2)]))
    (calls : List A) (hcalls : Admits step G s calls) :
    P (final step s calls) (trace step s calls) := by
  induction calls using List.reverseRecOn with
  | nil => exact hinit
  | append_singleton calls a ih =>
    obtain ⟨hprev,ha⟩ := admits_concat.mp hcalls
    rw [final_concat,trace_concat]
    exact hstep _ _ a ha (ih hprev)

/-- A law kept by every admitted step and broken by any other holds in all the states of a
run exactly when the run admits each of its steps. -/
theorem forall_prefix_iff_admits {I P : S → Prop} (hlaw : ∀ t, I t → P t)
    (hkeep : ∀ t a, I t → G t a → I (step t a).1)
    (hbreak : ∀ t a, I t → ¬G t a → ¬P (step t a).1) (hinit : I s) (calls : List A) :
    (∀ front, front <+: calls → P (final step s front)) ↔ Admits step G s calls := by
  induction calls generalizing s with
  | nil =>
    constructor
    · intro _
      trivial
    · intro _ front hfront
      rw [List.prefix_nil.mp hfront]
      exact hlaw s hinit
  | cons a calls ih =>
    constructor
    · intro hall
      have ha : G s a := by
        by_contra hna
        apply hbreak s a hinit hna
        have h := hall [a] (by simp)
        simpa using h
      refine ⟨ha,(ih (hkeep s a hinit ha)).mp ?_⟩
      intro front hfront
      have h := hall (a :: front) (List.cons_prefix_cons.mpr ⟨rfl,hfront⟩)
      rwa [final_cons] at h
    · rintro ⟨ha,hcalls⟩ front hfront
      cases front with
      | nil => exact hlaw s hinit
      | cons b front =>
        obtain ⟨rfl,htail⟩ := List.cons_prefix_cons.mp hfront
        rw [final_cons]
        exact (ih (hkeep s b hinit ha)).mpr hcalls front htail

end MacroInvest.CallRun

namespace MacroInvest.Journal
variable {E G : Type*}

inductive Mark (E : Type*) where
  | skip
  | entry (e : E)
  | clear

def write (entries : List E) : Mark E → List E
  | .skip => entries
  | .entry e => entries ++ [e]
  | .clear => []

/-- The entries written since the last clearing, oldest first. -/
def sinceClear (marks : List (Mark E)) : List E := marks.foldl write []

def entryOf : Mark E → Option E
  | .entry e => some e
  | _ => none

def everWritten (marks : List (Mark E)) : List E := marks.filterMap entryOf

@[simp] theorem sinceClear_nil : sinceClear ([] : List (Mark E)) = [] := rfl
@[simp] theorem everWritten_nil : everWritten ([] : List (Mark E)) = [] := rfl

@[simp] theorem sinceClear_concat (marks : List (Mark E)) (m : Mark E) :
    sinceClear (marks ++ [m]) = write (sinceClear marks) m := by simp [sinceClear]

@[simp] theorem everWritten_concat (marks : List (Mark E)) (m : Mark E) :
    everWritten (marks ++ [m]) = everWritten marks ++ (entryOf m).toList := by
  cases m <;> simp [everWritten,entryOf]

section Balance
variable [AddCommGroup G] (opening : G) (amount : E → G)

def balance (entries : List E) : G := opening + (entries.map amount).sum

@[simp] theorem balance_nil : balance opening amount [] = opening := by simp [balance]

@[simp] theorem balance_concat (entries : List E) (e : E) :
    balance opening amount (entries ++ [e]) = balance opening amount entries + amount e := by
  simp [balance,add_assoc]

end Balance

end MacroInvest.Journal
