import Mathlib

/-! # Series over the bars of a history

A series gives a value at every bar, a missing value being `none`. The operations read the
bars up to their own only, so that series which agree up to a bar stay in agreement there. A
signal is told by its crosses: filling forward what the crosses set gives the signal back.
-/
namespace MacroInvest.Series
variable {α β : Type*}

/-- `shift(1, fill_value=fill)` -/
def shift (fill : α) (s : ℕ → α) : ℕ → α
  | 0 => fill
  | t + 1 => s t

def ffill (s : ℕ → Option α) : ℕ → Option α
  | 0 => s 0
  | t + 1 => (s (t + 1)).or (ffill s t)

def fillna (fill : α) (s : ℕ → Option α) (t : ℕ) : α := (s t).getD fill

/-- `s[where] = a` -/
def assign (mask : ℕ → Bool) (a : α) (s : ℕ → Option α) (t : ℕ) : Option α :=
  if mask t then some a else s t

/-- A comparison is false where a side is missing. -/
def compareBy (r : α → α → Bool) (a b : ℕ → Option α) (t : ℕ) : Bool :=
  match a t, b t with
  | some x, some y => r x y
  | _, _ => false

section Arithmetic
variable {K : Type*} [Field K]

def cumprod (s : ℕ → K) : ℕ → K
  | 0 => s 0
  | t + 1 => cumprod s t * s (t + 1)

def cummax [Max K] (s : ℕ → K) : ℕ → K
  | 0 => s 0
  | t + 1 => max (cummax s t) (s (t + 1))

def pctChange (s : ℕ → K) : ℕ → Option K
  | 0 => none
  | t + 1 => some (s (t + 1) / s t - 1)

end Arithmetic

/-- A comparison that a change of the values keeps is the same after it. -/
theorem compareBy_map {f : α → α} {r : α → α → Bool} (h : ∀ x y, r (f x) (f y) = r x y)
    (a b : ℕ → Option α) (t : ℕ) :
    compareBy r (fun i => (a i).map f) (fun i => (b i).map f) t = compareBy r a b t := by
  rw [compareBy,compareBy]
  cases a t with
  | none => rfl
  | some x =>
    cases b t with
    | none => rfl
    | some y => exact h x y

/-- Two series have the same values up to a bar. -/
def AgreeTo (t : ℕ) (s s' : ℕ → α) : Prop := ∀ i ≤ t, s i = s' i

namespace AgreeTo
variable {t : ℕ} {s s' : ℕ → α}

theorem mono {i : ℕ} (h : AgreeTo t s s') (hi : i ≤ t) : AgreeTo i s s' :=
  fun j hj => h j (hj.trans hi)

theorem pointwise (h : AgreeTo t s s') (f : ℕ → α → β) :
    AgreeTo t (fun i => f i (s i)) (fun i => f i (s' i)) := by
  intro i hi
  simp only [h i hi]

theorem shift (h : AgreeTo t s s') (fill : α) :
    AgreeTo t (shift fill s) (Series.shift fill s') := by
  intro i hi
  cases i with
  | zero => rfl
  | succ i => exact h i (by omega)

theorem ffill {s s' : ℕ → Option α} (h : AgreeTo t s s') :
    AgreeTo t (Series.ffill s) (Series.ffill s') := by
  intro i hi
  induction i with
  | zero => exact h 0 hi
  | succ i ih => rw [Series.ffill,Series.ffill,h (i + 1) hi,ih (by omega)]

theorem compareBy {r : α → α → Bool} {a a' b b' : ℕ → Option α} (ha : AgreeTo t a a')
    (hb : AgreeTo t b b') : AgreeTo t (compareBy r a b) (Series.compareBy r a' b') := by
  intro i hi
  rw [Series.compareBy,Series.compareBy,ha i hi,hb i hi]

theorem assign {w w' : ℕ → Bool} {s s' : ℕ → Option α} (hw : AgreeTo t w w')
    (hs : AgreeTo t s s') (a : α) :
    AgreeTo t (assign w a s) (Series.assign w' a s') := by
  intro i hi
  rw [Series.assign,Series.assign,hw i hi,hs i hi]

section Arithmetic
variable {K : Type*} [Field K] {x x' : ℕ → K}

theorem cumprod (h : AgreeTo t x x') : AgreeTo t (cumprod x) (Series.cumprod x') := by
  intro i hi
  induction i with
  | zero => exact h 0 hi
  | succ i ih => rw [Series.cumprod,Series.cumprod,h (i + 1) hi,ih (by omega)]

theorem pctChange (h : AgreeTo t x x') : AgreeTo t (pctChange x) (Series.pctChange x') := by
  intro i hi
  cases i with
  | zero => rfl
  | succ i => rw [Series.pctChange,Series.pctChange,h (i + 1) hi,h i (by omega)]

end Arithmetic
end AgreeTo

/-- How a rolling mean is computed, at every bar from the bars up to it. -/
structure Rolling (K : Type*) where
  mean : ℕ → (ℕ → K) → ℕ → K
  causal : ∀ window t s s', AgreeTo t s s' → mean window s t = mean window s' t

namespace Rolling
variable {K : Type*}

/-- `rolling(window, min_periods=window).mean()` -/
def series (R : Rolling K) (window : ℕ) (s : ℕ → K) (t : ℕ) : Option K :=
  if window ≤ t + 1 then some (R.mean window s t) else none

theorem agreeTo (R : Rolling K) {t : ℕ} {s s' : ℕ → K} (h : AgreeTo t s s') (window : ℕ) :
    AgreeTo t (R.series window s) (R.series window s') := by
  intro i hi
  rw [series,series,R.causal window i s s' (h.mono hi)]

variable [Field K]

/-- The sum of the last values, divided by their number. -/
def exact : Rolling K where
  mean window s t := ((List.range window).map (fun i => s (t - i))).sum / window
  causal window t s s' h := by
    have hvalues : ∀ i, s (t - i) = s' (t - i) := fun i => h (t - i) (Nat.sub_le t i)
    simp only [hvalues]

/-- The means of a series in another unit. -/
theorem exact_mul (c : K) (window : ℕ) (s : ℕ → K) (t : ℕ) :
    exact.series window (fun i => c * s i) t = (exact.series window s t).map (c * ·) := by
  rw [series,series]
  split
  · simp only [Option.map_some,exact,List.sum_map_mul_left,mul_div_assoc]
  · rfl

end Rolling

section Signal
variable (signal : ℕ → Bool)

/-- The signal turns on. -/
def risesAt (t : ℕ) : Bool := signal t && !shift false signal t

/-- The signal turns off. -/
def fallsAt (t : ℕ) : Bool := !signal t && shift false signal t

/-- What the crosses set, filled forward from zero, is the signal. -/
theorem fill_crosses {K : Type*} [Zero K] [One K] (t : ℕ) :
    fillna (0 : K) (ffill (assign (fallsAt signal) 0 (assign (risesAt signal) 1
      (fun _ => none)))) t = if signal t then 1 else 0 := by
  induction t with
  | zero => cases h : signal 0 <;> simp [fillna,ffill,assign,fallsAt,risesAt,shift,h]
  | succ t ih =>
    have hfilled : ∀ b c, signal (t + 1) = b → signal t = c →
        assign (fallsAt signal) (0 : K) (assign (risesAt signal) 1 (fun _ => none)) (t + 1) =
          if b = c then none else some (if b then 1 else 0) := by
      intro b c hb hc
      cases b <;> cases c <;> simp [assign,fallsAt,risesAt,shift,hb,hc]
    simp only [fillna] at ih ⊢
    rw [ffill,hfilled (signal (t + 1)) (signal t) rfl rfl]
    by_cases hsame : signal (t + 1) = signal t
    · rw [if_pos hsame,Option.none_or,ih,hsame]
    · rw [if_neg hsame]
      rfl

end Signal

end MacroInvest.Series
