import Mathlib

/-! # Calendar dates

A date is its day number in the proleptic Gregorian calendar, from 0001-01-01 to 9999-12-31.
Arithmetic that leaves this range raises, so the day before the first date does not exist.
-/
namespace MacroInvest.Macro

def maxOrdinal : ℕ := 3652059

@[ext] structure Date where
  ordinal : ℕ
  one_le : 1 ≤ ordinal
  le_max : ordinal ≤ maxOrdinal
  deriving DecidableEq

namespace Date

theorem ordinal_injective : Function.Injective Date.ordinal := fun _ _ h => Date.ext h

instance : LinearOrder Date := LinearOrder.lift' Date.ordinal ordinal_injective

theorem le_iff {a b : Date} : a ≤ b ↔ a.ordinal ≤ b.ordinal := Iff.rfl
theorem lt_iff {a b : Date} : a < b ↔ a.ordinal < b.ordinal := by
  rw [lt_iff_not_ge,le_iff,not_le]

/-- `d - timedelta(days=1)`; `none` when it raises `OverflowError`. -/
def minusOneDay (d : Date) : Option Date :=
  if h : 1 < d.ordinal then
    some ⟨d.ordinal - 1,by omega,(Nat.sub_le _ _).trans d.le_max⟩
  else none

theorem le_minusOneDay {d e : Date} (h : d.minusOneDay = some e) (a : Date) :
    a ≤ e ↔ a < d := by
  unfold minusOneDay at h
  split at h
  · rename_i hd
    cases h
    rw [le_iff,lt_iff]
    show a.ordinal ≤ d.ordinal - 1 ↔ _
    omega
  · cases h

theorem not_lt_of_minusOneDay {d : Date} (h : d.minusOneDay = none) (a : Date) : ¬ a < d := by
  unfold minusOneDay at h
  split at h
  · cases h
  · rename_i hd
    have ha := a.one_le
    rw [lt_iff]
    omega

def isLeap (year : ℕ) : Bool := year % 4 == 0 && (year % 100 != 0 || year % 400 == 0)

def daysInMonth (year : ℕ) : List ℕ :=
  [31,if isLeap year then 29 else 28,31,30,31,30,31,31,30,31,30,31]

/-- The month and day of the `n`-th day of the year, counted from zero. -/
def monthDay : List ℕ → ℕ → ℕ → ℕ × ℕ
  | [], month, n => (month,n + 1)
  | days :: rest, month, n => if n < days then (month,n + 1) else monthDay rest (month + 1) (n - days)

/-- The year of a day number counted from zero and the days of that year before it. -/
def yearDay (n : ℕ) : ℕ × ℕ :=
  let n400 := n / 146097
  let r400 := n % 146097
  let n100 := min (r400 / 36524) 3
  let r100 := r400 - n100 * 36524
  let n4 := r100 / 1461
  let r4 := r100 % 1461
  let n1 := min (r4 / 365) 3
  (n400 * 400 + n100 * 100 + n4 * 4 + n1 + 1,r4 - n1 * 365)

def digits (width n : ℕ) : String :=
  let text := toString n
  String.ofList (List.replicate (width - text.length) '0') ++ text

def isoformat (d : Date) : String :=
  let (year,n) := yearDay (d.ordinal - 1)
  let (month,day) := monthDay (daysInMonth year) 1 n
  digits 4 year ++ "-" ++ digits 2 month ++ "-" ++ digits 2 day

end Date
end MacroInvest.Macro
