import MacroInvest.Features.DateTime

/-! # The civil date of a day number

A day number splits into a year and a day of the year, and that into a month and a day of the
month. The parts are a valid civil date, and its day number is the one that was split.
-/
namespace MacroInvest.Features
open Macro

/-- Midnight of a date: `datetime(d.year, d.month, d.day)`. -/
def midnight (d : Date) : CivilTime :=
  let year := (Date.yearDay (d.ordinal - 1)).1
  let month := Date.monthDay (Date.daysInMonth year) 1 (Date.yearDay (d.ordinal - 1)).2
  { year := year
    month := month.1
    day := month.2
    hour := 0
    minute := 0
    second := 0
    microsecond := 0 }

section Split

/-- The days of the years before year `y + 1`. -/
def daysBefore (y : ℕ) : ℕ := y * 365 + y / 4 - y / 100 + y / 400

theorem sum_daysInMonth (year : ℕ) :
    (Date.daysInMonth year).sum = 365 + if Date.isLeap year then 1 else 0 := by
  unfold Date.daysInMonth
  split <;> rfl

/-- A remainder of four parts that are a little short: the last part takes what is left. -/
theorem min_div_spec {r c : ℕ} (hc : 0 < c) (h : r ≤ 4 * c) :
    min (r / c) 3 * c ≤ r ∧ r - min (r / c) 3 * c ≤ c ∧
      (r - min (r / c) 3 * c = c → min (r / c) 3 = 3) := by
  have hmod := Nat.div_add_mod' r c
  have hlt := Nat.mod_lt r hc
  rcases le_total (r / c) 3 with hq | hq
  · rw [min_eq_left hq]
    omega
  · rw [min_eq_right hq]
    have hmul : 3 * c ≤ r / c * c := Nat.mul_le_mul_right c hq
    omega

/-- The four cycles of the calendar, each with its position in the one above. -/
theorem yearDay_spec (n : ℕ) : ∃ y, (Date.yearDay n).1 = y + 1 ∧
    daysBefore y + (Date.yearDay n).2 = n ∧
    (Date.yearDay n).2 < 365 + if Date.isLeap (y + 1) then 1 else 0 := by
  unfold Date.yearDay
  dsimp only
  have hn := Nat.div_add_mod n 146097
  have hr := Nat.mod_lt n (show 146097 > 0 by norm_num)
  generalize n / 146097 = n400 at hn ⊢
  generalize n % 146097 = r400 at hn hr ⊢
  have hc := min_div_spec (c := 36524) (by norm_num) (show r400 ≤ 4 * 36524 by omega)
  have h3 : min (r400 / 36524) 3 ≤ 3 := min_le_right _ _
  generalize min (r400 / 36524) 3 = n100 at hc h3 ⊢
  obtain ⟨r100,rfl⟩ : ∃ r, r400 = n100 * 36524 + r := ⟨r400 - n100 * 36524,by omega⟩
  rw [Nat.add_sub_cancel_left] at hc ⊢
  have hq := Nat.div_add_mod r100 1461
  have hs := Nat.mod_lt r100 (show 1461 > 0 by norm_num)
  generalize r100 / 1461 = n4 at hq ⊢
  generalize r100 % 1461 = r4 at hq hs ⊢
  have hy := min_div_spec (c := 365) (by norm_num) (show r4 ≤ 4 * 365 by omega)
  have h1 : min (r4 / 365) 3 ≤ 3 := min_le_right _ _
  generalize min (r4 / 365) 3 = n1 at hy h1 ⊢
  have hcentury : n4 ≤ 24 := by omega
  have hfour : (n400 * 400 + n100 * 100 + n4 * 4 + n1) / 4 = n400 * 100 + n100 * 25 + n4 := by
    omega
  have hhundred : (n400 * 400 + n100 * 100 + n4 * 4 + n1) / 100 = n400 * 4 + n100 := by omega
  have hfourhundred : (n400 * 400 + n100 * 100 + n4 * 4 + n1) / 400 = n400 := by omega
  refine ⟨n400 * 400 + n100 * 100 + n4 * 4 + n1,rfl,?_,?_⟩
  · rw [daysBefore,hfour,hhundred,hfourhundred]
    omega
  · simp only [Date.isLeap,Bool.and_eq_true,Bool.or_eq_true,beq_iff_eq,bne_iff_ne]
    split
    · omega
    · rename_i hleap
      omega

/-- The month in which the `n`-th day falls, among months of the given lengths. -/
theorem monthDay_spec (lengths : List ℕ) (month n : ℕ) (h : n < lengths.sum) :
    ∃ i < lengths.length, (Date.monthDay lengths month n).1 = month + i ∧
      1 ≤ (Date.monthDay lengths month n).2 ∧
      (Date.monthDay lengths month n).2 ≤ lengths.getD i 0 ∧
      (lengths.take i).sum + (Date.monthDay lengths month n).2 = n + 1 := by
  induction lengths generalizing month n with
  | nil => simp at h
  | cons days rest ih =>
    rw [List.sum_cons] at h
    rw [Date.monthDay]
    by_cases hn : n < days
    · rw [if_pos hn]
      refine ⟨0,by simp,rfl,?_,?_,?_⟩
      · simp
      · simpa using hn
      · simp
    · obtain ⟨i,hi,hmonth,hday,hlast,hsum⟩ := ih (month + 1) (n - days) (by omega)
      rw [if_neg hn]
      refine ⟨i + 1,by simpa using hi,?_,hday,by simpa using hlast,?_⟩
      · rw [hmonth]
        omega
      · rw [List.take_succ_cons,List.sum_cons]
        omega

end Split

/-- A date and the midnight that starts it. -/
theorem midnight_spec (d : Date) : (midnight d).Valid ∧ (midnight d).toordinal = d.ordinal := by
  have hlo := d.one_le
  have hhi := d.le_max
  obtain ⟨y,hyear,hday,hlt⟩ := yearDay_spec (d.ordinal - 1)
  obtain ⟨i,hi,hmonth,hone,hlast,hsum⟩ :=
    monthDay_spec (Date.daysInMonth (y + 1)) 1 (Date.yearDay (d.ordinal - 1)).2
      (by rwa [sum_daysInMonth])
  have hi' : i < 12 := hi
  have hbound : y + 1 ≤ 9999 := by
    unfold daysBefore at hday
    unfold maxOrdinal at hhi
    omega
  constructor
  · constructor
    · simp only [midnight,hyear]
      omega
    · simp only [midnight,hyear,hmonth]
      omega
    · simp only [midnight,hyear,hmonth]
      rw [Nat.add_sub_cancel_left]
      exact ⟨hone,hlast⟩
    all_goals simp [midnight]
  · simp only [midnight,CivilTime.toordinal,hyear,hmonth,Nat.add_sub_cancel,
      Nat.add_sub_cancel_left]
    unfold daysBefore at hday
    omega

/-- Midnight of a date in UTC: `datetime(d.year, d.month, d.day, tzinfo=UTC)`. -/
def utcMidnight (d : Date) : DateTime where
  civil := midnight d
  tzinfo := some .utc
  valid := (midnight_spec d).1

/-- The microsecond at which a date begins in UTC. -/
def dayStart (d : Date) : ℤ := d.ordinal * 86400000000

theorem instant_utcMidnight (d : Date) : (utcMidnight d).instant = some (dayStart d) := by
  have hmicros : (midnight d).micros = dayStart d := by
    rw [CivilTime.micros,(midnight_spec d).2,dayStart]
    simp only [midnight]
    push_cast
    ring
  rw [← hmicros]
  exact congrArg some (sub_zero _)

end MacroInvest.Features
