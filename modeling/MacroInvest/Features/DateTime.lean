import MacroInvest.Library.FixedWidth
import MacroInvest.Macro.Calendar

/-! # Times and their ISO text

A time is a valid civil time with or without a time zone. Its text carries the UTC offset and
not the zone, so reading it back gives a time in a fixed offset; it compares equal unless the
offset of the zone depends on which of two repeated readings is meant.
-/
namespace MacroInvest.Features
open FixedWidth Macro

structure CivilTime where
  year : ℕ
  month : ℕ
  day : ℕ
  hour : ℕ
  minute : ℕ
  second : ℕ
  microsecond : ℕ
  deriving DecidableEq, Repr

namespace CivilTime

/-- What the constructor of a time checks. -/
structure Valid (c : CivilTime) : Prop where
  year : 1 ≤ c.year ∧ c.year ≤ 9999
  month : 1 ≤ c.month ∧ c.month ≤ 12
  day : 1 ≤ c.day ∧ c.day ≤ (Date.daysInMonth c.year).getD (c.month - 1) 0
  hour : c.hour < 24
  minute : c.minute < 60
  second : c.second < 60
  microsecond : c.microsecond < 1000000

theorem valid_iff (c : CivilTime) : c.Valid ↔ (1 ≤ c.year ∧ c.year ≤ 9999) ∧
    (1 ≤ c.month ∧ c.month ≤ 12) ∧
    (1 ≤ c.day ∧ c.day ≤ (Date.daysInMonth c.year).getD (c.month - 1) 0) ∧
    c.hour < 24 ∧ c.minute < 60 ∧ c.second < 60 ∧ c.microsecond < 1000000 :=
  ⟨fun ⟨h1,h2,h3,h4,h5,h6,h7⟩ => ⟨h1,h2,h3,h4,h5,h6,h7⟩,
    fun ⟨h1,h2,h3,h4,h5,h6,h7⟩ => ⟨h1,h2,h3,h4,h5,h6,h7⟩⟩

instance (c : CivilTime) : Decidable c.Valid := decidable_of_iff _ (valid_iff c).symm

/-- Day number of the date, counted from 0001-01-01 as day one. -/
def toordinal (c : CivilTime) : ℕ :=
  (c.year - 1) * 365 + (c.year - 1) / 4 - (c.year - 1) / 100 + (c.year - 1) / 400 +
    ((Date.daysInMonth c.year).take (c.month - 1)).sum + c.day

/-- Microseconds since the day before 0001-01-01. -/
def micros (c : CivilTime) : ℤ :=
  (((c.toordinal * 24 + c.hour) * 60 + c.minute) * 60 + c.second) * 1000000 + c.microsecond

end CivilTime

/-- A UTC offset: less than a day either way. -/
structure Offset where
  micros : ℤ
  inDay : |micros| < 86400000000
  deriving DecidableEq

/-- A fixed offset, or a named zone with its offset at this time and whether that offset
depends on `fold`. -/
inductive TzInfo where
  | timezone (offset : Offset)
  | zoneInfo (key : String) (offset : Offset) (foldDependent : Bool)
  deriving DecidableEq

namespace TzInfo

theorem utc_inDay : |(0 : ℤ)| < 86400000000 := by decide

/-- `timezone.utc` -/
def utc : TzInfo := .timezone ⟨0,utc_inDay⟩

def utcoffset : TzInfo → Offset
  | timezone offset => offset
  | zoneInfo _ offset _ => offset

def foldDependent : TzInfo → Bool
  | timezone _ => false
  | zoneInfo _ _ dependent => dependent

/-- Named zones are kept one object a name; a fixed offset may be a new object. -/
def sameObject : TzInfo → TzInfo → Bool
  | zoneInfo key _ _, zoneInfo key' _ _ => key = key'
  | _, _ => false

theorem sameObject_swap (x y : TzInfo) : x.sameObject y = y.sameObject x := by
  cases x with
  | timezone offset => cases y <;> rfl
  | zoneInfo key offset dependent =>
    cases y with
    | timezone offset => rfl
    | zoneInfo key' offset' dependent' => exact decide_eq_decide.mpr eq_comm

end TzInfo

structure DateTime where
  civil : CivilTime
  tzinfo : Option TzInfo
  valid : civil.Valid
  deriving DecidableEq

namespace DateTime

/-- The instant of a time with a zone. -/
def instant (t : DateTime) : Option ℤ :=
  t.tzinfo.map (fun tz => t.civil.micros - tz.utcoffset.micros)

/-- `a == b`: between two zones no time equals one whose offset depends on `fold`. -/
def eq (a b : DateTime) : Bool :=
  match a.tzinfo, b.tzinfo with
  | none, none => a.civil = b.civil
  | some x, some y =>
    if x.sameObject y then a.civil = b.civil
    else !x.foldDependent && !y.foldDependent && decide (a.instant = b.instant)
  | _, _ => false

theorem eq_swap (a b : DateTime) : a.eq b = b.eq a := by
  unfold eq
  cases hx : a.tzinfo with
  | none =>
    cases hy : b.tzinfo with
    | none => exact decide_eq_decide.mpr eq_comm
    | some y => rfl
  | some x =>
    cases hy : b.tzinfo with
    | none => rfl
    | some y =>
      dsimp only
      rw [x.sameObject_swap y,decide_eq_decide.mpr (eq_comm (a := a.civil)),
        decide_eq_decide.mpr (eq_comm (a := a.instant)),Bool.and_comm (!x.foldDependent)]

/-- Both times have a zone, or none of them has. -/
def Comparable (a b : DateTime) : Prop := a.tzinfo.isSome = b.tzinfo.isSome

instance (a b : DateTime) : Decidable (a.Comparable b) :=
  inferInstanceAs (Decidable (_ = _))

/-- `a > b` of comparable times: by the clock within one zone, by the instant between two. -/
def later (a b : DateTime) : Bool :=
  match a.tzinfo, b.tzinfo with
  | some x, some y =>
    if x.sameObject y then b.civil.micros < a.civil.micros
    else b.civil.micros - y.utcoffset.micros < a.civil.micros - x.utcoffset.micros
  | _, _ => b.civil.micros < a.civil.micros

def formatFraction (microsecond : ℕ) : List Char :=
  if microsecond = 0 then [] else '.' :: fixedDigits 6 microsecond

def formatOffsetSeconds (n : ℕ) : List Char :=
  if n / 1000000 % 60 = 0 ∧ n % 1000000 = 0 then []
  else ':' :: (fixedDigits 2 (n / 1000000 % 60) ++ formatFraction (n % 1000000))

/-- Hours, minutes and where needed seconds of a number of microseconds. -/
def formatMicros (n : ℕ) : List Char :=
  fixedDigits 2 (n / 3600000000) ++ ':' :: (fixedDigits 2 (n / 60000000 % 60) ++
    formatOffsetSeconds n)

def formatOffset (offset : Offset) : List Char :=
  (if offset.micros < 0 then '-' else '+') :: formatMicros offset.micros.natAbs

def formatZone : Option TzInfo → List Char
  | none => []
  | some tz => formatOffset tz.utcoffset

def isoformat (t : DateTime) : String :=
  String.ofList (fixedDigits 4 t.civil.year ++ '-' :: (fixedDigits 2 t.civil.month ++
    '-' :: (fixedDigits 2 t.civil.day ++ 'T' :: (fixedDigits 2 t.civil.hour ++
    ':' :: (fixedDigits 2 t.civil.minute ++ ':' :: (fixedDigits 2 t.civil.second ++
    (formatFraction t.civil.microsecond ++ formatZone t.tzinfo)))))))

def expect (c : Char) : List Char → Option (List Char)
  | x :: cs => if x = c then some cs else none
  | [] => none

def readFraction : List Char → Option (ℕ × List Char)
  | '.' :: cs => readDigits 6 0 cs
  | cs => some (0,cs)

def readOffsetSeconds : List Char → Option (ℕ × List Char)
  | ':' :: cs => do
    let (seconds,cs) ← readDigits 2 0 cs
    let (microsecond,cs) ← readFraction cs
    return (seconds * 1000000 + microsecond,cs)
  | cs => some (0,cs)

def readOffset (cs : List Char) : Option (ℕ × List Char) := do
  let (hours,cs) ← readDigits 2 0 cs
  let cs ← expect ':' cs
  let (minutes,cs) ← readDigits 2 0 cs
  let (rest,cs) ← readOffsetSeconds cs
  return ((hours * 60 + minutes) * 60000000 + rest,cs)

def fixedOffset (micros : ℤ) : Option (Option TzInfo) :=
  if h : |micros| < 86400000000 then some (some (.timezone ⟨micros,h⟩)) else none

def readZone : List Char → Option (Option TzInfo)
  | [] => some none
  | sign :: cs => do
    let (micros,cs) ← readOffset cs
    if cs ≠ [] then none
    else if sign = '+' then fixedOffset micros
    else if sign = '-' then fixedOffset (-micros)
    else none

/-- `datetime.fromisoformat` on the texts that `isoformat` writes; `none` is `ValueError`. -/
def fromisoformat (text : String) : Option DateTime := do
  let (year,cs) ← readDigits 4 0 text.toList
  let cs ← expect '-' cs
  let (month,cs) ← readDigits 2 0 cs
  let cs ← expect '-' cs
  let (day,cs) ← readDigits 2 0 cs
  let cs ← expect 'T' cs
  let (hour,cs) ← readDigits 2 0 cs
  let cs ← expect ':' cs
  let (minute,cs) ← readDigits 2 0 cs
  let cs ← expect ':' cs
  let (second,cs) ← readDigits 2 0 cs
  let (microsecond,cs) ← readFraction cs
  let tzinfo ← readZone cs
  let civil : CivilTime := ⟨year,month,day,hour,minute,second,microsecond⟩
  if h : civil.Valid then some ⟨civil,tzinfo,h⟩ else none

/-- The same time in the fixed offset that its zone has then. -/
def fixed (t : DateTime) : DateTime :=
  { t with tzinfo := t.tzinfo.map (fun tz => .timezone tz.utcoffset) }

section RoundTrip

@[simp] theorem expect_cons (c : Char) (cs : List Char) : expect c (c :: cs) = some cs :=
  if_pos rfl

theorem readFraction_formatFraction {microsecond : ℕ} (h : microsecond < 1000000)
    {rest : List Char} (hrest : rest.head? ≠ some '.') :
    readFraction (formatFraction microsecond ++ rest) = some (microsecond,rest) := by
  unfold formatFraction
  split
  · rename_i hzero
    subst hzero
    cases rest with
    | nil => rfl
    | cons c rest =>
      have hc : c ≠ '.' := by simpa using hrest
      simp [readFraction,hc]
  · exact readDigits_zero_fixedDigits h rest

theorem readOffsetSeconds_formatOffsetSeconds (n : ℕ) :
    readOffsetSeconds (formatOffsetSeconds n) = some (n % 60000000,[]) := by
  unfold formatOffsetSeconds
  split
  · rename_i hzero
    have hn : n % 60000000 = 0 := by omega
    rw [hn]
    rfl
  · have hfraction : readFraction (formatFraction (n % 1000000) ++ []) = _ :=
      readFraction_formatFraction (Nat.mod_lt n (by decide)) (by simp)
    rw [List.append_nil] at hfraction
    have hn : n / 1000000 % 60 * 1000000 + n % 1000000 = n % 60000000 := by omega
    rw [readOffsetSeconds,readDigits_zero_fixedDigits (by omega)]
    simp [hfraction,hn]

theorem readOffset_formatMicros {n : ℕ} (h : n < 86400000000) :
    readOffset (formatMicros n) = some (n,[]) := by
  have hsize : (n / 3600000000 * 60 + n / 60000000 % 60) * 60000000 + n % 60000000 = n := by
    omega
  rw [readOffset,formatMicros,readDigits_zero_fixedDigits (by omega)]
  simp only [Option.bind_eq_bind,Option.bind_some,expect_cons]
  rw [readDigits_zero_fixedDigits (by omega)]
  simp [readOffsetSeconds_formatOffsetSeconds,hsize]

theorem readZone_formatZone (tzinfo : Option TzInfo) :
    readZone (formatZone tzinfo) = some (tzinfo.map (fun tz => .timezone tz.utcoffset)) := by
  cases tzinfo with
  | none => rfl
  | some tz =>
    have hday := tz.utcoffset.inDay
    have hnat : tz.utcoffset.micros.natAbs < 86400000000 := by
      rw [Int.abs_eq_natAbs] at hday
      omega
    have hread := readOffset_formatMicros hnat
    rw [formatZone,formatOffset,readZone,hread]
    by_cases hneg : tz.utcoffset.micros < 0
    · have hval : -(tz.utcoffset.micros.natAbs : ℤ) = tz.utcoffset.micros := by omega
      simp only [Option.bind_eq_bind,Option.bind_some,hneg,if_true,hval,fixedOffset,hday,dif_pos]
      rfl
    · have hval : (tz.utcoffset.micros.natAbs : ℤ) = tz.utcoffset.micros := by omega
      simp only [Option.bind_eq_bind,Option.bind_some,hneg,if_false,hval,fixedOffset,hday,dif_pos]
      rfl

theorem formatZone_head (tzinfo : Option TzInfo) : (formatZone tzinfo).head? ≠ some '.' := by
  cases tzinfo with
  | none => simp [formatZone]
  | some tz =>
    rw [formatZone,formatOffset,List.head?_cons]
    split <;> simp

theorem daysInMonth_le (year i : ℕ) : (Date.daysInMonth year).getD i 0 ≤ 31 := by
  have hall : ∀ days ∈ Date.daysInMonth year, days ≤ 31 := by
    have hfebruary : (if Date.isLeap year then 29 else 28) ≤ 31 := by split <;> decide
    simp [Date.daysInMonth,hfebruary]
  rw [List.getD_eq_getElem?_getD]
  cases h : (Date.daysInMonth year)[i]? with
  | none => simp
  | some days => exact hall days (List.mem_of_getElem? h)

/-- A field of digits up to its separator. -/
theorem readField {β : Type} {width n : ℕ} {c : Char} {rest : List Char} (h : n < 10 ^ width)
    (f : ℕ × List Char → List Char → Option β) :
    (readDigits width 0 (fixedDigits width n ++ c :: rest)).bind
      (fun field => (expect c field.2).bind (f field)) = f (n,c :: rest) rest := by
  rw [readDigits_zero_fixedDigits h,Option.bind_some,expect_cons,Option.bind_some]

/-- Reading the text of a time gives the same time in a fixed offset. -/
theorem fromisoformat_isoformat (t : DateTime) : fromisoformat t.isoformat = some t.fixed := by
  obtain ⟨hyear,hmonth,hday,hhour,hminute,hsecond,hmicrosecond⟩ := t.valid
  have hlength : t.civil.day < 100 := by
    have hle := daysInMonth_le t.civil.year (t.civil.month - 1)
    omega
  have hread := readFraction_formatFraction hmicrosecond (formatZone_head t.tzinfo)
  have hwidth : t.civil.year < 10 ^ 4 ∧ t.civil.month < 10 ^ 2 ∧ t.civil.hour < 10 ^ 2 ∧
      t.civil.minute < 10 ^ 2 ∧ t.civil.second < 10 ^ 2 := by omega
  obtain ⟨hyear',hmonth',hhour',hminute',hsecond'⟩ := hwidth
  unfold fromisoformat isoformat
  rw [String.toList_ofList]
  refine (readField hyear' _).trans ?_
  refine (readField hmonth' _).trans ?_
  refine (readField hlength _).trans ?_
  refine (readField hhour' _).trans ?_
  refine (readField hminute' _).trans ?_
  rw [readDigits_zero_fixedDigits hsecond']
  simp only [Option.bind_eq_bind,Option.bind_some,hread,readZone_formatZone]
  exact dif_pos t.valid

/-- It equals the time that was written unless its offset depends on `fold`. -/
theorem fixed_eq (t : DateTime) :
    t.fixed.eq t ↔ ∀ tz, t.tzinfo = some tz → tz.foldDependent = false := by
  cases h : t.tzinfo with
  | none => simp [eq,fixed,h]
  | some tz =>
    simp [eq,fixed,h,instant,TzInfo.sameObject,TzInfo.foldDependent,TzInfo.utcoffset]

end RoundTrip

end DateTime
end MacroInvest.Features
