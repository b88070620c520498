import MacroInvest.Library.FirstMax

/-! # Dated rows, oldest save first

Rows are kept in the order in which they were saved. One read takes the first row of the last
date on or before a given one, the other sorts by date and time stamp; they are compared with
the row saved last for that date.
-/
namespace MacroInvest.DatedRows
open FirstMax
variable {R D T : Type*} [LinearOrder D] [LinearOrder T]

section Reads
variable (date : R → D) (stamp : R → T) (rows : List R) (d : D)

def onOrBefore : List R := rows.filter (fun r => date r ≤ d)

def latestOnOrBefore : Option R := firstMax date (onOrBefore date rows d)

def recency (r : R) : D ×ₗ T := toLex (date r,stamp r)

/-- `rows[:limit]`; a negative limit counts from the end. -/
def sliceTo (rows : List R) (limit : ℤ) : List R :=
  if 0 ≤ limit then rows.take limit.toNat else rows.take (rows.length - limit.natAbs)

def recentFirst (limit : ℤ) : List R :=
  sliceTo ((onOrBefore date rows d).mergeSort
    (fun a b => decide (recency date stamp b ≤ recency date stamp a))) limit

/-- The records of the last date on or before `d`. -/
def atLatestDate : List R :=
  rows.filter (fun r => date r ≤ d ∧ ∀ other ∈ rows, date other ≤ d → date other ≤ date r)

/-- `r` is the last saved among the records of the last date on or before `d`. -/
def LastSavedAtLatest (r : R) : Prop := ∃ before after, rows = before ++ r :: after ∧
  date r ≤ d ∧ (∀ other ∈ before, date other ≤ d → date other ≤ date r) ∧
    ∀ other ∈ after, date other ≤ d → date other < date r

end Reads

section ReadLaws
variable {date : R → D} {stamp : R → T} {rows : List R} {d : D} {r : R}

theorem mem_onOrBefore : r ∈ onOrBefore date rows d ↔ r ∈ rows ∧ date r ≤ d := by
  simp [onOrBefore]

theorem latestOnOrBefore_mem (h : latestOnOrBefore date rows d = some r) :
    r ∈ rows ∧ date r ≤ d := mem_onOrBefore.mp (firstMax_mem h)

theorem le_latestOnOrBefore (h : latestOnOrBefore date rows d = some r) {other : R}
    (hother : other ∈ rows) (hd : date other ≤ d) : date other ≤ date r :=
  le_firstMax h (mem_onOrBefore.mpr ⟨hother,hd⟩)

theorem exists_latestOnOrBefore (h : ∃ r ∈ rows, date r ≤ d) :
    ∃ r, latestOnOrBefore date rows d = some r := by
  obtain ⟨r,hr,hd⟩ := h
  rw [← Option.ne_none_iff_exists',latestOnOrBefore,Ne,firstMax_eq_none]
  exact List.ne_nil_of_mem (mem_onOrBefore.mpr ⟨hr,hd⟩)

theorem mem_atLatestDate : r ∈ atLatestDate date rows d ↔
    r ∈ rows ∧ date r ≤ d ∧ ∀ other ∈ rows, date other ≤ d → date other ≤ date r := by
  simp [atLatestDate]

theorem latestOnOrBefore_mem_atLatestDate (h : latestOnOrBefore date rows d = some r) :
    r ∈ atLatestDate date rows d := by
  obtain ⟨hr,hd⟩ := latestOnOrBefore_mem h
  exact mem_atLatestDate.mpr ⟨hr,hd,fun other hother => le_latestOnOrBefore h hother⟩

theorem getElem?_zero_recentFirst {limit : ℤ} (hlimit : 0 < limit) :
    (recentFirst date stamp rows d limit)[0]? =
      firstMax (recency date stamp) (onOrBefore date rows d) := by
  rw [← head_mergeSort,recentFirst,sliceTo,if_pos hlimit.le,
    List.getElem?_take_of_lt (by omega),List.head?_eq_getElem?]

theorem head_recentFirst : (recentFirst date stamp rows d 1).head? =
    firstMax (recency date stamp) (onOrBefore date rows d) := by
  rw [List.head?_eq_getElem?,getElem?_zero_recentFirst (by decide)]

/-- The two most recent rows: the first greatest and the first greatest of the others. -/
theorem recentFirst_split {limit : ℤ} (hlimit : 2 ≤ limit) {before after : List R}
    (hsplit : onOrBefore date rows d = before ++ r :: after)
    (hbefore : ∀ o ∈ before, recency date stamp o < recency date stamp r)
    (hafter : ∀ o ∈ after, recency date stamp o ≤ recency date stamp r) :
    (recentFirst date stamp rows d limit)[0]? = some r ∧
      (recentFirst date stamp rows d limit)[1]? =
        firstMax (recency date stamp) (before ++ after) := by
  have hnat : 1 < limit.toNat := by omega
  rw [recentFirst,sliceTo,if_pos (by omega),hsplit,mergeSort_split hbefore hafter,
    List.getElem?_take_of_lt (by omega),List.getElem?_take_of_lt hnat,← head_mergeSort]
  exact ⟨rfl,List.head?_eq_getElem?.symm⟩

/-- The first row of the latest date is also the most recent one exactly when no other row of
that date is stamped later. -/
theorem firstMax_recency_iff (h : firstMax date rows = some r) :
    firstMax (recency date stamp) rows = some r ↔
      ∀ o ∈ rows, date o = date r → stamp o ≤ stamp r := by
  constructor
  · intro hr o ho hdate
    have hle := le_firstMax hr ho
    rw [recency,recency,Prod.Lex.toLex_le_toLex] at hle
    rcases hle with hlt | ⟨-,hstamp⟩
    · exact absurd hlt (hdate ▸ lt_irrefl _)
    · exact hstamp
  · intro hstamp
    obtain ⟨before,after,rfl,hbefore,hafter⟩ := firstMax_split h
    refine firstMax_eq_some_iff.mpr ⟨before,after,rfl,?_,?_⟩
    · intro o ho
      exact Prod.Lex.toLex_lt_toLex.mpr (.inl (hbefore o ho))
    · intro o ho
      rw [recency,recency,Prod.Lex.toLex_le_toLex]
      rcases (hafter o ho).lt_or_eq with hlt | heq
      · exact .inl hlt
      · exact .inr ⟨heq,hstamp o (by simp [ho]) heq⟩

/-- The rows of the latest date are its first one and what comes after it with that date. -/
theorem atLatestDate_split {before after : List R}
    (hsplit : onOrBefore date rows d = before ++ r :: after)
    (hbefore : ∀ o ∈ before, date o < date r) (hafter : ∀ o ∈ after, date o ≤ date r) :
    atLatestDate date rows d = r :: after.filter (fun o => date r ≤ date o) := by
  have hin : ∀ o, o ∈ rows ∧ date o ≤ d ↔ o ∈ before ++ r :: after := by
    intro o
    rw [← hsplit,mem_onOrBefore]
  have hle : ∀ o ∈ rows, date o ≤ d → date o ≤ date r := by
    intro o ho hd
    rcases List.mem_append.mp ((hin o).mp ⟨ho,hd⟩) with hmem | hmem
    · exact (hbefore o hmem).le
    · rcases List.mem_cons.mp hmem with rfl | hmem
      · exact le_rfl
      · exact hafter o hmem
  have hr := (hin r).mpr (by simp)
  have hdate : atLatestDate date rows d =
      (onOrBefore date rows d).filter (fun o => date r ≤ date o) := by
    rw [onOrBefore,List.filter_filter]
    refine List.filter_congr fun o ho => ?_
    rw [← Bool.decide_and]
    refine decide_eq_decide.mpr ?_
    constructor
    · rintro ⟨hd,hmax⟩
      exact ⟨hmax r hr.1 hr.2,hd⟩
    · rintro ⟨hro,hd⟩
      exact ⟨hd,fun other hother hd' => (hle other hother hd').trans hro⟩
  have hnil : before.filter (fun o => date r ≤ date o) = [] := by
    refine List.filter_eq_nil_iff.mpr fun o ho => ?_
    simpa using hbefore o ho
  rw [hdate,hsplit,List.filter_append,hnil]
  simp

theorem latestOnOrBefore_eq_head :
    latestOnOrBefore date rows d = (atLatestDate date rows d).head? := by
  cases h : latestOnOrBefore date rows d with
  | none =>
    have hempty : onOrBefore date rows d = [] := firstMax_eq_none.mp h
    have hnone : atLatestDate date rows d = [] := by
      refine List.eq_nil_iff_forall_not_mem.mpr fun r hr => ?_
      obtain ⟨hmem,hd,-⟩ := mem_atLatestDate.mp hr
      have hin := mem_onOrBefore.mpr ⟨hmem,hd⟩
      rw [hempty] at hin
      cases hin
    rw [hnone]
    rfl
  | some r =>
    obtain ⟨before,after,hsplit,hbefore,hafter⟩ := firstMax_split h
    rw [atLatestDate_split hsplit hbefore hafter]
    rfl

section Pair
variable {e : D} {before after : List R}

/-- With one row of the latest date, the others are the rows dated before it. -/
theorem onOrBefore_split (he : ∀ a, a ≤ e ↔ a < date r) (hd : date r ≤ d)
    (hsplit : onOrBefore date rows d = before ++ r :: after)
    (hother : ∀ o ∈ before ++ after, date o < date r) :
    onOrBefore date rows e = before ++ after := by
  have hfilter : onOrBefore date rows e =
      (onOrBefore date rows d).filter (fun o => date o < date r) := by
    rw [onOrBefore,onOrBefore,List.filter_filter]
    refine List.filter_congr fun o _ => ?_
    rw [← Bool.decide_and]
    refine decide_eq_decide.mpr ?_
    rw [he]
    exact ⟨fun hlt => ⟨hlt,hlt.le.trans hd⟩,And.left⟩
  rw [hfilter,hsplit,List.filter_append,List.filter_cons_of_neg (by simp),← List.filter_append]
  exact List.filter_eq_self.mpr (by simpa using hother)

theorem mem_atLatestDate_of_latest (h : latestOnOrBefore date rows e = some r) {o : R} :
    o ∈ atLatestDate date rows e ↔ o ∈ onOrBefore date rows e ∧ date o = date r := by
  rw [mem_atLatestDate,mem_onOrBefore]
  have hr := latestOnOrBefore_mem h
  constructor
  · rintro ⟨ho,hd,hmax⟩
    exact ⟨⟨ho,hd⟩,(le_latestOnOrBefore h ho hd).antisymm (hmax r hr.1 hr.2)⟩
  · rintro ⟨⟨ho,hd⟩,heq⟩
    exact ⟨ho,hd,fun other hother hd' => heq ▸ le_latestOnOrBefore h hother hd'⟩

variable {S : Type*} {f : R → S}
  (hf : ∀ a b, f a = f b → date a = date b ∧ stamp a = stamp b)
include hf

/-- Up to a view that shows date and stamp, the most recent row is the first of the latest date
exactly when no other row of that date is stamped later. -/
theorem map_firstMax_recency_iff :
    (firstMax (recency date stamp) (onOrBefore date rows e)).map f =
        (latestOnOrBefore date rows e).map f ↔
      ∀ p, (atLatestDate date rows e).head? = some p →
        ∀ o ∈ atLatestDate date rows e, stamp o ≤ stamp p := by
  rw [← latestOnOrBefore_eq_head]
  cases h : latestOnOrBefore date rows e with
  | none =>
    have hempty : onOrBefore date rows e = [] := firstMax_eq_none.mp h
    simp [hempty]
  | some r =>
    have hlaw : (∀ o ∈ onOrBefore date rows e, date o = date r → stamp o ≤ stamp r) ↔
        ∀ p, some r = some p → ∀ o ∈ atLatestDate date rows e, stamp o ≤ stamp p := by
      constructor
      · rintro hall p ⟨⟩ o ho
        obtain ⟨hin,hdate⟩ := (mem_atLatestDate_of_latest h).mp ho
        exact hall o hin hdate
      · intro hall o ho hdate
        exact hall r rfl o ((mem_atLatestDate_of_latest h).mpr ⟨ho,hdate⟩)
    rw [← hlaw]
    constructor
    · intro hmap o ho hdate
      obtain ⟨m,hm,hfm⟩ := Option.map_eq_some_iff.mp hmap
      obtain ⟨hdm,hsm⟩ := hf m r hfm
      have hle := le_firstMax hm ho
      rw [recency,recency,Prod.Lex.toLex_le_toLex] at hle
      rcases hle with hlt | ⟨-,hstamp⟩
      · exact absurd hlt (by rw [hdate,hdm]; exact lt_irrefl _)
      · exact hstamp.trans hsm.le
    · intro hall
      rw [(firstMax_recency_iff h).mpr hall]

/-- When the most recent of some rows looks like a row on or before `e`, so are all of them. -/
theorem le_of_map_firstMax {rest : List R} (h : (firstMax (recency date stamp) rest).map f =
    (latestOnOrBefore date rows e).map f) {o : R} (ho : o ∈ rest) : date o ≤ e := by
  have hne : firstMax (recency date stamp) rest ≠ none := by
    rw [Ne,firstMax_eq_none]
    exact List.ne_nil_of_mem ho
  obtain ⟨q,hq⟩ := Option.ne_none_iff_exists'.mp hne
  rw [hq,Option.map_some] at h
  obtain ⟨p,hp,hfp⟩ := Option.map_eq_some_iff.mp h.symm
  have hpe : date p ≤ e := (latestOnOrBefore_mem hp).2
  have hle := le_firstMax hq ho
  rw [recency,recency,Prod.Lex.toLex_le_toLex,← (hf p q hfp).1] at hle
  rcases hle with hlt | ⟨heq,-⟩
  · exact hlt.le.trans hpe
  · exact heq.le.trans hpe

/-- The two most recent rows are the latest one and the latest one before its date exactly
when the latest date has one row and the date before it starts with its last stamp. -/
theorem pair_agree_iff {limit : ℤ} (hlimit : 2 ≤ limit)
    (hlatest : latestOnOrBefore date rows d = some r) (he : ∀ a, a ≤ e ↔ a < date r) :
    ((recentFirst date stamp rows d limit)[0]?.map f = some (f r) ∧
      (recentFirst date stamp rows d limit)[1]?.map f = (latestOnOrBefore date rows e).map f) ↔
    atLatestDate date rows d = [r] ∧ ∀ p, (atLatestDate date rows e).head? = some p →
      ∀ o ∈ atLatestDate date rows e, stamp o ≤ stamp p := by
  have hd := (latestOnOrBefore_mem hlatest).2
  obtain ⟨before,after,hsplit,hbefore,hafter⟩ := firstMax_split hlatest
  rw [atLatestDate_split hsplit hbefore hafter,← map_firstMax_recency_iff hf]
  have hbefore' : ∀ o ∈ before, recency date stamp o < recency date stamp r :=
    fun o ho => Prod.Lex.toLex_lt_toLex.mpr (.inl (hbefore o ho))
  constructor
  · rintro ⟨hfirst,hsecond⟩
    rw [getElem?_zero_recentFirst (by omega)] at hfirst
    obtain ⟨m,hm,hfm⟩ := Option.map_eq_some_iff.mp hfirst
    have hrecency : recency date stamp m = recency date stamp r := by
      rw [recency,recency,(hf m r hfm).1,(hf m r hfm).2]
    have hafter' : ∀ o ∈ after, recency date stamp o ≤ recency date stamp r := by
      intro o ho
      rw [← hrecency]
      exact le_firstMax hm (by simp [hsplit,ho])
    rw [(recentFirst_split hlimit hsplit hbefore' hafter').2] at hsecond
    have hother : ∀ o ∈ before ++ after, date o < date r :=
      fun o ho => (he _).mp (le_of_map_firstMax hf hsecond ho)
    rw [onOrBefore_split he hd hsplit hother]
    refine ⟨?_,hsecond⟩
    rw [List.filter_eq_nil_iff.mpr]
    intro o ho
    simpa using hother o (List.mem_append_right _ ho)
  · rintro ⟨hone,hprior⟩
    have hlate : ∀ o ∈ after, date o < date r := by
      intro o ho
      have hnil := (List.cons.inj hone).2
      simpa using List.filter_eq_nil_iff.mp hnil o ho
    have hafter' : ∀ o ∈ after, recency date stamp o ≤ recency date stamp r :=
      fun o ho => (Prod.Lex.toLex_lt_toLex.mpr (.inl (hlate o ho))).le
    obtain ⟨hfirst,hsecond⟩ := recentFirst_split hlimit hsplit hbefore' hafter'
    have hrest : onOrBefore date rows e = before ++ after := by
      refine onOrBefore_split he hd hsplit fun o ho => ?_
      rcases List.mem_append.mp ho with ho | ho
      · exact hbefore o ho
      · exact hlate o ho
    rw [hfirst,hsecond,← hrest]
    exact ⟨rfl,hprior⟩

end Pair

theorem exists_head_recentFirst (stamp : R → T) (h : ∃ r ∈ rows, date r ≤ d) :
    ∃ r, (recentFirst date stamp rows d 1).head? = some r := by
  obtain ⟨r,hr,hd⟩ := h
  rw [← Option.ne_none_iff_exists',head_recentFirst,Ne,firstMax_eq_none]
  exact List.ne_nil_of_mem (mem_onOrBefore.mpr ⟨hr,hd⟩)

theorem LastSavedAtLatest.mem_atLatestDate (h : LastSavedAtLatest date rows d r) :
    r ∈ atLatestDate date rows d := by
  obtain ⟨before,after,rfl,hd,hbefore,hafter⟩ := h
  refine DatedRows.mem_atLatestDate.mpr ⟨by simp,hd,?_⟩
  intro other hother hle
  rcases List.mem_append.mp hother with hother | hother
  · exact hbefore other hother hle
  · rcases List.mem_cons.mp hother with rfl | hother
    · exact le_rfl
    · exact (hafter other hother hle).le

variable (hstamp : rows.Pairwise (fun a b => stamp a < stamp b))
include hstamp

/-- The most recent record by date and time is the one saved last for the last date. -/
theorem recentFirst_lastSaved (h : (recentFirst date stamp rows d 1).head? = some r) :
    LastSavedAtLatest date rows d r := by
  rw [head_recentFirst] at h
  obtain ⟨hr,hd⟩ := mem_onOrBefore.mp (firstMax_mem h)
  have hkey : ∀ other ∈ rows, date other ≤ d →
      date other < date r ∨ date other = date r ∧ stamp other ≤ stamp r := by
    intro other hother hle
    exact (Prod.Lex.toLex_le_toLex).mp (le_firstMax h (mem_onOrBefore.mpr ⟨hother,hle⟩))
  obtain ⟨before,after,rfl⟩ := List.append_of_mem hr
  refine ⟨before,after,rfl,hd,?_,?_⟩
  · intro other hother hle
    rcases hkey other (by simp [hother]) hle with hlt | ⟨heq,-⟩
    · exact hlt.le
    · exact heq.le
  · intro other hother hle
    rcases hkey other (by simp [hother]) hle with hlt | ⟨-,hlate⟩
    · exact hlt
    · have hnext := List.rel_of_pairwise_cons (List.pairwise_append.mp hstamp).2.1 hother
      exact absurd hlate (not_le.mpr hnext)

/-- A record that is first and last of its date is the only one of that date. -/
theorem eq_of_first_and_last (hfirst : latestOnOrBefore date rows d = some r)
    (hlast : LastSavedAtLatest date rows d r) {other : R}
    (hother : other ∈ atLatestDate date rows d) : other = r := by
  obtain ⟨hmem,hd,hmax⟩ := mem_atLatestDate.mp hother
  have hle : date r ≤ date other := hmax r (latestOnOrBefore_mem hfirst).1
    (latestOnOrBefore_mem hfirst).2
  obtain ⟨earlier,later,hsplit,hearlier,-⟩ := firstMax_split hfirst
  obtain ⟨before,after,rfl,-,-,hafter⟩ := hlast
  have hfiltered : (earlier ++ r :: later).Pairwise (fun a b => stamp a < stamp b) :=
    hsplit ▸ hstamp.filter _
  have hin : other ∈ earlier ++ r :: later := hsplit ▸ mem_onOrBefore.mpr ⟨hmem,hd⟩
  rcases List.mem_append.mp hin with hin | hin
  · exact absurd (hearlier other hin) (not_lt.mpr hle)
  rcases List.mem_cons.mp hin with rfl | hin
  · rfl
  have hlate := List.rel_of_pairwise_cons (List.pairwise_append.mp hfiltered).2.1 hin
  rcases List.mem_append.mp hmem with hmem | hmem
  · have hsoon := (List.pairwise_append.mp hstamp).2.2 other hmem r List.mem_cons_self
    exact absurd hlate (not_lt.mpr hsoon.le)
  · rcases List.mem_cons.mp hmem with rfl | hmem
    · rfl
    · exact absurd (hafter other hmem hd) (not_lt.mpr hle)

theorem atLatestDate_nodup : (atLatestDate date rows d).Nodup := by
  have hrows : rows.Nodup := by
    refine List.Pairwise.imp ?_ hstamp
    rintro a b hlt rfl
    exact lt_irrefl _ hlt
  exact hrows.filter _

/-- Both reads give the last saved record exactly when its date was saved once. -/
theorem reads_agree_iff (hd : ∃ r ∈ rows, date r ≤ d) :
    (∃ r, latestOnOrBefore date rows d = some r ∧
      (recentFirst date stamp rows d 1).head? = some r ∧ LastSavedAtLatest date rows d r) ↔
    (atLatestDate date rows d).length = 1 := by
  obtain ⟨first,hfirst⟩ := exists_latestOnOrBefore hd
  obtain ⟨last,hlast⟩ := exists_head_recentFirst stamp hd
  have hsaved := recentFirst_lastSaved hstamp hlast
  constructor
  · rintro ⟨r,hr,-,hrlast⟩
    have hall : ∀ other ∈ atLatestDate date rows d, other = r := by
      intro other hother
      exact eq_of_first_and_last hstamp hr hrlast hother
    have hrep := List.eq_replicate_of_mem hall
    have hnodup : (atLatestDate date rows d).Nodup := atLatestDate_nodup hstamp
    rw [hrep,List.nodup_replicate] at hnodup
    have hpos := List.length_pos_of_mem hrlast.mem_atLatestDate
    omega
  · intro hone
    obtain ⟨r,hr⟩ := List.length_eq_one_iff.mp hone
    have h1 := latestOnOrBefore_mem_atLatestDate hfirst
    have h2 := hsaved.mem_atLatestDate
    rw [hr,List.mem_singleton] at h1 h2
    subst h1
    subst h2
    exact ⟨last,hfirst,hlast,hsaved⟩

end ReadLaws

end MacroInvest.DatedRows
