import MacroInvest.Broker.Valuation
import MacroInvest.Library.FixedWidth
import MacroInvest.Risk.Engine

/-! # The allocation of the portfolio by sector

The endpoint adds what the holdings cost by sector and ranks the sectors by it. The totals of
both this loop and the one of the risk engine are those of the sectors in the order of their
first holding.
-/
namespace MacroInvest.Risk
open Broker Rounding

/-- `_SECTOR_MAP` -/
def sectorMap : List (String × String) :=
  [("AAPL","Technology"),("MSFT","Technology"),("TSLA","Consumer Discretionary"),
   ("005930","Technology"),("000660","Technology"),("035420","Communication Services"),
   ("051910","Materials"),("006400","Materials"),("122630","Leveraged ETF"),
   ("005380","Consumer Discretionary"),("207940","Healthcare"),("005490","Materials"),
   ("105560","Financials"),("QQQ","Technology ETF"),("BND","Fixed Income ETF"),
   ("GLD","Commodity ETF")]

def allocationSector (ticker : String) : String := (sectorMap.lookup ticker).getD "Other"

structure SectorAllocationItem where
  sector : String
  tickers : List String
  weightPct : ℚ
  value : ℚ
  currency : Currency

structure Allocation where
  sectors : List SectorAllocationItem
  concentrationWarning : Option String
  topSector : Option String
  hhi : ℚ
  totalValue : ℚ

def noHoldings : Allocation where
  sectors := []
  concentrationWarning := some ("가상 포트폴리오에 보유 종목이 없습니다 — APPLY로 가상 매매를 실행하면 배분 현황이 " ++
    "표시됩니다")
  topSector := none
  hhi := 0
  totalValue := 0

def noValue : Allocation := ⟨[],none,none,0,0⟩

def warningText (top : String) (topW : ℚ) : String :=
  top ++ " 비중 " ++ FixedWidth.formatFixed 1 topW ++ "% — 40% 임계치 초과, 분산투자 검토 권장"

/-- The sectors with their values, the greatest value first, and the first of equal ones. -/
def ranked (sectorValues : List (String × ℚ)) : List (String × ℚ) :=
  sectorValues.insertionSort (fun a b => b.2 ≤ a.2)

section Values
variable (A : Arithmetic)

/-- A row of the holdings as read: quantities and costs are floats. -/
def costValue (h : Holding) : ℚ := A.mul (A.fl h.quantity) (A.fl h.avgCost)

/-- `h["quantity"] * _PRICE_STATE.get(h["ticker"], h["avg_cost"])` -/
def marketValue (prices : Prices) (h : Holding) : ℚ :=
  A.mul (A.fl h.quantity) (A.fl (h.mark prices))

/-- The values of what is held, at the current prices. -/
def heldValues (prices : Prices) (holdings : List Holding) : List (String × ℚ) :=
  (holdings.filter (0 < ·.quantity)).map (fun h => (h.ticker,marketValue A prices h))

/-- `round(val / total * 100, 1)` -/
def weightPct (total val : ℚ) : ℚ := A.round 1 (A.mul (A.div val total) 100)

/-- The warning about the sector at the top. -/
def concentrationWarning (total : ℚ) (top : Option (String × ℚ)) : Option String :=
  top.bind (fun p =>
    if 40 < weightPct A total p.2 then some (warningText p.1 (weightPct A total p.2)) else none)

def fetchAllocation (holdings : List Holding) : Allocation :=
  if holdings = [] then noHoldings
  else
    let sectorValues := holdings.foldl (fun totals h =>
      addAt A (allocationSector h.ticker) (costValue A h) totals) []
    let inSector := fun sector => holdings.filter (fun h => allocationSector h.ticker = sector)
    let total := A.sum (sectorValues.map Prod.snd)
    if total = 0 then noValue
    else
      let order := ranked sectorValues
      { sectors := order.map (fun p => {
          sector := p.1
          tickers := (inSector p.1).map (·.ticker)
          weightPct := weightPct A total p.2
          value := A.round 0 p.2
          currency := ((inSector p.1).getLast?.map (·.currency)).getD .KRW })
        concentrationWarning := concentrationWarning A total order.head?
        topSector := order.head?.map Prod.fst
        hhi := A.round 4 (order.foldl (fun hhi p =>
          let w := A.div p.2 total
          A.add hhi (A.mul w w)) 0)
        totalValue := A.round 0 total }

end Values

/-! ## Totals by sector -/

section Totals
variable (A : Arithmetic) (sector : Holding → String) (value : Holding → ℚ)

/-- Both loops: every position adds its value to its sector. -/
def sectorTotals (l : List Holding) : List (String × ℚ) :=
  l.foldl (fun totals h => addAt A (sector h) (value h) totals) []

/-- The sectors in the order of their first position. -/
def sectorsOf (l : List Holding) : List String :=
  l.foldl (fun ks h => if sector h ∈ ks then ks else ks ++ [sector h]) []

/-- What the positions of a sector are added up to. -/
def sectorTotal (l : List Holding) (s : String) : ℚ :=
  (l.filter (fun h => sector h = s)).foldl (fun t h => A.add t (value h)) 0

def totalOf (l : List Holding) : ℚ := (l.map value).sum

def sectorSum (l : List Holding) (s : String) : ℚ :=
  totalOf value (l.filter (fun h => sector h = s))

variable {A sector value} {l : List Holding}

theorem sectorsOf_concat (h : Holding) : sectorsOf sector (l ++ [h]) =
    if sector h ∈ sectorsOf sector l then sectorsOf sector l
    else sectorsOf sector l ++ [sector h] := by
  rw [sectorsOf,List.foldl_append]
  rfl

theorem mem_sectorsOf {s : String} : s ∈ sectorsOf sector l ↔ ∃ h ∈ l, sector h = s := by
  induction l using List.reverseRecOn with
  | nil => simp [sectorsOf]
  | append_singleton l h ih =>
    rw [sectorsOf_concat]
    simp only [List.mem_append,List.mem_singleton,or_and_right,exists_or,exists_eq_left,← ih]
    split
    · rename_i hmem
      constructor
      · exact .inl
      · rintro (hs | rfl)
        · exact hs
        · exact hmem
    · rw [List.mem_append,List.mem_singleton,eq_comm (a := s)]

theorem nodup_sectorsOf (sector : Holding → String) (l : List Holding) :
    (sectorsOf sector l).Nodup := by
  induction l using List.reverseRecOn with
  | nil => exact List.nodup_nil
  | append_singleton l h ih =>
    rw [sectorsOf_concat]
    split
    · exact ih
    · rename_i hnew
      refine List.nodup_append.mpr ⟨ih,List.nodup_singleton _,?_⟩
      simpa using fun s hs => ne_of_mem_of_not_mem hs hnew

theorem length_sectorsOf_le (sector : Holding → String) (l : List Holding) :
    (sectorsOf sector l).length ≤ l.length := by
  induction l using List.reverseRecOn with
  | nil => exact le_rfl
  | append_singleton l h ih =>
    rw [sectorsOf_concat]
    split
    · exact ih.trans (by simp)
    · simpa using ih

/-- A sector without a position has no total. -/
theorem sectorTotal_of_not_mem {s : String} (h : s ∉ sectorsOf sector l) :
    sectorTotal A sector value l s = 0 := by
  rw [mem_sectorsOf] at h
  push Not at h
  have hnone : l.filter (fun p => sector p = s) = [] :=
    List.filter_eq_nil_iff.mpr (fun p hp => by simpa using h p hp)
  rw [sectorTotal,hnone]
  rfl

theorem sectorTotal_concat (h : Holding) (s : String) :
    sectorTotal A sector value (l ++ [h]) s = if sector h = s
      then A.add (sectorTotal A sector value l s) (value h)
      else sectorTotal A sector value l s := by
  rw [sectorTotal,List.filter_append,List.foldl_append]
  by_cases hs : sector h = s
  · rw [if_pos hs,List.filter_cons_of_pos (by simpa using hs)]
    rfl
  · rw [if_neg hs,List.filter_cons_of_neg (by simpa using hs)]
    rfl

/-- Adding to a list of keys with their values. -/
theorem addAt_map {ks : List String} (hks : ks.Nodup) {f : String → ℚ} {k : String} {v : ℚ}
    (hnew : k ∉ ks → f k = 0) : addAt A k v (ks.map (fun s => (s,f s))) =
      (if k ∈ ks then ks else ks ++ [k]).map (fun s => (s,if k = s then A.add (f s) v else f s)) := by
  induction ks with
  | nil =>
    have hzero := hnew List.not_mem_nil
    simp [addAt,hzero]
  | cons a ks ih =>
    obtain ⟨ha,hks⟩ := List.nodup_cons.mp hks
    rw [List.map_cons,addAt]
    by_cases hk : a = k
    · subst hk
      have hrest : ks.map (fun s => (s,if a = s then A.add (f s) v else f s)) =
          ks.map (fun s => (s,f s)) :=
        List.map_congr_left (fun s hs => by rw [if_neg (ne_of_mem_of_not_mem hs ha).symm])
      rw [if_pos rfl,if_pos List.mem_cons_self,List.map_cons,hrest,if_pos rfl]
    · have hnew' : k ∉ ks → f k = 0 :=
        fun hnot => hnew (fun hmem => (List.mem_cons.mp hmem).elim (Ne.symm hk) hnot)
      rw [if_neg hk,ih hks hnew']
      by_cases hmem : k ∈ ks
      · simp [hmem,Ne.symm hk]
      · simp [hmem,Ne.symm hk]

/-- The loop lists every sector with the total of its positions. -/
theorem sectorTotals_eq (l : List Holding) : sectorTotals A sector value l =
    (sectorsOf sector l).map (fun s => (s,sectorTotal A sector value l s)) := by
  induction l using List.reverseRecOn with
  | nil => rfl
  | append_singleton l h ih =>
    have hstep : sectorTotals A sector value (l ++ [h]) =
        addAt A (sector h) (value h) (sectorTotals A sector value l) := by
      rw [sectorTotals,List.foldl_append]
      rfl
    rw [hstep,ih,addAt_map (nodup_sectorsOf sector l) sectorTotal_of_not_mem,sectorsOf_concat]
    exact List.map_congr_left (fun s _ => by rw [sectorTotal_concat])

theorem sectorTotal_exact (s : String) :
    sectorTotal .exact sector value l s = sectorSum sector value l s := by
  rw [sectorTotal,sectorSum,totalOf,List.sum_eq_foldl,List.foldl_map]
  rfl

/-- The sectors share the total among them. -/
theorem sum_sectorSum (sector : Holding → String) (value : Holding → ℚ) (l : List Holding) :
    ((sectorsOf sector l).map (sectorSum sector value l)).sum = totalOf value l := by
  have hadd : ∀ (k : String) (v : ℚ) (totals : List (String × ℚ)),
      ((addAt .exact k v totals).map Prod.snd).sum = (totals.map Prod.snd).sum + v := by
    intro k v totals
    induction totals with
    | nil => simp [addAt,Arithmetic.add,Arithmetic.exact]
    | cons q totals ih =>
      rw [addAt]
      split
      · rw [List.map_cons,List.sum_cons,List.map_cons,List.sum_cons,Arithmetic.add,Arithmetic.exact]
        simp only [id]
        ring
      · rw [List.map_cons,List.sum_cons,ih,List.map_cons,List.sum_cons,add_assoc]
  have hsum : ((sectorTotals .exact sector value l).map Prod.snd).sum = totalOf value l := by
    induction l using List.reverseRecOn with
    | nil => rfl
    | append_singleton l h ih =>
      rw [sectorTotals,List.foldl_append,← sectorTotals,List.foldl_cons,List.foldl_nil,hadd,ih,
        totalOf,totalOf,List.map_append,List.sum_append]
      simp
  rw [sectorTotals_eq,List.map_map] at hsum
  rw [← hsum]
  exact congrArg List.sum (List.map_congr_left (fun s _ => (sectorTotal_exact s).symm))

end Totals

end MacroInvest.Risk
