import MacroInvest.Broker.Valuation
import MacroInvest.Broker.Calls
import MacroInvest.Library.BlendedCost

/-! # The average cost of a holding

The stored cost follows the prices of the BUY orders filled since the row was created. A
ticker is meant as its column stores it: blanks past the tenth character are cut off, and an
order for such a ticker buys into the row of the shorter one.
-/
namespace MacroInvest.Broker
open CallRun BlendedCost

def Fill.paidFor (ticker : String) (f : Fill) : List ℚ :=
  if f.side = .BUY ∧ storedTicker f.ticker = some ticker then [f.fillPrice] else []

def BrokerReply.paidFor (ticker : String) : BrokerReply → List ℚ
  | .order (.FILLED f) => f.paidFor ticker
  | _ => []

/-- The tables with the prices of the BUY orders that the row of a ticker has seen. -/
def paidStep (ticker : String) (s : BrokerDb × List ℚ) (c : BrokerCall) :
    (BrokerDb × List ℚ) × BrokerReply :=
  let db := (brokerStep s.1 c).1
  let reply := (brokerStep s.1 c).2
  let paid := match db.portfolioHoldings.find ticker with
    | none => []
    | some _ => s.2 ++ reply.paidFor ticker
  ((db,paid),reply)

/-- The BUY prices of a ticker filled since its row was last created. -/
def paidSinceCreated (ticker : String) (calls : List BrokerCall) : List ℚ :=
  (final (paidStep ticker) (seededDb,[]) calls).2

theorem paidStep_fst (ticker : String) (calls : List BrokerCall) :
    (final (paidStep ticker) (seededDb,[]) calls).1 = brokerFinal calls := by
  induction calls using List.reverseRecOn with
  | nil => rfl
  | append_singleton calls c ih =>
    rw [final_concat,brokerFinal,final_concat]
    exact congrArg (fun db => (brokerStep db c).1) ih

/-- The row of a ticker holds no less than nothing, at a cost near the prices paid. -/
def CostNearPaid (ticker : String) (db : BrokerDb) (paid : List ℚ) : Prop :=
  ∀ row, db.portfolioHoldings.find ticker = some row →
    0 ≤ row.quantity.val ∧ NearRange (unit 4) row.avgCost.val paid

section Invariant
variable {db db' : BrokerDb} {o : OrderRequest} {f : Fill} {ticker : String} {paid : List ℚ}

/-- The blended cost of a BUY, from a row that is there or from none. -/
theorem nearRange_bought (hinv : CostNearPaid ticker db paid)
    (hticker : storedTicker o.ticker = some ticker) (hq : 1 ≤ o.quantity) :
    NearRange (unit 4) (numericRound 4 (blend (db.heldQty o.ticker) (db.heldCost o.ticker)
      o.quantity o.notional)) (paid ++ [o.fillPrice]) := by
  have hnotional : |o.notional - o.quantity * o.fillPrice| ≤ unit 4 / 2 :=
    Rounding.halfEven.abs_atUnit_sub_le (unit_pos 4) _
  cases hrow : db.portfolioHoldings.find o.ticker with
  | none =>
    rw [BrokerDb.heldQty,hrow]
    exact nearRange_first _ hq (unit_pos 4) hnotional
  | some row =>
    rw [storedTicker_of_fits (HoldingsTable.fits_of_find hrow),Option.some_inj] at hticker
    obtain ⟨hheld,hcost⟩ := hinv row (hticker ▸ hrow)
    rw [BrokerDb.heldQty,BrokerDb.heldCost,hrow]
    exact nearRange_blend _ hheld hq (unit_pos 4) hnotional row.avgCost.onGrid hcost

/-- A filled order keeps the cost near what was paid. -/
theorem costNearPaid_filled (hq : 1 ≤ o.quantity) (hf : Filled db o db' f)
    (hinv : CostNearPaid ticker db paid) :
    CostNearPaid ticker db' (paid ++ f.paidFor ticker) := by
  intro row' hrow'
  rw [hf.fill]
  rcases hf.holdings with hb | hs
  · rcases hb.find_cases ticker with ⟨hticker,row,hrow,hquantity,hcost⟩ | ⟨hticker,hsame⟩
    · obtain rfl : row = row' := Option.some.inj (hrow.symm.trans hrow')
      have hpaid : (o.fill (db.virtualOrdersIdSeq + 1)).paidFor ticker = [o.fillPrice] :=
        if_pos ⟨hb.side,hticker⟩
      have hheld : 0 ≤ db.heldQty o.ticker := by
        cases hold : db.portfolioHoldings.find o.ticker with
        | none => rw [BrokerDb.heldQty,hold]; rfl
        | some old =>
          rw [storedTicker_of_fits (HoldingsTable.fits_of_find hold),Option.some_inj] at hticker
          rw [BrokerDb.heldQty,hold]
          exact (hinv old (hticker ▸ hold)).1
      rw [hpaid,hcost,hquantity]
      refine ⟨?_,nearRange_bought hinv hticker hq⟩
      exact Rounding.halfAway.atUnit_nonneg (unit_pos 6) (by linarith)
    · have hpaid : (o.fill (db.virtualOrdersIdSeq + 1)).paidFor ticker = [] :=
        if_neg (fun h => hticker h.2)
      rw [hpaid,List.append_nil]
      exact hinv row' (hsame ▸ hrow')
  · have hpaid : (o.fill (db.virtualOrdersIdSeq + 1)).paidFor ticker = [] := by
      refine if_neg (fun h => ?_)
      have hside := h.1.symm.trans hs.side
      cases hside
    rw [hpaid,List.append_nil]
    rcases hs.find_cases ticker with ⟨-,hnone | ⟨row,row'',hrow,hrow'',hcost,hheld⟩⟩ | ⟨-,hsame⟩
    · rw [hnone] at hrow'
      cases hrow'
    · obtain rfl : row'' = row' := Option.some.inj (hrow''.symm.trans hrow')
      exact ⟨hheld,hcost ▸ (hinv row hrow).2⟩
    · exact hinv row' (hsame ▸ hrow')

/-- One call keeps the cost near what was paid since the row was created. -/
theorem costNearPaid_step {c : BrokerCall} (hc : ∀ o, c = .order o → 1 ≤ o.quantity)
    (hinv : CostNearPaid ticker db paid) :
    CostNearPaid ticker (paidStep ticker (db,paid) c).1.1 (paidStep ticker (db,paid) c).1.2 := by
  intro row hrow
  have hstored : (brokerStep db c).1.portfolioHoldings.find ticker = some row := hrow
  simp only [paidStep,hstored]
  revert hstored row
  cases c with
  | reset =>
    intro row _ hreset
    simp [brokerStep,resetVirtualPortfolio] at hreset
  | order o =>
    intro row _ hrow
    have hq := hc o rfl
    rcases executeVirtualOrder_cases db o with ⟨why,he⟩ | ⟨exc,he⟩ | ⟨db',f,he,hf⟩
    · rw [brokerStep,he] at hrow ⊢
      simpa [BrokerReply.paidFor] using hinv row hrow
    · rw [brokerStep,he] at hrow ⊢
      simpa [BrokerReply.paidFor] using hinv row hrow
    · rw [brokerStep,he] at hrow ⊢
      exact costNearPaid_filled hq hf hinv row hrow

end Invariant

section Long

/-- Nothing is held short, and nothing at a negative cost. -/
def LongRows (db : BrokerDb) : Prop :=
  ∀ ticker row, db.portfolioHoldings.find ticker = some row →
    0 ≤ row.quantity.val ∧ 0 ≤ row.avgCost.val

variable {db db' : BrokerDb} {o : OrderRequest} {f : Fill}

theorem LongRows.heldQty_nonneg (h : LongRows db) (ticker : String) : 0 ≤ db.heldQty ticker := by
  rw [BrokerDb.heldQty]
  cases hrow : db.portfolioHoldings.find ticker with
  | none => rfl
  | some row => exact (h ticker row hrow).1

theorem LongRows.heldCost_nonneg (h : LongRows db) (ticker : String) : 0 ≤ db.heldCost ticker := by
  rw [BrokerDb.heldCost]
  cases hrow : db.portfolioHoldings.find ticker with
  | none => rfl
  | some row => exact (h ticker row hrow).2

/-- A BUY whose slippage does not turn the price negative pays something for something. -/
theorem OrderRequest.notional_nonneg_of_buy (hslippage : -1 ≤ o.slippagePct) (hside : o.side = .BUY)
    (hq : 0 < o.quantity) (hprice : 0 < o.price) : 0 ≤ o.notional := by
  have hfill : 0 ≤ o.fillPrice := by
    rw [fillPrice,hside]
    exact pyRound_nonneg 6 (mul_nonneg hprice.le (by linarith))
  exact pyRound_nonneg 4 (mul_nonneg hq.le hfill)

theorem longRows_filled (hslippage : -1 ≤ o.slippagePct) (hf : Filled db o db' f)
    (hinv : LongRows db) : LongRows db' := by
  intro ticker row' hrow'
  rcases hf.holdings with hb | hs
  · rcases hb.find_cases ticker with ⟨-,row,hrow,hquantity,hcost⟩ | ⟨-,hsame⟩
    · obtain rfl : row = row' := Option.some.inj (hrow.symm.trans hrow')
      have hq := hf.quantity_pos
      have hheld := hinv.heldQty_nonneg o.ticker
      have hnotional := OrderRequest.notional_nonneg_of_buy hslippage hb.side hq hf.price_pos
      have hblend : 0 ≤ blend (db.heldQty o.ticker) (db.heldCost o.ticker) o.quantity o.notional :=
        div_nonneg (add_nonneg (mul_nonneg hheld (hinv.heldCost_nonneg _)) hnotional) (by linarith)
      rw [hquantity,hcost]
      exact ⟨Rounding.halfAway.atUnit_nonneg (unit_pos 6) (by linarith),
        Rounding.halfAway.atUnit_nonneg (unit_pos 4) hblend⟩
    · exact hinv ticker row' (hsame ▸ hrow')
  · rcases hs.find_cases ticker with ⟨-,hnone | ⟨row,row'',hrow,hrow'',hcost,hheld⟩⟩ | ⟨-,hsame⟩
    · rw [hnone] at hrow'
      cases hrow'
    · obtain rfl : row'' = row' := Option.some.inj (hrow''.symm.trans hrow')
      exact ⟨hheld,hcost ▸ (hinv ticker row hrow).2⟩
    · exact hinv ticker row' (hsame ▸ hrow')

/-- Whatever a run of calls does, the holdings that are read back are long. -/
theorem getPortfolioHoldings_long {calls : List BrokerCall}
    (hcalls : OrdersMeet (fun o => -1 ≤ o.slippagePct) calls) (readable : Bool) :
    ∀ h ∈ getPortfolioHoldings readable (brokerFinal calls), 0 ≤ h.quantity ∧ 0 ≤ h.avgCost := by
  have hlong : LongRows (brokerFinal calls) := by
    refine broker_induction (P := fun db _ _ => LongRows db) ?_ ?_ ?_ calls hcalls.inTables
    · intro ticker row hrow
      simp [seededDb] at hrow
    · intro db _ _ o db' f ho hinv hf
      exact longRows_filled ho hf hinv
    · intro db _ _ _ ticker row hrow
      simp [resetVirtualPortfolio] at hrow
  intro h hh
  rw [getPortfolioHoldings] at hh
  split at hh
  · obtain ⟨e,he,rfl⟩ := List.mem_map.mp (List.mem_mergeSort.mp hh)
    have hlookup := AList.mem_lookup_iff.mpr he
    refine hlong e.1.val e.2 ?_
    rw [HoldingsTable.find,dif_pos e.1.fits]
    exact hlookup
  · exact absurd hh List.not_mem_nil

end Long

/-- Every order asks for at least one piece at a positive price. -/
def OrderRequest.WholeUnits (o : OrderRequest) : Prop := 1 ≤ o.quantity ∧ 0 < o.price

theorem costNearPaid_run {calls : List BrokerCall} (hcalls : OrdersMeet OrderRequest.WholeUnits calls)
    (ticker : String) : CostNearPaid ticker (brokerFinal calls) (paidSinceCreated ticker calls) := by
  rw [← paidStep_fst ticker,paidSinceCreated]
  refine run_induction (P := fun (s : BrokerDb × List ℚ) _ => CostNearPaid ticker s.1 s.2)
    (G := fun _ c => ∀ o, c = .order o → 1 ≤ o.quantity) ?_ ?_ calls ?_
  · intro row hrow
    simp [seededDb] at hrow
  · intro s _ c hc hinv
    exact costNearPaid_step hc hinv
  · exact admits_of_forall (fun _ c hc o ho => (hcalls o (ho ▸ hc)).1)

/-- The stored cost of every holding lies near the range of the BUY prices its row has seen, as
they were filled and as they are stored; a SELL keeps it, and an order keeps the other rows. -/
theorem average_cost_law (calls : List BrokerCall)
    (hcalls : OrdersMeet OrderRequest.WholeUnits calls) :
    (∀ ticker row, (brokerFinal calls).portfolioHoldings.find ticker = some row →
      NearRange 0.0002 row.avgCost.val (paidSinceCreated ticker calls) ∧
      NearRange 0.0002 row.avgCost.val
        ((paidSinceCreated ticker calls).map (numericRound 4))) ∧
    ∀ o, (o.side = .SELL → ∀ ticker row',
        (executeVirtualOrder (brokerFinal calls) o).1.portfolioHoldings.find ticker = some row' →
        ∃ row, (brokerFinal calls).portfolioHoldings.find ticker = some row ∧
          row'.avgCost = row.avgCost) ∧
      ∀ ticker, storedTicker o.ticker ≠ some ticker →
        (executeVirtualOrder (brokerFinal calls) o).1.portfolioHoldings.find ticker =
          (brokerFinal calls).portfolioHoldings.find ticker := by
  constructor
  · intro ticker row hrow
    have hnear := (costNearPaid_run hcalls ticker row hrow).2
    have hrounded := hnear.rounded Rounding.halfAway (unit_pos 4)
    exact ⟨hnear.mono (by norm_num [unit]),hrounded.mono (by norm_num [unit])⟩
  · intro o
    rcases executeVirtualOrder_cases (brokerFinal calls) o with ⟨why,he⟩ | ⟨exc,he⟩ | ⟨db',f,he,hf⟩
    · rw [he]
      exact ⟨fun _ _ row' hrow' => ⟨row',hrow',rfl⟩,fun _ _ => rfl⟩
    · rw [he]
      exact ⟨fun _ _ row' hrow' => ⟨row',hrow',rfl⟩,fun _ _ => rfl⟩
    · rw [he]
      refine ⟨fun hsell ticker row' hrow' => ?_,fun ticker hne => hf.find_stored_ne hne⟩
      exact hf.cost_of_sell hsell hrow'

/-- Two purchases with a partial sale between them. -/
def averagedCalls : List BrokerCall :=
  [.order { ticker := "AAPL", side := .BUY, quantity := 3, price := 195 },
   .order { ticker := "AAPL", side := .SELL, quantity := 1, price := 201 },
   .order { ticker := "AAPL", side := .BUY, quantity := 1.5, price := 198 }]

theorem averagedCalls_wholeUnits : OrdersMeet OrderRequest.WholeUnits averagedCalls := by
  intro o ho
  simp only [averagedCalls,List.mem_cons,BrokerCall.order.injEq,List.not_mem_nil,or_false] at ho
  rcases ho with rfl | rfl | rfl <;> norm_num [OrderRequest.WholeUnits]

theorem average_cost_law_averagedCalls :
    paidSinceCreated "AAPL" averagedCalls = [195.195,198.198] ∧
    ∃ row, (brokerFinal averagedCalls).portfolioHoldings.find "AAPL" = some row ∧
      row.avgCost.val = 196.482 ∧
      NearRange 0.0002 row.avgCost.val (paidSinceCreated "AAPL" averagedCalls) := by
  have hcost : ((brokerFinal averagedCalls).portfolioHoldings.find "AAPL").map (·.avgCost.val) =
      some 196.482 := by
    decide +kernel
  obtain ⟨row,hrow,hval⟩ := Option.map_eq_some_iff.mp hcost
  exact ⟨by decide +kernel,row,hrow,hval,
    ((average_cost_law averagedCalls averagedCalls_wholeUnits).1 "AAPL" row hrow).1⟩

end MacroInvest.Broker
