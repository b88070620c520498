import MacroInvest.Broker.Calls

/-! # The position ledger

A holding keeps six decimals while zero is tested on the unrounded difference. The stored
quantity therefore follows the fills exactly as long as every quantity is itself a multiple
of the column's unit, and the first fill that is not one breaks the ledger.
-/
namespace MacroInvest.Broker
open CallRun Journal

def netQuantity (ticker : String) (fills : List Fill) : ℚ :=
  sumOver .BUY (fun f => f.ticker = ticker) Fill.quantity fills -
    sumOver .SELL (fun f => f.ticker = ticker) Fill.quantity fills

def Fill.quantityIn (ticker : String) (f : Fill) : ℚ :=
  if f.ticker = ticker then
    match f.side with
    | .BUY => f.quantity
    | .SELL => -f.quantity
  else 0

theorem balance_quantityIn (ticker : String) (fills : List Fill) :
    balance 0 (Fill.quantityIn ticker) fills = netQuantity ticker fills := by
  have h := balance_sides (fun f => f.ticker = ticker) 0 Fill.quantity (fun f => -f.quantity) fills
  rw [sumOver_neg,zero_add,← sub_eq_add_neg] at h
  exact h

@[simp] theorem netQuantity_nil (ticker : String) : netQuantity ticker [] = 0 := by
  simp [netQuantity,sumOver]

@[simp] theorem netQuantity_concat (ticker : String) (fills : List Fill) (f : Fill) :
    netQuantity ticker (fills ++ [f]) = netQuantity ticker fills + f.quantityIn ticker := by
  rw [← balance_quantityIn,balance_concat,balance_quantityIn]

theorem OrderRequest.quantityIn_fill_ne {o : OrderRequest} {ticker : String}
    (h : ticker ≠ o.ticker) (id : ℕ) : (o.fill id).quantityIn ticker = 0 := if_neg h.symm

theorem OrderRequest.quantityIn_fill_buy {o : OrderRequest} (h : o.side = .BUY) (id : ℕ) :
    (o.fill id).quantityIn o.ticker = o.quantity := by
  simp [Fill.quantityIn,fill,h]

theorem OrderRequest.quantityIn_fill_sell {o : OrderRequest} (h : o.side = .SELL) (id : ℕ) :
    (o.fill id).quantityIn o.ticker = -o.quantity := by
  simp [Fill.quantityIn,fill,h]

/-- The holdings table says exactly what the fills since the last reset add up to. -/
structure PositionLedger (db : BrokerDb) (since : List Fill) : Prop where
  quantity : ∀ ticker, db.heldQty ticker = netQuantity ticker since
  row_iff : ∀ ticker,
    (∃ row, db.portfolioHoldings.find ticker = some row) ↔ netQuantity ticker since ≠ 0
  positive : ∀ ticker row, db.portfolioHoldings.find ticker = some row → 0 < row.quantity.val

/-- Neither column the position depends on changes what the order says. -/
structure OrderRequest.StoredExactly (o : OrderRequest) : Prop where
  quantity : o.quantity ∈ grid 6
  ticker : o.ticker.length ≤ 10

namespace BrokerDb
variable {db : BrokerDb} {ticker : String}

theorem heldQty_of_find {row : HoldingRow} (h : db.portfolioHoldings.find ticker = some row) :
    db.heldQty ticker = row.quantity.val := by
  simp [heldQty,h]

theorem heldQty_of_none (h : db.portfolioHoldings.find ticker = none) : db.heldQty ticker = 0 := by
  simp [heldQty,h]

theorem heldQty_congr {db' : BrokerDb}
    (h : db'.portfolioHoldings.find ticker = db.portfolioHoldings.find ticker) :
    db'.heldQty ticker = db.heldQty ticker := by
  simp [heldQty,h]

end BrokerDb

/-- Quantities that match and are positive where stored already decide which rows exist. -/
theorem positionLedger_of_quantity {db : BrokerDb} {since : List Fill}
    (hquantity : ∀ ticker, db.heldQty ticker = netQuantity ticker since)
    (hpositive : ∀ ticker row, db.portfolioHoldings.find ticker = some row →
      0 < row.quantity.val) : PositionLedger db since := by
  refine ⟨hquantity,fun ticker => ?_,hpositive⟩
  rw [← hquantity]
  cases h : db.portfolioHoldings.find ticker with
  | none => simp [db.heldQty_of_none h]
  | some row =>
    rw [db.heldQty_of_find h]
    exact ⟨fun _ => (hpositive ticker row h).ne',fun _ => ⟨row,rfl⟩⟩

theorem PositionLedger.heldQty_nonneg {db : BrokerDb} {since : List Fill}
    (h : PositionLedger db since) (ticker : String) : 0 ≤ db.heldQty ticker := by
  cases hrow : db.portfolioHoldings.find ticker with
  | none => rw [db.heldQty_of_none hrow]
  | some row =>
    rw [db.heldQty_of_find hrow]
    exact (h.positive ticker row hrow).le

/-- Rows of other tickers are never touched by an order whose ticker fits the column. -/
theorem Filled.find_other {db db' : BrokerDb} {o : OrderRequest} {f : Fill}
    (hf : Filled db o db' f) (hfits : o.ticker.length ≤ 10) {ticker : String}
    (h : ticker ≠ o.ticker) :
    db'.portfolioHoldings.find ticker = db.portfolioHoldings.find ticker := by
  apply hf.find_stored_ne
  rw [storedTicker_of_fits hfits,Ne,Option.some_inj]
  exact Ne.symm h

theorem Bought.find_self {db db' : BrokerDb} {o : OrderRequest} (hb : Bought db o db')
    (hfits : o.ticker.length ≤ 10) :
    ∃ row, db'.portfolioHoldings.find o.ticker = some row ∧
      row.quantity.val = numericRound 6 (db.heldQty o.ticker + o.quantity) := by
  have hstored := storedTicker_of_fits hfits
  rcases hb.find_cases o.ticker with ⟨-,row,hrow,hquantity,-⟩ | ⟨hne,-⟩
  · exact ⟨row,hrow,hquantity⟩
  · exact absurd hstored hne

/-- A SELL needs a row, so its ticker fits; it empties the row or stores the rounded rest. -/
theorem Sold.find_self {db db' : BrokerDb} {o : OrderRequest} (hs : Sold db o db') :
    o.ticker.length ≤ 10 ∧ o.quantity ≤ db.heldQty o.ticker ∧
    ((db.heldQty o.ticker = o.quantity ∧ db'.portfolioHoldings.find o.ticker = none) ∨
      (o.quantity < db.heldQty o.ticker ∧ ∃ row,
        db'.portfolioHoldings.find o.ticker = some row ∧
        row.quantity.val = numericRound 6 (db.heldQty o.ticker - o.quantity))) := by
  obtain ⟨row,hrow,hle,hcase⟩ := hs.rows
  have hfits := HoldingsTable.fits_of_find hrow
  rw [db.heldQty_of_find hrow]
  refine ⟨hfits,hle,?_⟩
  rcases hcase with ⟨heq,hupd⟩ | ⟨hlt,quantity,hquantity,hupd⟩
  · refine .inl ⟨heq,?_⟩
    rw [hupd]
    exact HoldingsTable.find_delete
  · refine .inr ⟨hlt,{ row with quantity },?_,numeric_val hquantity⟩
    rw [hupd]
    exact HoldingsTable.find_set hfits

/-- The row of the order's own ticker, on either side. -/
theorem ownHolding_filled {db db' : BrokerDb} {since : List Fill} {o : OrderRequest} {f : Fill}
    (ho : o.StoredExactly) (hf : Filled db o db' f) (h : PositionLedger db since) :
    db'.heldQty o.ticker = netQuantity o.ticker (since ++ [f]) ∧
      ∀ row, db'.portfolioHoldings.find o.ticker = some row → 0 < row.quantity.val := by
  have hheld := db.heldQty_mem o.ticker
  have hnn := h.heldQty_nonneg o.ticker
  have hpos := hf.quantity_pos
  rw [netQuantity_concat,hf.fill,← h.quantity]
  rcases hf.holdings with hb | hs
  · obtain ⟨row,hrow,hval⟩ := hb.find_self ho.ticker
    rw [numericRound_of_mem (add_mem hheld ho.quantity)] at hval
    rw [OrderRequest.quantityIn_fill_buy hb.side,BrokerDb.heldQty_of_find hrow,hval]
    refine ⟨rfl,fun row' hrow' => ?_⟩
    obtain rfl : row = row' := Option.some.inj (hrow.symm.trans hrow')
    rw [hval]
    linarith
  · rw [OrderRequest.quantityIn_fill_sell hs.side]
    obtain ⟨_,_,⟨heq,hnone⟩ | ⟨hlt,row,hrow,hval⟩⟩ := hs.find_self
    · rw [BrokerDb.heldQty_of_none hnone,heq]
      refine ⟨by ring,fun row hrow => ?_⟩
      rw [hnone] at hrow
      cases hrow
    · rw [numericRound_of_mem (sub_mem hheld ho.quantity)] at hval
      rw [BrokerDb.heldQty_of_find hrow,hval]
      refine ⟨by ring,fun row' hrow' => ?_⟩
      obtain rfl : row = row' := Option.some.inj (hrow.symm.trans hrow')
      rw [hval]
      linarith

theorem positionLedger_filled {db db' : BrokerDb} {since : List Fill} {o : OrderRequest} {f : Fill}
    (ho : o.StoredExactly) (hf : Filled db o db' f) (h : PositionLedger db since) :
    PositionLedger db' (since ++ [f]) := by
  obtain ⟨hquantity,hpositive⟩ := ownHolding_filled ho hf h
  refine positionLedger_of_quantity (fun ticker => ?_) (fun ticker => ?_)
  · by_cases ht : ticker = o.ticker
    · rw [ht]
      exact hquantity
    · rw [netQuantity_concat,hf.fill,OrderRequest.quantityIn_fill_ne ht,add_zero,← h.quantity]
      exact BrokerDb.heldQty_congr (hf.find_other ho.ticker ht)
  · by_cases ht : ticker = o.ticker
    · rw [ht]
      exact hpositive
    · rw [hf.find_other ho.ticker ht]
      exact h.positive ticker

/-- A ledger that survives a fill shows that the fill was stored exactly. -/
theorem storedExactly_of_positionLedger {db db' : BrokerDb} {since : List Fill} {o : OrderRequest}
    {f : Fill} (hf : Filled db o db' f) (h : PositionLedger db since)
    (h' : PositionLedger db' (since ++ [f])) : o.StoredExactly := by
  have hheld := db.heldQty_mem o.ticker
  have hpos := hf.quantity_pos
  have hq := h'.quantity o.ticker
  rw [netQuantity_concat,hf.fill,← h.quantity] at hq
  rcases hf.holdings with hb | hs
  · rw [OrderRequest.quantityIn_fill_buy hb.side] at hq
    have hfits : o.ticker.length ≤ 10 := by
      by_contra hlong
      rw [BrokerDb.heldQty_of_none (HoldingsTable.find_of_long hlong),
        BrokerDb.heldQty_of_none (HoldingsTable.find_of_long hlong)] at hq
      linarith
    obtain ⟨row,hrow,hval⟩ := hb.find_self hfits
    rw [BrokerDb.heldQty_of_find hrow,hval] at hq
    have hsum := (Rounding.halfAway.atUnit_eq_self_iff (unit_pos 6)).mp hq
    exact ⟨by simpa using sub_mem hsum hheld,hfits⟩
  · rw [OrderRequest.quantityIn_fill_sell hs.side,← sub_eq_add_neg] at hq
    obtain ⟨hfits,_,⟨heq,_⟩ | ⟨_,row,hrow,hval⟩⟩ := hs.find_self
    · exact ⟨heq ▸ hheld,hfits⟩
    · rw [BrokerDb.heldQty_of_find hrow,hval] at hq
      have hdiff := (Rounding.halfAway.atUnit_eq_self_iff (unit_pos 6)).mp hq
      exact ⟨by simpa using sub_mem hheld hdiff,hfits⟩

theorem positionLedger_seed : PositionLedger seededDb [] :=
  positionLedger_of_quantity (fun ticker => by simp [BrokerDb.heldQty,seededDb])
    (fun ticker row h => by simp [seededDb] at h)

theorem positionLedger_reset (db : BrokerDb) : PositionLedger (resetVirtualPortfolio db) [] :=
  positionLedger_of_quantity (fun ticker => by simp [BrokerDb.heldQty,resetVirtualPortfolio])
    (fun ticker row h => by simp [resetVirtualPortfolio] at h)

/-- Runs of exactly stored orders keep the ledger, and the next fill keeps it only if it is
exactly stored too. -/
theorem position_ledger_law (calls : List BrokerCall)
    (hcalls : OrdersMeet OrderRequest.StoredExactly calls) :
    PositionLedger (brokerFinal calls) (filledSinceReset (brokerTrace calls)) ∧
    ∀ o db' f, executeVirtualOrder (brokerFinal calls) o = (db',.FILLED f) →
      (PositionLedger db' (filledSinceReset (brokerTrace calls) ++ [f]) ↔ o.StoredExactly) := by
  have hledger : PositionLedger (brokerFinal calls) (filledSinceReset (brokerTrace calls)) := by
    refine broker_induction (P := fun db since _ => PositionLedger db since)
      positionLedger_seed ?_ (fun db _ _ _ => positionLedger_reset db) calls
      hcalls.inTables
    intro db since ever o db' f ho h hf
    exact positionLedger_filled ho hf h
  refine ⟨hledger,?_⟩
  intro o db' f he
  have hf : Filled (brokerFinal calls) o db' f := filled_of_eq he
  exact ⟨storedExactly_of_positionLedger hf hledger,fun ho => positionLedger_filled ho hf hledger⟩

def tenShares : OrderRequest := { ticker := "AAPL", side := .BUY, quantity := 10, price := 195 }

theorem tenShares_storedExactly : tenShares.StoredExactly :=
  ⟨AddSubgroup.mem_zmultiples_iff.mpr ⟨10000000,by norm_num [unit,tenShares]⟩,by decide +kernel⟩

theorem position_ledger_law_tenShares :
    (brokerFinal [.order tenShares]).heldQty "AAPL" = 10 ∧
    PositionLedger (brokerFinal [.order tenShares])
      (filledSinceReset (brokerTrace [.order tenShares])) := by
  refine ⟨by decide +kernel,(position_ledger_law [.order tenShares] ?_).1⟩
  intro o ho
  cases List.mem_singleton.mp ho
  exact tenShares_storedExactly

def residueCalls : List BrokerCall :=
  [.order { ticker := "AAPL", side := .BUY, quantity := 1, price := 195 },
   .order { ticker := "AAPL", side := .SELL, quantity := 0.9999999, price := 195 }]

/-- Both orders fill; the emptied row stays, with quantity zero. -/
theorem position_ledger_residue :
    (filledSinceReset (brokerTrace residueCalls)).length = 2 ∧
    ((brokerFinal residueCalls).portfolioHoldings.find "AAPL").map (·.quantity.val) = some 0 ∧
    netQuantity "AAPL" (filledSinceReset (brokerTrace residueCalls)) = 0.0000001 ∧
    ¬PositionLedger (brokerFinal residueCalls) (filledSinceReset (brokerTrace residueCalls)) := by
  refine ⟨by decide +kernel,by decide +kernel,by decide +kernel,fun h => ?_⟩
  have hq := h.quantity "AAPL"
  revert hq
  decide +kernel

end MacroInvest.Broker
