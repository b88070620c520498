import MacroInvest.Broker.Orders
import MacroInvest.Library.BlendedCost
import MacroInvest.Library.CallRun
import MacroInvest.Library.Fallible

/-! # Everything one broker call can do

One inversion theorem per call. The ledgers below are derived from these alone; no later
proof opens the transaction again.
-/
namespace MacroInvest.Broker
open BlendedCost Fallible Journal

namespace OrderRequest
variable (o : OrderRequest)

theorem notional_mem : o.notional ∈ grid 4 := pyRound_mem 4 _
theorem commission_mem : o.commission ∈ grid 4 := pyRound_mem 4 _

/-- The second rounding of the debit is exact: both summands already have four decimals. -/
theorem totalDebit_eq : o.totalDebit = o.notional + o.commission :=
  pyRound_of_mem (add_mem o.notional_mem o.commission_mem)

theorem netProceeds_eq : o.netProceeds = o.notional - o.commission :=
  pyRound_of_mem (sub_mem o.notional_mem o.commission_mem)

def cashFlow : ℚ :=
  match o.side with
  | .BUY => -(o.notional + o.commission)
  | .SELL => o.notional - o.commission

end OrderRequest

/-- The row of the order log that belongs to a fill: every column cast to its type. -/
structure StoresFill (row : OrderRow) (f : Fill) : Prop where
  id : row.id = f.orderId
  ticker : varchar 10 f.ticker = .ok row.ticker
  side : row.side = f.side
  quantity : row.quantity.val = numericRound 6 f.quantity
  fillPrice : row.fillPrice.val = numericRound 4 f.fillPrice
  currency : row.currency = f.currency
  status : row.status = "FILLED"
  slippagePct : row.slippagePct.val = numericRound 6 f.slippagePct
  commission : row.commission.val = numericRound 4 f.commission

namespace BrokerDb
variable (db : BrokerDb)

def heldQty (ticker : String) : ℚ :=
  ((db.portfolioHoldings.find ticker).map (·.quantity.val)).getD 0

def heldCost (ticker : String) : ℚ :=
  ((db.portfolioHoldings.find ticker).map (·.avgCost.val)).getD 0

theorem heldQty_mem (ticker : String) : db.heldQty ticker ∈ grid 6 := by
  unfold heldQty
  cases db.portfolioHoldings.find ticker with
  | none => exact zero_mem _
  | some row => exact row.quantity.onGrid

end BrokerDb

/-- A BUY writes the row of the ticker as the column stores it. -/
structure Bought (db : BrokerDb) (o : OrderRequest) (db' : BrokerDb) : Prop where
  side : o.side = .BUY
  rows : ∃ key quantity avgCost currency,
    varchar 10 o.ticker = .ok key ∧
    numeric 20 6 (db.heldQty o.ticker + o.quantity) = .ok quantity ∧
    numeric 20 4 ((db.heldQty o.ticker * db.heldCost o.ticker + o.notional) /
      (db.heldQty o.ticker + o.quantity)) = .ok avgCost ∧
    db'.portfolioHoldings = db.portfolioHoldings.insert key ⟨quantity,avgCost,currency⟩

/-- A SELL deletes an emptied row and otherwise rewrites its quantity only. -/
structure Sold (db : BrokerDb) (o : OrderRequest) (db' : BrokerDb) : Prop where
  side : o.side = .SELL
  rows : ∃ row, db.portfolioHoldings.find o.ticker = some row ∧
    o.quantity ≤ row.quantity.val ∧
    ((row.quantity.val = o.quantity ∧
        db'.portfolioHoldings = db.portfolioHoldings.delete o.ticker) ∨
      (o.quantity < row.quantity.val ∧ ∃ quantity,
        numeric 20 6 (row.quantity.val - o.quantity) = .ok quantity ∧
        db'.portfolioHoldings = db.portfolioHoldings.set o.ticker { row with quantity }))

/-- Everything a filled order does to the tables. -/
structure Filled (db : BrokerDb) (o : OrderRequest) (db' : BrokerDb) (f : Fill) : Prop where
  quantity_pos : 0 < o.quantity
  price_pos : 0 < o.price
  fill : f = o.fill (db.virtualOrdersIdSeq + 1)
  cash : ∃ account cash', db.virtualAccounts o.currency = some account ∧
    cash'.val = account.cashBalance.val + o.cashFlow ∧
    (o.side = .BUY → o.notional + o.commission ≤ account.cashBalance.val) ∧
    db'.virtualAccounts = Function.update db.virtualAccounts o.currency
      (some { account with cashBalance := cash' })
  holdings : Bought db o db' ∨ Sold db o db'
  orders : ∃ row, StoresFill row f ∧ db'.virtualOrders = db.virtualOrders ++ [row]
  idSeq : db'.virtualOrdersIdSeq = db.virtualOrdersIdSeq + 1
  audit : db'.auditLog = db.auditLog ++
    [⟨"virtual_order_filled",{ toFill := f, price := o.price }⟩]

theorem addCash_ok {db db' : BrokerDb} {c : Currency} {account : AccountRow} {amount : ℚ}
    (hamount : amount ∈ grid 4) (h : db.addCash c account amount = .ok db') :
    ∃ cash', cash'.val = account.cashBalance.val + amount ∧
      db' = { db with virtualAccounts :=
        Function.update db.virtualAccounts c (some { account with cashBalance := cash' }) } := by
  obtain ⟨cash',hcash,h⟩ := ok_of_bind h
  cases h
  refine ⟨cash',?_,rfl⟩
  rw [numeric_val hcash]
  exact numericRound_of_mem (add_mem account.cashBalance.onGrid hamount)

theorem recordFill_ok {db db' : BrokerDb} {o : OrderRequest} {r : OrderResult}
    (h : recordFill db o = .ok (db',r)) :
    ∃ row, StoresFill row (o.fill (db.virtualOrdersIdSeq + 1)) ∧
      r = .FILLED (o.fill (db.virtualOrdersIdSeq + 1)) ∧
      db' = { db with
        virtualOrders := db.virtualOrders ++ [row]
        virtualOrdersIdSeq := db.virtualOrdersIdSeq + 1
        auditLog := db.auditLog ++ [⟨"virtual_order_filled",
          { toFill := o.fill (db.virtualOrdersIdSeq + 1), price := o.price }⟩] } := by
  obtain ⟨⟨mid,id⟩,hins,h⟩ := ok_of_bind h
  obtain ⟨ticker,hticker,hins⟩ := ok_of_bind hins
  obtain ⟨quantity,hquantity,hins⟩ := ok_of_bind hins
  obtain ⟨fillPrice,hfill,hins⟩ := ok_of_bind hins
  obtain ⟨slippage,hslippage,hins⟩ := ok_of_bind hins
  obtain ⟨commission,hcommission,hins⟩ := ok_of_bind hins
  cases hins
  cases h
  refine ⟨_,?_,rfl,rfl⟩
  exact ⟨rfl,hticker,rfl,numeric_val hquantity,numeric_val hfill,rfl,rfl,
    numeric_val hslippage,numeric_val hcommission⟩

theorem buyTransaction_ok {db db' : BrokerDb} {o : OrderRequest} {account : AccountRow}
    {r : OrderResult} (hpos : 0 < o.quantity ∧ 0 < o.price) (hside : o.side = .BUY)
    (haccount : db.virtualAccounts o.currency = some account)
    (h : buyTransaction db o account (db.heldQty o.ticker) (db.heldCost o.ticker) =
      .ok (db',r)) :
    (∃ why, r = .REJECTED why ∧ db' = db) ∨ ∃ f, r = .FILLED f ∧ Filled db o db' f := by
  unfold buyTransaction at h
  split at h
  · cases h
    exact .inl ⟨_,rfl,rfl⟩
  · rename_i hcash
    have hmem : -o.totalDebit ∈ grid 4 := by
      rw [o.totalDebit_eq]
      exact neg_mem (add_mem o.notional_mem o.commission_mem)
    obtain ⟨mid,hup,h⟩ := ok_of_bind h
    obtain ⟨key,hkey,hup⟩ := ok_of_bind hup
    obtain ⟨quantity,hquantity,hup⟩ := ok_of_bind hup
    obtain ⟨avgCost,hcost,hup⟩ := ok_of_bind hup
    cases hup
    obtain ⟨mid',hadd,h⟩ := ok_of_bind h
    obtain ⟨cash',hval,rfl⟩ := addCash_ok hmem hadd
    obtain ⟨row,hrow,rfl,rfl⟩ := recordFill_ok h
    refine .inr ⟨_,rfl,?_⟩
    refine ⟨hpos.1,hpos.2,rfl,⟨account,cash',haccount,?_,?_,rfl⟩,.inl ⟨hside,?_⟩,
      ⟨row,hrow,rfl⟩,rfl,rfl⟩
    · rw [hval,o.totalDebit_eq,OrderRequest.cashFlow,hside]
    · intro _
      rw [← o.totalDebit_eq]
      exact not_lt.mp hcash
    · exact ⟨key,quantity,avgCost,_,hkey,hquantity,hcost,rfl⟩

/-- The row of the ticker goes when nothing remains, and keeps what remains otherwise. -/
theorem decrementHolding_ok {db db' : BrokerDb} {ticker : String} {held : HoldingRow} {sold : ℚ}
    (hle : sold ≤ held.quantity.val)
    (h : db.decrementHolding ticker (some held) (held.quantity.val - sold) = .ok db') :
    (held.quantity.val = sold ∧ db' = db.deleteHolding ticker) ∨
    (sold < held.quantity.val ∧ ∃ quantity,
      numeric 20 6 (held.quantity.val - sold) = .ok quantity ∧
      db' = { db with
        portfolioHoldings := db.portfolioHoldings.set ticker { held with quantity } }) := by
  unfold BrokerDb.decrementHolding at h
  split at h
  · rename_i hzero
    cases h
    exact .inl ⟨by linarith,rfl⟩
  · rename_i hrest
    obtain ⟨quantity,hquantity,h⟩ := ok_of_bind h
    cases h
    exact .inr ⟨by linarith,quantity,hquantity,rfl⟩

theorem sellTransaction_ok {db db' : BrokerDb} {o : OrderRequest} {account : AccountRow}
    {r : OrderResult} (hpos : 0 < o.quantity ∧ 0 < o.price) (hside : o.side = .SELL)
    (haccount : db.virtualAccounts o.currency = some account)
    (h : sellTransaction db o account (db.portfolioHoldings.find o.ticker) = .ok (db',r)) :
    (∃ why, r = .REJECTED why ∧ db' = db) ∨ ∃ f, r = .FILLED f ∧ Filled db o db' f := by
  have hmem : o.netProceeds ∈ grid 4 := pyRound_mem 4 _
  have hflow : o.netProceeds = o.cashFlow := by
    rw [o.netProceeds_eq,OrderRequest.cashFlow,hside]
  have hbuy : o.side = .BUY → ∀ p, p := by rw [hside]; nofun
  cases hrow : db.portfolioHoldings.find o.ticker with
  | none =>
    rw [hrow] at h
    simp only [sellTransaction,Option.map_none,Option.getD_none,if_pos hpos.1] at h
    cases h
    exact .inl ⟨_,rfl,rfl⟩
  | some held =>
    rw [hrow] at h
    simp only [sellTransaction,Option.map_some,Option.getD_some] at h
    split at h
    · cases h
      exact .inl ⟨_,rfl,rfl⟩
    · rename_i hle
      have hle := not_lt.mp hle
      obtain ⟨mid,hhold,h⟩ := ok_of_bind h
      obtain ⟨mid',hadd,h⟩ := ok_of_bind h
      obtain ⟨cash',hval,rfl⟩ := addCash_ok hmem hadd
      obtain ⟨row,hstored,rfl,rfl⟩ := recordFill_ok h
      rw [hflow] at hval
      refine .inr ⟨_,rfl,?_⟩
      rcases decrementHolding_ok hle hhold with ⟨heq,rfl⟩ | ⟨hlt,quantity,hquantity,rfl⟩
      · exact ⟨hpos.1,hpos.2,rfl,⟨account,cash',haccount,hval,fun hs => hbuy hs _,rfl⟩,
          .inr ⟨hside,held,hrow,hle,.inl ⟨heq,rfl⟩⟩,⟨row,hstored,rfl⟩,rfl,rfl⟩
      · exact ⟨hpos.1,hpos.2,rfl,⟨account,cash',haccount,hval,fun hs => hbuy hs _,rfl⟩,
          .inr ⟨hside,held,hrow,hle,.inr ⟨hlt,quantity,hquantity,rfl⟩⟩,⟨row,hstored,rfl⟩,rfl,rfl⟩

/-- A call is rejected or raises without a trace, or fills with exactly the listed effects. -/
theorem executeVirtualOrder_cases (db : BrokerDb) (o : OrderRequest) :
    (∃ why, executeVirtualOrder db o = (db,.REJECTED why)) ∨
    (∃ exc, executeVirtualOrder db o = (db,.ERROR exc)) ∨
    ∃ db' f, executeVirtualOrder db o = (db',.FILLED f) ∧ Filled db o db' f := by
  unfold executeVirtualOrder
  split
  · exact .inl ⟨_,rfl⟩
  rename_i hq
  split
  · exact .inl ⟨_,rfl⟩
  rename_i hp
  have hpos : 0 < o.quantity ∧ 0 < o.price := ⟨not_le.mp hq,not_le.mp hp⟩
  cases h : orderTransaction db o with
  | error exc => exact .inr (.inl ⟨exc,rfl⟩)
  | ok r =>
    obtain ⟨db',r⟩ := r
    have hcases : (∃ why, r = .REJECTED why ∧ db' = db) ∨
        ∃ f, r = .FILLED f ∧ Filled db o db' f := by
      unfold orderTransaction at h
      split at h
      · cases h
        exact .inl ⟨_,rfl,rfl⟩
      · rename_i account haccount
        obtain ⟨holding,hhold,h⟩ := ok_of_bind h
        have hrow : holding = db.portfolioHoldings.find o.ticker := by
          obtain ⟨key,hkey,hhold⟩ := ok_of_bind hhold
          unfold textParam at hkey
          split at hkey
          · cases hkey
          · cases hkey; cases hhold; rfl
        subst hrow
        split at h
        · exact buyTransaction_ok hpos (by assumption) haccount h
        · exact sellTransaction_ok hpos (by assumption) haccount h
    rcases hcases with ⟨why,rfl,rfl⟩ | ⟨f,rfl,hf⟩
    · exact .inl ⟨why,rfl⟩
    · exact .inr (.inr ⟨db',f,rfl,hf⟩)

theorem filled_of_eq {db db' : BrokerDb} {o : OrderRequest} {f : Fill}
    (h : executeVirtualOrder db o = (db',.FILLED f)) : Filled db o db' f := by
  rcases executeVirtualOrder_cases db o with ⟨why,he⟩ | ⟨exc,he⟩ | ⟨db'',f',he,hf⟩
  · rw [he] at h; cases h
  · rw [he] at h; cases h
  · rw [he] at h; cases h; exact hf

/-- A ticker as a VARCHAR(10) column keeps it, if it does. -/
def storedTicker (ticker : String) : Option String :=
  match varchar 10 ticker with
  | .ok key => some key.val
  | .error _ => none

section Rows
variable {db db' : BrokerDb} {o : OrderRequest} {ticker : String}

theorem storedTicker_of_fits (h : ticker.length ≤ 10) : storedTicker ticker = some ticker := by
  rw [storedTicker,varchar_of_fits h]

theorem storedTicker_eq {key : Varchar 10} (h : varchar 10 ticker = .ok key) :
    storedTicker ticker = some key.val := by
  rw [storedTicker,h]

/-- A BUY writes the row of the stored ticker and leaves the others. -/
theorem Bought.find_cases (hb : Bought db o db') (ticker : String) :
    (storedTicker o.ticker = some ticker ∧ ∃ row, db'.portfolioHoldings.find ticker = some row ∧
      row.quantity.val = numericRound 6 (db.heldQty o.ticker + o.quantity) ∧
      row.avgCost.val = numericRound 4 (blend (db.heldQty o.ticker) (db.heldCost o.ticker)
        o.quantity o.notional)) ∨
    (storedTicker o.ticker ≠ some ticker ∧
      db'.portfolioHoldings.find ticker = db.portfolioHoldings.find ticker) := by
  obtain ⟨key,quantity,avgCost,currency,hkey,hquantity,hcost,hupd⟩ := hb.rows
  rw [storedTicker_eq hkey,Ne,Option.some_inj,hupd]
  by_cases hticker : key.val = ticker
  · subst hticker
    exact .inl ⟨rfl,_,HoldingsTable.find_insert key _,numeric_val hquantity,numeric_val hcost⟩
  · exact .inr ⟨hticker,HoldingsTable.find_insert_ne (Ne.symm hticker)⟩

/-- A SELL deletes the row of the ticker or keeps its cost, and leaves the others. -/
theorem Sold.find_cases (hs : Sold db o db') (ticker : String) :
    (storedTicker o.ticker = some ticker ∧ (db'.portfolioHoldings.find ticker = none ∨
      ∃ row row', db.portfolioHoldings.find ticker = some row ∧
        db'.portfolioHoldings.find ticker = some row' ∧ row'.avgCost = row.avgCost ∧
        0 ≤ row'.quantity.val)) ∨
    (storedTicker o.ticker ≠ some ticker ∧
      db'.portfolioHoldings.find ticker = db.portfolioHoldings.find ticker) := by
  obtain ⟨row,hrow,-,hcase⟩ := hs.rows
  have hfits := HoldingsTable.fits_of_find hrow
  rw [storedTicker_of_fits hfits,Ne,Option.some_inj]
  by_cases hticker : o.ticker = ticker
  · subst hticker
    refine .inl ⟨rfl,?_⟩
    rcases hcase with ⟨-,hupd⟩ | ⟨hlt,quantity,hquantity,hupd⟩
    · rw [hupd]
      exact .inl HoldingsTable.find_delete
    · rw [hupd]
      refine .inr ⟨row,_,hrow,HoldingsTable.find_set hfits,rfl,?_⟩
      rw [numeric_val hquantity]
      exact Rounding.halfAway.atUnit_nonneg (unit_pos 6) (sub_nonneg.mpr hlt.le)
  · refine .inr ⟨hticker,?_⟩
    rcases hcase with ⟨-,hupd⟩ | ⟨-,quantity,-,hupd⟩
    · rw [hupd]
      exact HoldingsTable.find_delete_ne (Ne.symm hticker)
    · rw [hupd]
      exact HoldingsTable.find_set_ne (Ne.symm hticker)

/-- An order touches no row but the one of its stored ticker. -/
theorem Filled.find_stored_ne {f : Fill} (hf : Filled db o db' f)
    (h : storedTicker o.ticker ≠ some ticker) :
    db'.portfolioHoldings.find ticker = db.portfolioHoldings.find ticker := by
  rcases hf.holdings with hb | hs
  · exact ((hb.find_cases ticker).resolve_left (fun hc => h hc.1)).2
  · exact ((hs.find_cases ticker).resolve_left (fun hc => h hc.1)).2

/-- A SELL leaves no row with another cost than it had. -/
theorem Filled.cost_of_sell {f : Fill} (hf : Filled db o db' f) (hside : o.side = .SELL)
    {row' : HoldingRow} (hrow' : db'.portfolioHoldings.find ticker = some row') :
    ∃ row, db.portfolioHoldings.find ticker = some row ∧ row'.avgCost = row.avgCost := by
  rcases hf.holdings with hb | hs
  · have hsides := hb.side.symm.trans hside
    cases hsides
  · rcases hs.find_cases ticker with ⟨-,hnone | ⟨row,row'',hrow,hrow'',hcost,-⟩⟩ | ⟨-,hsame⟩
    · rw [hnone] at hrow'
      cases hrow'
    · obtain rfl : row'' = row' := Option.some.inj (hrow''.symm.trans hrow')
      exact ⟨row,hrow,hcost⟩
    · exact ⟨row',hsame ▸ hrow',rfl⟩

end Rows

end MacroInvest.Broker
