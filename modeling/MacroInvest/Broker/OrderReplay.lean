import MacroInvest.Broker.PositionLedger

/-! # Replaying the order log

The books move by a notional over the submitted quantity and a fill price of six decimals;
the log keeps six decimals of the one and four of the other. Posting the logged rows again
from the opening balances therefore meets the books as long as no order loses cash or
quantity on the way into the log, and the first order that does leaves them apart.
-/
namespace MacroInvest.Broker
open CallRun Journal Rounding

@[ext] structure Books where
  cash : Currency → ℚ
  quantity : Varchar 10 → ℚ

namespace OrderRow
variable (row : OrderRow)

def notional : ℚ := pyRound 4 (row.quantity.val * row.fillPrice.val)

def cashFlow : ℚ :=
  match row.side with
  | .BUY => -(row.notional + row.commission.val)
  | .SELL => row.notional - row.commission.val

def quantityFlow : ℚ :=
  match row.side with
  | .BUY => row.quantity.val
  | .SELL => -row.quantity.val

end OrderRow

def Books.post (b : Books) (row : OrderRow) : Books where
  cash := Function.update b.cash row.currency (b.cash row.currency + row.cashFlow)
  quantity := Function.update b.quantity row.ticker (b.quantity row.ticker + row.quantityFlow)

namespace BrokerDb
variable (db : BrokerDb)

def openingBooks : Books where
  cash c := ((db.virtualAccounts c).map (·.initialBalance.val)).getD 0
  quantity _ := 0

def storedBooks : Books where
  cash c := ((db.virtualAccounts c).map (·.cashBalance.val)).getD 0
  quantity key := db.heldQty key.val

def replay : Books :=
  (db.virtualOrders.mergeSort (fun a b => a.id ≤ b.id)).foldl Books.post db.openingBooks

def LogReplays : Prop := db.replay = db.storedBooks

/-- Ids ascend in the order of insertion and stay below the sequence. -/
structure LogOrdered : Prop where
  ascending : db.virtualOrders.Pairwise (fun a b => a.id < b.id)
  below : ∀ row ∈ db.virtualOrders, row.id ≤ db.virtualOrdersIdSeq

end BrokerDb

theorem replay_of_logOrdered {db : BrokerDb} (h : db.LogOrdered) :
    db.replay = db.virtualOrders.foldl Books.post db.openingBooks := by
  have hsorted : db.virtualOrders.Pairwise (fun a b => decide (a.id ≤ b.id)) := by
    refine h.ascending.imp ?_
    intro a b hab
    exact decide_eq_true hab.le
  rw [BrokerDb.replay,List.mergeSort_of_pairwise hsorted]

theorem logOrdered_filled {db db' : BrokerDb} {o : OrderRequest} {f : Fill}
    (hf : Filled db o db' f) (h : db.LogOrdered) : db'.LogOrdered := by
  obtain ⟨row,hrow,horders⟩ := hf.orders
  have hid : row.id = db.virtualOrdersIdSeq + 1 := by
    rw [hrow.id,hf.fill]
    rfl
  constructor
  · rw [horders,List.pairwise_append]
    refine ⟨h.ascending,List.pairwise_singleton _ _,?_⟩
    intro a ha b hb
    have hbelow := h.below a ha
    rw [List.mem_singleton.mp hb]
    omega
  · rw [horders,hf.idSeq]
    intro a ha
    rcases List.mem_append.mp ha with ha | ha
    · have hbelow := h.below a ha
      omega
    · rw [List.mem_singleton.mp ha]
      omega

theorem openingBooks_filled {db db' : BrokerDb} {o : OrderRequest} {f : Fill}
    (hf : Filled db o db' f) : db'.openingBooks = db.openingBooks := by
  obtain ⟨account,cash',haccount,_,_,hupd⟩ := hf.cash
  ext c
  · simp only [BrokerDb.openingBooks,hupd]
    by_cases hc : c = o.currency
    · rw [hc,Function.update_self,haccount]
      rfl
    · rw [Function.update_of_ne hc]
  · rfl

theorem replay_filled {db db' : BrokerDb} {o : OrderRequest} {f : Fill}
    (hf : Filled db o db' f) (h : db.LogOrdered) :
    ∃ row, StoresFill row f ∧ db'.replay = db.replay.post row := by
  obtain ⟨row,hrow,horders⟩ := hf.orders
  refine ⟨row,hrow,?_⟩
  rw [replay_of_logOrdered (logOrdered_filled hf h),replay_of_logOrdered h,horders,
    openingBooks_filled hf,List.foldl_append]
  rfl

def OrderRequest.quantityFlow (o : OrderRequest) : ℚ :=
  match o.side with
  | .BUY => o.quantity
  | .SELL => -o.quantity

theorem storedCash_filled {db db' : BrokerDb} {o : OrderRequest} {f : Fill}
    (hf : Filled db o db' f) :
    db'.storedBooks.cash = Function.update db.storedBooks.cash o.currency
      (db.storedBooks.cash o.currency + o.cashFlow) := by
  obtain ⟨account,cash',haccount,hcash,_,hupd⟩ := hf.cash
  funext c
  simp only [BrokerDb.storedBooks,hupd]
  by_cases hc : c = o.currency
  · rw [hc,Function.update_self,Function.update_self,haccount]
    exact hcash
  · rw [Function.update_of_ne hc,Function.update_of_ne hc]

/-- The one quantity a fill writes, under the ticker as the column stores it. -/
theorem storedQuantity_filled {db db' : BrokerDb} {o : OrderRequest} {f : Fill}
    (hf : Filled db o db' f) {key : Varchar 10} (hkey : varchar 10 o.ticker = .ok key) :
    db'.storedBooks.quantity = Function.update db.storedBooks.quantity key
      (numericRound 6 (db.heldQty o.ticker + o.quantityFlow)) := by
  funext other
  simp only [BrokerDb.storedBooks]
  rcases hf.holdings with hb | hs
  · obtain ⟨key',quantity,avgCost,currency,hkey',hquantity,_,hupd⟩ := hb.rows
    obtain rfl : key = key' := Except.ok.inj (hkey.symm.trans hkey')
    by_cases ho : other = key
    · have hrow : HoldingsTable.find (db.portfolioHoldings.insert key
          ⟨quantity,avgCost,currency⟩) key.val = some ⟨quantity,avgCost,currency⟩ :=
        HoldingsTable.find_insert key _
      rw [← hupd] at hrow
      rw [ho,Function.update_self,BrokerDb.heldQty_of_find hrow,numeric_val hquantity,
        OrderRequest.quantityFlow,hb.side]
    · rw [Function.update_of_ne ho]
      refine BrokerDb.heldQty_congr ?_
      rw [hupd]
      exact HoldingsTable.find_insert_ne (fun he => ho (Varchar.ext he))
  · obtain ⟨hfits,hle,hcase⟩ := hs.find_self
    rw [varchar_of_fits hfits] at hkey
    obtain rfl := Except.ok.inj hkey
    by_cases ho : other = ⟨o.ticker,hfits⟩
    · rw [ho,Function.update_self,OrderRequest.quantityFlow,hs.side]
      rcases hcase with ⟨heq,hnone⟩ | ⟨_,row,hrow,hval⟩
      · rw [BrokerDb.heldQty_of_none hnone,heq,add_neg_cancel,numericRound_of_mem (zero_mem _)]
      · rw [BrokerDb.heldQty_of_find hrow,hval,sub_eq_add_neg]
    · rw [Function.update_of_ne ho]
      exact BrokerDb.heldQty_congr (hf.find_other hfits (fun he => ho (Varchar.ext he)))

/-- An order that reaches the log without losing cash or quantity: the four-decimal fill price
gives the same notional, a SELL is not half-way between two stored quantities, and the row it
is stored under is the row it was read from. -/
structure OrderRequest.LogsExactly (db : BrokerDb) (o : OrderRequest) : Prop where
  notional : pyRound 4 (numericRound 6 o.quantity * numericRound 4 o.fillPrice) = o.notional
  quantity : o.side = .SELL → ∀ k : ℤ, o.quantity ≠ (k + 1 / 2) * unit 6
  ticker : ∀ key, varchar 10 o.ticker = .ok key → db.heldQty key.val = db.heldQty o.ticker

theorem loggedCash_iff {row : OrderRow} {o : OrderRequest} {id : ℕ}
    (hrow : StoresFill row (o.fill id)) : row.cashFlow = o.cashFlow ↔
      pyRound 4 (numericRound 6 o.quantity * numericRound 4 o.fillPrice) = o.notional := by
  have hnotional : row.notional =
      pyRound 4 (numericRound 6 o.quantity * numericRound 4 o.fillPrice) := by
    rw [OrderRow.notional,hrow.quantity,hrow.fillPrice]
    rfl
  have hcommission : row.commission.val = o.commission :=
    hrow.commission.trans (numericRound_of_mem o.commission_mem)
  have hside : row.side = o.side := hrow.side
  rw [OrderRow.cashFlow,OrderRequest.cashFlow,hside,hcommission,← hnotional]
  cases o.side with
  | BUY =>
    simp only
    constructor
    · intro h
      linarith
    · intro h
      linarith
  | SELL =>
    simp only
    constructor
    · intro h
      linarith
    · intro h
      linarith

/-- The logged quantity moves a position as the table does, up to ties and foreign rows. -/
theorem loggedQuantity_iff {db db' : BrokerDb} {o : OrderRequest} {f : Fill} {row : OrderRow}
    {id : ℕ} {key : Varchar 10} (hf : Filled db o db' f) (hheld : 0 ≤ db.heldQty o.ticker)
    (hrow : StoresFill row (o.fill id)) (hkey : varchar 10 o.ticker = .ok key) :
    numericRound 6 (db.heldQty o.ticker + o.quantityFlow) =
        db.heldQty key.val + row.quantityFlow ↔
      (o.side = .SELL → ∀ k : ℤ, o.quantity ≠ (k + 1 / 2) * unit 6) ∧
        db.heldQty key.val = db.heldQty o.ticker := by
  have hgrid := db.heldQty_mem o.ticker
  have hquantity : row.quantity.val = numericRound 6 o.quantity := hrow.quantity
  have hside : row.side = o.side := hrow.side
  rw [OrderRow.quantityFlow,OrderRequest.quantityFlow,hside,hquantity]
  rcases hf.holdings with hb | hs
  · simp only [hb.side,reduceCtorEq,false_implies,true_and]
    have hadd : numericRound 6 (db.heldQty o.ticker + o.quantity) =
        db.heldQty o.ticker + numericRound 6 o.quantity :=
      halfAway_atUnit_add (unit_pos 6) hgrid hheld hf.quantity_pos.le
    rw [hadd,add_left_inj]
    exact eq_comm
  · obtain ⟨hfits,hle,_⟩ := hs.find_self
    rw [varchar_of_fits hfits] at hkey
    obtain rfl := Except.ok.inj hkey
    simp only [hs.side,forall_const,and_true]
    rw [← sub_eq_add_neg,← sub_eq_add_neg]
    exact halfAway_atUnit_sub_iff (unit_pos 6) hgrid hf.quantity_pos.le hle

theorem logReplays_filled {db db' : BrokerDb} {o : OrderRequest} {f : Fill}
    (hf : Filled db o db' f) (hordered : db.LogOrdered) (hheld : 0 ≤ db.heldQty o.ticker)
    (h : db.LogReplays) : db'.LogReplays ↔ o.LogsExactly db := by
  obtain ⟨row,hrow,hreplay⟩ := replay_filled hf hordered
  rw [hf.fill] at hrow
  have hkey : varchar 10 o.ticker = .ok row.ticker := hrow.ticker
  have hcurrency : row.currency = o.currency := hrow.currency
  have hcash : (db.storedBooks.post row).cash = db'.storedBooks.cash ↔
      row.cashFlow = o.cashFlow := by
    rw [storedCash_filled hf,Books.post,hcurrency,(Function.update_injective _ _).eq_iff,
      add_right_inj]
  have hquantity : (db.storedBooks.post row).quantity = db'.storedBooks.quantity ↔
      numericRound 6 (db.heldQty o.ticker + o.quantityFlow) =
        db.heldQty row.ticker.val + row.quantityFlow := by
    rw [storedQuantity_filled hf hkey,Books.post,(Function.update_injective _ _).eq_iff]
    exact eq_comm
  rw [BrokerDb.LogReplays,hreplay,h,Books.ext_iff,hcash,hquantity,loggedCash_iff hrow,
    loggedQuantity_iff hf hheld hrow hkey]
  constructor
  · rintro ⟨hnotional,hties,hread⟩
    refine ⟨hnotional,hties,?_⟩
    intro key hkey'
    obtain rfl := Except.ok.inj (hkey.symm.trans hkey')
    exact hread
  · rintro ⟨hnotional,hties,hread⟩
    exact ⟨hnotional,hties,hread _ hkey⟩

def HoldingsNonneg (db : BrokerDb) : Prop := ∀ key : Varchar 10, 0 ≤ db.heldQty key.val

theorem HoldingsNonneg.heldQty {db : BrokerDb} (h : HoldingsNonneg db) (ticker : String) :
    0 ≤ db.heldQty ticker := by
  by_cases hfits : ticker.length ≤ 10
  · exact h ⟨ticker,hfits⟩
  · rw [BrokerDb.heldQty_of_none (HoldingsTable.find_of_long hfits)]

theorem holdingsNonneg_filled {db db' : BrokerDb} {o : OrderRequest} {f : Fill}
    (hf : Filled db o db' f) (h : HoldingsNonneg db) : HoldingsNonneg db' := by
  obtain ⟨row,hrow,_⟩ := hf.orders
  rw [hf.fill] at hrow
  have hstored := storedQuantity_filled hf hrow.ticker
  intro key
  have hkey := congrFun hstored key
  by_cases hk : key = row.ticker
  · rw [hk,Function.update_self] at hkey
    rw [hk]
    refine (numericRound_nonneg 6 ?_).trans_eq hkey.symm
    have hheld := h.heldQty o.ticker
    have hpos := hf.quantity_pos
    rcases hf.holdings with hb | hs
    · rw [OrderRequest.quantityFlow,hb.side]
      linarith
    · obtain ⟨_,hle,_⟩ := hs.find_self
      rw [OrderRequest.quantityFlow,hs.side]
      linarith
  · rw [Function.update_of_ne hk] at hkey
    exact (h key).trans_eq hkey.symm

/-- What every run keeps, with the replay itself as the last field. -/
structure LogKept (db : BrokerDb) : Prop where
  ordered : db.LogOrdered
  nonneg : HoldingsNonneg db
  replays : db.LogReplays

theorem logKept_of_empty {db : BrokerDb} (horders : db.virtualOrders = [])
    (hopening : db.openingBooks = db.storedBooks) : LogKept db := by
  have hordered : db.LogOrdered := by
    constructor
    · rw [horders]
      exact List.Pairwise.nil
    · intro row hrow
      rw [horders] at hrow
      cases hrow
  refine ⟨hordered,?_,?_⟩
  · intro key
    exact (congrFun (congrArg Books.quantity hopening) key).le
  · rw [BrokerDb.LogReplays,replay_of_logOrdered hordered,horders]
    exact hopening

theorem logKept_seed : LogKept seededDb := by
  refine logKept_of_empty rfl ?_
  ext c
  · rfl
  · simp [BrokerDb.openingBooks,BrokerDb.storedBooks,BrokerDb.heldQty,seededDb]

theorem logKept_reset (db : BrokerDb) : LogKept (resetVirtualPortfolio db) := by
  refine logKept_of_empty rfl ?_
  ext c
  · cases hc : db.virtualAccounts c with
    | none => simp [BrokerDb.openingBooks,BrokerDb.storedBooks,resetVirtualPortfolio,hc]
    | some account => simp [BrokerDb.openingBooks,BrokerDb.storedBooks,resetVirtualPortfolio,hc]
  · simp [BrokerDb.openingBooks,BrokerDb.storedBooks,BrokerDb.heldQty,resetVirtualPortfolio]

/-- Runs of exactly logged orders replay, and the next fill replays only if it is exactly
logged too. -/
theorem order_log_law (calls : List BrokerCall)
    (hcalls : OrdersMeetIn (fun db o => o.LogsExactly db) calls) :
    (brokerFinal calls).LogReplays ∧
    ∀ o db' f, executeVirtualOrder (brokerFinal calls) o = (db',.FILLED f) →
      (db'.LogReplays ↔ o.LogsExactly (brokerFinal calls)) := by
  have hkept : LogKept (brokerFinal calls) := by
    refine broker_induction (P := fun db _ _ => LogKept db) logKept_seed ?_
      (fun db _ _ _ => logKept_reset db) calls hcalls
    intro db since ever o db' f ho h hf
    exact ⟨logOrdered_filled hf h.ordered,holdingsNonneg_filled hf h.nonneg,
      (logReplays_filled hf h.ordered (h.nonneg.heldQty o.ticker) h.replays).mpr ho⟩
  refine ⟨hkept.replays,?_⟩
  intro o db' f he
  exact logReplays_filled (filled_of_eq he) hkept.ordered (hkept.nonneg.heldQty o.ticker)
    hkept.replays

theorem tenShares_logsExactly : tenShares.LogsExactly seededDb := by
  refine ⟨by decide +kernel,nofun,?_⟩
  intro key hkey
  rw [varchar_val tenShares_storedExactly.ticker hkey]

theorem order_log_law_tenShares :
    (brokerFinal [.order tenShares]).virtualOrders.length = 1 ∧
    (brokerFinal [.order tenShares]).LogReplays := by
  refine ⟨by decide +kernel,(order_log_law [.order tenShares] ⟨?_,trivial⟩).1⟩
  intro o ho
  cases ho
  exact tenShares_logsExactly

def driftCalls : List BrokerCall :=
  [.order { ticker := "AAPL", side := .BUY, quantity := 100, price := 195.1234 }]

/-- The order pays 19531.8523 and 4.883; the log accounts for 19531.85 and 4.883. -/
theorem order_log_drift :
    (brokerFinal driftCalls).virtualOrders.length = 1 ∧
    (brokerFinal driftCalls).storedBooks.cash .USD = 80463.2647 ∧
    (brokerFinal driftCalls).replay.cash .USD = 80463.267 ∧
    ¬(brokerFinal driftCalls).LogReplays := by
  refine ⟨by decide +kernel,by decide +kernel,by decide +kernel,fun h => ?_⟩
  have hcash := congrFun (congrArg Books.cash h) .USD
  revert hcash
  decide +kernel

end MacroInvest.Broker
