import MacroInvest.Broker.OrderEffect

/-! # An order statement by statement

Each statement reads the tables as its transaction sees them, the committed rows under the
transaction's own writes, and adds writes of its own. Run alone from start to end the
statements are the order as one transaction; the ids of the order log apart, which come from
a sequence that no transaction gives back.
-/
namespace MacroInvest.Broker
open CallRun Fallible

/-- A row version written by a transaction; `none` deletes the row. -/
inductive RowWrite where
  | account (c : Currency) (row : AccountRow)
  | holding (key : Varchar 10) (row : Option HoldingRow)
  | order (row : OrderRow)
  | dropOrders (ids : List ℕ)
  | audit (row : AuditRow)

def RowWrite.apply (db : BrokerDb) : RowWrite → BrokerDb
  | .account c row => { db with virtualAccounts := Function.update db.virtualAccounts c (some row) }
  | .holding key none => { db with portfolioHoldings := db.portfolioHoldings.erase key }
  | .holding key (some row) =>
    { db with portfolioHoldings := db.portfolioHoldings.insert key row }
  | .order row => { db with virtualOrders := db.virtualOrders ++ [row] }
  | .dropOrders ids => { db with virtualOrders := db.virtualOrders.filter (fun r => r.id ∉ ids) }
  | .audit row => { db with auditLog := db.auditLog ++ [row] }

namespace BrokerDb
variable (db view : BrokerDb)

/-- The tables under the writes of one transaction. -/
def seen (writes : List RowWrite) : BrokerDb := writes.foldl RowWrite.apply db

@[simp] theorem seen_nil : db.seen [] = db := rfl

@[simp] theorem seen_cons (w : RowWrite) (writes : List RowWrite) :
    db.seen (w :: writes) = (w.apply db).seen writes := rfl

theorem seen_append (writes more : List RowWrite) :
    db.seen (writes ++ more) = (db.seen writes).seen more := List.foldl_append

/-- The key of the row a text compares equal to. -/
def rowKey (ticker : String) : Option (Varchar 10) :=
  if h : ticker.length ≤ 10 then some ⟨ticker,h⟩ else none

def upsertWrites (ticker : String) (newQty newCost : ℚ) (c : Currency) :
    Except DbError (List RowWrite) := do
  let key ← varchar 10 ticker
  let quantity ← numeric 20 6 newQty
  let avgCost ← numeric 20 4 newCost
  let rowCurrency := ((view.portfolioHoldings.lookup key).map HoldingRow.currency).getD c
  return [.holding key (some ⟨quantity,avgCost,rowCurrency⟩)]

def deleteWrites (ticker : String) : List RowWrite :=
  (rowKey ticker).toList.map (fun key => .holding key none)

def updateQuantityWrites (ticker : String) (remaining : ℚ) : Except DbError (List RowWrite) :=
  match view.portfolioHoldings.find ticker with
  | none => return []
  | some row => do
    let quantity ← numeric 20 6 remaining
    return (rowKey ticker).toList.map (fun key => .holding key (some { row with quantity }))

def decrementWrites (ticker : String) (remaining : ℚ) : Except DbError (List RowWrite) :=
  if remaining ≤ 0 then return deleteWrites ticker
  else view.updateQuantityWrites ticker remaining

def addCashWrites (c : Currency) (amount : ℚ) : Except DbError (List RowWrite) :=
  match view.virtualAccounts c with
  | none => return []
  | some account => do
    let cashBalance ← numeric 20 4 (account.cashBalance.val + amount)
    return [.account c { account with cashBalance }]

end BrokerDb

namespace OrderRequest
variable (o : OrderRequest)

def holdingWrites (view : BrokerDb) (heldQty heldCost : ℚ) : Except DbError (List RowWrite) :=
  match o.side with
  | .BUY =>
    let newQty := heldQty + o.quantity
    let newCost := (heldQty * heldCost + o.notional) / newQty
    view.upsertWrites o.ticker newQty newCost o.currency
  | .SELL => view.decrementWrites o.ticker (heldQty - o.quantity)

def cashChange : ℚ :=
  match o.side with
  | .BUY => -o.totalDebit
  | .SELL => o.netProceeds

/-- The row for the order log, cast to its columns. -/
def orderRow (id : ℕ) : Except DbError OrderRow := do
  let ticker ← varchar 10 o.ticker
  let quantity ← numeric 20 6 o.quantity
  let fillPrice ← numeric 20 4 o.fillPrice
  let slippagePct ← numeric 10 6 o.slippagePct
  let commission ← numeric 20 4 o.commission
  return ⟨id,ticker,o.side,quantity,fillPrice,o.currency,"FILLED",slippagePct,commission⟩

/-- The guard between the reads and the writes. -/
def rejection (cash heldQty : ℚ) : Option RejectReason :=
  match o.side with
  | .BUY => if cash < o.totalDebit then some (.insufficientCash o.totalDebit cash) else none
  | .SELL => if heldQty < o.quantity then some (.insufficientHoldings o.quantity heldQty) else none

end OrderRequest

/-- The statement an order is about to issue, with what it has read. -/
inductive OrderStage where
  | readAccount
  | readHolding (cash : ℚ)
  | writeHolding (heldQty heldCost : ℚ)
  | writeCash
  | insertOrder
  | insertAudit (orderId : ℕ)
  | finish (r : OrderResult)

/-- One statement of an order: the rows it writes and the stage it leads to. -/
def orderStatement (o : OrderRequest) (nextId : ℕ) (view : BrokerDb) :
    OrderStage → Except DbError (List RowWrite × OrderStage)
  | .readAccount =>
    match view.selectAccount o.currency with
    | none => return ([],.finish (.REJECTED (.noAccountForCurrency o.currency)))
    | some account => return ([],.readHolding account.cashBalance.val)
  | .readHolding cash => do
    let holding ← view.selectHolding o.ticker
    let heldQty := (holding.map (·.quantity.val)).getD 0
    let heldCost := (holding.map (·.avgCost.val)).getD 0
    match o.rejection cash heldQty with
    | some why => return ([],.finish (.REJECTED why))
    | none => return ([],.writeHolding heldQty heldCost)
  | .writeHolding heldQty heldCost => do
    let writes ← o.holdingWrites view heldQty heldCost
    return (writes,.writeCash)
  | .writeCash => do
    let writes ← view.addCashWrites o.currency o.cashChange
    return (writes,.insertOrder)
  | .insertOrder => do
    let row ← o.orderRow nextId
    return ([.order row],.insertAudit nextId)
  | .insertAudit orderId =>
    let fill := o.fill orderId
    return ([.audit ⟨"virtual_order_filled",{ toFill := fill, price := o.price }⟩],
      .finish (.FILLED fill))
  | .finish r => return ([],.finish r)

/-- The stages and writes an order can reach running alone on given tables. -/
inductive Solo (db : BrokerDb) (o : OrderRequest) : OrderStage → List RowWrite → Prop where
  | start : Solo db o .readAccount []
  | statement {stage stage' : OrderStage} {writes more : List RowWrite} (nextId : ℕ)
      (h : Solo db o stage writes)
      (hstatement : orderStatement o nextId (db.seen writes) stage = .ok (more,stage')) :
      Solo db o stage' (writes ++ more)

section Rest
variable (o : OrderRequest) (view : BrokerDb)

def restCash : Except DbError (BrokerDb × OrderResult) := do
  let writes ← view.addCashWrites o.currency o.cashChange
  recordFill (view.seen writes) o

def restHolding (heldQty heldCost : ℚ) : Except DbError (BrokerDb × OrderResult) := do
  let writes ← o.holdingWrites view heldQty heldCost
  restCash o (view.seen writes)

def restRead (cash : ℚ) : Except DbError (BrokerDb × OrderResult) := do
  let holding ← view.selectHolding o.ticker
  let heldQty := (holding.map (·.quantity.val)).getD 0
  let heldCost := (holding.map (·.avgCost.val)).getD 0
  match o.rejection cash heldQty with
  | some why => return (view,.REJECTED why)
  | none => restHolding o view heldQty heldCost

/-- What is left of the transaction from a stage on. -/
def OrderStage.rest : OrderStage → Except DbError (BrokerDb × OrderResult)
  | .readAccount => orderTransaction view o
  | .readHolding cash => restRead o view cash
  | .writeHolding heldQty heldCost => restHolding o view heldQty heldCost
  | .writeCash => restCash o view
  | .insertOrder => recordFill view o
  | .insertAudit orderId =>
    let fill := o.fill orderId
    return (view.insertAudit { toFill := fill, price := o.price },.FILLED fill)
  | .finish r => return (view,r)

end Rest

/-- Accounts and holdings, without the logs. -/
def BrokerDb.books (db : BrokerDb) : (Currency → Option AccountRow) × HoldingsTable :=
  (db.virtualAccounts,db.portfolioHoldings)

def OrderResult.withoutId : OrderResult → OrderResult
  | .FILLED fill => .FILLED { fill with orderId := 0 }
  | r => r

/-- What an order does to the books and what it returns but for the id. -/
def bookOutcome (x : Except DbError (BrokerDb × OrderResult)) :
    Except DbError (((Currency → Option AccountRow) × HoldingsTable) × OrderResult) :=
  x.map (fun p => (p.1.books,p.2.withoutId))

section Refinement
variable (db view : BrokerDb)

theorem upsertHolding_eq (ticker : String) (newQty newCost : ℚ) (c : Currency) :
    view.upsertHolding ticker newQty newCost c =
      (view.upsertWrites ticker newQty newCost c).map view.seen := by
  unfold BrokerDb.upsertHolding BrokerDb.upsertWrites
  cases varchar 10 ticker with
  | error exc => rfl
  | ok key =>
    cases numeric 20 6 newQty with
    | error exc => rfl
    | ok quantity => cases numeric 20 4 newCost <;> rfl

theorem seen_deleteWrites (ticker : String) :
    view.seen (BrokerDb.deleteWrites ticker) = view.deleteHolding ticker := by
  unfold BrokerDb.deleteWrites BrokerDb.rowKey BrokerDb.deleteHolding HoldingsTable.delete
  split <;> rfl

theorem decrementHolding_eq (ticker : String) (remaining : ℚ) :
    view.decrementHolding ticker (view.portfolioHoldings.find ticker) remaining =
      (view.decrementWrites ticker remaining).map view.seen := by
  unfold BrokerDb.decrementHolding BrokerDb.decrementWrites
  split
  · rw [← seen_deleteWrites]
    rfl
  · unfold BrokerDb.updateQuantityWrites
    cases hrow : view.portfolioHoldings.find ticker with
    | none => rfl
    | some row =>
      have hfits := HoldingsTable.fits_of_find hrow
      unfold BrokerDb.updateHoldingQuantity BrokerDb.rowKey HoldingsTable.set
      simp only [dif_pos hfits]
      cases numeric 20 6 remaining <;> rfl

theorem addCash_eq {c : Currency} {account : AccountRow}
    (haccount : view.virtualAccounts c = some account) (amount : ℚ) :
    view.addCash c account amount = (view.addCashWrites c amount).map view.seen := by
  unfold BrokerDb.addCash BrokerDb.addCashWrites
  rw [haccount]
  cases hcash : numeric 20 4 (account.cashBalance.val + amount) <;> simp [hcash] <;> rfl

variable {db view : BrokerDb} {o : OrderRequest}

/-- The statement on the holdings writes rows of that table only, under the order's key. -/
theorem holdingWrites_rows {heldQty heldCost : ℚ} {writes : List RowWrite}
    (h : o.holdingWrites view heldQty heldCost = .ok writes) :
    ∀ w ∈ writes, ∃ key row, varchar 10 o.ticker = .ok key ∧ w = .holding key row := by
  have hkey : ∀ key ∈ BrokerDb.rowKey o.ticker, varchar 10 o.ticker = .ok key := by
    intro key hkey
    unfold BrokerDb.rowKey at hkey
    split at hkey
    · rename_i hfits
      cases hkey
      exact varchar_of_fits hfits
    · cases hkey
  unfold OrderRequest.holdingWrites at h
  split at h
  · obtain ⟨key,hvarchar,h⟩ := ok_of_bind h
    obtain ⟨quantity,_,h⟩ := ok_of_bind h
    obtain ⟨avgCost,_,h⟩ := ok_of_bind h
    cases h
    intro w hw
    rw [List.mem_singleton.mp hw]
    exact ⟨key,_,hvarchar,rfl⟩
  · unfold BrokerDb.decrementWrites at h
    split at h
    · cases h
      intro w hw
      obtain ⟨key,hmem,rfl⟩ := List.mem_map.mp hw
      exact ⟨key,none,hkey key (Option.mem_toList.mp hmem),rfl⟩
    · unfold BrokerDb.updateQuantityWrites at h
      split at h
      · cases h
        intro w hw
        cases hw
      · obtain ⟨quantity,_,h⟩ := ok_of_bind h
        cases h
        intro w hw
        obtain ⟨key,hmem,rfl⟩ := List.mem_map.mp hw
        exact ⟨key,_,hkey key (Option.mem_toList.mp hmem),rfl⟩

theorem seen_accounts {writes : List RowWrite}
    (h : ∀ w ∈ writes, ∃ key row, w = .holding key row) :
    (view.seen writes).virtualAccounts = view.virtualAccounts := by
  induction writes generalizing view with
  | nil => rfl
  | cons w writes ih =>
    obtain ⟨key,row,rfl⟩ := h w List.mem_cons_self
    rw [BrokerDb.seen_cons,ih (fun w hw => h w (List.mem_cons_of_mem _ hw))]
    cases row <;> rfl

theorem restHolding_eq {account : AccountRow} (haccount : view.virtualAccounts o.currency = some account)
    (heldQty heldCost : ℚ) :
    restHolding o view heldQty heldCost = (do
      let db ← (o.holdingWrites view heldQty heldCost).map view.seen
      let db ← db.addCash o.currency account o.cashChange
      recordFill db o) := by
  unfold restHolding restCash
  cases hwrites : o.holdingWrites view heldQty heldCost with
  | error exc => rfl
  | ok writes =>
    have hseen : (view.seen writes).virtualAccounts o.currency = some account := by
      rw [seen_accounts (fun w hw => ?_),haccount]
      obtain ⟨key,row,_,hrow⟩ := holdingWrites_rows hwrites w hw
      exact ⟨key,row,hrow⟩
    have hcash := addCash_eq (view.seen writes) hseen o.cashChange
    simp only [Except.map,bind,Except.bind] at hcash ⊢
    rw [hcash]
    cases (view.seen writes).addCashWrites o.currency o.cashChange <;> rfl

/-- After the account is read the rest of the transaction is as written. -/
theorem orderTransaction_eq {account : AccountRow}
    (haccount : view.virtualAccounts o.currency = some account) :
    orderTransaction view o = restRead o view account.cashBalance.val := by
  unfold orderTransaction restRead BrokerDb.selectAccount
  rw [haccount]
  cases hholding : view.selectHolding o.ticker with
  | error exc => simp [bind,Except.bind]
  | ok holding =>
    have hfind : holding = view.portfolioHoldings.find o.ticker := by
      obtain ⟨key,hkey,h⟩ := ok_of_bind hholding
      unfold textParam at hkey
      split at hkey
      · cases hkey
      · cases hkey; cases h; rfl
    simp only [bind,Except.bind]
    cases hside : o.side with
    | BUY =>
      simp only [buyTransaction,OrderRequest.rejection,hside]
      split
      · rfl
      · rw [restHolding_eq haccount]
        simp only [OrderRequest.holdingWrites,OrderRequest.cashChange,hside,upsertHolding_eq,bind,
          Except.bind]
    | SELL =>
      simp only [sellTransaction,OrderRequest.rejection,hside]
      split
      · rfl
      · rw [restHolding_eq haccount,hfind,decrementHolding_eq]
        simp only [OrderRequest.holdingWrites,OrderRequest.cashChange,hside,bind,Except.bind]

theorem insertOrder_eq (db : BrokerDb) (o : OrderRequest) (id : ℕ) :
    db.insertOrder o = (o.orderRow id).map (fun row =>
      ({ db with
        virtualOrdersIdSeq := db.virtualOrdersIdSeq + 1
        virtualOrders := db.virtualOrders ++ [{ row with id := db.virtualOrdersIdSeq + 1 }] },
        db.virtualOrdersIdSeq + 1)) := by
  unfold BrokerDb.insertOrder OrderRequest.orderRow
  simp only [bind,Except.bind]
  cases varchar 10 o.ticker with
  | error exc => rfl
  | ok ticker =>
    cases numeric 20 6 o.quantity with
    | error exc => rfl
    | ok quantity =>
      cases numeric 20 4 o.fillPrice with
      | error exc => rfl
      | ok fillPrice =>
        cases numeric 10 6 o.slippagePct with
        | error exc => rfl
        | ok slippagePct => cases numeric 20 4 o.commission <;> rfl

/-- The logs leave the books alone, and only the id depends on the sequence. -/
theorem recordFill_books (view : BrokerDb) (o : OrderRequest) (id : ℕ) :
    bookOutcome (recordFill view o) =
      (o.orderRow id).map (fun _ => (view.books,OrderResult.FILLED (o.fill 0))) := by
  unfold recordFill
  rw [insertOrder_eq view o id]
  cases o.orderRow id <;> rfl

theorem bookOutcome_bind {α : Type} (x : Except DbError α)
    (f : α → Except DbError (BrokerDb × OrderResult)) :
    bookOutcome (x >>= f) = x >>= fun a => bookOutcome (f a) := by
  cases x <;> rfl

/-- Every statement leaves what the rest of the transaction does to the books. -/
theorem rest_statement {stage stage' : OrderStage} {more : List RowWrite} {nextId : ℕ}
    (h : orderStatement o nextId view stage = .ok (more,stage')) :
    bookOutcome (stage'.rest o (view.seen more)) = bookOutcome (stage.rest o view) := by
  cases stage with
  | readAccount =>
    unfold orderStatement BrokerDb.selectAccount at h
    cases haccount : view.virtualAccounts o.currency with
    | none =>
      rw [haccount] at h
      cases h
      rw [OrderStage.rest,OrderStage.rest,orderTransaction,BrokerDb.selectAccount,haccount]
      rfl
    | some account =>
      rw [haccount] at h
      cases h
      rw [OrderStage.rest,OrderStage.rest,orderTransaction_eq haccount]
      rfl
  | readHolding cash =>
    obtain ⟨holding,hholding,h⟩ := ok_of_bind h
    rw [OrderStage.rest,restRead,hholding]
    cases hguard : o.rejection cash ((holding.map (·.quantity.val)).getD 0) with
    | none =>
      simp only [hguard] at h
      cases h
      simp only [bind,Except.bind,hguard]
      rfl
    | some why =>
      simp only [hguard] at h
      cases h
      simp only [bind,Except.bind,hguard]
      rfl
  | writeHolding heldQty heldCost =>
    obtain ⟨writes,hwrites,h⟩ := ok_of_bind h
    cases h
    rw [OrderStage.rest,OrderStage.rest,restHolding,hwrites]
    rfl
  | writeCash =>
    obtain ⟨writes,hwrites,h⟩ := ok_of_bind h
    cases h
    rw [OrderStage.rest,OrderStage.rest,restCash,hwrites]
    rfl
  | insertOrder =>
    obtain ⟨row,hrow,h⟩ := ok_of_bind h
    cases h
    rw [OrderStage.rest,OrderStage.rest,recordFill_books view o nextId,hrow]
    rfl
  | insertAudit orderId =>
    cases h
    rfl
  | finish r =>
    cases h
    rfl

/-- What an order that ran alone to a stage has left to do completes the order. -/
theorem Solo.rest {stage : OrderStage} {writes : List RowWrite} (h : Solo db o stage writes) :
    bookOutcome (stage.rest o (db.seen writes)) = bookOutcome (orderTransaction db o) := by
  induction h with
  | start => rfl
  | statement nextId _ hstatement ih => rw [BrokerDb.seen_append,rest_statement hstatement,ih]

end Refinement

section Books
variable {view view' : BrokerDb} {o : OrderRequest}

theorem apply_books (h : view.books = view'.books) (w : RowWrite) :
    (w.apply view).books = (w.apply view').books := by
  have haccounts : view.virtualAccounts = view'.virtualAccounts := congrArg Prod.fst h
  have hholdings : view.portfolioHoldings = view'.portfolioHoldings := congrArg Prod.snd h
  cases w with
  | account c row => simp [RowWrite.apply,BrokerDb.books,haccounts,hholdings]
  | holding key row => cases row <;> simp [RowWrite.apply,BrokerDb.books,haccounts,hholdings]
  | order row => exact h
  | dropOrders ids => exact h
  | audit row => exact h

theorem seen_books (h : view.books = view'.books) (writes : List RowWrite) :
    (view.seen writes).books = (view'.seen writes).books := by
  induction writes generalizing view view' with
  | nil => exact h
  | cons w writes ih => exact ih (apply_books h w)

/-- An order reads nothing but the books. -/
theorem orderTransaction_books (h : view.books = view'.books) (o : OrderRequest) :
    bookOutcome (orderTransaction view o) = bookOutcome (orderTransaction view' o) := by
  have haccounts : view.virtualAccounts = view'.virtualAccounts := congrArg Prod.fst h
  have hholdings : view.portfolioHoldings = view'.portfolioHoldings := congrArg Prod.snd h
  have hcash : ∀ v v' : BrokerDb, v.books = v'.books →
      bookOutcome (restCash o v) = bookOutcome (restCash o v') := by
    intro v v' hv
    have hadd : v.addCashWrites o.currency o.cashChange =
        v'.addCashWrites o.currency o.cashChange := by
      unfold BrokerDb.addCashWrites
      rw [show v.virtualAccounts = v'.virtualAccounts from congrArg Prod.fst hv]
    rw [restCash,restCash,bookOutcome_bind,bookOutcome_bind,hadd]
    refine bind_congr (fun writes => ?_)
    rw [recordFill_books _ o 0,recordFill_books _ o 0,seen_books hv writes]
  cases haccount : view.virtualAccounts o.currency with
  | none =>
    rw [orderTransaction,orderTransaction,BrokerDb.selectAccount,BrokerDb.selectAccount,
      ← haccounts,haccount]
    simp [bookOutcome,Except.map,pure,Except.pure,h]
  | some account =>
    rw [orderTransaction_eq haccount,orderTransaction_eq (haccounts ▸ haccount),restRead,restRead,
      bookOutcome_bind,bookOutcome_bind]
    have hread : view.selectHolding o.ticker = view'.selectHolding o.ticker := by
      unfold BrokerDb.selectHolding
      rw [hholdings]
    rw [hread]
    refine bind_congr (fun holding => ?_)
    simp only
    split
    · simp [bookOutcome,Except.map,pure,Except.pure,h]
    · have hwrites : ∀ q c, o.holdingWrites view q c = o.holdingWrites view' q c := by
        intro q c
        simp only [OrderRequest.holdingWrites,BrokerDb.upsertWrites,BrokerDb.decrementWrites,
          BrokerDb.updateQuantityWrites,hholdings]
      rw [restHolding,restHolding,bookOutcome_bind,bookOutcome_bind,hwrites]
      exact bind_congr (fun writes => hcash _ _ (seen_books h writes))

end Books

end MacroInvest.Broker
