import MacroInvest.Library.RowLocks
import MacroInvest.Broker.AccountRows
import MacroInvest.Broker.Calls

/-! # Concurrent orders and resets

Transactions at READ COMMITTED: a statement reads the committed tables under the writes of its
own transaction, waits while a row it locks or writes is locked by another one, and its writes
reach the others at the commit. A row read FOR UPDATE, written, inserted or deleted stays
locked until the transaction ends. A read that finds no row locks nothing.
-/
namespace MacroInvest.Broker
open RowLocks

inductive RowKey where
  | account (c : Currency)
  | holding (key : Varchar 10)
  deriving DecidableEq

/-- The rows a reset's statement has yet to reach, of those it saw when it began. -/
inductive ResetStage where
  | restoreAccounts (todo : List Currency)
  | clearHoldings (todo : List (Varchar 10))
  | clearOrders
  | finish

inductive TxState where
  | absent
  | order (o : OrderRequest) (stage : OrderStage) (writes : List RowWrite)
  | reset (stage : ResetStage) (writes : List RowWrite)
  | committed
  | ended

/-- A committed transaction, as its caller saw it. -/
structure Commit where
  id : ℕ
  call : BrokerCall
  reply : BrokerReply

/-- The committed tables, the locks, the transactions, and what no code reads: the committed
transactions in the order of their commits. -/
structure TxWorld where
  db : BrokerDb
  locks : Locks RowKey
  txs : ℕ → TxState
  history : List Commit

/-- The row that a statement of an order locks, where there is one. -/
def OrderStage.lockedRow (o : OrderRequest) (view : BrokerDb) : OrderStage → Option RowKey
  | .readAccount | .writeCash =>
    (view.virtualAccounts o.currency).map (fun _ => .account o.currency)
  | .readHolding _ =>
    (view.portfolioHoldings.find o.ticker).bind (fun _ => (BrokerDb.rowKey o.ticker).map .holding)
  | .writeHolding _ _ =>
    match o.side with
    | .BUY => (varchar 10 o.ticker).toOption.map .holding
    | .SELL =>
      (view.portfolioHoldings.find o.ticker).bind (fun _ => (BrokerDb.rowKey o.ticker).map .holding)
  | _ => none

namespace TxWorld
variable (w : TxWorld) (n : ℕ)

/-- The locks with one more row, `none` where the statement has to wait. -/
def locking : Option RowKey → Option (Locks RowKey)
  | none => some w.locks
  | some key => if w.locks.Free n key then some (w.locks.take n key) else none

def setTx (t : TxState) : TxWorld := { w with txs := Function.update w.txs n t }

def rollback : TxWorld := { w.setTx n .ended with locks := w.locks.release n }

def commit (call : BrokerCall) (reply : BrokerReply) (writes : List RowWrite) : TxWorld :=
  { db := w.db.seen writes
    locks := w.locks.release n
    txs := Function.update w.txs n .committed
    history := w.history ++ [⟨n,call,reply⟩] }

/-- A sequence is drawn from at once and for good. -/
def drawId : OrderStage → BrokerDb
  | .insertOrder => { w.db with virtualOrdersIdSeq := w.db.virtualOrdersIdSeq + 1 }
  | _ => w.db

/-- An order whose quantity or price is not positive never begins a transaction. -/
def start : BrokerCall → TxState
  | .order o => if o.quantity ≤ 0 ∨ o.price ≤ 0 then .ended else .order o .readAccount []
  | .reset =>
    .reset (.restoreAccounts ([.KRW,.USD].filter (fun c => (w.db.virtualAccounts c).isSome))) []

/-- The next statement of an order; one that raises rolls the transaction back. -/
def orderStep (o : OrderRequest) (stage : OrderStage) (writes : List RowWrite) : TxWorld :=
  match stage with
  | .finish r => w.commit n (.order o) (.order r) writes
  | stage =>
    let view := w.db.seen writes
    match w.locking n (stage.lockedRow o view) with
    | none => w
    | some locks =>
      match orderStatement o (w.db.virtualOrdersIdSeq + 1) view stage with
      | .error _ => w.rollback n
      | .ok (more,stage') =>
        { w.setTx n (.order o stage' (writes ++ more)) with
          db := w.drawId stage
          locks := locks }

/-- A statement of a reset is through when it has reached every row it saw. -/
def resetStep (stage : ResetStage) (writes : List RowWrite) : TxWorld :=
  let view := w.db.seen writes
  match stage with
  | .restoreAccounts [] =>
    w.setTx n (.reset (.clearHoldings view.portfolioHoldings.keys) writes)
  | .clearHoldings [] => w.setTx n (.reset .clearOrders writes)
  | .clearOrders =>
    let ids := view.virtualOrders.map OrderRow.id
    w.setTx n (.reset .finish (writes ++ [.dropOrders ids]))
  | .finish => w.commit n .reset .reset writes
  | _ => w

/-- `UPDATE virtual_accounts SET cash_balance = initial_balance` at one row. -/
def restoreStep (c : Currency) (todo : List Currency) (writes : List RowWrite) : TxWorld :=
  let view := w.db.seen writes
  let left := ResetStage.restoreAccounts (todo.filter (· ≠ c))
  match view.virtualAccounts c with
  | none => w.setTx n (.reset left writes)
  | some account =>
    match w.locking n (some (.account c)) with
    | none => w
    | some locks =>
      let restored := { account with cashBalance := account.initialBalance }
      { w.setTx n (.reset left (writes ++ [.account c restored])) with locks := locks }

/-- `DELETE FROM portfolio_holdings` at one row. -/
def clearStep (key : Varchar 10) (todo : List (Varchar 10)) (writes : List RowWrite) : TxWorld :=
  let view := w.db.seen writes
  let left := ResetStage.clearHoldings (todo.filter (· ≠ key))
  match view.portfolioHoldings.lookup key with
  | none => w.setTx n (.reset left writes)
  | some _ =>
    match w.locking n (some (.holding key)) with
    | none => w
    | some locks =>
      { w.setTx n (.reset left (writes ++ [.holding key none])) with locks := locks }

end TxWorld

/-- What may happen next, in any order: a call begins, a transaction issues its next statement,
a reset's statement reaches a row, a transaction is aborted. -/
inductive TxEvent where
  | start (n : ℕ) (call : BrokerCall)
  | statement (n : ℕ)
  | restore (n : ℕ) (c : Currency)
  | clear (n : ℕ) (key : Varchar 10)
  | abort (n : ℕ)

def txStep (w : TxWorld) : TxEvent → TxWorld
  | .start n call =>
    match w.txs n with
    | .absent => w.setTx n (w.start call)
    | _ => w
  | .statement n =>
    match w.txs n with
    | .order o stage writes => w.orderStep n o stage writes
    | .reset stage writes => w.resetStep n stage writes
    | _ => w
  | .restore n c =>
    match w.txs n with
    | .reset (.restoreAccounts todo) writes =>
      if c ∈ todo then w.restoreStep n c todo writes else w
    | _ => w
  | .clear n key =>
    match w.txs n with
    | .reset (.clearHoldings todo) writes =>
      if key ∈ todo then w.clearStep n key todo writes else w
    | _ => w
  | .abort n =>
    match w.txs n with
    | .order _ _ _ | .reset _ _ => w.rollback n
    | _ => w

/-- No transaction has begun. -/
def quiet (db : BrokerDb) : TxWorld := ⟨db,fun _ => none,fun _ => .absent,[]⟩

def runTxs (db : BrokerDb) (events : List TxEvent) : TxWorld := events.foldl txStep (quiet db)

end MacroInvest.Broker
