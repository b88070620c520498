import MacroInvest.Library.TableWrites
import MacroInvest.Broker.Statements

/-! # The rows behind one account

An account stands for its own row and for the holdings of its currency. An order reads and
writes such rows only, as long as the column keeps its ticker in the currency it has. Tables
that agree on these rows take an order through the same stages.
-/
namespace MacroInvest.Broker
open CellWrites Fallible

/-- Whatever the ticker column stores of the ticker has the ticker's own currency. -/
def OrderRequest.KeepsCurrency (o : OrderRequest) : Prop :=
  ∀ key, varchar 10 o.ticker = .ok key → tickerCurrency key.val = o.currency

theorem keepsCurrency_of_fits {o : OrderRequest} (h : o.ticker.length ≤ 10) : o.KeepsCurrency := by
  intro key hkey
  rw [varchar_val h hkey]
  rfl

namespace RowWrite

/-- What a write makes of the row of an account, where it is about that row. -/
def accountCell (c : Currency) : RowWrite → Option (Option AccountRow)
  | .account c' row => if c = c' then some (some row) else none
  | _ => none

/-- What a write makes of the row of a holding, where it is about that row. -/
def holdingCell (key : Varchar 10) : RowWrite → Option (Option HoldingRow)
  | .holding key' row => if key = key' then some row else none
  | _ => none

variable {w : RowWrite} {c : Currency} {key : Varchar 10}

theorem accountCell_eq_some {v : Option AccountRow} (h : w.accountCell c = some v) :
    ∃ row, w = .account c row ∧ v = some row := by
  unfold accountCell at h
  split at h
  · split at h
    · rename_i c' row hc
      exact ⟨row,by rw [hc],(Option.some.inj h).symm⟩
    · cases h
  · cases h

theorem holdingCell_eq_some {v : Option HoldingRow} (h : w.holdingCell key = some v) :
    w = .holding key v := by
  unfold holdingCell at h
  split at h
  · split at h
    · rename_i hkey
      rw [hkey,Option.some.inj h]
    · cases h
  · cases h

@[simp] theorem accountCell_account (row : AccountRow) :
    (RowWrite.account c row).accountCell c = some (some row) := if_pos rfl

@[simp] theorem holdingCell_holding (row : Option HoldingRow) :
    (RowWrite.holding key row).holdingCell key = some row := if_pos rfl

end RowWrite

theorem account_cell (c : Currency) :
    Cell RowWrite.apply (fun db => db.virtualAccounts c) (RowWrite.accountCell c) := by
  intro db w
  cases w with
  | account c' row =>
    by_cases hc : c = c'
    · subst hc
      simp [RowWrite.apply]
    · simp [RowWrite.apply,RowWrite.accountCell,hc]
  | holding key row => cases row <;> rfl
  | order row => rfl
  | dropOrders ids => rfl
  | audit row => rfl

theorem holding_cell (key : Varchar 10) : Cell RowWrite.apply
    (fun db => db.portfolioHoldings.lookup key) (RowWrite.holdingCell key) := by
  intro db w
  cases w with
  | holding key' row =>
    by_cases hkey : key = key'
    · subst hkey
      cases row <;> simp [RowWrite.apply]
    · cases row with
      | none => simp [RowWrite.apply,RowWrite.holdingCell,hkey,AList.lookup_erase_ne hkey]
      | some row => simp [RowWrite.apply,RowWrite.holdingCell,hkey,AList.lookup_insert_ne hkey]
  | account c row => rfl
  | order row => rfl
  | dropOrders ids => rfl
  | audit row => rfl

/-- Two databases agree on an account and on the holdings of its currency. -/
structure SameRows (c : Currency) (db db' : BrokerDb) : Prop where
  account : db.virtualAccounts c = db'.virtualAccounts c
  holding : ∀ key : Varchar 10, tickerCurrency key.val = c →
    db.portfolioHoldings.lookup key = db'.portfolioHoldings.lookup key

namespace RowWrite

/-- A write to the rows behind one account, or to the logs. -/
def Within (c : Currency) : RowWrite → Prop
  | .account c' _ => c' = c
  | .holding key _ => tickerCurrency key.val = c
  | _ => True

/-- A write to none of the rows behind one account. -/
def Outside (c : Currency) : RowWrite → Prop
  | .account c' _ => c' ≠ c
  | .holding key _ => tickerCurrency key.val ≠ c
  | _ => True

end RowWrite

namespace SameRows
variable {c : Currency} {db db' : BrokerDb}

theorem of_books (h : db.books = db'.books) : SameRows c db db' where
  account := congrFun (congrArg Prod.fst h) c
  holding key _ := by rw [show db.portfolioHoldings = db'.portfolioHoldings from congrArg Prod.snd h]

theorem find (h : SameRows c db db') {ticker : String} (hc : tickerCurrency ticker = c) :
    db.portfolioHoldings.find ticker = db'.portfolioHoldings.find ticker := by
  unfold HoldingsTable.find
  split
  · exact h.holding _ hc
  · rfl

theorem seen (h : SameRows c db db') (writes : List RowWrite) :
    SameRows c (db.seen writes) (db'.seen writes) where
  account := (account_cell c).congr h.account
  holding key hkey := (holding_cell key).congr (h.holding key hkey)

theorem seen_outside {writes : List RowWrite} (h : ∀ w ∈ writes, w.Outside c) :
    SameRows c db (db.seen writes) where
  account := by
    refine ((account_cell c).kept (fun w hw => ?_)).symm
    cases hcell : w.accountCell c with
    | none => rfl
    | some v =>
      obtain ⟨row,rfl,_⟩ := RowWrite.accountCell_eq_some hcell
      exact absurd rfl (h _ hw)
  holding key hkey := by
    refine ((holding_cell key).kept (fun w hw => ?_)).symm
    cases hcell : w.holdingCell key with
    | none => rfl
    | some v =>
      rw [RowWrite.holdingCell_eq_some hcell] at hw
      exact absurd hkey (h _ hw)

end SameRows

section Orders
variable {db db' view view' : BrokerDb} {o : OrderRequest}

/-- A statement of an order depends on the rows behind its account only. -/
theorem orderStatement_congr (hcurrency : o.KeepsCurrency)
    (h : SameRows o.currency view view') (nextId : ℕ) (stage : OrderStage) :
    orderStatement o nextId view stage = orderStatement o nextId view' stage := by
  have hfind : view.portfolioHoldings.find o.ticker = view'.portfolioHoldings.find o.ticker :=
    h.find rfl
  cases stage with
  | readAccount =>
    simp only [orderStatement,BrokerDb.selectAccount,h.account]
  | readHolding cash =>
    have hread : view.selectHolding o.ticker = view'.selectHolding o.ticker := by
      unfold BrokerDb.selectHolding textParam
      split
      · rfl
      · exact congrArg Except.ok hfind
    simp only [orderStatement,hread]
  | writeHolding heldQty heldCost =>
    have hupsert : ∀ q a, view.upsertWrites o.ticker q a o.currency =
        view'.upsertWrites o.ticker q a o.currency := by
      intro q a
      unfold BrokerDb.upsertWrites
      cases hkey : varchar 10 o.ticker with
      | error exc => rfl
      | ok key =>
        have hlookup := h.holding key (hcurrency key hkey)
        simp only [bind,Except.bind,hlookup]
    have hdecrement : ∀ q, view.decrementWrites o.ticker q = view'.decrementWrites o.ticker q := by
      intro q
      simp only [BrokerDb.decrementWrites,BrokerDb.updateQuantityWrites,hfind]
    simp only [orderStatement,OrderRequest.holdingWrites,hupsert,hdecrement]
  | writeCash =>
    simp only [orderStatement,BrokerDb.addCashWrites,h.account]
  | insertOrder => rfl
  | insertAudit orderId => rfl
  | finish r => rfl

/-- Running alone on tables that agree on its rows, an order reaches the same stages. -/
theorem Solo.frame (hcurrency : o.KeepsCurrency) (h : SameRows o.currency db db')
    {stage : OrderStage} {writes : List RowWrite} (hsolo : Solo db o stage writes) :
    Solo db' o stage writes := by
  induction hsolo with
  | start => exact .start
  | statement nextId _ hstatement ih =>
    rw [orderStatement_congr hcurrency (h.seen _)] at hstatement
    exact ih.statement nextId hstatement

theorem orderStatement_within (hcurrency : o.KeepsCurrency) {nextId : ℕ}
    {stage stage' : OrderStage} {more : List RowWrite}
    (h : orderStatement o nextId view stage = .ok (more,stage')) :
    ∀ w ∈ more, w.Within o.currency := by
  cases stage with
  | readAccount =>
    simp only [orderStatement] at h
    split at h <;> cases h <;> exact fun w hw => absurd hw List.not_mem_nil
  | readHolding cash =>
    obtain ⟨holding,_,h⟩ := ok_of_bind h
    simp only at h
    split at h <;> cases h <;> exact fun w hw => absurd hw List.not_mem_nil
  | writeHolding heldQty heldCost =>
    obtain ⟨writes,hwrites,h⟩ := ok_of_bind h
    cases h
    intro w hw
    obtain ⟨key,row,hkey,rfl⟩ := holdingWrites_rows hwrites w hw
    exact hcurrency key hkey
  | writeCash =>
    obtain ⟨writes,hwrites,h⟩ := ok_of_bind h
    cases h
    unfold BrokerDb.addCashWrites at hwrites
    split at hwrites
    · cases hwrites
      exact fun w hw => absurd hw List.not_mem_nil
    · obtain ⟨cashBalance,_,hwrites⟩ := ok_of_bind hwrites
      cases hwrites
      intro w hw
      rw [List.mem_singleton.mp hw]
      rfl
  | insertOrder =>
    obtain ⟨row,_,h⟩ := ok_of_bind h
    cases h
    intro w hw
    rw [List.mem_singleton.mp hw]
    trivial
  | insertAudit orderId =>
    cases h
    intro w hw
    rw [List.mem_singleton.mp hw]
    trivial
  | finish r =>
    cases h
    exact fun w hw => absurd hw List.not_mem_nil

theorem Solo.within (hcurrency : o.KeepsCurrency) {stage : OrderStage} {writes : List RowWrite}
    (h : Solo db o stage writes) : ∀ w ∈ writes, w.Within o.currency := by
  induction h with
  | start => exact fun w hw => absurd hw List.not_mem_nil
  | statement nextId _ hstatement ih =>
    intro w hw
    rcases List.mem_append.mp hw with hw | hw
    · exact ih w hw
    · exact orderStatement_within hcurrency hstatement w hw

/-- Without an account the order is over with its first read. -/
theorem solo_refused (h : db.virtualAccounts o.currency = none) :
    Solo db o (.finish (.REJECTED (.noAccountForCurrency o.currency))) [] := by
  have hstatement : orderStatement o 0 (db.seen []) .readAccount =
      .ok ([],.finish (.REJECTED (.noAccountForCurrency o.currency))) := by
    simp [orderStatement,BrokerDb.selectAccount,h,pure,Except.pure]
  exact Solo.start.statement 0 hstatement

end Orders

end MacroInvest.Broker
