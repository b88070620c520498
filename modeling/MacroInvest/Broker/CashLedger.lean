import MacroInvest.Broker.Calls

/-! # The cash ledger

Cash is an opening balance plus the flows of the fills since the last reset. The balance
law lives in the journal library; here the tables are shown to keep it, and affordability
is shown to survive the three roundings of an order.
-/
namespace MacroInvest.Broker
open CallRun Journal

/-- What a fill moves into the account of a currency. -/
def Fill.cashIn (c : Currency) (f : Fill) : ℚ :=
  if f.currency = c then
    match f.side with
    | .BUY => -(f.notional + f.commission)
    | .SELL => f.notional - f.commission
  else 0

def paid (c : Currency) (fills : List Fill) : ℚ :=
  sumOver .BUY (fun f => f.currency = c) (fun f => f.notional + f.commission) fills

def received (c : Currency) (fills : List Fill) : ℚ :=
  sumOver .SELL (fun f => f.currency = c) (fun f => f.notional - f.commission) fills

theorem balance_cashIn (opening : ℚ) (c : Currency) (fills : List Fill) :
    balance opening (Fill.cashIn c) fills = opening - paid c fills + received c fills := by
  have h := balance_sides (fun f => f.currency = c) opening
    (fun f => -(f.notional + f.commission)) (fun f => f.notional - f.commission) fills
  rw [sumOver_neg] at h
  exact h.trans (by rw [paid,received,sub_eq_add_neg])

/-- The cost parameters the broker is called with. -/
structure OrderRequest.CostsInRange (o : OrderRequest) : Prop where
  rate_nonneg : 0 ≤ o.commissionRate
  rate_le : o.commissionRate ≤ 1
  slippage_nonneg : 0 ≤ o.slippagePct
  slippage_lt : o.slippagePct < 1

namespace OrderRequest
variable {o : OrderRequest}

theorem fillPrice_nonneg (h : o.CostsInRange) (hp : 0 < o.price) : 0 ≤ o.fillPrice := by
  have hs := h.slippage_nonneg
  have hl := h.slippage_lt
  unfold fillPrice
  split
  · exact pyRound_nonneg 6 (mul_nonneg hp.le (by linarith))
  · exact pyRound_nonneg 6 (mul_nonneg hp.le (by linarith))

theorem notional_nonneg (h : o.CostsInRange) (hq : 0 < o.quantity) (hp : 0 < o.price) :
    0 ≤ o.notional :=
  pyRound_nonneg 4 (mul_nonneg hq.le (o.fillPrice_nonneg h hp))

theorem commission_nonneg (h : o.CostsInRange) (hn : 0 ≤ o.notional) : 0 ≤ o.commission :=
  pyRound_nonneg 4 (mul_nonneg hn h.rate_nonneg)

/-- The rounded commission cannot overtake the notional, which has four decimals itself. -/
theorem commission_le_notional (h : o.CostsInRange) (hn : 0 ≤ o.notional) :
    o.commission ≤ o.notional := by
  have hle : o.notional * o.commissionRate ≤ o.notional :=
    mul_le_of_le_one_right hn h.rate_le
  exact Rounding.halfEven.atUnit_le_of_le_mem (unit_pos 4) o.notional_mem hle

end OrderRequest

theorem OrderRequest.cashIn_fill (o : OrderRequest) (id : ℕ) :
    (o.fill id).cashIn o.currency = o.cashFlow := if_pos rfl

theorem OrderRequest.cashIn_fill_ne {o : OrderRequest} {c : Currency} (h : c ≠ o.currency)
    (id : ℕ) : (o.fill id).cashIn c = 0 := if_neg h.symm

def AccountKept (db : BrokerDb) (since : List Fill) (c : Currency) : Prop :=
  ∃ account, db.virtualAccounts c = some account ∧
    account.initialBalance = seedBalance c ∧
    account.cashBalance.val = balance account.initialBalance.val (Fill.cashIn c) since

def Solvent (db : BrokerDb) : Prop :=
  ∀ c account, db.virtualAccounts c = some account →
    0 ≤ account.initialBalance.val ∧ 0 ≤ account.cashBalance.val

theorem accountKept_seed (c : Currency) : AccountKept seededDb [] c :=
  ⟨⟨seedBalance c,seedBalance c⟩,rfl,rfl,by simp⟩

theorem solvent_seed : Solvent seededDb := by
  intro c account h
  cases h
  cases c <;> norm_num [seedBalance,virtualAccountSeed]

theorem accountKept_reset {db : BrokerDb} {since : List Fill} {c : Currency}
    (h : AccountKept db since c) : AccountKept (resetVirtualPortfolio db) [] c := by
  obtain ⟨account,ha,hi,_⟩ := h
  exact ⟨_,resetVirtualPortfolio_account ha,hi,by simp⟩

theorem solvent_reset {db : BrokerDb} (h : Solvent db) : Solvent (resetVirtualPortfolio db) := by
  intro c account hrow
  obtain ⟨before,hbefore,rfl⟩ := Option.map_eq_some_iff.mp hrow
  exact ⟨(h c before hbefore).1,(h c before hbefore).1⟩

theorem accountKept_filled {db db' : BrokerDb} {since : List Fill} {o : OrderRequest} {f : Fill}
    (hf : Filled db o db' f) {c : Currency} (h : AccountKept db since c) :
    AccountKept db' (since ++ [f]) c := by
  obtain ⟨account,cash',hrow,hval,_,hupd⟩ := hf.cash
  obtain ⟨account₁,ha,hi,hbal⟩ := h
  by_cases hc : c = o.currency
  · subst hc
    obtain rfl : account₁ = account := Option.some.inj (ha.symm.trans hrow)
    refine ⟨{ account₁ with cashBalance := cash' },by rw [hupd]; simp,hi,?_⟩
    rw [balance_concat,hf.fill,o.cashIn_fill]
    exact hval.trans (by rw [hbal])
  · refine ⟨account₁,?_,hi,?_⟩
    · rw [hupd,Function.update_of_ne hc]
      exact ha
    · rw [balance_concat,hf.fill,OrderRequest.cashIn_fill_ne hc,add_zero]
      exact hbal

/-- A debit is covered by the guard, a credit is non-negative by the bound on the commission. -/
theorem solvent_filled {db db' : BrokerDb} {o : OrderRequest} {f : Fill}
    (hcosts : o.CostsInRange) (hf : Filled db o db' f) (h : Solvent db) : Solvent db' := by
  obtain ⟨account,cash',hrow,hval,hguard,hupd⟩ := hf.cash
  obtain ⟨hinit,hcash⟩ := h o.currency account hrow
  have hn := o.notional_nonneg hcosts hf.quantity_pos hf.price_pos
  have hcn := o.commission_le_notional hcosts hn
  have hnew : 0 ≤ cash'.val := by
    rw [hval,OrderRequest.cashFlow]
    split
    · rename_i hs
      have hg := hguard hs
      linarith
    · linarith
  intro c account' hrow'
  rw [hupd] at hrow'
  by_cases hc : c = o.currency
  · subst hc
    rw [Function.update_self] at hrow'
    cases hrow'
    exact ⟨hinit,hnew⟩
  · rw [Function.update_of_ne hc] at hrow'
    exact h c account' hrow'

structure LogsKept (db : BrokerDb) (since ever : List Fill) : Prop where
  orders : List.Forall₂ StoresFill db.virtualOrders since
  audit : db.auditLog.map (·.payload.toFill) = ever

theorem logsKept_filled {db db' : BrokerDb} {since ever : List Fill} {o : OrderRequest} {f : Fill}
    (hf : Filled db o db' f) (h : LogsKept db since ever) :
    LogsKept db' (since ++ [f]) (ever ++ [f]) := by
  obtain ⟨row,hrow,horders⟩ := hf.orders
  constructor
  · rw [horders]
    exact List.rel_append h.orders (.cons hrow .nil)
  · rw [hf.audit,List.map_append,h.audit]
    rfl

theorem books_kept (calls : List BrokerCall) :
    (∀ c, AccountKept (brokerFinal calls) (filledSinceReset (brokerTrace calls)) c) ∧
    LogsKept (brokerFinal calls) (filledSinceReset (brokerTrace calls))
      (filledEver (brokerTrace calls)) := by
  refine broker_induction (G := fun _ _ => True)
    (P := fun db since ever => (∀ c, AccountKept db since c) ∧ LogsKept db since ever)
    ⟨accountKept_seed,⟨.nil,rfl⟩⟩ ?_ ?_ calls
    (OrdersMeet.inTables (fun _ _ => trivial))
  · intro db since ever o db' f _ h hf
    exact ⟨fun c => accountKept_filled hf (h.1 c),logsKept_filled hf h.2⟩
  · intro db since ever h
    exact ⟨fun c => accountKept_reset (h.1 c),⟨.nil,h.2.audit⟩⟩

theorem solvent_run (calls : List BrokerCall)
    (hcalls : OrdersMeet OrderRequest.CostsInRange calls) : Solvent (brokerFinal calls) :=
  broker_induction (P := fun db _ _ => Solvent db) solvent_seed
    (fun _ _ _ _ _ _ hcosts h hf => solvent_filled hcosts hf h)
    (fun _ _ _ h => solvent_reset h) calls hcalls.inTables

theorem executeVirtualOrder_other_account (db : BrokerDb) (o : OrderRequest) {c : Currency}
    (hc : c ≠ o.currency) :
    (executeVirtualOrder db o).1.virtualAccounts c = db.virtualAccounts c := by
  rcases executeVirtualOrder_cases db o with ⟨why,he⟩ | ⟨exc,he⟩ | ⟨db',f,he,hf⟩
  · rw [he]
  · rw [he]
  · obtain ⟨account,cash',_,_,_,hupd⟩ := hf.cash
    rw [he,hupd,Function.update_of_ne hc]

theorem executeVirtualOrder_rejected {db : BrokerDb} {o : OrderRequest} {why : RejectReason}
    (h : (executeVirtualOrder db o).2 = .REJECTED why) : (executeVirtualOrder db o).1 = db := by
  rcases executeVirtualOrder_cases db o with ⟨why',he⟩ | ⟨exc,he⟩ | ⟨db',f,he,hf⟩
  · rw [he]
  · rw [he]
  · rw [he] at h
    cases h

/-- The cash ledger of every reachable state, with the logs that back it. -/
theorem cash_ledger_law (calls : List BrokerCall)
    (hcalls : OrdersMeet OrderRequest.CostsInRange calls) :
    (∀ c, ∃ account, (brokerFinal calls).virtualAccounts c = some account ∧
      account.initialBalance = seedBalance c ∧
      account.cashBalance.val = account.initialBalance.val
        - paid c (filledSinceReset (brokerTrace calls))
        + received c (filledSinceReset (brokerTrace calls)) ∧
      0 ≤ account.cashBalance.val) ∧
    List.Forall₂ StoresFill (brokerFinal calls).virtualOrders
      (filledSinceReset (brokerTrace calls)) ∧
    (brokerFinal calls).auditLog.map (·.payload.toFill) = filledEver (brokerTrace calls) ∧
    (∀ o why, (executeVirtualOrder (brokerFinal calls) o).2 = .REJECTED why →
      (executeVirtualOrder (brokerFinal calls) o).1 = brokerFinal calls) ∧
    ∀ o c, c ≠ o.currency →
      (executeVirtualOrder (brokerFinal calls) o).1.virtualAccounts c =
        (brokerFinal calls).virtualAccounts c := by
  obtain ⟨haccounts,hlogs⟩ := books_kept calls
  refine ⟨?_,hlogs.orders,hlogs.audit,fun o why h => executeVirtualOrder_rejected h,
    fun o c hc => executeVirtualOrder_other_account _ o hc⟩
  intro c
  obtain ⟨account,ha,hi,hbal⟩ := haccounts c
  exact ⟨account,ha,hi,by rw [hbal,balance_cashIn],(solvent_run calls hcalls c account ha).2⟩

def resetCalls : List BrokerCall :=
  [.order { ticker := "AAPL", side := .BUY, quantity := 10, price := 195 },.reset,
   .order { ticker := "005930", side := .BUY, quantity := 2, price := 72000 }]

theorem resetCalls_costsInRange : OrdersMeet OrderRequest.CostsInRange resetCalls := by
  intro o ho
  simp only [resetCalls,List.mem_cons,BrokerCall.order.injEq,reduceCtorEq,List.not_mem_nil,
    or_false,false_or] at ho
  rcases ho with rfl | rfl <;> constructor <;> norm_num

theorem cash_ledger_law_resetCalls :
    (filledSinceReset (brokerTrace resetCalls)).length = 1 ∧
    (filledEver (brokerTrace resetCalls)).length = 2 ∧
    ∃ account, (brokerFinal resetCalls).virtualAccounts .KRW = some account ∧
      account.initialBalance = seedBalance .KRW ∧
      account.cashBalance.val = account.initialBalance.val
        - paid .KRW (filledSinceReset (brokerTrace resetCalls))
        + received .KRW (filledSinceReset (brokerTrace resetCalls)) ∧
      0 ≤ account.cashBalance.val :=
  ⟨by decide +kernel,by decide +kernel,(cash_ledger_law resetCalls resetCalls_costsInRange).1 .KRW⟩

end MacroInvest.Broker
