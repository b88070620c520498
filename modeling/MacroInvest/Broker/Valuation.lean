import MacroInvest.Broker.Orders

/-! # Marking the portfolio to market

The two reads behind every valuation, and what the two callers make of them. Each read is a
transaction of its own and answers nothing when it fails. The sums are folds over
dictionaries in the source's order; over exact numbers they are the plain sums.
-/
namespace MacroInvest.Broker

structure Holding where
  ticker : String
  quantity : ℚ
  avgCost : ℚ
  currency : Currency
  deriving DecidableEq

structure Account where
  currency : Currency
  cashBalance : ℚ
  initialBalance : ℚ
  deriving DecidableEq

def HoldingRow.toHolding (key : Varchar 10) (row : HoldingRow) : Holding :=
  ⟨key.val,row.quantity.val,row.avgCost.val,row.currency⟩

/-- Every holdings row, `ORDER BY ticker`. -/
def getPortfolioHoldings (readable : Bool) (db : BrokerDb) : List Holding :=
  if readable then
    (db.portfolioHoldings.entries.map (fun e => e.2.toHolding e.1)).mergeSort
      (fun a b => a.ticker ≤ b.ticker)
  else []

def getVirtualAccounts (readable : Bool) (db : BrokerDb) : List Account :=
  if readable then
    [Currency.KRW,Currency.USD].filterMap (fun c =>
      (db.virtualAccounts c).map (fun a => ⟨c,a.cashBalance.val,a.initialBalance.val⟩))
  else []

abbrev Prices := String → Option ℚ

def Holding.mark (prices : Prices) (h : Holding) : ℚ := (prices h.ticker).getD h.avgCost

/-- `d[k] = d.get(k, 0.0) + amount` over the holdings, keyed by currency. -/
def valueByCurrency (value : Holding → ℚ) (holdings : List Holding) : Currency → ℚ :=
  holdings.foldl (fun d h => Function.update d h.currency (d h.currency + value h)) (fun _ => 0)

structure NavValues where
  currency : Currency
  cashBalance : ℚ
  holdingsValue : ℚ
  totalNav : ℚ
  deriving DecidableEq

def navValues (prices : Prices) (holdings : List Holding) (accounts : List Account) :
    List NavValues :=
  let holdingsValueByCurrency := valueByCurrency (fun h => h.quantity * h.mark prices) holdings
  accounts.map (fun a => {
    currency := a.currency
    cashBalance := pyRound 4 a.cashBalance
    holdingsValue := pyRound 4 (holdingsValueByCurrency a.currency)
    totalNav := pyRound 4 (a.cashBalance + holdingsValueByCurrency a.currency) })

structure NavRow where
  snapshotAt : ℤ
  currency : Currency
  cashBalance : Numeric 20 4
  holdingsValue : Numeric 20 4
  totalNav : Numeric 20 4
  deriving DecidableEq

/-- `INSERT ... ON CONFLICT (snapshot_at, currency) DO NOTHING`. -/
def insertNavRow (now : ℤ) (snapshots : List NavRow) (v : NavValues) :
    Except DbError (List NavRow) := do
  let cashBalance ← numeric 20 4 v.cashBalance
  let holdingsValue ← numeric 20 4 v.holdingsValue
  let totalNav ← numeric 20 4 v.totalNav
  return if snapshots.any (fun r => r.snapshotAt = now ∧ r.currency = v.currency) then snapshots
    else snapshots ++ [⟨now,v.currency,cashBalance,holdingsValue,totalNav⟩]

/-- The third transaction of `record_portfolio_nav`; a failed insert rolls all of them back. -/
def insertNav (now : ℤ) (snapshots : List NavRow) (values : List NavValues) :
    List NavRow × List (Currency × ℚ) :=
  match values.foldlM (insertNavRow now) snapshots with
  | .ok snapshots' => (snapshots',values.map (fun v => (v.currency,v.totalNav)))
  | .error _ => (snapshots,[])

/-- A holding as the summary reports it; names for display are left out. -/
structure EnrichedHolding extends Holding where
  livePrice : ℚ
  marketValue : ℚ
  unrealizedPl : ℚ
  deriving DecidableEq

structure AccountSummary where
  currency : Currency
  cashBalance : ℚ
  marketValue : ℚ
  totalValue : ℚ
  initialBalance : ℚ
  totalPl : ℚ
  totalPlPct : ℚ
  deriving DecidableEq

structure PortfolioSummary where
  accounts : List AccountSummary
  holdings : List EnrichedHolding
  deriving DecidableEq

def Holding.marketValue (prices : Prices) (h : Holding) : ℚ :=
  pyRound 4 (h.quantity * h.mark prices)

def Holding.enrich (prices : Prices) (h : Holding) : EnrichedHolding where
  toHolding := h
  livePrice := pyRound 4 (h.mark prices)
  marketValue := h.marketValue prices
  unrealizedPl := pyRound 4 (h.marketValue prices - h.quantity * h.avgCost)

def Account.summary (marketValue : ℚ) (a : Account) : AccountSummary where
  currency := a.currency
  cashBalance := pyRound 4 a.cashBalance
  marketValue := pyRound 4 marketValue
  totalValue := pyRound 4 (a.cashBalance + marketValue)
  initialBalance := pyRound 4 a.initialBalance
  totalPl := pyRound 4 (a.cashBalance + marketValue - a.initialBalance)
  totalPlPct := if a.initialBalance = 0 then 0 else
    pyRound 3 (((a.cashBalance + marketValue) / a.initialBalance - 1) * 100)

/-- What `_build_portfolio_summary` makes of its two reads. -/
def portfolioSummary (prices : Prices) (accounts : List Account) (holdings : List Holding) :
    PortfolioSummary where
  accounts := accounts.map (fun a =>
    a.summary (valueByCurrency (Holding.marketValue prices) holdings a.currency))
  holdings := holdings.map (Holding.enrich prices)

def BrokerDb.valueIn (db : BrokerDb) (value : Holding → ℚ) (c : Currency) : ℚ :=
  (db.portfolioHoldings.entries.map (fun e =>
    if e.2.currency = c then value (e.2.toHolding e.1) else 0)).sum

theorem foldl_valueByCurrency (value : Holding → ℚ) (holdings : List Holding)
    (d : Currency → ℚ) (c : Currency) :
    holdings.foldl (fun d h => Function.update d h.currency (d h.currency + value h)) d c =
      d c + (holdings.map (fun h => if h.currency = c then value h else 0)).sum := by
  induction holdings generalizing d with
  | nil => simp
  | cons h holdings ih =>
    rw [List.foldl_cons,ih,List.map_cons,List.sum_cons,← add_assoc]
    congr 1
    by_cases hc : h.currency = c
    · rw [hc,Function.update_self,if_pos rfl]
    · rw [Function.update_of_ne (Ne.symm hc),if_neg hc,add_zero]

/-- The dictionary holds, for each currency, the sum over its rows. -/
theorem valueByCurrency_holdings (value : Holding → ℚ) (db : BrokerDb) (c : Currency) :
    valueByCurrency value (getPortfolioHoldings true db) c = db.valueIn value c := by
  have hperm : (getPortfolioHoldings true db).Perm
      (db.portfolioHoldings.entries.map (fun e => e.2.toHolding e.1)) :=
    List.mergeSort_perm _ _
  rw [valueByCurrency,foldl_valueByCurrency,zero_add,(hperm.map _).sum_eq,List.map_map]
  rfl

end MacroInvest.Broker
