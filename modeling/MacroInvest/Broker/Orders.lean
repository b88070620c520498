import MacroInvest.Broker.Schema

/-! # Immediate-fill virtual orders

One order is one transaction: two locking reads, a guard, two writes to the books, one
row in the order log and one in the audit log. A statement that raises rolls all of it
back. The statements are definitions of their own, in the order the transaction issues them.
-/
namespace MacroInvest.Broker

/-- The code points for which `str.isdigit` is true: Numeric_Type Decimal or Digit. -/
def digitRanges : List (ℕ × ℕ) :=
  [(0x30,0x39),(0xB2,0xB3),(0xB9,0xB9),(0x660,0x669),(0x6F0,0x6F9),(0x7C0,0x7C9),(0x966,0x96F),
   (0x9E6,0x9EF),(0xA66,0xA6F),(0xAE6,0xAEF),(0xB66,0xB6F),(0xBE6,0xBEF),(0xC66,0xC6F),
   (0xCE6,0xCEF),(0xD66,0xD6F),(0xDE6,0xDEF),(0xE50,0xE59),(0xED0,0xED9),(0xF20,0xF29),
   (0x1040,0x1049),(0x1090,0x1099),(0x1369,0x1371),(0x17E0,0x17E9),(0x1810,0x1819),
   (0x1946,0x194F),(0x19D0,0x19DA),(0x1A80,0x1A89),(0x1A90,0x1A99),(0x1B50,0x1B59),
   (0x1BB0,0x1BB9),(0x1C40,0x1C49),(0x1C50,0x1C59),(0x2070,0x2070),(0x2074,0x2079),
   (0x2080,0x2089),(0x2460,0x2468),(0x2474,0x247C),(0x2488,0x2490),(0x24EA,0x24EA),
   (0x24F5,0x24FD),(0x24FF,0x24FF),(0x2776,0x277E),(0x2780,0x2788),(0x278A,0x2792),
   (0xA620,0xA629),(0xA8D0,0xA8D9),(0xA900,0xA909),(0xA9D0,0xA9D9),(0xA9F0,0xA9F9),
   (0xAA50,0xAA59),(0xABF0,0xABF9),(0xFF10,0xFF19),(0x104A0,0x104A9),(0x10A40,0x10A43),
   (0x10D30,0x10D39),(0x10E60,0x10E68),(0x11052,0x1105A),(0x11066,0x1106F),(0x110F0,0x110F9),
   (0x11136,0x1113F),(0x111D0,0x111D9),(0x112F0,0x112F9),(0x11450,0x11459),(0x114D0,0x114D9),
   (0x11650,0x11659),(0x116C0,0x116C9),(0x11730,0x11739),(0x118E0,0x118E9),(0x11950,0x11959),
   (0x11C50,0x11C59),(0x11D50,0x11D59),(0x11DA0,0x11DA9),(0x11F50,0x11F59),(0x16A60,0x16A69),
   (0x16AC0,0x16AC9),(0x16B50,0x16B59),(0x1D7CE,0x1D7FF),(0x1E140,0x1E149),(0x1E2F0,0x1E2F9),
   (0x1E4F0,0x1E4F9),(0x1E950,0x1E959),(0x1F100,0x1F10A),(0x1FBF0,0x1FBF9)]

def isDigitChar (c : Char) : Bool := digitRanges.any (fun r => r.1 ≤ c.toNat && c.toNat ≤ r.2)

def isdigit (s : String) : Bool := !s.toList.isEmpty && s.toList.all isDigitChar

def tickerCurrency (ticker : String) : Currency := if isdigit ticker then .KRW else .USD

structure OrderRequest where
  ticker : String
  side : Side
  quantity : ℚ
  price : ℚ
  commissionRate : ℚ := 0.00025
  slippagePct : ℚ := 0.001
  deriving DecidableEq

namespace OrderRequest
variable (o : OrderRequest)

def currency : Currency := tickerCurrency o.ticker

def fillPrice : ℚ :=
  match o.side with
  | .BUY => pyRound 6 (o.price * (1 + o.slippagePct))
  | .SELL => pyRound 6 (o.price * (1 - o.slippagePct))

def notional : ℚ := pyRound 4 (o.quantity * o.fillPrice)
def commission : ℚ := pyRound 4 (o.notional * o.commissionRate)
def totalDebit : ℚ := pyRound 4 (o.notional + o.commission)
def netProceeds : ℚ := pyRound 4 (o.notional - o.commission)

end OrderRequest

inductive RejectReason where
  | quantityMustBePositive
  | invalidPrice
  | noAccountForCurrency (currency : Currency)
  | insufficientCash (required available : ℚ)
  | insufficientHoldings (requested held : ℚ)
  deriving DecidableEq

def Currency.code : Currency → String
  | .KRW => "KRW"
  | .USD => "USD"

def RejectReason.reason : RejectReason → String
  | .quantityMustBePositive => "quantity_must_be_positive"
  | .invalidPrice => "invalid_price"
  | .noAccountForCurrency c => "no_account_for_currency_" ++ c.code
  | .insufficientCash _ _ => "insufficient_cash"
  | .insufficientHoldings _ _ => "insufficient_holdings"

inductive OrderResult where
  | REJECTED (why : RejectReason)
  | FILLED (fill : Fill)
  | ERROR (exc : DbError)
  deriving DecidableEq

namespace BrokerDb
variable (db : BrokerDb)

def selectAccount (c : Currency) : Option AccountRow := db.virtualAccounts c

/-- `SELECT quantity, avg_cost ... FOR UPDATE`. -/
def selectHolding (ticker : String) : Except DbError (Option HoldingRow) := do
  let key ← textParam ticker
  return db.portfolioHoldings.find key

/-- `INSERT ... ON CONFLICT (ticker) DO UPDATE`: a row already there keeps its currency. -/
def upsertHolding (ticker : String) (newQty newCost : ℚ) (c : Currency) :
    Except DbError BrokerDb := do
  let key ← varchar 10 ticker
  let quantity ← numeric 20 6 newQty
  let avgCost ← numeric 20 4 newCost
  let rowCurrency := ((db.portfolioHoldings.lookup key).map HoldingRow.currency).getD c
  return { db with portfolioHoldings :=
    db.portfolioHoldings.insert key ⟨quantity,avgCost,rowCurrency⟩ }

def deleteHolding (ticker : String) : BrokerDb :=
  { db with portfolioHoldings := db.portfolioHoldings.delete ticker }

def updateHoldingQuantity (ticker : String) (row : HoldingRow) (remaining : ℚ) :
    Except DbError BrokerDb := do
  let quantity ← numeric 20 6 remaining
  return { db with portfolioHoldings := db.portfolioHoldings.set ticker { row with quantity } }

/-- The holding side of a SELL: zero is tested on the unrounded difference. -/
def decrementHolding (ticker : String) (holding : Option HoldingRow) (remaining : ℚ) :
    Except DbError BrokerDb :=
  if remaining ≤ 0 then return db.deleteHolding ticker
  else match holding with
    | none => return db
    | some row => db.updateHoldingQuantity ticker row remaining

def addCash (c : Currency) (account : AccountRow) (amount : ℚ) : Except DbError BrokerDb := do
  let cashBalance ← numeric 20 4 (account.cashBalance.val + amount)
  return { db with virtualAccounts :=
    Function.update db.virtualAccounts c (some { account with cashBalance }) }

def insertOrder (o : OrderRequest) : Except DbError (BrokerDb × ℕ) := do
  let ticker ← varchar 10 o.ticker
  let quantity ← numeric 20 6 o.quantity
  let fillPrice ← numeric 20 4 o.fillPrice
  let slippagePct ← numeric 10 6 o.slippagePct
  let commission ← numeric 20 4 o.commission
  let id := db.virtualOrdersIdSeq + 1
  return ({ db with
    virtualOrdersIdSeq := id
    virtualOrders := db.virtualOrders ++
      [⟨id,ticker,o.side,quantity,fillPrice,o.currency,"FILLED",slippagePct,commission⟩] },id)

def insertAudit (payload : AuditPayload) : BrokerDb :=
  { db with auditLog := db.auditLog ++ [⟨"virtual_order_filled",payload⟩] }

end BrokerDb

def OrderRequest.fill (o : OrderRequest) (orderId : ℕ) : Fill where
  orderId := orderId
  ticker := o.ticker
  side := o.side
  quantity := o.quantity
  fillPrice := o.fillPrice
  currency := o.currency
  notional := o.notional
  commission := o.commission
  slippagePct := o.slippagePct

def recordFill (db : BrokerDb) (o : OrderRequest) : Except DbError (BrokerDb × OrderResult) := do
  let (db,orderId) ← db.insertOrder o
  let fill := o.fill orderId
  return (db.insertAudit { toFill := fill, price := o.price },.FILLED fill)

def buyTransaction (db : BrokerDb) (o : OrderRequest) (account : AccountRow)
    (heldQty heldCost : ℚ) : Except DbError (BrokerDb × OrderResult) :=
  if account.cashBalance.val < o.totalDebit then
    return (db,.REJECTED (.insufficientCash o.totalDebit account.cashBalance.val))
  else do
    let newQty := heldQty + o.quantity
    let newCost := (heldQty * heldCost + o.notional) / newQty
    let db ← db.upsertHolding o.ticker newQty newCost o.currency
    let db ← db.addCash o.currency account (-o.totalDebit)
    recordFill db o

/-- Without a holding row the held quantity is zero and the guard rejects. -/
def sellTransaction (db : BrokerDb) (o : OrderRequest) (account : AccountRow)
    (holding : Option HoldingRow) : Except DbError (BrokerDb × OrderResult) :=
  let heldQty := (holding.map (·.quantity.val)).getD 0
  if heldQty < o.quantity then
    return (db,.REJECTED (.insufficientHoldings o.quantity heldQty))
  else do
    let db ← db.decrementHolding o.ticker holding (heldQty - o.quantity)
    let db ← db.addCash o.currency account o.netProceeds
    recordFill db o

def orderTransaction (db : BrokerDb) (o : OrderRequest) : Except DbError (BrokerDb × OrderResult) :=
  match db.selectAccount o.currency with
  | none => return (db,.REJECTED (.noAccountForCurrency o.currency))
  | some account => do
    let holding ← db.selectHolding o.ticker
    match o.side with
    | .BUY =>
      let heldQty := (holding.map (·.quantity.val)).getD 0
      let heldCost := (holding.map (·.avgCost.val)).getD 0
      buyTransaction db o account heldQty heldCost
    | .SELL => sellTransaction db o account holding

def executeVirtualOrder (db : BrokerDb) (o : OrderRequest) : BrokerDb × OrderResult :=
  if o.quantity ≤ 0 then (db,.REJECTED .quantityMustBePositive)
  else if o.price ≤ 0 then (db,.REJECTED .invalidPrice)
  else match orderTransaction db o with
    | .ok r => r
    | .error exc => (db,.ERROR exc)

/-- Restores the cash of every account and empties holdings and order log; the audit log stays. -/
def resetVirtualPortfolio (db : BrokerDb) : BrokerDb :=
  { db with
    virtualAccounts := fun c =>
      (db.virtualAccounts c).map (fun a => { a with cashBalance := a.initialBalance })
    portfolioHoldings := ∅
    virtualOrders := [] }

def virtualAccountSeed : Currency → ℚ
  | .KRW => 100000000
  | .USD => 100000

theorem virtualAccountSeed_mem (c : Currency) : virtualAccountSeed c ∈ grid 4 := by
  rw [AddSubgroup.mem_zmultiples_iff]
  cases c
  · exact ⟨1000000000000,by norm_num [virtualAccountSeed,unit]⟩
  · exact ⟨1000000000,by norm_num [virtualAccountSeed,unit]⟩

theorem virtualAccountSeed_fits (c : Currency) : |virtualAccountSeed c| < 10 ^ (20 - 4) := by
  cases c <;> norm_num [virtualAccountSeed]

def seedBalance (c : Currency) : Numeric 20 4 :=
  ⟨virtualAccountSeed c,virtualAccountSeed_mem c,virtualAccountSeed_fits c⟩

/-- The broker tables right after the first `init_db`. -/
def seededDb : BrokerDb where
  virtualAccounts c := some ⟨seedBalance c,seedBalance c⟩
  portfolioHoldings := ∅
  virtualOrders := []
  virtualOrdersIdSeq := 0
  auditLog := []

end MacroInvest.Broker
