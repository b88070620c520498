import MacroInvest.Broker.CashLedger
import MacroInvest.Broker.OrderReplay

/-! # Equity at the order's own price

Valued at its raw price an order costs the customer slippage and commission and gains at
most what three roundings give away: half a last place each of the stored quantity, the
fill price and the notional, and nothing where the number already has that many decimals.
-/
namespace MacroInvest.Broker
open CallRun Rounding

/-- The most that rounding to `s` decimals moves `x`. -/
def halfPlace (s : ℕ) (x : ℚ) : ℚ := if pyRound s x = x then 0 else unit s / 2

theorem abs_pyRound_sub_le (s : ℕ) (x : ℚ) : |pyRound s x - x| ≤ halfPlace s x := by
  unfold halfPlace
  split
  · rename_i h
    rw [h,sub_self,abs_zero]
  · exact halfEven.abs_atUnit_sub_le (unit_pos s) x

theorem numericRound_add_le {s : ℕ} {y : ℚ} (hy : y ∈ grid s) (x : ℚ) :
    numericRound s (y + x) ≤ y + x + halfPlace s x := by
  unfold halfPlace
  split
  · rename_i h
    have hx : x ∈ grid s := h ▸ pyRound_mem s x
    rw [numericRound_of_mem (add_mem hy hx),add_zero]
  · exact halfAway.atUnit_le (unit_pos s) (y + x)

theorem halfPlace_nonneg (s : ℕ) (x : ℚ) : 0 ≤ halfPlace s x :=
  (abs_nonneg _).trans (abs_pyRound_sub_le s x)

theorem halfPlace_neg (s : ℕ) (x : ℚ) : halfPlace s (-x) = halfPlace s x := by
  have hiff : ∀ y : ℚ, pyRound s y = y ↔ y ∈ grid s :=
    fun y => halfEven.atUnit_eq_self_iff (unit_pos s)
  simp only [halfPlace,hiff,neg_mem_iff]

namespace OrderRequest
variable (o : OrderRequest)

def exactFillPrice : ℚ :=
  match o.side with
  | .BUY => o.price * (1 + o.slippagePct)
  | .SELL => o.price * (1 - o.slippagePct)

theorem fillPrice_eq : o.fillPrice = pyRound 6 o.exactFillPrice := by
  unfold fillPrice exactFillPrice
  cases o.side with
  | BUY => rfl
  | SELL => rfl

/-- What the roundings of one order can give away. -/
def roundingSlack : ℚ :=
  halfPlace 6 o.quantity * o.price + o.quantity * halfPlace 6 o.exactFillPrice +
    halfPlace 4 (o.quantity * o.fillPrice)

def friction : ℚ := o.price * o.quantity * o.slippagePct + o.commission

theorem friction_nonneg (h : o.CostsInRange) (hq : 0 < o.quantity) (hp : 0 < o.price) :
    0 ≤ o.friction := by
  have hslip : 0 ≤ o.price * o.quantity * o.slippagePct :=
    mul_nonneg (mul_nonneg hp.le hq.le) h.slippage_nonneg
  exact add_nonneg hslip (commission_nonneg h (notional_nonneg h hq hp))

/-- The cash side: the notional misses quantity times exact fill price by two roundings. -/
theorem abs_notional_sub_le (hq : 0 < o.quantity) :
    |o.notional - o.quantity * o.exactFillPrice| ≤
      o.quantity * halfPlace 6 o.exactFillPrice + halfPlace 4 (o.quantity * o.fillPrice) := by
  have hfill : |o.fillPrice - o.exactFillPrice| ≤ halfPlace 6 o.exactFillPrice := by
    rw [fillPrice_eq]
    exact abs_pyRound_sub_le 6 _
  have hscaled : |o.quantity * o.fillPrice - o.quantity * o.exactFillPrice| ≤
      o.quantity * halfPlace 6 o.exactFillPrice := by
    rw [← mul_sub,abs_mul,abs_of_pos hq]
    exact mul_le_mul_of_nonneg_left hfill hq.le
  have hnotional : |o.notional - o.quantity * o.fillPrice| ≤
      halfPlace 4 (o.quantity * o.fillPrice) := abs_pyRound_sub_le 4 _
  calc |o.notional - o.quantity * o.exactFillPrice|
      ≤ |o.notional - o.quantity * o.fillPrice| +
          |o.quantity * o.fillPrice - o.quantity * o.exactFillPrice| := abs_sub_le _ _ _
    _ ≤ _ := by linarith

end OrderRequest

/-- Cash in the ticker's currency plus the stored quantity at a price. -/
def BrokerDb.equity (db : BrokerDb) (ticker : String) (price : ℚ) : ℚ :=
  db.storedBooks.cash (tickerCurrency ticker) + db.heldQty ticker * price

/-- A ticker too long for the column loses the position it buys. -/
theorem heldQty_filled_le {db db' : BrokerDb} {o : OrderRequest} {f : Fill}
    (hf : Filled db o db' f) :
    db'.heldQty o.ticker ≤ db.heldQty o.ticker + o.quantityFlow + halfPlace 6 o.quantity := by
  have hflow : halfPlace 6 o.quantityFlow = halfPlace 6 o.quantity := by
    unfold OrderRequest.quantityFlow
    cases o.side with
    | BUY => rfl
    | SELL => exact halfPlace_neg 6 _
  by_cases hfits : o.ticker.length ≤ 10
  · have hstored := congrFun (storedQuantity_filled hf (varchar_of_fits hfits)) ⟨o.ticker,hfits⟩
    rw [Function.update_self] at hstored
    calc db'.heldQty o.ticker = numericRound 6 (db.heldQty o.ticker + o.quantityFlow) := hstored
      _ ≤ db.heldQty o.ticker + o.quantityFlow + halfPlace 6 o.quantity :=
        hflow ▸ numericRound_add_le (db.heldQty_mem o.ticker) _
  · have hside : o.side = .BUY := by
      rcases hf.holdings with hb | hs
      · exact hb.side
      · exact absurd hs.find_self.1 hfits
    rw [BrokerDb.heldQty_of_none (HoldingsTable.find_of_long hfits),
      BrokerDb.heldQty_of_none (HoldingsTable.find_of_long hfits),OrderRequest.quantityFlow,hside]
    have hpos := hf.quantity_pos
    have hplace := halfPlace_nonneg 6 o.quantity
    linarith

theorem equity_filled_le {db db' : BrokerDb} {o : OrderRequest} {f : Fill}
    (hf : Filled db o db' f) :
    db'.equity o.ticker o.price ≤ db.equity o.ticker o.price + o.roundingSlack - o.friction := by
  have hcash : db'.storedBooks.cash o.currency =
      db.storedBooks.cash o.currency + o.cashFlow := by
    rw [storedCash_filled hf,Function.update_self]
  have hvalue := mul_le_mul_of_nonneg_right (heldQty_filled_le hf) hf.price_pos.le
  have hnotional := abs_le.mp (o.abs_notional_sub_le hf.quantity_pos)
  have hequity : ∀ d : BrokerDb, d.equity o.ticker o.price =
      d.storedBooks.cash o.currency + d.heldQty o.ticker * o.price := fun _ => rfl
  rw [hequity,hequity,hcash,OrderRequest.roundingSlack,OrderRequest.friction]
  unfold OrderRequest.cashFlow
  unfold OrderRequest.quantityFlow at hvalue
  unfold OrderRequest.exactFillPrice at hnotional ⊢
  cases hside : o.side with
  | BUY =>
    simp only [hside] at hvalue hnotional ⊢
    linarith [hnotional.1]
  | SELL =>
    simp only [hside] at hvalue hnotional ⊢
    linarith [hnotional.2]

/-- The bound one answered order contributes. -/
def equityGain : OrderRequest × OrderResult → ℚ
  | (o,.FILLED _) => o.roundingSlack - o.friction
  | _ => 0

theorem equity_step_le (db : BrokerDb) (o : OrderRequest) :
    (executeVirtualOrder db o).1.equity o.ticker o.price ≤
      db.equity o.ticker o.price + equityGain (o,(executeVirtualOrder db o).2) := by
  rcases executeVirtualOrder_cases db o with ⟨why,he⟩ | ⟨exc,he⟩ | ⟨db',f,he,hf⟩
  · rw [he]
    exact (add_zero _).ge
  · rw [he]
    exact (add_zero _).ge
  · rw [he]
    have h := equity_filled_le hf
    simp only [equityGain]
    linarith

def halfPlaceBuy : OrderRequest :=
  { ticker := "AAPL", side := .BUY, quantity := 0.0000005, price := 195 }

end MacroInvest.Broker
