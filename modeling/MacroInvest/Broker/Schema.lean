import MacroInvest.Library.NearestRounding

/-! # Columns and tables of the virtual broker

A column type carries its declared scale and width as fields, so every value that can be
read back is already a rounded one. Writing a number rounds it half away from zero and
fails on overflow; writing a text fails when it does not fit, except that excess trailing
blanks are cut off.
-/
namespace MacroInvest.Broker
open Rounding

/-- What makes a statement raise; the enclosing transaction is then rolled back. -/
inductive DbError where
  | numericFieldOverflow
  | valueTooLong (limit : ℕ)
  | nulByte
  | bigintOutOfRange
  deriving DecidableEq, Repr

/-- The last place of a column with `s` decimals. -/
def unit (s : ℕ) : ℚ := 1 / 10 ^ s

theorem unit_pos (s : ℕ) : 0 < unit s := by unfold unit; positivity

/-- The numbers with at most `s` decimals. -/
abbrev grid (s : ℕ) : AddSubgroup ℚ := AddSubgroup.zmultiples (unit s)

/-- `round(x, s)` of Python in exact arithmetic. -/
def pyRound (s : ℕ) (x : ℚ) : ℚ := halfEven.atUnit (unit s) x

/-- What a NUMERIC column with `s` decimals keeps of `x`. -/
def numericRound (s : ℕ) (x : ℚ) : ℚ := halfAway.atUnit (unit s) x

theorem pyRound_mem (s : ℕ) (x : ℚ) : pyRound s x ∈ grid s := halfEven.atUnit_mem _ _
theorem numericRound_mem (s : ℕ) (x : ℚ) : numericRound s x ∈ grid s := halfAway.atUnit_mem _ _

theorem pyRound_of_mem {s : ℕ} {x : ℚ} (h : x ∈ grid s) : pyRound s x = x :=
  halfEven.atUnit_of_mem (unit_pos s) h
theorem numericRound_of_mem {s : ℕ} {x : ℚ} (h : x ∈ grid s) : numericRound s x = x :=
  halfAway.atUnit_of_mem (unit_pos s) h

theorem pyRound_nonneg (s : ℕ) {x : ℚ} (h : 0 ≤ x) : 0 ≤ pyRound s x :=
  halfEven.atUnit_nonneg (unit_pos s) h
theorem numericRound_nonneg (s : ℕ) {x : ℚ} (h : 0 ≤ x) : 0 ≤ numericRound s x :=
  halfAway.atUnit_nonneg (unit_pos s) h

structure Numeric (p s : ℕ) where
  val : ℚ
  onGrid : val ∈ grid s
  fits : |val| < 10 ^ (p - s)
  deriving DecidableEq

@[ext] theorem Numeric.ext {p s : ℕ} {a b : Numeric p s} (h : a.val = b.val) : a = b := by
  cases a; cases b; cases h; rfl

/-- The assignment cast of a number to a `NUMERIC(p, s)` column. -/
def numeric (p s : ℕ) (x : ℚ) : Except DbError (Numeric p s) :=
  if h : |numericRound s x| < 10 ^ (p - s) then .ok ⟨numericRound s x,numericRound_mem s x,h⟩
  else .error .numericFieldOverflow

theorem numeric_val {p s : ℕ} {x : ℚ} {v : Numeric p s} (h : numeric p s x = .ok v) :
    v.val = numericRound s x := by
  unfold numeric at h
  split at h
  · cases h; rfl
  · cases h

structure Varchar (n : ℕ) where
  val : String
  fits : val.length ≤ n
  deriving DecidableEq

@[ext] theorem Varchar.ext {n : ℕ} {a b : Varchar n} (h : a.val = b.val) : a = b := by
  cases a; cases b; cases h; rfl

def varchar (n : ℕ) (x : String) : Except DbError (Varchar n) :=
  if h : x.length ≤ n then .ok ⟨x,h⟩
  else if (x.toList.drop n).all (· == ' ') then
    .ok ⟨String.ofList (x.toList.take n),by simp⟩
  else .error (.valueTooLong n)

theorem varchar_of_fits {n : ℕ} {x : String} (h : x.length ≤ n) : varchar n x = .ok ⟨x,h⟩ := by
  simp [varchar,h]

theorem varchar_val {n : ℕ} {x : String} (h : x.length ≤ n) {v : Varchar n}
    (hv : varchar n x = .ok v) : v.val = x := by
  rw [varchar_of_fits h] at hv
  cases hv
  rfl

/-- A statement parameter; text parameters cannot carry a NUL character. -/
def textParam (x : String) : Except DbError String :=
  if Char.ofNat 0 ∈ x.toList then .error .nulByte else .ok x

inductive Currency where
  | KRW
  | USD
  deriving DecidableEq, Repr

inductive Side where
  | BUY
  | SELL
  deriving DecidableEq, Repr

structure AccountRow where
  cashBalance : Numeric 20 4
  initialBalance : Numeric 20 4
  deriving DecidableEq

structure HoldingRow where
  quantity : Numeric 20 6
  avgCost : Numeric 20 4
  currency : Currency
  deriving DecidableEq

structure OrderRow where
  id : ℕ
  ticker : Varchar 10
  side : Side
  quantity : Numeric 20 6
  fillPrice : Numeric 20 4
  currency : Currency
  status : String
  slippagePct : Numeric 10 6
  commission : Numeric 20 4
  deriving DecidableEq

/-- What `execute_virtual_order` returns about a FILLED order. -/
structure Fill where
  orderId : ℕ
  ticker : String
  side : Side
  quantity : ℚ
  fillPrice : ℚ
  currency : Currency
  notional : ℚ
  commission : ℚ
  slippagePct : ℚ
  deriving DecidableEq

structure AuditPayload extends Fill where
  price : ℚ
  deriving DecidableEq

structure AuditRow where
  action : String
  payload : AuditPayload
  deriving DecidableEq

/-- `portfolio_holdings`: one row per ticker, keyed by the column's own type. -/
abbrev HoldingsTable := AList (fun _ : Varchar 10 => HoldingRow)

namespace HoldingsTable
variable (table : HoldingsTable)

/-- The row a text compares equal to, if any. -/
def find (ticker : String) : Option HoldingRow :=
  if h : ticker.length ≤ 10 then table.lookup ⟨ticker,h⟩ else none

def delete (ticker : String) : HoldingsTable :=
  if h : ticker.length ≤ 10 then table.erase ⟨ticker,h⟩ else table

def set (ticker : String) (row : HoldingRow) : HoldingsTable :=
  if h : ticker.length ≤ 10 then table.insert ⟨ticker,h⟩ row else table

variable {table} {ticker other : String} {row : HoldingRow}

@[simp] theorem find_empty (ticker : String) : find ∅ ticker = none := by
  unfold find
  split <;> simp

theorem find_of_long (h : ¬ticker.length ≤ 10) : find table ticker = none := dif_neg h

theorem fits_of_find (h : find table ticker = some row) : ticker.length ≤ 10 := by
  by_contra hl
  rw [find_of_long hl] at h
  cases h

@[simp] theorem find_insert (key : Varchar 10) (row : HoldingRow) :
    find (table.insert key row) key.val = some row := by
  simp [find,key.fits]

theorem find_insert_ne {key : Varchar 10} (h : other ≠ key.val) :
    find (table.insert key row) other = find table other := by
  unfold find
  split
  · exact AList.lookup_insert_ne (fun he => h (congrArg Varchar.val he))
  · rfl

theorem find_set (h : ticker.length ≤ 10) : find (set table ticker row) ticker = some row := by
  rw [set,dif_pos h]
  exact find_insert ⟨ticker,h⟩ row

theorem find_set_ne (h : other ≠ ticker) : find (set table ticker row) other = find table other := by
  unfold set
  split
  · exact find_insert_ne h
  · rfl

theorem find_delete : find (delete table ticker) ticker = none := by
  unfold find delete
  split <;> simp

theorem find_delete_ne (h : other ≠ ticker) : find (delete table ticker) other = find table other := by
  unfold find delete
  split
  · split
    · exact AList.lookup_erase_ne (fun he => h (congrArg Varchar.val he))
    · rfl
  · rfl

end HoldingsTable

structure BrokerDb where
  virtualAccounts : Currency → Option AccountRow
  portfolioHoldings : HoldingsTable
  virtualOrders : List OrderRow
  virtualOrdersIdSeq : ℕ
  auditLog : List AuditRow

end MacroInvest.Broker
