import MacroInvest.Features.DateTime

/-! # Macro features

One measurement of one indicator, with the enumerations of its schema. A value out of bounds is
refused when the feature is built, so the bound is a field.
-/
namespace MacroInvest.Features

inductive MacroIndicatorType where
  | gdp | pmi | industrialProduction | retailSales | payrolls
  | inflation | coreCpi | pce | wageGrowth | ppi
  | unemployment | joblessClaims | jobOpenings | payrollTrend
  | interestRate | policyRate | yield2y | yield10y | yieldCurveSlope | realYield
  | dollarStrength | volatilityProxy | liquidityProxy
  | exchangeRate | stockIndex | bondYield | creditSpread | commodityPrice
  deriving DecidableEq, Repr

def MacroIndicatorType.value : MacroIndicatorType → String
  | .gdp => "gdp"
  | .pmi => "pmi"
  | .industrialProduction => "industrial_production"
  | .retailSales => "retail_sales"
  | .payrolls => "payrolls"
  | .inflation => "inflation"
  | .coreCpi => "core_cpi"
  | .pce => "pce"
  | .wageGrowth => "wage_growth"
  | .ppi => "ppi"
  | .unemployment => "unemployment"
  | .joblessClaims => "jobless_claims"
  | .jobOpenings => "job_openings"
  | .payrollTrend => "payroll_trend"
  | .interestRate => "interest_rate"
  | .policyRate => "policy_rate"
  | .yield2y => "yield_2y"
  | .yield10y => "yield_10y"
  | .yieldCurveSlope => "yield_curve_slope"
  | .realYield => "real_yield"
  | .dollarStrength => "dollar_strength"
  | .volatilityProxy => "volatility_proxy"
  | .liquidityProxy => "liquidity_proxy"
  | .exchangeRate => "exchange_rate"
  | .stockIndex => "stock_index"
  | .bondYield => "bond_yield"
  | .creditSpread => "credit_spread"
  | .commodityPrice => "commodity_price"

def MacroIndicatorType.all : List MacroIndicatorType :=
  [.gdp,.pmi,.industrialProduction,.retailSales,.payrolls,.inflation,.coreCpi,.pce,.wageGrowth,
    .ppi,.unemployment,.joblessClaims,.jobOpenings,.payrollTrend,.interestRate,.policyRate,
    .yield2y,.yield10y,.yieldCurveSlope,.realYield,.dollarStrength,.volatilityProxy,
    .liquidityProxy,.exchangeRate,.stockIndex,.bondYield,.creditSpread,.commodityPrice]

inductive MacroSourceType where
  | fred
  | worldBank
  | imf
  | oecd
  | ecb
  | marketData
  | alphaVantage
  | yahooFinance
  | custom
  deriving DecidableEq, Repr

def MacroSourceType.value : MacroSourceType → String
  | .fred => "fred"
  | .worldBank => "world_bank"
  | .imf => "imf"
  | .oecd => "oecd"
  | .ecb => "ecb"
  | .marketData => "market_data"
  | .alphaVantage => "alpha_vantage"
  | .yahooFinance => "yahoo_finance"
  | .custom => "custom"

def MacroSourceType.all : List MacroSourceType :=
  [.fred,.worldBank,.imf,.oecd,.ecb,.marketData,.alphaVantage,.yahooFinance,.custom]

inductive DataFrequency where
  | daily
  | weekly
  | monthly
  | quarterly
  | annual
  deriving DecidableEq, Repr

def DataFrequency.value : DataFrequency → String
  | .daily => "daily"
  | .weekly => "weekly"
  | .monthly => "monthly"
  | .quarterly => "quarterly"
  | .annual => "annual"

def DataFrequency.all : List DataFrequency := [.daily,.weekly,.monthly,.quarterly,.annual]

/-- The member of an enumeration with this value; `none` is `ValueError`. -/
def ofValue {α : Type} (value : α → String) (all : List α) (text : String) : Option α :=
  all.find? (fun a => value a = text)

theorem ofValue_indicator (i : MacroIndicatorType) :
    ofValue MacroIndicatorType.value MacroIndicatorType.all i.value = some i := by
  cases i <;> rfl

theorem ofValue_source (s : MacroSourceType) :
    ofValue MacroSourceType.value MacroSourceType.all s.value = some s := by
  cases s <;> rfl

theorem ofValue_frequency (f : DataFrequency) :
    ofValue DataFrequency.value DataFrequency.all f.value = some f := by
  cases f <;> rfl

structure MacroFeature where
  indicatorType : MacroIndicatorType
  source : MacroSourceType
  value : ℚ
  timestamp : DateTime
  frequency : DataFrequency := .daily
  country : Option String := none
  region : Option String := none
  metadata : List (String × String) := []
  bounded : -10000000000 < value ∧ value < 10000000000
  deriving DecidableEq

/-- `a == b`: every field is equal, the time by `DateTime.eq` and a dict in any order. -/
def MacroFeature.eq (a b : MacroFeature) : Bool :=
  a.indicatorType = b.indicatorType && a.source = b.source && a.value = b.value &&
    a.timestamp.eq b.timestamp && a.frequency = b.frequency && a.country = b.country &&
    a.region = b.region && a.metadata.isPerm b.metadata

structure MacroSnapshot where
  features : List MacroFeature
  snapshotTime : DateTime
  version : ℤ := 1
  nonEmpty : features ≠ []

theorem MacroIndicatorType.value_injective : Function.Injective MacroIndicatorType.value := by
  intro i j h
  have hi := ofValue_indicator i
  rw [h,ofValue_indicator] at hi
  exact (Option.some_inj.mp hi).symm

end MacroInvest.Features
