import MacroInvest.Library.NearestRounding
import MacroInvest.Library.FloatRounding
import MacroInvest.Library.Arithmetic
import MacroInvest.Library.BlendedCost
import MacroInvest.Library.CallRun
import MacroInvest.Library.Fallible
import MacroInvest.Library.FilledRows
import MacroInvest.Library.FirstMax
import MacroInvest.Library.Mixing
import MacroInvest.Library.TableWrites
import MacroInvest.Library.DatedRows
import MacroInvest.Library.RecentLog
import MacroInvest.Library.Series
import MacroInvest.Library.Root
import MacroInvest.Library.KeySort
import MacroInvest.Library.RowLocks
import MacroInvest.Library.FixedWidth
import MacroInvest.Library.Dict
import MacroInvest.Library.Champion
import MacroInvest.Library.Drawdown
import MacroInvest.Library.Smoothing
import MacroInvest.Quant.Backtest
import MacroInvest.Quant.Engine
import MacroInvest.Quant.Crossover
import MacroInvest.Quant.Persona
import MacroInvest.Quant.RelativeStrength
import MacroInvest.Quant.PriceUnit
import MacroInvest.Broker.Schema
import MacroInvest.Broker.Orders
import MacroInvest.Broker.OrderEffect
import MacroInvest.Broker.Calls
import MacroInvest.Broker.CashLedger
import MacroInvest.Broker.PositionLedger
import MacroInvest.Broker.AverageCost
import MacroInvest.Broker.Statements
import MacroInvest.Broker.AccountRows
import MacroInvest.Broker.Transactions
import MacroInvest.Broker.Isolation
import MacroInvest.Broker.Progress
import MacroInvest.Broker.Serialization
import MacroInvest.Broker.OrderReplay
import MacroInvest.Broker.Equity
import MacroInvest.Broker.Valuation
import MacroInvest.Broker.Recording
import MacroInvest.Market.Ticks
import MacroInvest.Market.Feeds
import MacroInvest.Market.Refresh
import MacroInvest.Market.AlpacaWindow
import MacroInvest.Live.PriceState
import MacroInvest.Live.PriceLaw
import MacroInvest.Live.PortfolioHistory
import MacroInvest.Live.SummaryCache
import MacroInvest.Live.TickKeys
import MacroInvest.Live.PriceFrames
import MacroInvest.Live.QuantView
import MacroInvest.Live.Collector
import MacroInvest.Live.RegimeAlerts
import MacroInvest.Live.PushAlerts
import MacroInvest.Macro.Calendar
import MacroInvest.Macro.Snapshot
import MacroInvest.Macro.Scoring
import MacroInvest.Macro.Regime
import MacroInvest.Macro.RegimeStore
import MacroInvest.Macro.RegimeService
import MacroInvest.Macro.TransitionChain
import MacroInvest.Macro.History
import MacroInvest.Macro.Observations
import MacroInvest.Macro.SnapshotComparison
import MacroInvest.Macro.SnapshotService
import MacroInvest.Macro.SnapshotOrder
import MacroInvest.Attribution.Models
import MacroInvest.Attribution.Engine
import MacroInvest.Attribution.Coherence
import MacroInvest.Attribution.Windows
import MacroInvest.Attribution.Recency
import MacroInvest.Features.DateTime
import MacroInvest.Features.Models
import MacroInvest.Features.Persistence
import MacroInvest.Features.Ingestion
import MacroInvest.Agent.Sessions
import MacroInvest.Agent.Comparison
import MacroInvest.Risk.Correlations
import MacroInvest.Risk.Drawdown
import MacroInvest.Signals.Conflict
import MacroInvest.Synthesis.Baselines
import MacroInvest.Risk.CurrencyUnit
import MacroInvest.Synthesis.RiskOrder
import MacroInvest.Synthesis.Substitution
import MacroInvest.News.Index
import MacroInvest.Agent.SourceRegistry
import MacroInvest.Signals.Review
import MacroInvest.Events.Impact
import MacroInvest.Alerts.QueryAnswers
import MacroInvest.Notifications.WebPush
import MacroInvest.Omni.NewsSummary
import MacroInvest.Broker.PoolManager
import MacroInvest.Live.AlephStream
import MacroInvest.Live.Payload
import MacroInvest.Macro.ChangeDetection
import MacroInvest.Signals.RegimeGrounded
import MacroInvest.Live.CollectorLoop
import MacroInvest.Signals.SeededSignals
import MacroInvest.Macro.Narrative
import MacroInvest.Signals.ExplanationLog
