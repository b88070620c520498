import MacroInvest.Broker.Calls
import MacroInvest.Broker.Valuation

/-! # Valuations among committing orders

A valuation reads holdings and accounts in two transactions, the snapshot in one order and
the summary in the other. Any number of valuations may be under way while orders and resets
commit. A valuation describes one committed state when nothing it has read so far changes
before its second read, and can mix two states otherwise.
-/
namespace MacroInvest.Broker
open CallRun Fallible

inductive Task where
  | idle
  | navHoldings (prices : Prices) (holdings : List Holding)
  | navRead (prices : Prices) (holdings : List Holding) (accounts : List Account)
  | summaryAccounts (accounts : List Account)

/-- The tables, every state committed so far, and the valuations under way. -/
structure Server where
  db : BrokerDb
  committed : List BrokerDb
  snapshots : List NavRow
  tasks : ℕ → Task

inductive ServerEvent where
  | broker (c : BrokerCall)
  | navHoldings (n : ℕ) (prices : Prices) (readable : Bool)
  | navAccounts (n : ℕ) (readable : Bool)
  | navInsert (n : ℕ) (now : ℤ)
  | summaryAccounts (n : ℕ) (readable : Bool)
  | summaryHoldings (n : ℕ) (prices : Prices) (readable : Bool)

inductive ServerReply where
  | broker (r : BrokerReply)
  | pending
  | recorded (prices : Prices) (rows : List NavRow)
  | summary (prices : Prices) (s : PortfolioSummary)

namespace Server
variable (s : Server)

def setTask (n : ℕ) (t : Task) : Server := { s with tasks := Function.update s.tasks n t }

def broker (c : BrokerCall) : Server × ServerReply :=
  ({ s with db := (brokerStep s.db c).1, committed := s.committed ++ [(brokerStep s.db c).1] },
    .broker (brokerStep s.db c).2)

/-- The second read of a snapshot; without accounts there is nothing to record. -/
def navAccounts (n : ℕ) (readable : Bool) : Server × ServerReply :=
  match s.tasks n with
  | .navHoldings prices holdings =>
    match getVirtualAccounts readable s.db with
    | [] => (s.setTask n .idle,.recorded prices [])
    | accounts => (s.setTask n (.navRead prices holdings accounts),.pending)
  | _ => (s,.pending)

/-- The insert of a snapshot; the reply lists the rows it added. -/
def navInsert (n : ℕ) (now : ℤ) : Server × ServerReply :=
  match s.tasks n with
  | .navRead prices holdings accounts =>
    let snapshots' := (insertNav now s.snapshots (navValues prices holdings accounts)).1
    ({ s.setTask n .idle with snapshots := snapshots' },
      .recorded prices (snapshots'.drop s.snapshots.length))
  | _ => (s,.pending)

/-- The second read of a summary, after which it is computed and returned. -/
def summaryHoldings (n : ℕ) (prices : Prices) (readable : Bool) : Server × ServerReply :=
  match s.tasks n with
  | .summaryAccounts accounts =>
    (s.setTask n .idle,
      .summary prices (portfolioSummary prices accounts (getPortfolioHoldings readable s.db)))
  | _ => (s,.pending)

end Server

def serverStep (s : Server) : ServerEvent → Server × ServerReply
  | .broker c => s.broker c
  | .navHoldings n prices readable =>
    (s.setTask n (.navHoldings prices (getPortfolioHoldings readable s.db)),.pending)
  | .navAccounts n readable => s.navAccounts n readable
  | .navInsert n now => s.navInsert n now
  | .summaryAccounts n readable =>
    (s.setTask n (.summaryAccounts (getVirtualAccounts readable s.db)),.pending)
  | .summaryHoldings n prices readable => s.summaryHoldings n prices readable

def startServer (db : BrokerDb) : Server := ⟨db,[db],[],fun _ => .idle⟩

def NavRow.Of (prices : Prices) (d : BrokerDb) (r : NavRow) : Prop :=
  (d.virtualAccounts r.currency).map (·.cashBalance.val) = some r.cashBalance.val ∧
    r.holdingsValue.val = pyRound 4 (d.valueIn (fun h => h.quantity * h.mark prices) r.currency)

def AccountSummary.Of (prices : Prices) (d : BrokerDb) (a : AccountSummary) : Prop :=
  (d.virtualAccounts a.currency).map (·.cashBalance.val) = some a.cashBalance ∧
    a.marketValue = d.valueIn (Holding.marketValue prices) a.currency

instance (prices : Prices) (d : BrokerDb) (r : NavRow) : Decidable (r.Of prices d) :=
  inferInstanceAs (Decidable (_ ∧ _))

instance (prices : Prices) (d : BrokerDb) (a : AccountSummary) : Decidable (a.Of prices d) :=
  inferInstanceAs (Decidable (_ ∧ _))

/-- Everything a reply values, it values in one of the committed states. -/
def ServerReply.FromOneState (committed : List BrokerDb) : ServerReply → Prop
  | .recorded prices rows => ∃ d ∈ committed, ∀ r ∈ rows, r.Of prices d
  | .summary prices s => ∃ d ∈ committed, ∀ a ∈ s.accounts, a.Of prices d
  | _ => True

instance (committed : List BrokerDb) : (r : ServerReply) → Decidable (r.FromOneState committed)
  | .broker _ => isTrue trivial
  | .pending => isTrue trivial
  | .recorded prices rows => inferInstanceAs (Decidable (∃ d ∈ committed, ∀ r ∈ rows, r.Of prices d))
  | .summary prices s =>
    inferInstanceAs (Decidable (∃ d ∈ committed, ∀ a ∈ s.accounts, a.Of prices d))

def Task.MidRead : Task → Prop
  | .navHoldings _ _ => True
  | .summaryAccounts _ => True
  | _ => False

/-- No order fills and no reset runs while a valuation is between its reads, and the holdings
can be read. -/
def Quiet (s : Server) : ServerEvent → Prop
  | .broker c => (brokerStep s.db c).1 = s.db ∨ ∀ n, ¬(s.tasks n).MidRead
  | .navHoldings _ _ readable => readable = true
  | .summaryHoldings _ _ readable => readable = true
  | _ => True

def NavRow.Casts (r : NavRow) (v : NavValues) : Prop :=
  r.currency = v.currency ∧ r.cashBalance.val = numericRound 4 v.cashBalance ∧
    r.holdingsValue.val = numericRound 4 v.holdingsValue

theorem insertNavRow_new {now : ℤ} {snapshots snapshots' : List NavRow} {v : NavValues}
    (h : insertNavRow now snapshots v = .ok snapshots') :
    ∃ new, snapshots' = snapshots ++ new ∧ ∀ r ∈ new, r.Casts v := by
  obtain ⟨cashBalance,hcash,h⟩ := ok_of_bind h
  obtain ⟨holdingsValue,hvalue,h⟩ := ok_of_bind h
  obtain ⟨totalNav,_,h⟩ := ok_of_bind h
  split at h
  · cases h
    exact ⟨[],(List.append_nil _).symm,List.forall_mem_nil _⟩
  · cases h
    refine ⟨_,rfl,?_⟩
    intro r hr
    rw [List.mem_singleton.mp hr]
    exact ⟨rfl,numeric_val hcash,numeric_val hvalue⟩

theorem insertNavRows_new {now : ℤ} {snapshots snapshots' : List NavRow}
    {values : List NavValues} (h : values.foldlM (insertNavRow now) snapshots = .ok snapshots') :
    ∃ new, snapshots' = snapshots ++ new ∧ ∀ r ∈ new, ∃ v ∈ values, r.Casts v := by
  induction values generalizing snapshots with
  | nil =>
    cases h
    exact ⟨[],(List.append_nil _).symm,List.forall_mem_nil _⟩
  | cons v values ih =>
    rw [List.foldlM_cons] at h
    obtain ⟨mid,hmid,h⟩ := ok_of_bind h
    obtain ⟨first,rfl,hfirst⟩ := insertNavRow_new hmid
    obtain ⟨rest,rfl,hrest⟩ := ih h
    refine ⟨first ++ rest,List.append_assoc _ _ _,?_⟩
    intro r hr
    rcases List.mem_append.mp hr with hr | hr
    · exact ⟨v,List.mem_cons_self,hfirst r hr⟩
    · obtain ⟨v',hv',hcasts⟩ := hrest r hr
      exact ⟨v',List.mem_cons_of_mem v hv',hcasts⟩

/-- The rows an insert adds are the cast values, whatever it skips. -/
theorem insertNav_new (now : ℤ) (snapshots : List NavRow) (values : List NavValues) :
    ∃ new, (insertNav now snapshots values).1 = snapshots ++ new ∧
      ∀ r ∈ new, ∃ v ∈ values, r.Casts v := by
  unfold insertNav
  split
  · rename_i snapshots' h
    exact insertNavRows_new h
  · exact ⟨[],(List.append_nil _).symm,List.forall_mem_nil _⟩

theorem mem_getVirtualAccounts {readable : Bool} {db : BrokerDb} {a : Account}
    (h : a ∈ getVirtualAccounts readable db) :
    (db.virtualAccounts a.currency).map (·.cashBalance.val) = some a.cashBalance ∧
      a.cashBalance ∈ grid 4 := by
  unfold getVirtualAccounts at h
  split at h
  · obtain ⟨c,_,hc⟩ := List.mem_filterMap.mp h
    obtain ⟨row,hrow,rfl⟩ := Option.map_eq_some_iff.mp hc
    exact ⟨by simp [hrow],row.cashBalance.onGrid⟩
  · cases h

theorem navInsert_of {prices : Prices} {d : BrokerDb} {readable : Bool} {now : ℤ}
    {snapshots : List NavRow} {r : NavRow}
    (hr : r ∈ (insertNav now snapshots (navValues prices (getPortfolioHoldings true d)
      (getVirtualAccounts readable d))).1.drop snapshots.length) : r.Of prices d := by
  obtain ⟨new,hnew,hall⟩ := insertNav_new now snapshots
    (navValues prices (getPortfolioHoldings true d) (getVirtualAccounts readable d))
  rw [hnew,List.drop_left] at hr
  obtain ⟨v,hv,hcurrency,hcash,hvalue⟩ := hall r hr
  obtain ⟨a,ha,rfl⟩ := List.mem_map.mp hv
  obtain ⟨hrow,hgrid⟩ := mem_getVirtualAccounts ha
  simp only [valueByCurrency_holdings] at hcurrency hcash hvalue
  constructor
  · rw [hcurrency,hrow,hcash,pyRound_of_mem hgrid,numericRound_of_mem hgrid]
  · rw [hcurrency,hvalue,numericRound_of_mem (pyRound_mem 4 _)]

theorem valueIn_marketValue_mem (prices : Prices) (d : BrokerDb) (c : Currency) :
    d.valueIn (Holding.marketValue prices) c ∈ grid 4 := by
  refine list_sum_mem ?_
  intro x hx
  obtain ⟨e,_,rfl⟩ := List.mem_map.mp hx
  split
  · exact pyRound_mem 4 _
  · exact zero_mem _

theorem portfolioSummary_of {prices : Prices} {d : BrokerDb} {readable : Bool}
    {a : AccountSummary}
    (ha : a ∈ (portfolioSummary prices (getVirtualAccounts readable d)
      (getPortfolioHoldings true d)).accounts) : a.Of prices d := by
  obtain ⟨account,haccount,rfl⟩ := List.mem_map.mp ha
  obtain ⟨hrow,hgrid⟩ := mem_getVirtualAccounts haccount
  rw [valueByCurrency_holdings]
  constructor
  · rw [Account.summary,hrow,pyRound_of_mem hgrid]
  · exact pyRound_of_mem (valueIn_marketValue_mem prices d _)

/-- What a task holds was read in a committed state, in the present one while it is between
its reads. -/
def Task.Consistent (db : BrokerDb) (committed : List BrokerDb) : Task → Prop
  | .idle => True
  | .navHoldings _ holdings => holdings = getPortfolioHoldings true db
  | .navRead _ holdings accounts => ∃ d ∈ committed, ∃ readable,
      holdings = getPortfolioHoldings true d ∧ accounts = getVirtualAccounts readable d
  | .summaryAccounts accounts => ∃ readable, accounts = getVirtualAccounts readable db

structure Server.Consistent (s : Server) : Prop where
  current : s.db ∈ s.committed
  tasks : ∀ n, (s.tasks n).Consistent s.db s.committed

theorem Server.Consistent.setTask {s : Server} (h : s.Consistent) (n : ℕ) {t : Task}
    (ht : t.Consistent s.db s.committed) : (s.setTask n t).Consistent := by
  refine ⟨h.current,?_⟩
  intro m
  change (Function.update s.tasks n t m).Consistent s.db s.committed
  by_cases hm : m = n
  · rw [hm,Function.update_self]
    exact ht
  · rw [Function.update_of_ne hm]
    exact h.tasks m

theorem Task.Consistent.later {db : BrokerDb} {committed committed' : List BrokerDb} {t : Task}
    (h : t.Consistent db committed) (hsub : committed ⊆ committed') :
    t.Consistent db committed' := by
  cases t with
  | idle => trivial
  | navHoldings prices holdings => exact h
  | navRead prices holdings accounts =>
    obtain ⟨d,hd,hread⟩ := h
    exact ⟨d,hsub hd,hread⟩
  | summaryAccounts accounts => exact h

/-- A task past its reads does not depend on the present tables. -/
theorem Task.Consistent.of_not_midRead {db db' : BrokerDb} {committed : List BrokerDb} {t : Task}
    (h : t.Consistent db committed) (hmid : ¬t.MidRead) : t.Consistent db' committed := by
  cases t with
  | idle => trivial
  | navHoldings prices holdings => exact absurd trivial hmid
  | navRead prices holdings accounts => exact h
  | summaryAccounts accounts => exact absurd trivial hmid

theorem ServerReply.FromOneState.later {committed committed' : List BrokerDb} {r : ServerReply}
    (h : r.FromOneState committed) (hsub : committed ⊆ committed') :
    r.FromOneState committed' := by
  cases r with
  | broker r => trivial
  | pending => trivial
  | recorded prices rows =>
    obtain ⟨d,hd,hrows⟩ := h
    exact ⟨d,hsub hd,hrows⟩
  | summary prices s =>
    obtain ⟨d,hd,haccounts⟩ := h
    exact ⟨d,hsub hd,haccounts⟩

theorem broker_consistent {s : Server} {c : BrokerCall} (h : s.Consistent)
    (hquiet : Quiet s (.broker c)) : (s.broker c).1.Consistent := by
  refine ⟨List.mem_append_right _ List.mem_cons_self,?_⟩
  intro n
  have hlater := (h.tasks n).later (List.subset_append_left s.committed [(brokerStep s.db c).1])
  rcases hquiet with hsame | hnone
  · simp only [Server.broker]
    rw [hsame] at hlater ⊢
    exact hlater
  · exact hlater.of_not_midRead (hnone n)

theorem navAccounts_consistent {s : Server} {n : ℕ} {readable : Bool} (h : s.Consistent) :
    (s.navAccounts n readable).1.Consistent ∧
      (s.navAccounts n readable).2.FromOneState (s.navAccounts n readable).1.committed := by
  unfold Server.navAccounts
  cases hn : s.tasks n with
  | navHoldings prices holdings =>
    have hheld := h.tasks n
    rw [hn] at hheld
    cases hread : getVirtualAccounts readable s.db with
    | nil => exact ⟨h.setTask n trivial,s.db,h.current,List.forall_mem_nil _⟩
    | cons a accounts => exact ⟨h.setTask n ⟨s.db,h.current,readable,hheld,hread.symm⟩,trivial⟩
  | idle => exact ⟨h,trivial⟩
  | navRead prices holdings accounts => exact ⟨h,trivial⟩
  | summaryAccounts accounts => exact ⟨h,trivial⟩

theorem navInsert_consistent {s : Server} {n : ℕ} {now : ℤ} (h : s.Consistent) :
    (s.navInsert n now).1.Consistent ∧
      (s.navInsert n now).2.FromOneState (s.navInsert n now).1.committed := by
  unfold Server.navInsert
  cases hn : s.tasks n with
  | navRead prices holdings accounts =>
    have hread := h.tasks n
    rw [hn] at hread
    obtain ⟨d,hd,readable,rfl,rfl⟩ := hread
    have hidle := h.setTask n (t := .idle) trivial
    exact ⟨⟨hidle.current,hidle.tasks⟩,d,hd,fun r hr => navInsert_of hr⟩
  | idle => exact ⟨h,trivial⟩
  | navHoldings prices holdings => exact ⟨h,trivial⟩
  | summaryAccounts accounts => exact ⟨h,trivial⟩

theorem summaryHoldings_consistent {s : Server} {n : ℕ} {prices : Prices} (h : s.Consistent) :
    (s.summaryHoldings n prices true).1.Consistent ∧
      (s.summaryHoldings n prices true).2.FromOneState
        (s.summaryHoldings n prices true).1.committed := by
  unfold Server.summaryHoldings
  cases hn : s.tasks n with
  | summaryAccounts accounts =>
    have hread := h.tasks n
    rw [hn] at hread
    obtain ⟨readable,rfl⟩ := hread
    exact ⟨h.setTask n trivial,s.db,h.current,fun a ha => portfolioSummary_of ha⟩
  | idle => exact ⟨h,trivial⟩
  | navHoldings prices holdings => exact ⟨h,trivial⟩
  | navRead prices holdings accounts => exact ⟨h,trivial⟩

theorem serverStep_consistent {s : Server} {e : ServerEvent} (h : s.Consistent)
    (hquiet : Quiet s e) :
    (serverStep s e).1.Consistent ∧ (serverStep s e).2.FromOneState (serverStep s e).1.committed := by
  cases e with
  | broker c => exact ⟨broker_consistent h hquiet,trivial⟩
  | navHoldings n prices readable =>
    obtain rfl : readable = true := hquiet
    exact ⟨h.setTask n rfl,trivial⟩
  | navAccounts n readable => exact navAccounts_consistent h
  | navInsert n now => exact navInsert_consistent h
  | summaryAccounts n readable => exact ⟨h.setTask n ⟨readable,rfl⟩,trivial⟩
  | summaryHoldings n prices readable =>
    obtain rfl : readable = true := hquiet
    exact summaryHoldings_consistent h

theorem committed_subset (s : Server) (e : ServerEvent) :
    s.committed ⊆ (serverStep s e).1.committed := by
  cases e with
  | broker c => exact List.subset_append_left _ _
  | navHoldings n prices readable => exact List.Subset.refl _
  | navAccounts n readable =>
    simp only [serverStep,Server.navAccounts]
    split
    · split
      · exact List.Subset.refl _
      · exact List.Subset.refl _
    · exact List.Subset.refl _
  | navInsert n now =>
    simp only [serverStep,Server.navInsert]
    split
    · exact List.Subset.refl _
    · exact List.Subset.refl _
  | summaryAccounts n readable => exact List.Subset.refl _
  | summaryHoldings n prices readable =>
    simp only [serverStep,Server.summaryHoldings]
    split
    · exact List.Subset.refl _
    · exact List.Subset.refl _

/-- In a run whose commits fall outside the two reads of every valuation, each recorded
snapshot and each summary values one committed state. -/
theorem valuation_law (db : BrokerDb) (events : List ServerEvent)
    (hquiet : Admits serverStep Quiet (startServer db) events) :
    ∀ p ∈ trace serverStep (startServer db) events,
      p.2.FromOneState (final serverStep (startServer db) events).committed := by
  have hrun : (final serverStep (startServer db) events).Consistent ∧
      ∀ p ∈ trace serverStep (startServer db) events,
        p.2.FromOneState (final serverStep (startServer db) events).committed := by
    refine run_induction (P := fun (s : Server) h => s.Consistent ∧
      ∀ p ∈ h, ServerReply.FromOneState s.committed p.2) ?_ ?_ events hquiet
    · refine ⟨⟨List.mem_cons_self,fun _ => trivial⟩,?_⟩
      intro p hp
      cases hp
    · intro s h e hq hprev
      obtain ⟨hcons,hreply⟩ := serverStep_consistent hprev.1 hq
      refine ⟨hcons,?_⟩
      intro p hp
      rcases List.mem_append.mp hp with hp | hp
      · exact (hprev.2 p hp).later (committed_subset s e)
      · rw [List.mem_singleton.mp hp]
        exact hreply
  exact hrun.2

def appleAt195 : Prices := fun ticker => if ticker = "AAPL" then some 195 else none

def buyTenApple : BrokerCall := .order { ticker := "AAPL", side := .BUY, quantity := 10, price := 195 }

/-- The order commits before the snapshot begins. -/
def quietEvents : List ServerEvent :=
  [.broker buyTenApple,.navHoldings 0 appleAt195 true,.navAccounts 0 true,.navInsert 0 0]

/-- The order commits between the two reads of the snapshot. -/
def tornEvents : List ServerEvent :=
  [.navHoldings 0 appleAt195 true,.broker buyTenApple,.navAccounts 0 true,.navInsert 0 0]

def recordedUsd (events : List ServerEvent) : List (ℚ × ℚ) :=
  ((final serverStep (startServer seededDb) events).snapshots.filter
    (fun r => r.currency = .USD)).map (fun r => (r.cashBalance.val,r.holdingsValue.val))

theorem valuation_law_quietEvents :
    recordedUsd quietEvents = [(98047.562,1950)] ∧
    ∀ p ∈ trace serverStep (startServer seededDb) quietEvents,
      p.2.FromOneState (final serverStep (startServer seededDb) quietEvents).committed := by
  refine ⟨by decide +kernel,valuation_law seededDb quietEvents ?_⟩
  exact ⟨.inr (fun _ => not_false),rfl,trivial,trivial,trivial⟩

/-- The cash of the state after the order with the holdings of the state before it. -/
theorem valuation_torn :
    recordedUsd tornEvents = [(98047.562,0)] ∧
    ¬∀ p ∈ trace serverStep (startServer seededDb) tornEvents,
      p.2.FromOneState (final serverStep (startServer seededDb) tornEvents).committed :=
  ⟨by decide +kernel,by decide +kernel⟩

end MacroInvest.Broker
