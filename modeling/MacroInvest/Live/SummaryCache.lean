import MacroInvest.Live.PriceState
import MacroInvest.Library.CallRun

/-! # Reading one's own orders

A summary answers from a cache of ten seconds or reads accounts and holdings and writes the
cache. An order that was filled reads past the cache before it returns, a reset clears it.
Any number of reads, orders and resets may be under way. The committed states are numbered,
so that a report can be compared with the orders and resets that returned before it began.
-/
namespace MacroInvest.Live
open Broker CallRun

/-- Rows with the number of the state they were read in, which no code reads. -/
structure ReadRows (α : Type) where
  rows : α
  readIn : ℕ

structure CacheEntry where
  accounts : ReadRows (List Account)
  holdings : ReadRows (List Holding)
  ts : ℚ

/-- A read of the summary: the order it belongs to, if any, by the number of its commit, what
had returned when it began, and the time of its check. -/
structure Reader where
  order : Option ℕ
  floor : ℕ
  now : ℚ

inductive SummaryTask where
  | idle
  | filled (commit : ℕ)
  | reading (r : Reader)
  | accountsRead (r : Reader) (accounts : ReadRows (List Account))
  | holdingsRead (r : Reader) (accounts : ReadRows (List Account))
      (holdings : ReadRows (List Holding))
  | resetDone (commit : ℕ)
  | returning (commit : ℕ)

/-- The tables and the states before, the cache, the clock and the tasks. `refreshed` is the
newest commit whose order has read past the cache or whose reset has cleared it, `returned`
the newest whose call has returned. -/
structure SummaryServer where
  older : List BrokerDb
  db : BrokerDb
  cache : Option CacheEntry
  clock : ℚ
  tasks : ℕ → SummaryTask
  refreshed : ℕ
  returned : ℕ

inductive SummaryEvent where
  | wait (dt : NNRat)
  | order (n : ℕ) (prices : Prices) (ticker side : String) (quantity : ℚ)
  | reset (n : ℕ)
  | check (n : ℕ) (prices : Prices) (forceRefresh : Bool)
  | readAccounts (n : ℕ) (readable : Bool)
  | readHoldings (n : ℕ) (readable : Bool)
  | write (n : ℕ) (prices : Prices)
  | clear (n : ℕ)
  | finish (n : ℕ)

inductive SummaryReply where
  | pending
  | rejected
  | returned (commit : ℕ)
  | report (floor : ℕ) (prices : Prices) (summary : PortfolioSummary)

/-- The order the tool places, if side and live price let it place one. -/
def toolRequest (prices : Prices) (ticker side : String) (quantity : ℚ) : Option OrderRequest :=
  match parseSide side, prices ticker with
  | some parsed, some livePrice =>
    if livePrice = 0 then none
    else some { ticker, side := parsed, quantity, price := livePrice }
  | _, _ => none

namespace SummaryServer
variable (s : SummaryServer)

/-- Every state committed so far, by number. -/
def states : List BrokerDb := s.older ++ [s.db]

def setTask (n : ℕ) (t : SummaryTask) : SummaryServer :=
  { s with tasks := Function.update s.tasks n t }

def commit (db : BrokerDb) : SummaryServer := { s with older := s.older ++ [s.db], db := db }

/-- `execute_virtual_order_tool` up to the commit; only a filled order goes on. -/
def placeOrder (n : ℕ) (prices : Prices) (ticker side : String) (quantity : ℚ) :
    SummaryServer × SummaryReply :=
  match toolRequest prices ticker side quantity with
  | none => (s,.rejected)
  | some o =>
    match executeVirtualOrder s.db o with
    | (db,.FILLED _) => ((s.commit db).setTask n (.filled (s.older.length + 1)),.pending)
    | (db,_) => (s.commit db,.rejected)

/-- The entry, while it is young enough. -/
def cached : Option CacheEntry := s.cache.filter (fun entry => s.clock - entry.ts < dbCacheTtl)

/-- A summary past its cache, or the answer the cache gives. -/
def checkCache (n : ℕ) (prices : Prices) (forceRefresh : Bool) : SummaryServer × SummaryReply :=
  match forceRefresh, s.cached with
  | false, some entry =>
    (s,.report s.returned prices (portfolioSummary prices entry.accounts.rows entry.holdings.rows))
  | _, _ => (s.setTask n (.reading ⟨none,s.returned,s.clock⟩),.pending)

/-- The cache check of a request, or of an order that was filled, which skips the cache. -/
def check (n : ℕ) (prices : Prices) (forceRefresh : Bool) : SummaryServer × SummaryReply :=
  match s.tasks n with
  | .idle => s.checkCache n prices forceRefresh
  | .filled commit => (s.setTask n (.reading ⟨some commit,s.returned,s.clock⟩),.pending)
  | _ => (s,.pending)

def readAccounts (n : ℕ) (readable : Bool) : SummaryServer :=
  match s.tasks n with
  | .reading r =>
    s.setTask n (.accountsRead r ⟨getVirtualAccounts readable s.db,s.older.length⟩)
  | _ => s

def readHoldings (n : ℕ) (readable : Bool) : SummaryServer :=
  match s.tasks n with
  | .accountsRead r accounts =>
    s.setTask n (.holdingsRead r accounts ⟨getPortfolioHoldings readable s.db,s.older.length⟩)
  | _ => s

/-- The cache write, after which a request reports and an order is about to return. -/
def write (n : ℕ) (prices : Prices) : SummaryServer × SummaryReply :=
  match s.tasks n with
  | .holdingsRead r accounts holdings =>
    let written := { s with cache := some ⟨accounts,holdings,r.now⟩ }
    match r.order with
    | none => (written.setTask n .idle,
        .report r.floor prices (portfolioSummary prices accounts.rows holdings.rows))
    | some commit =>
      ({ written.setTask n (.returning commit) with refreshed := max s.refreshed commit },.pending)
  | _ => (s,.pending)

/-- `portfolio_reset` up to the commit. -/
def reset (n : ℕ) : SummaryServer :=
  match s.tasks n with
  | .idle => (s.commit (resetVirtualPortfolio s.db)).setTask n (.resetDone (s.older.length + 1))
  | _ => s

def clear (n : ℕ) : SummaryServer :=
  match s.tasks n with
  | .resetDone commit =>
    { s.setTask n (.returning commit) with cache := none, refreshed := max s.refreshed commit }
  | _ => s

/-- An order or a reset returns FILLED or ok. -/
def finish (n : ℕ) : SummaryServer × SummaryReply :=
  match s.tasks n with
  | .returning commit =>
    ({ s.setTask n .idle with returned := max s.returned commit },.returned commit)
  | _ => (s,.pending)

end SummaryServer

def summaryStep (s : SummaryServer) : SummaryEvent → SummaryServer × SummaryReply
  | .wait dt => ({ s with clock := s.clock + dt },.pending)
  | .order n prices ticker side quantity =>
    match s.tasks n with
    | .idle => s.placeOrder n prices ticker side quantity
    | _ => (s,.pending)
  | .reset n => (s.reset n,.pending)
  | .check n prices forceRefresh => s.check n prices forceRefresh
  | .readAccounts n readable => (s.readAccounts n readable,.pending)
  | .readHoldings n readable => (s.readHoldings n readable,.pending)
  | .write n prices => s.write n prices
  | .clear n => (s.clear n,.pending)
  | .finish n => s.finish n

def startSummary (db : BrokerDb) : SummaryServer := ⟨[],db,none,0,fun _ => .idle,0,0⟩

/-- A report shows accounts and holdings of states no older than the orders and resets that
had returned when it began. -/
def SummaryReply.ReadsOwn (states : List BrokerDb) : SummaryReply → Prop
  | .report floor prices summary => ∃ accountsDb ∈ states.drop floor,
      ∃ holdingsDb ∈ states.drop floor, ∃ accountsReadable holdingsReadable,
        summary = portfolioSummary prices (getVirtualAccounts accountsReadable accountsDb)
          (getPortfolioHoldings holdingsReadable holdingsDb)
  | _ => True

/-- No read writes rows into the cache that are older than an order or reset which has
already read past the cache or cleared it. -/
def FreshWrite (s : SummaryServer) : SummaryEvent → Prop
  | .write n _ => ∀ r accounts holdings, s.tasks n = .holdingsRead r accounts holdings →
      s.refreshed ≤ accounts.readIn ∧ s.refreshed ≤ holdings.readIn
  | _ => True

/-- The rows are what the query gave in the state they are numbered with. -/
def ReadRows.From {α : Type} (query : Bool → BrokerDb → α) (states : List BrokerDb)
    (a : ReadRows α) : Prop :=
  ∃ d, states[a.readIn]? = some d ∧ ∃ readable, a.rows = query readable d

theorem ReadRows.From.later {α : Type} {query : Bool → BrokerDb → α} {states : List BrokerDb}
    {a : ReadRows α} (h : a.From query states) (db : BrokerDb) : a.From query (states ++ [db]) := by
  obtain ⟨d,hd,hrows⟩ := h
  obtain ⟨hlt,_⟩ := List.getElem?_eq_some_iff.mp hd
  exact ⟨d,by rw [List.getElem?_append_left hlt]; exact hd,hrows⟩

theorem ReadRows.From.lt {α : Type} {query : Bool → BrokerDb → α} {states : List BrokerDb}
    {a : ReadRows α} (h : a.From query states) : a.readIn < states.length := by
  obtain ⟨d,hd,_⟩ := h
  exact (List.getElem?_eq_some_iff.mp hd).1

theorem ReadRows.From.mem_drop {α : Type} {query : Bool → BrokerDb → α} {states : List BrokerDb}
    {a : ReadRows α} (h : a.From query states) {floor : ℕ} (hfloor : floor ≤ a.readIn) :
    ∃ d ∈ states.drop floor, ∃ readable, a.rows = query readable d := by
  obtain ⟨d,hd,hrows⟩ := h
  refine ⟨d,?_,hrows⟩
  apply List.mem_of_getElem? (i := a.readIn - floor)
  rw [List.getElem?_drop,Nat.add_sub_cancel' hfloor]
  exact hd

/-- What a read may not be older than. -/
def Reader.bound (r : Reader) : ℕ := max r.floor (r.order.getD 0)

/-- A task has the rows of the states it says, none of them before its read began. -/
def SummaryTask.Sound (states : List BrokerDb) (refreshed : ℕ) : SummaryTask → Prop
  | .idle => True
  | .filled commit => commit < states.length
  | .reading r => r.bound < states.length
  | .accountsRead r accounts => r.bound ≤ accounts.readIn ∧
      accounts.From getVirtualAccounts states
  | .holdingsRead r accounts holdings => (r.bound ≤ accounts.readIn ∧
      accounts.From getVirtualAccounts states) ∧ r.bound ≤ holdings.readIn ∧
      holdings.From getPortfolioHoldings states
  | .resetDone commit => commit < states.length
  | .returning commit => commit ≤ refreshed

/-- The cached rows are no older than what has refreshed the cache. -/
structure CacheEntry.Sound (states : List BrokerDb) (refreshed : ℕ) (entry : CacheEntry) :
    Prop where
  accountsNew : refreshed ≤ entry.accounts.readIn
  accountsFrom : entry.accounts.From getVirtualAccounts states
  holdingsNew : refreshed ≤ entry.holdings.readIn
  holdingsFrom : entry.holdings.From getPortfolioHoldings states

structure SummaryServer.Sound (s : SummaryServer) : Prop where
  cache : ∀ entry, s.cache = some entry → entry.Sound s.states s.refreshed
  tasks : ∀ n, (s.tasks n).Sound s.states s.refreshed
  refreshed : s.refreshed < s.states.length
  returned : s.returned ≤ s.refreshed

theorem SummaryTask.Sound.later {states : List BrokerDb} {refreshed : ℕ} {t : SummaryTask}
    (h : t.Sound states refreshed) (db : BrokerDb) : t.Sound (states ++ [db]) refreshed := by
  have hlen : (states ++ [db]).length = states.length + 1 := by simp
  cases t with
  | idle => trivial
  | filled commit =>
    have hlt : commit < states.length := h
    exact (by omega : commit < (states ++ [db]).length)
  | reading r =>
    have hlt : r.bound < states.length := h
    exact (by omega : r.bound < (states ++ [db]).length)
  | accountsRead r accounts => exact ⟨h.1,h.2.later db⟩
  | holdingsRead r accounts holdings =>
    exact ⟨⟨h.1.1,h.1.2.later db⟩,h.2.1,h.2.2.later db⟩
  | resetDone commit =>
    have hlt : commit < states.length := h
    exact (by omega : commit < (states ++ [db]).length)
  | returning commit => exact h

theorem SummaryTask.Sound.mono {states : List BrokerDb} {refreshed refreshed' : ℕ}
    {t : SummaryTask} (h : t.Sound states refreshed) (hle : refreshed ≤ refreshed') :
    t.Sound states refreshed' := by
  cases t with
  | returning commit => exact le_trans h hle
  | idle => trivial
  | filled commit => exact h
  | reading r => exact h
  | accountsRead r accounts => exact h
  | holdingsRead r accounts holdings => exact h
  | resetDone commit => exact h

namespace SummaryServer
variable {s : SummaryServer} {n : ℕ}

theorem length_states : s.states.length = s.older.length + 1 := by simp [states]

theorem states_commit (db : BrokerDb) : (s.commit db).states = s.states ++ [db] := by
  simp [states,commit]

/-- The state just committed has a number. -/
theorem lt_states_commit (db : BrokerDb) : s.older.length + 1 < (s.commit db).states.length := by
  simp [states,commit]

theorem current_from {α : Type} (query : Bool → BrokerDb → α) (readable : Bool) :
    ReadRows.From query s.states ⟨query readable s.db,s.older.length⟩ :=
  ⟨s.db,by simp [states],readable,rfl⟩

theorem Sound.setTask (h : s.Sound) (n : ℕ) {t : SummaryTask}
    (ht : t.Sound s.states s.refreshed) : (s.setTask n t).Sound := by
  refine ⟨h.cache,?_,h.refreshed,h.returned⟩
  intro m
  change (Function.update s.tasks n t m).Sound s.states s.refreshed
  by_cases hm : m = n
  · rw [hm,Function.update_self]
    exact ht
  · rw [Function.update_of_ne hm]
    exact h.tasks m

theorem Sound.commit (h : s.Sound) (db : BrokerDb) : (s.commit db).Sound := by
  refine ⟨?_,?_,?_,h.returned⟩
  · intro entry hentry
    have hold := h.cache entry hentry
    rw [states_commit]
    exact ⟨hold.accountsNew,hold.accountsFrom.later db,hold.holdingsNew,hold.holdingsFrom.later db⟩
  · intro m
    rw [states_commit]
    exact (h.tasks m).later db
  · rw [states_commit,List.length_append]
    exact h.refreshed.trans_le (Nat.le_add_right _ _)

theorem Sound.refresh (h : s.Sound) {commit : ℕ} (hcommit : commit < s.states.length)
    {cache : Option CacheEntry} (hcache : ∀ entry, cache = some entry →
      entry.Sound s.states (max s.refreshed commit)) :
    ({ s with cache := cache, refreshed := max s.refreshed commit } : SummaryServer).Sound := by
  refine ⟨hcache,?_,max_lt h.refreshed hcommit,h.returned.trans (le_max_left _ _)⟩
  intro m
  exact (h.tasks m).mono (le_max_left _ _)

theorem placeOrder_sound (h : s.Sound) (prices : Prices) (ticker side : String) (quantity : ℚ) :
    (s.placeOrder n prices ticker side quantity).1.Sound := by
  unfold placeOrder
  cases toolRequest prices ticker side quantity with
  | none => exact h
  | some o =>
    simp only
    split
    · rename_i db fill hfilled
      exact (h.commit db).setTask n (lt_states_commit db)
    · exact h.commit _

theorem reader_bound (h : s.Sound) {order : Option ℕ} (now : ℚ)
    (horder : order.getD 0 < s.states.length) :
    (⟨order,s.returned,now⟩ : Reader).bound < s.states.length :=
  max_lt (h.returned.trans_lt h.refreshed) horder

theorem checkCache_sound (h : s.Sound) (prices : Prices) (forceRefresh : Bool) :
    (s.checkCache n prices forceRefresh).1.Sound ∧
      (s.checkCache n prices forceRefresh).2.ReadsOwn s.states := by
  unfold checkCache
  split
  · rename_i entry hcached
    refine ⟨h,?_⟩
    have hentry := h.cache entry (Option.filter_eq_some_iff.mp hcached).1
    obtain ⟨accountsDb,haccounts,accountsReadable,harows⟩ :=
      hentry.accountsFrom.mem_drop (h.returned.trans hentry.accountsNew)
    obtain ⟨holdingsDb,hholdings,holdingsReadable,hhrows⟩ :=
      hentry.holdingsFrom.mem_drop (h.returned.trans hentry.holdingsNew)
    exact ⟨accountsDb,haccounts,holdingsDb,hholdings,accountsReadable,holdingsReadable,
      by rw [harows,hhrows]⟩
  · refine ⟨h.setTask n ?_,trivial⟩
    apply reader_bound h
    exact (Nat.zero_le _).trans_lt h.refreshed

theorem check_sound (h : s.Sound) (prices : Prices) (forceRefresh : Bool) :
    (s.check n prices forceRefresh).1.Sound ∧
      (s.check n prices forceRefresh).2.ReadsOwn s.states := by
  have htask := h.tasks n
  unfold check
  split
  · exact checkCache_sound h prices forceRefresh
  · rename_i commit hn
    rw [hn] at htask
    exact ⟨h.setTask n (reader_bound h s.clock htask),trivial⟩
  · exact ⟨h,trivial⟩

theorem readAccounts_sound (h : s.Sound) (readable : Bool) : (s.readAccounts n readable).Sound := by
  have htask := h.tasks n
  unfold readAccounts
  split
  · rename_i r hn
    rw [hn] at htask
    have hbound : r.bound < s.states.length := htask
    rw [length_states] at hbound
    exact h.setTask n ⟨Nat.le_of_lt_succ hbound,current_from getVirtualAccounts readable⟩
  · exact h

theorem readHoldings_sound (h : s.Sound) (readable : Bool) : (s.readHoldings n readable).Sound := by
  have htask := h.tasks n
  unfold readHoldings
  split
  · rename_i r accounts hn
    rw [hn] at htask
    have hlt := htask.2.lt
    rw [length_states] at hlt
    have hbound : r.bound ≤ s.older.length := htask.1.trans (Nat.le_of_lt_succ hlt)
    exact h.setTask n ⟨htask,hbound,current_from getPortfolioHoldings readable⟩
  · exact h

/-- The rows of a write are new enough for its own order, and for the others by assumption. -/
theorem write_sound (h : s.Sound) (prices : Prices) (hfresh : FreshWrite s (.write n prices)) :
    (s.write n prices).1.Sound ∧ (s.write n prices).2.ReadsOwn s.states := by
  have htask := h.tasks n
  unfold write
  split
  · rename_i r accounts holdings hn
    rw [hn] at htask
    obtain ⟨hanew,hhnew⟩ := hfresh r accounts holdings hn
    obtain ⟨⟨habound,hafrom⟩,hhbound,hhfrom⟩ := htask
    cases horder : r.order with
    | none =>
      have hwritten : ({ s with cache := some ⟨accounts,holdings,r.now⟩ } : SummaryServer).Sound := by
        refine ⟨?_,h.tasks,h.refreshed,h.returned⟩
        intro entry hentry
        cases hentry
        exact ⟨hanew,hafrom,hhnew,hhfrom⟩
      refine ⟨hwritten.setTask n trivial,?_⟩
      obtain ⟨accountsDb,haccounts,accountsReadable,harows⟩ :=
        hafrom.mem_drop ((le_max_left _ _).trans habound)
      obtain ⟨holdingsDb,hholdings,holdingsReadable,hhrows⟩ :=
        hhfrom.mem_drop ((le_max_left _ _).trans hhbound)
      exact ⟨accountsDb,haccounts,holdingsDb,hholdings,accountsReadable,holdingsReadable,
        by rw [harows,hhrows]⟩
    | some commit =>
      have hcommit : commit ≤ r.bound := by
        unfold Reader.bound
        rw [horder]
        exact le_max_right _ _
      have hcached : (⟨accounts,holdings,r.now⟩ : CacheEntry).Sound s.states
          (max s.refreshed commit) :=
        ⟨max_le hanew (hcommit.trans habound),hafrom,max_le hhnew (hcommit.trans hhbound),hhfrom⟩
      have hwritten := h.refresh ((hcommit.trans habound).trans_lt hafrom.lt)
        (fun entry hentry => Option.some.inj hentry ▸ hcached)
      exact ⟨hwritten.setTask n (le_max_right _ _),trivial⟩
  · exact ⟨h,trivial⟩

theorem reset_sound (h : s.Sound) : (s.reset n).Sound := by
  unfold reset
  split
  · exact (h.commit _).setTask n (lt_states_commit _)
  · exact h

theorem clear_sound (h : s.Sound) : (s.clear n).Sound := by
  have htask := h.tasks n
  unfold clear
  split
  · rename_i commit hn
    rw [hn] at htask
    have hnone : ∀ entry, (none : Option CacheEntry) = some entry →
        entry.Sound s.states (max s.refreshed commit) := by
      intro entry hentry
      cases hentry
    have hcleared := h.refresh htask hnone
    exact hcleared.setTask n (le_max_right _ _)
  · exact h

theorem finish_sound (h : s.Sound) : (s.finish n).1.Sound := by
  have htask := h.tasks n
  unfold finish
  split
  · rename_i commit hn
    rw [hn] at htask
    have hidle := h.setTask n (t := .idle) trivial
    exact ⟨hidle.cache,hidle.tasks,hidle.refreshed,max_le hidle.returned htask⟩
  · exact h

end SummaryServer

theorem summaryStep_sound {s : SummaryServer} {e : SummaryEvent} (h : s.Sound)
    (hfresh : FreshWrite s e) :
    (summaryStep s e).1.Sound ∧ (summaryStep s e).2.ReadsOwn s.states := by
  cases e with
  | wait dt => exact ⟨⟨h.cache,h.tasks,h.refreshed,h.returned⟩,trivial⟩
  | order n prices ticker side quantity =>
    simp only [summaryStep]
    split
    · refine ⟨SummaryServer.placeOrder_sound h prices ticker side quantity,?_⟩
      unfold SummaryServer.placeOrder
      split
      · trivial
      · split <;> trivial
    · exact ⟨h,trivial⟩
  | reset n => exact ⟨SummaryServer.reset_sound h,trivial⟩
  | check n prices forceRefresh => exact SummaryServer.check_sound h prices forceRefresh
  | readAccounts n readable => exact ⟨SummaryServer.readAccounts_sound h readable,trivial⟩
  | readHoldings n readable => exact ⟨SummaryServer.readHoldings_sound h readable,trivial⟩
  | write n prices => exact SummaryServer.write_sound h prices hfresh
  | clear n => exact ⟨SummaryServer.clear_sound h,trivial⟩
  | finish n =>
    refine ⟨SummaryServer.finish_sound h,?_⟩
    simp only [summaryStep,SummaryServer.finish]
    split <;> trivial

theorem states_later (s : SummaryServer) (e : SummaryEvent) :
    s.states <+: (summaryStep s e).1.states := by
  have hcommit : ∀ db n t, s.states <+: ((s.commit db).setTask n t).states := by
    intro db n t
    change s.states <+: (s.commit db).states
    rw [SummaryServer.states_commit]
    exact List.prefix_append _ _
  cases e with
  | wait dt => exact List.prefix_refl _
  | order n prices ticker side quantity =>
    simp only [summaryStep]
    split
    · unfold SummaryServer.placeOrder
      split
      · exact List.prefix_refl _
      · split
        · exact hcommit _ _ _
        · rw [SummaryServer.states_commit]
          exact List.prefix_append _ _
    · exact List.prefix_refl _
  | reset n =>
    simp only [summaryStep,SummaryServer.reset]
    split
    · exact hcommit _ _ _
    · exact List.prefix_refl _
  | check n prices forceRefresh =>
    simp only [summaryStep,SummaryServer.check,SummaryServer.checkCache]
    split
    · split <;> exact List.prefix_refl _
    · exact List.prefix_refl _
    · exact List.prefix_refl _
  | readAccounts n readable =>
    simp only [summaryStep,SummaryServer.readAccounts]
    split <;> exact List.prefix_refl _
  | readHoldings n readable =>
    simp only [summaryStep,SummaryServer.readHoldings]
    split <;> exact List.prefix_refl _
  | write n prices =>
    simp only [summaryStep,SummaryServer.write]
    split
    · split <;> exact List.prefix_refl _
    · exact List.prefix_refl _
  | clear n =>
    simp only [summaryStep,SummaryServer.clear]
    split <;> exact List.prefix_refl _
  | finish n =>
    simp only [summaryStep,SummaryServer.finish]
    split <;> exact List.prefix_refl _

theorem SummaryReply.ReadsOwn.later {states states' : List BrokerDb} {r : SummaryReply}
    (h : r.ReadsOwn states) (hsub : states <+: states') : r.ReadsOwn states' := by
  cases r with
  | pending => trivial
  | rejected => trivial
  | returned commit => trivial
  | report floor prices summary =>
    obtain ⟨accountsDb,haccounts,holdingsDb,hholdings,hreport⟩ := h
    have hdrop := (hsub.drop floor).subset
    exact ⟨accountsDb,hdrop haccounts,holdingsDb,hdrop hholdings,hreport⟩

theorem startSummary_sound (db : BrokerDb) : (startSummary db).Sound := by
  refine ⟨?_,fun n => trivial,Nat.zero_lt_one,le_refl _⟩
  intro entry hentry
  cases hentry

/-- In a run in which no read writes the cache with rows older than an order or reset that has
refreshed it, every summary shows the orders and resets that had returned before it began. -/
theorem read_your_writes (db : BrokerDb) (events : List SummaryEvent)
    (hfresh : Admits summaryStep FreshWrite (startSummary db) events) :
    ∀ p ∈ trace summaryStep (startSummary db) events,
      p.2.ReadsOwn (final summaryStep (startSummary db) events).states := by
  have hrun : (final summaryStep (startSummary db) events).Sound ∧
      ∀ p ∈ trace summaryStep (startSummary db) events,
        p.2.ReadsOwn (final summaryStep (startSummary db) events).states := by
    refine run_induction (P := fun (s : SummaryServer) h => s.Sound ∧
      ∀ p ∈ h, SummaryReply.ReadsOwn s.states p.2) ?_ ?_ events hfresh
    · refine ⟨startSummary_sound db,?_⟩
      intro p hp
      cases hp
    · intro s h e hadmitted hprev
      obtain ⟨hsound,hreply⟩ := summaryStep_sound hprev.1 hadmitted
      refine ⟨hsound,?_⟩
      intro p hp
      rcases List.mem_append.mp hp with hp | hp
      · exact (hprev.2 p hp).later (states_later s e)
      · rw [List.mem_singleton.mp hp]
        exact hreply.later (states_later s e)
  exact hrun.2

def appleQuote : Prices := fun ticker => if ticker = "AAPL" then some 195 else none

/-- One order with its refresh, and a summary after it. -/
def orderAndRead : List SummaryEvent :=
  [.order 1 appleQuote "AAPL" "BUY" 10,.check 1 appleQuote true,.readAccounts 1 true,
   .readHoldings 1 true,.write 1 appleQuote,.finish 1,.check 2 appleQuote false]

/-- A slow read that began before the order writes the cache after it. -/
def slowRead : List SummaryEvent :=
  [.check 0 appleQuote false,.readAccounts 0 true,.readHoldings 0 true,
   .order 1 appleQuote "AAPL" "BUY" 10,.check 1 appleQuote true,.readAccounts 1 true,
   .readHoldings 1 true,.write 1 appleQuote,.finish 1,.write 0 appleQuote,
   .check 2 appleQuote false]

/-- The floor of each report and the cash it shows. -/
def reportedCash (events : List SummaryEvent) : List (ℕ × List ℚ) :=
  (trace summaryStep (startSummary seededDb) events).filterMap (fun p =>
    match p.2 with
    | .report floor _ summary => some (floor,summary.accounts.map AccountSummary.cashBalance)
    | _ => none)

theorem portfolioSummary_cash (prices : Prices) (accounts : List Account)
    (holdings : List Holding) :
    (portfolioSummary prices accounts holdings).accounts.map AccountSummary.cashBalance =
      accounts.map (fun a => pyRound 4 a.cashBalance) := by
  rw [portfolioSummary,List.map_map]
  rfl

theorem read_your_writes_orderAndRead :
    reportedCash orderAndRead = [(1,[100000000,98047.562])] ∧
    ∀ p ∈ trace summaryStep (startSummary seededDb) orderAndRead,
      p.2.ReadsOwn (final summaryStep (startSummary seededDb) orderAndRead).states := by
  refine ⟨by decide +kernel,read_your_writes seededDb orderAndRead ?_⟩
  have hnone : (final summaryStep (startSummary seededDb) (orderAndRead.take 4)).refreshed = 0 := by
    decide +kernel
  refine ⟨trivial,trivial,trivial,trivial,?_,trivial,trivial,trivial⟩
  intro r accounts holdings _
  change (final summaryStep (startSummary seededDb) (orderAndRead.take 4)).refreshed ≤ _ ∧
    (final summaryStep (startSummary seededDb) (orderAndRead.take 4)).refreshed ≤ _
  rw [hnone]
  exact ⟨Nat.zero_le _,Nat.zero_le _⟩

/-- The last summary of the run shows the cash from before the order that has returned. -/
theorem slow_read_hides_order :
    reportedCash slowRead = [(0,[100000000,100000]),(1,[100000000,100000])] ∧
    ¬∀ p ∈ trace summaryStep (startSummary seededDb) slowRead,
      p.2.ReadsOwn (final summaryStep (startSummary seededDb) slowRead).states := by
  have hreported : reportedCash slowRead =
      [(0,[100000000,100000]),(1,[100000000,100000])] := by decide +kernel
  refine ⟨hreported,?_⟩
  intro hall
  have hlast : (1,[100000000,100000]) ∈ reportedCash slowRead := by simp [hreported]
  obtain ⟨⟨e,r⟩,hp,hreply⟩ := List.mem_filterMap.mp hlast
  have hown := hall (e,r) hp
  cases r with
  | report floor prices summary =>
    obtain ⟨rfl,hcash⟩ := Prod.mk.inj (Option.some.inj hreply)
    obtain ⟨accountsDb,haccounts,holdingsDb,_,accountsReadable,holdingsReadable,rfl⟩ := hown
    rw [portfolioSummary_cash] at hcash
    have hlater : ∀ d ∈ (final summaryStep (startSummary seededDb) slowRead).states.drop 1,
        ∀ readable, (getVirtualAccounts readable d).map (fun a => pyRound 4 a.cashBalance) ≠
          [100000000,100000] := by decide +kernel
    exact hlater accountsDb haccounts accountsReadable hcash
  | pending => cases hreply
  | rejected => cases hreply
  | returned commit => cases hreply

end MacroInvest.Live
