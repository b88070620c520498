import MacroInvest.Broker.Transactions

/-! # What a transaction can rely on

Whoever holds the lock of an account is alone on the rows behind it, so what a transaction has
done so far is always what it would have done alone on the tables as they are committed now.
A reset gets to the holdings only with every account locked. No commit of another transaction
changes any of this.
-/
namespace MacroInvest.Broker
open CellWrites RowLocks

section SeenRows
variable {db : BrokerDb} {writes : List RowWrite} {c : Currency} {key : Varchar 10}

theorem seen_account_other (h : ∀ row, RowWrite.account c row ∉ writes) :
    (db.seen writes).virtualAccounts c = db.virtualAccounts c := by
  refine (account_cell c).kept (fun w hw => ?_)
  cases hcell : w.accountCell c with
  | none => rfl
  | some v =>
    obtain ⟨row,rfl,_⟩ := RowWrite.accountCell_eq_some hcell
    exact absurd hw (h row)

theorem seen_holding_other (h : ∀ row, RowWrite.holding key row ∉ writes) :
    (db.seen writes).portfolioHoldings.lookup key = db.portfolioHoldings.lookup key := by
  refine (holding_cell key).kept (fun w hw => ?_)
  cases hcell : w.holdingCell key with
  | none => rfl
  | some v =>
    rw [RowWrite.holdingCell_eq_some hcell] at hw
    exact absurd hw (h v)

/-- Accounts are rewritten, never inserted. -/
theorem seen_missing (h : ∀ row, RowWrite.account c row ∈ writes → db.virtualAccounts c ≠ none) :
    (db.seen writes).virtualAccounts c = none ↔ db.virtualAccounts c = none := by
  constructor
  · intro hnone
    by_contra hexists
    refine (account_cell c).invariant (P := fun v => v ≠ none) hexists ?_ hnone
    intro w _ v hcell
    obtain ⟨row,_,rfl⟩ := RowWrite.accountCell_eq_some hcell
    exact Option.some_ne_none row
  · intro hnone
    rw [seen_account_other (fun row hrow => h row hrow hnone),hnone]

/-- An account all of whose writes agree ends with what they write. -/
theorem seen_account {row : AccountRow}
    (hall : ∀ row', RowWrite.account c row' ∈ writes → row' = row)
    (h : ∃ row', RowWrite.account c row' ∈ writes) :
    (db.seen writes).virtualAccounts c = some row := by
  refine (account_cell c).settled ?_ (.inr ?_)
  · intro w hw v hcell
    obtain ⟨row',rfl,rfl⟩ := RowWrite.accountCell_eq_some hcell
    rw [hall row' hw]
  · obtain ⟨row',hrow'⟩ := h
    exact ⟨_,hrow',by rw [RowWrite.accountCell_account,hall row' hrow']⟩

/-- A holding that is not inserted is absent once it was absent or is deleted. -/
theorem seen_absent (hall : ∀ row, RowWrite.holding key row ∈ writes → row = none)
    (h : db.portfolioHoldings.lookup key = none ∨ RowWrite.holding key none ∈ writes) :
    (db.seen writes).portfolioHoldings.lookup key = none := by
  refine (holding_cell key).settled ?_ (h.imp_right ?_)
  · intro w hw v hcell
    rw [RowWrite.holdingCell_eq_some hcell] at hw
    exact hall v hw
  · intro hdeleted
    exact ⟨_,hdeleted,RowWrite.holdingCell_holding none⟩

theorem holdings_eq_empty {table : HoldingsTable} (h : ∀ key, table.lookup key = none) :
    table = ∅ := by
  refine AList.ext ?_
  cases hentries : table.entries with
  | nil => rfl
  | cons entry rest =>
    have hmem : entry.1 ∈ table := by
      rw [AList.mem_keys,AList.keys,hentries]
      exact List.mem_cons_self
    exact absurd hmem (AList.lookup_eq_none.mp (h entry.1))

end SeenRows

/-- The account rows a reset has not reached yet. -/
def ResetStage.accountsLeft : ResetStage → List Currency
  | .restoreAccounts todo => todo
  | _ => []

/-- All accounts are restored, and the holdings are being deleted or gone. -/
def ResetStage.PastAccounts : ResetStage → Prop
  | .restoreAccounts _ => False
  | _ => True

theorem ResetStage.PastAccounts.left {stage : ResetStage} (h : stage.PastAccounts) :
    stage.accountsLeft = [] := by
  cases stage with
  | restoreAccounts todo => exact h.elim
  | _ => rfl

/-- The holdings a reset will still come to. -/
def ResetStage.ToClear (key : Varchar 10) : ResetStage → Prop
  | .restoreAccounts _ => True
  | .clearHoldings todo => key ∈ todo
  | _ => False

section Invariant
variable (db : BrokerDb) (locks : Locks RowKey) (n : ℕ)

/-- An order has run alone so far, and nobody else can reach the rows behind its account. -/
structure OrderInv (o : OrderRequest) (stage : OrderStage) (writes : List RowWrite) : Prop where
  currency : o.KeepsCurrency
  positive : 0 < o.quantity ∧ 0 < o.price
  solo : Solo db o stage writes
  guarded : (stage = .readAccount ∧ writes = []) ∨ locks (.account o.currency) = some n ∨
    (db.virtualAccounts o.currency = none ∧ writes = [] ∧
      stage = .finish (.REJECTED (.noAccountForCurrency o.currency)))

/-- A reset restores accounts it has locked, deletes only with all of them restored, and every
row is still to come or already written. -/
structure ResetInv (stage : ResetStage) (writes : List RowWrite) : Prop where
  restored : ∀ c row, RowWrite.account c row ∈ writes → locks (.account c) = some n ∧
    ∃ account, db.virtualAccounts c = some account ∧
      row = { account with cashBalance := account.initialBalance }
  deleted : ∀ key row, RowWrite.holding key row ∈ writes → row = none ∧ stage.PastAccounts
  accounts : ∀ c, db.virtualAccounts c ≠ none →
    c ∈ stage.accountsLeft ∨ ∃ row, RowWrite.account c row ∈ writes
  holdings : ∀ key, db.portfolioHoldings.lookup key ≠ none →
    stage.ToClear key ∨ RowWrite.holding key none ∈ writes

def TxInv : TxState → Prop
  | .order o stage writes => OrderInv db locks n o stage writes
  | .reset stage writes => ResetInv db locks n stage writes
  | _ => True

/-- What a transaction may write: rows behind accounts it has locked, and deletions of holdings
behind a missing account. -/
def Covered : RowWrite → Prop
  | .account c _ => locks (.account c) = some n
  | .holding key (some _) => locks (.account (tickerCurrency key.val)) = some n
  | .holding key none => locks (.account (tickerCurrency key.val)) = some n ∨
      db.virtualAccounts (tickerCurrency key.val) = none
  | _ => True

/-- A change that a transaction cannot notice: its locks stay, the rows behind its accounts
stay, no account comes or goes, and if it has them all no holding comes. -/
structure Undisturbed (db' : BrokerDb) (locks' : Locks RowKey) : Prop where
  kept : ∀ c, locks (.account c) = some n → locks' (.account c) = some n
  missing : ∀ c, db'.virtualAccounts c = none ↔ db.virtualAccounts c = none
  rows : ∀ c, locks (.account c) = some n → SameRows c db db'
  keys : (∀ c, db.virtualAccounts c ≠ none → locks (.account c) = some n) →
    ∀ key, db'.portfolioHoldings.lookup key ≠ none → db.portfolioHoldings.lookup key ≠ none

end Invariant

section Frame
variable {db db' : BrokerDb} {locks locks' : Locks RowKey} {n : ℕ}

theorem ResetInv.holdsAll {stage : ResetStage} {writes : List RowWrite}
    (h : ResetInv db locks n stage writes) (hleft : stage.accountsLeft = []) (c : Currency)
    (hc : db.virtualAccounts c ≠ none) : locks (.account c) = some n := by
  rcases h.accounts c hc with htodo | ⟨row,hrow⟩
  · rw [hleft] at htodo
    cases htodo
  · exact (h.restored c row hrow).1

theorem OrderInv.frame {o : OrderRequest} {stage : OrderStage} {writes : List RowWrite}
    (h : OrderInv db locks n o stage writes) (hframe : Undisturbed db locks n db' locks') :
    OrderInv db' locks' n o stage writes := by
  rcases h.guarded with ⟨rfl,rfl⟩ | hlock | ⟨hmissing,rfl,rfl⟩
  · exact ⟨h.currency,h.positive,.start,.inl ⟨rfl,rfl⟩⟩
  · exact ⟨h.currency,h.positive,h.solo.frame h.currency (hframe.rows _ hlock),
      .inr (.inl (hframe.kept _ hlock))⟩
  · have hmissing' := (hframe.missing _).mpr hmissing
    exact ⟨h.currency,h.positive,solo_refused hmissing',.inr (.inr ⟨hmissing',rfl,rfl⟩)⟩

theorem ResetInv.frame {stage : ResetStage} {writes : List RowWrite}
    (h : ResetInv db locks n stage writes) (hframe : Undisturbed db locks n db' locks') :
    ResetInv db' locks' n stage writes where
  restored c row hrow := by
    obtain ⟨hlock,account,haccount,heq⟩ := h.restored c row hrow
    exact ⟨hframe.kept c hlock,account,(hframe.rows c hlock).account.symm.trans haccount,heq⟩
  deleted := h.deleted
  accounts c hc := h.accounts c (fun hnone => hc ((hframe.missing c).mpr hnone))
  holdings key hkey := by
    have hkept : stage.accountsLeft = [] → stage.ToClear key ∨ .holding key none ∈ writes :=
      fun hleft => h.holdings key (hframe.keys (h.holdsAll hleft) key hkey)
    cases stage with
    | restoreAccounts todo => exact .inl trivial
    | clearHoldings todo => exact hkept rfl
    | clearOrders => exact hkept rfl
    | finish => exact hkept rfl

theorem TxInv.frame {t : TxState} (h : TxInv db locks n t)
    (hframe : Undisturbed db locks n db' locks') : TxInv db' locks' n t := by
  cases t with
  | order o stage writes => exact OrderInv.frame h hframe
  | reset stage writes => exact ResetInv.frame h hframe
  | absent => trivial
  | committed => trivial
  | ended => trivial

theorem OrderInv.covered {o : OrderRequest} {stage : OrderStage} {writes : List RowWrite}
    (h : OrderInv db locks n o stage writes) : ∀ w ∈ writes, Covered db locks n w := by
  rcases h.guarded with ⟨_,rfl⟩ | hlock | ⟨_,rfl,_⟩
  · exact fun w hw => absurd hw List.not_mem_nil
  · intro w hw
    have hwithin := h.solo.within h.currency w hw
    cases w with
    | account c row =>
      rw [show c = o.currency from hwithin]
      exact hlock
    | holding key row =>
      have hkey : tickerCurrency key.val = o.currency := hwithin
      cases row with
      | none => exact .inl (hkey ▸ hlock)
      | some row => exact (hkey ▸ hlock : locks (.account (tickerCurrency key.val)) = some n)
    | order row => trivial
    | dropOrders ids => trivial
    | audit row => trivial
  · exact fun w hw => absurd hw List.not_mem_nil

theorem ResetInv.covered {stage : ResetStage} {writes : List RowWrite}
    (h : ResetInv db locks n stage writes) : ∀ w ∈ writes, Covered db locks n w := by
  intro w hw
  cases w with
  | account c row => exact (h.restored c row hw).1
  | holding key row =>
    obtain ⟨rfl,hpast⟩ := h.deleted key row hw
    by_cases hc : db.virtualAccounts (tickerCurrency key.val) = none
    · exact .inr hc
    · exact .inl (h.holdsAll hpast.left _ hc)
  | order row => trivial
  | dropOrders ids => trivial
  | audit row => trivial

variable {m : ℕ} {writes : List RowWrite}

/-- A commit is unnoticed by everyone else. -/
theorem undisturbed_commit (hm : m ≠ n)
    (howned : ∀ c k, locks (.account c) = some k → db.virtualAccounts c ≠ none)
    (hcovered : ∀ w ∈ writes, Covered db locks n w) :
    Undisturbed db locks m (db.seen writes) (locks.release n) where
  kept c hc := (Locks.release_other hm).mpr hc
  missing c := seen_missing (fun row hrow => howned c n (hcovered _ hrow))
  rows c hc := by
    have hother : ∀ c', locks (.account c') = some n → c' ≠ c := by
      rintro c' hc' rfl
      rw [hc] at hc'
      exact hm (Option.some.inj hc')
    refine SameRows.seen_outside (fun w hw => ?_)
    have hw := hcovered w hw
    cases w with
    | account c' row => exact hother c' hw
    | holding key row =>
      cases row with
      | some row => exact hother _ hw
      | none =>
        rcases hw with hlock | hmissing
        · exact hother _ hlock
        · rintro hkey
          exact howned c m hc (hkey ▸ hmissing)
    | order row => trivial
    | dropOrders ids => trivial
    | audit row => trivial
  keys hall key hkey := by
    intro habsent
    refine hkey (seen_absent ?_ (.inl habsent))
    intro row hrow
    cases row with
    | none => rfl
    | some row =>
      have hlock : locks (.account (tickerCurrency key.val)) = some n := hcovered _ hrow
      have hmine := hall _ (howned _ n hlock)
      rw [hlock] at hmine
      exact absurd (Option.some.inj hmine).symm hm

end Frame

end MacroInvest.Broker
