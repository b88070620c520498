import MacroInvest.Broker.Isolation

/-! # What a statement adds

A statement that got its lock takes an order one stage on, and a reset one row or one
statement on. What the transaction relies on holds of the new stage as well.
-/
namespace MacroInvest.Broker
open RowLocks

/-- The locks of a transaction that has at most one row more. -/
def Locked (w : TxWorld) (n : ℕ) (locks : Locks RowKey) : Prop :=
  locks = w.locks ∨ ∃ key, w.locks.Free n key ∧
    (∀ c, key = .account c → w.db.virtualAccounts c ≠ none) ∧ locks = w.locks.take n key

section Locked
variable {w : TxWorld} {n m : ℕ} {locks : Locks RowKey} {key : RowKey}

theorem Locked.own (h : Locked w n locks) (hkey : w.locks key = some n) : locks key = some n := by
  rcases h with rfl | ⟨key',_,_,rfl⟩
  · exact hkey
  · exact Locks.take_own hkey

theorem Locked.other (h : Locked w n locks) (hm : m ≠ n) :
    locks key = some m ↔ w.locks key = some m := by
  rcases h with rfl | ⟨key',hfree,_,rfl⟩
  · rfl
  · exact Locks.take_other hfree hm

theorem Locked.owned (h : Locked w n locks)
    (howned : ∀ c m, w.locks (.account c) = some m → w.db.virtualAccounts c ≠ none) :
    ∀ c m, locks (.account c) = some m → w.db.virtualAccounts c ≠ none := by
  intro c m hc
  rcases h with rfl | ⟨key',_,hexists,rfl⟩
  · exact howned c m hc
  · by_cases hkey : key' = .account c
    · exact hexists c hkey
    · rw [Locks.take,Function.update_of_ne (Ne.symm hkey)] at hc
      exact howned c m hc

theorem locking_locked {row : Option RowKey} (h : w.locking n row = some locks)
    (hexists : ∀ c, row = some (.account c) → w.db.virtualAccounts c ≠ none) :
    Locked w n locks := by
  cases row with
  | none => exact .inl (Option.some.inj h).symm
  | some key =>
    simp only [TxWorld.locking] at h
    split at h
    · rename_i hfree
      exact .inr ⟨key,hfree,fun c hc => hexists c (by rw [hc]),(Option.some.inj h).symm⟩
    · cases h

theorem locking_own (h : w.locking n (some key) = some locks) : locks key = some n := by
  simp only [TxWorld.locking] at h
  split at h
  · rw [← Option.some.inj h]
    exact Locks.take_self
  · cases h

end Locked

section Orders
variable {db : BrokerDb} {locks locks' : Locks RowKey} {n : ℕ} {o : OrderRequest}

theorem lockedRow_account {view : BrokerDb} {stage : OrderStage} {c : Currency}
    (h : stage.lockedRow o view = some (.account c)) : view.virtualAccounts c ≠ none := by
  have haccount : (view.virtualAccounts o.currency).map (fun _ => RowKey.account o.currency) =
      some (.account c) → view.virtualAccounts c ≠ none := by
    intro hmap
    obtain ⟨account,haccount,hkey⟩ := Option.map_eq_some_iff.mp hmap
    cases hkey
    simp [haccount]
  have hholding : ∀ key : Option (Varchar 10), key.map RowKey.holding ≠ some (.account c) := by
    rintro (_ | key) hmap <;> cases hmap
  have hfound : ∀ row : Option HoldingRow, row.bind (fun _ =>
      (BrokerDb.rowKey o.ticker).map RowKey.holding) ≠ some (.account c) := by
    rintro (_ | row)
    · nofun
    · exact hholding _
  cases stage with
  | readAccount => exact haccount h
  | writeCash => exact haccount h
  | readHolding cash => exact absurd h (hfound _)
  | writeHolding heldQty heldCost =>
    simp only [OrderStage.lockedRow] at h
    split at h
    · exact absurd h (hholding _)
    · exact absurd h (hfound _)
  | insertOrder => cases h
  | insertAudit orderId => cases h
  | finish r => cases h

/-- A statement that got its lock takes the order one stage on. -/
theorem OrderInv.statement {w : TxWorld} {stage stage' : OrderStage} {writes more : List RowWrite}
    {nextId : ℕ} (h : OrderInv w.db w.locks n o stage writes) (hrunning : ∀ r, stage ≠ .finish r)
    (hlocking : w.locking n (stage.lockedRow o (w.db.seen writes)) = some locks)
    (hlocked : Locked w n locks)
    (hstatement : orderStatement o nextId (w.db.seen writes) stage = .ok (more,stage')) :
    OrderInv w.db locks n o stage' (writes ++ more) := by
  refine ⟨h.currency,h.positive,h.solo.statement nextId hstatement,?_⟩
  rcases h.guarded with ⟨rfl,rfl⟩ | hlock | ⟨_,_,hfinish⟩
  · cases haccount : w.db.virtualAccounts o.currency with
    | none =>
      simp only [orderStatement,BrokerDb.selectAccount,BrokerDb.seen_nil,haccount] at hstatement
      cases hstatement
      exact .inr (.inr ⟨rfl,rfl,rfl⟩)
    | some account =>
      simp only [OrderStage.lockedRow,BrokerDb.seen_nil,haccount,Option.map_some] at hlocking
      exact .inr (.inl (locking_own hlocking))
  · exact .inr (.inl (hlocked.own hlock))
  · exact absurd hfinish (hrunning _)

end Orders

section Resets
variable {db : BrokerDb} {locks : Locks RowKey} {n : ℕ} {writes : List RowWrite}

theorem resetInv_start (w : TxWorld) :
    TxInv w.db w.locks n (w.start .reset) where
  restored c row hrow := absurd hrow List.not_mem_nil
  deleted key row hrow := absurd hrow List.not_mem_nil
  accounts c hc := by
    refine .inl (List.mem_filter.mpr ⟨?_,Option.isSome_iff_ne_none.mpr hc⟩)
    cases c <;> simp
  holdings key _ := .inl trivial

/-- The deletion finds every holding there is, none of which the reset has touched yet. -/
theorem ResetInv.clearHoldings (h : ResetInv db locks n (.restoreAccounts []) writes) :
    ResetInv db locks n (.clearHoldings (db.seen writes).portfolioHoldings.keys) writes where
  restored := h.restored
  deleted key row hrow := ⟨(h.deleted key row hrow).1,trivial⟩
  accounts := h.accounts
  holdings key hkey := by
    have huntouched : ∀ row, RowWrite.holding key row ∉ writes :=
      fun row hrow => (h.deleted key row hrow).2
    rw [← seen_holding_other huntouched] at hkey
    exact .inl (AList.mem_keys.mp (by_contra fun hmem => hkey (AList.lookup_eq_none.mpr hmem)))

theorem ResetInv.clearOrders (h : ResetInv db locks n (.clearHoldings []) writes) :
    ResetInv db locks n .clearOrders writes where
  restored := h.restored
  deleted := h.deleted
  accounts := h.accounts
  holdings key hkey := .inr ((h.holdings key hkey).resolve_left List.not_mem_nil)

theorem ResetInv.finish (h : ResetInv db locks n .clearOrders writes) (ids : List ℕ) :
    ResetInv db locks n .finish (writes ++ [.dropOrders ids]) where
  restored c row hrow := h.restored c row (by simpa using hrow)
  deleted key row hrow := h.deleted key row (by simpa using hrow)
  accounts c hc := by
    refine (h.accounts c hc).imp_right ?_
    rintro ⟨row,hrow⟩
    exact ⟨row,List.mem_append_left _ hrow⟩
  holdings key hkey := (h.holdings key hkey).imp_right (List.mem_append_left _)

/-- The row a reset finds and writes back is the committed one with its cash restored. -/
theorem ResetInv.restoredRow {stage : ResetStage} (h : ResetInv db locks n stage writes)
    {c : Currency} {row : AccountRow} (hrow : (db.seen writes).virtualAccounts c = some row) :
    ∃ account, db.virtualAccounts c = some account ∧
      { row with cashBalance := row.initialBalance } =
        { account with cashBalance := account.initialBalance } := by
  by_cases hwritten : ∃ row', RowWrite.account c row' ∈ writes
  · obtain ⟨row',hrow'⟩ := hwritten
    obtain ⟨_,account,haccount,_⟩ := h.restored c row' hrow'
    have hall : ∀ row'', RowWrite.account c row'' ∈ writes →
        row'' = { account with cashBalance := account.initialBalance } := by
      intro row'' hrow''
      obtain ⟨_,account',haccount',heq⟩ := h.restored c row'' hrow''
      rw [haccount] at haccount'
      cases haccount'
      exact heq
    rw [seen_account hall ⟨row',hrow'⟩] at hrow
    cases hrow
    exact ⟨account,haccount,rfl⟩
  · rw [seen_account_other (fun row' hrow' => hwritten ⟨row',hrow'⟩)] at hrow
    exact ⟨row,hrow,rfl⟩

/-- The update reaches one more account row. -/
theorem ResetInv.restore {w : TxWorld} {todo : List Currency} {c : Currency} {row : AccountRow}
    {locks : Locks RowKey} (h : ResetInv w.db w.locks n (.restoreAccounts todo) writes)
    (hrow : (w.db.seen writes).virtualAccounts c = some row) (hlocked : Locked w n locks)
    (hc : locks (.account c) = some n) :
    ResetInv w.db locks n (.restoreAccounts (todo.filter (· ≠ c)))
      (writes ++ [.account c { row with cashBalance := row.initialBalance }]) where
  restored c' row' hrow' := by
    rcases List.mem_append.mp hrow' with hold | hnew
    · obtain ⟨hlock,hrest⟩ := h.restored c' row' hold
      exact ⟨hlocked.own hlock,hrest⟩
    · cases List.mem_singleton.mp hnew
      exact ⟨hc,h.restoredRow hrow⟩
  deleted key row' hrow' := h.deleted key row' (by simpa using hrow')
  accounts c' hc' := by
    by_cases heq : c' = c
    · subst heq
      exact .inr ⟨_,List.mem_append_right _ List.mem_cons_self⟩
    · rcases h.accounts c' hc' with htodo | ⟨row',hrow'⟩
      · exact .inl (List.mem_filter.mpr ⟨htodo,by simpa using heq⟩)
      · exact .inr ⟨row',List.mem_append_left _ hrow'⟩
  holdings key _ := .inl trivial

/-- An account row that is gone needs no update. -/
theorem ResetInv.skipAccount {todo : List Currency} {c : Currency}
    (h : ResetInv db locks n (.restoreAccounts todo) writes)
    (hgone : (db.seen writes).virtualAccounts c = none) :
    ResetInv db locks n (.restoreAccounts (todo.filter (· ≠ c))) writes where
  restored := h.restored
  deleted := h.deleted
  accounts c' hc' := by
    refine (h.accounts c' hc').imp_left (fun htodo => List.mem_filter.mpr ⟨htodo,?_⟩)
    have hmissing : (db.seen writes).virtualAccounts c' = none ↔ db.virtualAccounts c' = none :=
      seen_missing (fun _ _ => hc')
    have hne : c' ≠ c := by
      rintro rfl
      exact hc' (hmissing.mp hgone)
    simpa using hne
  holdings key _ := .inl trivial

/-- The deletion reaches one more holding, there or already gone. -/
theorem ResetInv.clear {w : TxWorld} {todo : List (Varchar 10)} {key : Varchar 10}
    {locks : Locks RowKey} {more : List RowWrite}
    (h : ResetInv w.db w.locks n (.clearHoldings todo) writes) (hlocked : Locked w n locks)
    (hmore : (more = [] ∧ (w.db.seen writes).portfolioHoldings.lookup key = none) ∨
      more = [.holding key none]) :
    ResetInv w.db locks n (.clearHoldings (todo.filter (· ≠ key))) (writes ++ more) where
  restored c row hrow := by
    have hold : RowWrite.account c row ∈ writes := by
      rcases hmore with ⟨rfl,_⟩ | rfl <;> simpa using hrow
    obtain ⟨hlock,hrest⟩ := h.restored c row hold
    exact ⟨hlocked.own hlock,hrest⟩
  deleted key' row hrow := by
    rcases List.mem_append.mp hrow with hold | hnew
    · exact h.deleted key' row hold
    · rcases hmore with ⟨rfl,_⟩ | rfl
      · cases hnew
      · cases List.mem_singleton.mp hnew
        exact ⟨rfl,trivial⟩
  accounts c hc := by
    refine (h.accounts c hc).imp_right ?_
    rintro ⟨row,hrow⟩
    exact ⟨row,List.mem_append_left _ hrow⟩
  holdings key' hkey' := by
    rcases h.holdings key' hkey' with htodo | hwritten
    · by_cases heq : key' = key
      · subst heq
        rcases hmore with ⟨rfl,hgone⟩ | rfl
        · by_contra hnot
          have huntouched : ∀ row, RowWrite.holding key' row ∉ writes := by
            intro row hrow
            obtain ⟨rfl,_⟩ := h.deleted key' row hrow
            exact hnot (.inr (List.mem_append_left _ hrow))
          rw [seen_holding_other huntouched] at hgone
          exact hkey' hgone
        · exact .inr (List.mem_append_right _ List.mem_cons_self)
      · exact .inl (List.mem_filter.mpr ⟨htodo,by simpa using heq⟩)
    · exact .inr (List.mem_append_left _ hwritten)

end Resets

end MacroInvest.Broker
