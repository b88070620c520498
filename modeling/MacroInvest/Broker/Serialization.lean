import MacroInvest.Broker.CashLedger
import MacroInvest.Broker.Progress

/-! # Concurrent calls in the order of their commits

At its commit a transaction does what its call does on the tables committed so far. The
commits in their order are therefore a run of whole calls, whatever the interleaving of their
statements was, and what the runs of calls keep the interleavings keep.
-/
namespace MacroInvest.Broker
open CallRun RowLocks

def BrokerReply.withoutId : BrokerReply → BrokerReply
  | .order r => .order r.withoutId
  | .reset => .reset

/-- The tables and the reply are those of the call on any tables with the given books. -/
def Serves (db : BrokerDb) (call : BrokerCall) (after : BrokerDb) (reply : BrokerReply) : Prop :=
  ∀ serial : BrokerDb, serial.books = db.books →
    (brokerStep serial call).1.books = after.books ∧
    (brokerStep serial call).2.withoutId = reply.withoutId

/-- The call a running transaction serves. -/
def TxState.call : TxState → Option BrokerCall
  | .order o _ _ => some (.order o)
  | .reset _ _ => some .reset
  | _ => none

/-- Everything an event can do in a run that begins the given calls. -/
inductive TxMove (begun : ℕ → BrokerCall → Prop) (w : TxWorld) : TxWorld → Prop where
  | wait : TxMove begun w w
  | advance (n : ℕ) (t : TxState) (db : BrokerDb) (locks : Locks RowKey)
      (hbooks : db.books = w.db.books) (hlocks : Locked w n locks)
      (hbefore : w.txs n ≠ .committed) (hafter : t ≠ .committed)
      (hcall : ∀ call, t.call = some call → begun n call) (hinv : TxInv w.db locks n t) :
      TxMove begun w { w.setTx n t with db := db, locks := locks }
  | rollback (n : ℕ) (hbefore : w.txs n ≠ .committed) : TxMove begun w (w.rollback n)
  | commit (n : ℕ) (call : BrokerCall) (reply : BrokerReply) (writes : List RowWrite)
      (hbefore : w.txs n ≠ .committed) (hcall : begun n call)
      (hcovered : ∀ wr ∈ writes, Covered w.db w.locks n wr)
      (hserves : Serves w.db call (w.db.seen writes) reply) :
      TxMove begun w (w.commit n call reply writes)

/-- Locked accounts are there, every transaction is where it would be alone, and it serves a
call of the run. -/
structure WorldInv (begun : ℕ → BrokerCall → Prop) (w : TxWorld) : Prop where
  owned : ∀ c n, w.locks (.account c) = some n → w.db.virtualAccounts c ≠ none
  txs : ∀ n, TxInv w.db w.locks n (w.txs n)
  calls : ∀ n call, (w.txs n).call = some call → begun n call

/-- The history is a run of whole calls, those of the run, and has every committed transaction
once. -/
structure Serial (begun : ℕ → BrokerCall → Prop) (db : BrokerDb) (w : TxWorld) : Prop where
  books : w.db.books = (final brokerStep db (w.history.map Commit.call)).books
  replies : (trace brokerStep db (w.history.map Commit.call)).map (fun p => (p.1,p.2.withoutId)) =
    w.history.map (fun c => (c.call,c.reply.withoutId))
  ids : (w.history.map Commit.id).Nodup
  committed : ∀ n, n ∈ w.history.map Commit.id ↔ w.txs n = .committed
  calls : ∀ c ∈ w.history, begun c.id c.call

section Moves
variable {begun : ℕ → BrokerCall → Prop} {db : BrokerDb} {w w' : TxWorld}

theorem calls_update {n : ℕ} {t : TxState} (h : ∀ m call, (w.txs m).call = some call → begun m call)
    (ht : ∀ call, t.call = some call → begun n call) :
    ∀ m call, (Function.update w.txs n t m).call = some call → begun m call := by
  intro m call hcall
  by_cases hm : m = n
  · subst hm
    rw [Function.update_self] at hcall
    exact ht call hcall
  · rw [Function.update_of_ne hm] at hcall
    exact h m call hcall

/-- Every move keeps what each transaction relies on. -/
theorem WorldInv.move (h : WorldInv begun w) (hmove : TxMove begun w w') : WorldInv begun w' := by
  cases hmove with
  | wait => exact h
  | advance n t db locks hbooks hlocks _ _ hcall hinv =>
    have haccounts : db.virtualAccounts = w.db.virtualAccounts := congrArg Prod.fst hbooks
    have hholdings : db.portfolioHoldings = w.db.portfolioHoldings := congrArg Prod.snd hbooks
    have hrows : ∀ c, SameRows c w.db db := fun c => SameRows.of_books hbooks.symm
    refine ⟨?_,fun m => ?_,calls_update h.calls hcall⟩
    · intro c m hc
      have hexists := hlocks.owned h.owned c m hc
      rwa [← haccounts] at hexists
    · by_cases hm : m = n
      · subst hm
        have hself : Undisturbed w.db locks m db locks :=
          ⟨fun _ hc => hc,fun c => by rw [haccounts],fun c _ => hrows c,
            fun _ key hkey => by rwa [hholdings] at hkey⟩
        simpa [TxWorld.setTx] using hinv.frame hself
      · have hother : Undisturbed w.db w.locks m db locks :=
          ⟨fun _ hc => (hlocks.other hm).mpr hc,fun c => by rw [haccounts],fun c _ => hrows c,
            fun _ key hkey => by rwa [hholdings] at hkey⟩
        simpa [TxWorld.setTx,Function.update_of_ne hm] using (h.txs m).frame hother
  | rollback n _ =>
    refine ⟨?_,fun m => ?_,calls_update h.calls (by nofun)⟩
    · intro c m hc
      exact h.owned c m (Locks.release_held hc)
    · by_cases hm : m = n
      · subst hm
        simp [TxWorld.rollback,TxWorld.setTx,TxInv]
      · have hother : Undisturbed w.db w.locks m w.db (w.locks.release n) :=
          ⟨fun _ hc => (Locks.release_other hm).mpr hc,fun _ => Iff.rfl,
            fun _ _ => SameRows.of_books rfl,fun _ _ hkey => hkey⟩
        simpa [TxWorld.rollback,TxWorld.setTx,Function.update_of_ne hm] using
          (h.txs m).frame hother
  | commit n call reply writes _ _ hcovered _ =>
    refine ⟨?_,fun m => ?_,calls_update h.calls (by nofun)⟩
    · intro c m hc
      have hexists := h.owned c m (Locks.release_held hc)
      rwa [ne_eq,TxWorld.commit,
        seen_missing (fun row hrow => h.owned c n (hcovered _ hrow))]
    · by_cases hm : m = n
      · subst hm
        simp [TxWorld.commit,TxInv]
      · have hother := undisturbed_commit hm h.owned hcovered
        simpa [TxWorld.commit,Function.update_of_ne hm] using (h.txs m).frame hother

theorem Serial.move (h : Serial begun db w) (hmove : TxMove begun w w') : Serial begun db w' := by
  have hkept : ∀ {n : ℕ} {t : TxState}, w.txs n ≠ .committed → t ≠ .committed → ∀ m,
      m ∈ w.history.map Commit.id ↔ Function.update w.txs n t m = .committed := by
    intro n t hbefore hafter m
    rw [h.committed m]
    by_cases hm : m = n
    · subst hm
      simp [hbefore,hafter]
    · rw [Function.update_of_ne hm]
  cases hmove with
  | wait => exact h
  | advance n t db locks hbooks _ hbefore hafter _ _ =>
    exact ⟨hbooks.trans h.books,h.replies,h.ids,hkept hbefore hafter,h.calls⟩
  | rollback n hbefore => exact ⟨h.books,h.replies,h.ids,hkept hbefore (by nofun),h.calls⟩
  | commit n call reply writes hbefore hcall _ hserves =>
    obtain ⟨hafter,hreply⟩ := hserves _ h.books.symm
    have hnew : n ∉ w.history.map Commit.id := fun hn => hbefore ((h.committed n).mp hn)
    refine ⟨?_,?_,?_,?_,?_⟩
    · simp only [TxWorld.commit,List.map_append,List.map_singleton,final_concat]
      exact hafter.symm
    · simp only [TxWorld.commit,List.map_append,List.map_singleton,trace_concat,h.replies,hreply]
    · simp only [TxWorld.commit,List.map_append,List.map_singleton]
      exact List.nodup_append.mpr ⟨h.ids,List.nodup_singleton n,by
        intro a ha b hb
        rw [List.mem_singleton.mp hb]
        rintro rfl
        exact hnew ha⟩
    · intro m
      simp only [TxWorld.commit,List.map_append,List.map_singleton,List.mem_append,
        List.mem_singleton]
      rw [h.committed m]
      by_cases hm : m = n
      · subst hm
        simp
      · simp [hm]
    · intro c hc
      rcases List.mem_append.mp hc with hold | hnew
      · exact h.calls c hold
      · rw [List.mem_singleton.mp hnew]
        exact hcall

end Moves

section Serves
variable {db : BrokerDb} {locks : Locks RowKey} {n : ℕ} {writes : List RowWrite}

theorem OrderInv.serves {o : OrderRequest} {r : OrderResult}
    (h : OrderInv db locks n o (.finish r) writes) :
    Serves db (.order o) (db.seen writes) (.order r) := by
  intro serial hserial
  have houtcome : bookOutcome (orderTransaction serial o) =
      .ok ((db.seen writes).books,r.withoutId) := by
    rw [orderTransaction_books hserial o,← h.solo.rest]
    rfl
  have hquantity := not_le.mpr h.positive.1
  have hprice := not_le.mpr h.positive.2
  simp only [brokerStep,executeVirtualOrder,if_neg hquantity,if_neg hprice]
  cases hrun : orderTransaction serial o with
  | error exc =>
    rw [hrun] at houtcome
    cases houtcome
  | ok done =>
    rw [hrun] at houtcome
    have hdone := Except.ok.inj houtcome
    exact ⟨congrArg Prod.fst hdone,congrArg BrokerReply.order (congrArg Prod.snd hdone)⟩

theorem ResetInv.serves (h : ResetInv db locks n .finish writes) :
    Serves db .reset (db.seen writes) .reset := by
  intro serial hserial
  refine ⟨?_,rfl⟩
  have hsame : serial.virtualAccounts = db.virtualAccounts := congrArg Prod.fst hserial
  have haccounts : (resetVirtualPortfolio serial).virtualAccounts =
      (db.seen writes).virtualAccounts := by
    funext c
    cases haccount : db.virtualAccounts c with
    | none =>
      have hmissing : (db.seen writes).virtualAccounts c = none := by
        refine (seen_missing (fun row hrow => ?_)).mpr haccount
        obtain ⟨_,account,hexists,_⟩ := h.restored c row hrow
        simp [hexists]
      simp [resetVirtualPortfolio,hsame,haccount,hmissing]
    | some account =>
      have hwritten : ∃ row, RowWrite.account c row ∈ writes :=
        (h.accounts c (by simp [haccount])).resolve_left List.not_mem_nil
      rw [resetVirtualPortfolio_account (hsame ▸ haccount)]
      refine (seen_account ?_ hwritten).symm
      intro row hrow
      obtain ⟨_,account',haccount',rfl⟩ := h.restored c row hrow
      rw [haccount] at haccount'
      cases haccount'
      rfl
  have hholdings : (db.seen writes).portfolioHoldings = ∅ := by
    refine holdings_eq_empty (fun key => seen_absent (fun row hrow => (h.deleted key row hrow).1) ?_)
    by_cases hkey : db.portfolioHoldings.lookup key = none
    · exact .inl hkey
    · exact .inr ((h.holdings key hkey).resolve_left id)
  exact Prod.ext haccounts hholdings.symm

end Serves

section Steps
variable {begun : ℕ → BrokerCall → Prop} {w : TxWorld} {n : ℕ}

theorem seen_exists (h : WorldInv begun w) {writes : List RowWrite}
    (hcovered : ∀ wr ∈ writes, Covered w.db w.locks n wr) {c : Currency}
    (hc : (w.db.seen writes).virtualAccounts c ≠ none) : w.db.virtualAccounts c ≠ none := by
  rwa [ne_eq,seen_missing (fun row hrow => h.owned c n (hcovered _ hrow))] at hc

theorem WorldInv.order (h : WorldInv begun w) {o : OrderRequest} {stage : OrderStage}
    {writes : List RowWrite} (htx : w.txs n = .order o stage writes) :
    w.txs n ≠ .committed ∧ begun n (.order o) ∧ OrderInv w.db w.locks n o stage writes := by
  have hcall := h.calls n (.order o)
  have hinv := h.txs n
  rw [htx] at hcall hinv ⊢
  exact ⟨by nofun,hcall rfl,hinv⟩

theorem WorldInv.reset (h : WorldInv begun w) {stage : ResetStage} {writes : List RowWrite}
    (htx : w.txs n = .reset stage writes) : w.txs n ≠ .committed ∧
      (∀ call, some BrokerCall.reset = some call → begun n call) ∧
      ResetInv w.db w.locks n stage writes := by
  have hcall := h.calls n
  have hinv := h.txs n
  rw [htx] at hcall hinv ⊢
  exact ⟨by nofun,hcall,hinv⟩

theorem setTx_move {t : TxState} (hbefore : w.txs n ≠ .committed) (hafter : t ≠ .committed)
    (hcall : ∀ call, t.call = some call → begun n call) (hinv : TxInv w.db w.locks n t) :
    TxMove begun w (w.setTx n t) :=
  .advance n t w.db w.locks rfl (.inl rfl) hbefore hafter hcall hinv

theorem drawId_books (stage : OrderStage) : (w.drawId stage).books = w.db.books := by
  cases stage <;> rfl

theorem orderStep_move (h : WorldInv begun w) {o : OrderRequest} {stage : OrderStage}
    {writes : List RowWrite} (htx : w.txs n = .order o stage writes) :
    TxMove begun w (w.orderStep n o stage writes) := by
  obtain ⟨hbefore,hcall,hinv⟩ := h.order htx
  by_cases hfinish : ∃ r, stage = .finish r
  · obtain ⟨r,rfl⟩ := hfinish
    exact .commit n _ _ writes hbefore hcall hinv.covered hinv.serves
  · have hrunning : ∀ r, stage ≠ .finish r := fun r hr => hfinish ⟨r,hr⟩
    unfold TxWorld.orderStep
    split
    · exact absurd rfl (hrunning _)
    simp only
    split
    · exact .wait
    · rename_i locks hlocking
      have hlocked := locking_locked hlocking
        (fun c hc => seen_exists h hinv.covered (lockedRow_account hc))
      split
      · exact .rollback n hbefore
      · rename_i more stage' hstatement
        have hsame : ∀ call, some (BrokerCall.order o) = some call → begun n call :=
          fun call hc => Option.some.inj hc ▸ hcall
        exact .advance n _ _ locks (drawId_books stage) hlocked hbefore (by nofun) hsame
          (hinv.statement hrunning hlocking hlocked hstatement)

theorem resetStep_move (h : WorldInv begun w) {stage : ResetStage} {writes : List RowWrite}
    (htx : w.txs n = .reset stage writes) : TxMove begun w (w.resetStep n stage writes) := by
  obtain ⟨hbefore,hcall,hinv⟩ := h.reset htx
  unfold TxWorld.resetStep
  split
  · exact setTx_move hbefore (by nofun) hcall hinv.clearHoldings
  · exact setTx_move hbefore (by nofun) hcall hinv.clearOrders
  · exact setTx_move hbefore (by nofun) hcall (hinv.finish _)
  · exact .commit n _ _ writes hbefore (hcall _ rfl) hinv.covered hinv.serves
  · exact .wait

theorem restoreStep_move (h : WorldInv begun w) {c : Currency} {todo : List Currency}
    {writes : List RowWrite} (htx : w.txs n = .reset (.restoreAccounts todo) writes) :
    TxMove begun w (w.restoreStep n c todo writes) := by
  obtain ⟨hbefore,hcall,hinv⟩ := h.reset htx
  unfold TxWorld.restoreStep
  simp only
  split
  · rename_i hgone
    exact setTx_move hbefore (by nofun) hcall (hinv.skipAccount hgone)
  · rename_i account haccount
    split
    · exact .wait
    · rename_i locks hlocking
      have hlocked := locking_locked hlocking (fun c' hc' => by
        cases hc'
        exact seen_exists h hinv.covered (by simp [haccount]))
      exact .advance n _ w.db locks rfl hlocked hbefore (by nofun) hcall
        (hinv.restore haccount hlocked (locking_own hlocking))

theorem clearStep_move (h : WorldInv begun w) {key : Varchar 10} {todo : List (Varchar 10)}
    {writes : List RowWrite} (htx : w.txs n = .reset (.clearHoldings todo) writes) :
    TxMove begun w (w.clearStep n key todo writes) := by
  obtain ⟨hbefore,hcall,hinv⟩ := h.reset htx
  unfold TxWorld.clearStep
  simp only
  split
  · rename_i hgone
    have hskipped := hinv.clear (.inl rfl) (.inl ⟨rfl,hgone⟩)
    rw [List.append_nil] at hskipped
    exact setTx_move hbefore (by nofun) hcall hskipped
  · split
    · exact .wait
    · rename_i locks hlocking
      have hlocked := locking_locked hlocking (fun c hc => by cases hc)
      exact .advance n _ w.db locks rfl hlocked hbefore (by nofun) hcall
        (hinv.clear hlocked (.inr rfl))

theorem start_move {call : BrokerCall} (hkeeps : ∀ n o, begun n (.order o) → o.KeepsCurrency)
    (hcall : begun n call) (htx : w.txs n = .absent) : TxMove begun w (w.setTx n (w.start call)) := by
  have hbefore : w.txs n ≠ .committed := by
    rw [htx]
    nofun
  cases call with
  | reset =>
    exact setTx_move hbefore (by nofun) (fun call hc => Option.some.inj hc ▸ hcall)
      (resetInv_start w)
  | order o =>
    by_cases hrefused : o.quantity ≤ 0 ∨ o.price ≤ 0
    · rw [TxWorld.start,if_pos hrefused]
      exact setTx_move hbefore (by nofun) (by nofun) trivial
    · rw [TxWorld.start,if_neg hrefused]
      have hpositive : 0 < o.quantity ∧ 0 < o.price := by
        simpa [not_or] using hrefused
      have hinv : OrderInv w.db w.locks n o .readAccount [] :=
        ⟨hkeeps n o hcall,hpositive,.start,.inl ⟨rfl,rfl⟩⟩
      exact setTx_move hbefore (by nofun) (fun call hc => Option.some.inj hc ▸ hcall) hinv

/-- Every event makes one of the moves. -/
theorem txStep_move (h : WorldInv begun w) (e : TxEvent)
    (hkeeps : ∀ n o, begun n (.order o) → o.KeepsCurrency)
    (hstart : ∀ n call, e = .start n call → begun n call) : TxMove begun w (txStep w e) := by
  cases e with
  | start n call =>
    simp only [txStep]
    split
    · rename_i htx
      exact start_move hkeeps (hstart n call rfl) htx
    · exact .wait
  | statement n =>
    simp only [txStep]
    split
    · rename_i htx
      exact orderStep_move h htx
    · rename_i htx
      exact resetStep_move h htx
    · exact .wait
  | restore n c =>
    simp only [txStep]
    split
    · rename_i htx
      split
      · exact restoreStep_move h htx
      · exact .wait
    · exact .wait
  | clear n key =>
    simp only [txStep]
    split
    · rename_i htx
      split
      · exact clearStep_move h htx
      · exact .wait
    · exact .wait
  | abort n =>
    simp only [txStep]
    split
    · rename_i htx
      exact .rollback n (by rw [htx]; nofun)
    · rename_i htx
      exact .rollback n (by rw [htx]; nofun)
    · exact .wait

end Steps

theorem quiet_inv (begun : ℕ → BrokerCall → Prop) (db : BrokerDb) : WorldInv begun (quiet db) where
  owned c n hc := by cases hc
  txs n := trivial
  calls n call hcall := by cases hcall

theorem quiet_serial (begun : ℕ → BrokerCall → Prop) (db : BrokerDb) :
    Serial begun db (quiet db) where
  books := rfl
  replies := rfl
  ids := List.nodup_nil
  committed n := by simp [quiet]
  calls c hc := by cases hc

/-- In every run the history is a run of whole calls. -/
theorem runTxs_serial (begun : ℕ → BrokerCall → Prop)
    (hkeeps : ∀ n o, begun n (.order o) → o.KeepsCurrency) (db : BrokerDb) (events : List TxEvent)
    (hbegun : ∀ n call, TxEvent.start n call ∈ events → begun n call) :
    WorldInv begun (runTxs db events) ∧ Serial begun db (runTxs db events) := by
  induction events using List.reverseRecOn with
  | nil => exact ⟨quiet_inv begun db,quiet_serial begun db⟩
  | append_singleton events e ih =>
    obtain ⟨hinv,hserial⟩ := ih (fun n call hc => hbegun n call (List.mem_append_left _ hc))
    have hmove : TxMove begun (runTxs db events) (txStep (runTxs db events) e) := by
      refine txStep_move hinv e hkeeps (fun n call he => hbegun n call ?_)
      rw [he]
      exact List.mem_append_right _ List.mem_cons_self
    rw [runTxs,List.foldl_concat]
    exact ⟨hinv.move hmove,hserial.move hmove⟩

/-- Orders with costs in range and resets keep the accounts solvent from any tables. -/
theorem solvent_final (db : BrokerDb) (hdb : Solvent db) (calls : List BrokerCall)
    (hcalls : OrdersMeet OrderRequest.CostsInRange calls) : Solvent (final brokerStep db calls) := by
  refine run_induction (P := fun db _ => Solvent db)
    (G := fun _ c => ∀ o, c = .order o → o.CostsInRange) hdb ?_ calls
    (admits_of_forall (fun _ c hc o ho => hcalls o (ho ▸ hc)))
  intro db _ c hc h
  cases c with
  | reset => exact solvent_reset h
  | order o =>
    rcases executeVirtualOrder_cases db o with ⟨why,he⟩ | ⟨exc,he⟩ | ⟨db',f,he,hf⟩
    · simpa [brokerStep,he] using h
    · simpa [brokerStep,he] using h
    · simpa [brokerStep,he] using solvent_filled (hc o rfl) hf h

/-- However the statements of orders and resets interleave, the books are those of the
committed calls run one after another in the order of their commits, with the replies their
callers got, and every committed call is there once; no account goes negative. -/
theorem concurrent_calls_serialize (db : BrokerDb) (events : List TxEvent)
    (htickers : ∀ n o, TxEvent.start n (.order o) ∈ events → o.KeepsCurrency) :
    let w := runTxs db events
    let calls := w.history.map Commit.call
    w.db.virtualAccounts = (final brokerStep db calls).virtualAccounts ∧
    w.db.portfolioHoldings = (final brokerStep db calls).portfolioHoldings ∧
    (trace brokerStep db calls).map (fun p => (p.1,p.2.withoutId)) =
      w.history.map (fun c => (c.call,c.reply.withoutId)) ∧
    (w.history.map Commit.id).Nodup ∧
    (∀ n, n ∈ w.history.map Commit.id ↔ w.txs n = .committed) ∧
    (∀ c ∈ w.history, TxEvent.start c.id c.call ∈ events) ∧
    (Solvent db → OrdersMeet OrderRequest.CostsInRange calls → Solvent w.db) := by
  intro w calls
  obtain ⟨-,hserial⟩ := runTxs_serial (fun n call => TxEvent.start n call ∈ events) htickers
    db events (fun n call hc => hc)
  have haccounts : w.db.virtualAccounts = (final brokerStep db calls).virtualAccounts :=
    congrArg Prod.fst hserial.books
  refine ⟨haccounts,congrArg Prod.snd hserial.books,hserial.replies,hserial.ids,
    hserial.committed,hserial.calls,?_⟩
  intro hsolvent hcosts c account haccount
  rw [haccounts] at haccount
  exact solvent_final db hsolvent calls hcosts c account haccount

def buyOf (ticker : String) (quantity price : ℚ) : OrderRequest :=
  { ticker, side := .BUY, quantity, price }

/-- Two orders on one ticker and a reset, which waits for the accounts it finds locked. -/
def race : List TxEvent :=
  [TxEvent.start 1 (.order (buyOf "AAPL" 10 195)),TxEvent.start 2 (.order (buyOf "AAPL" 5 196)),
    TxEvent.start 3 .reset,TxEvent.statement 1,TxEvent.statement 2,TxEvent.restore 3 .KRW,
    TxEvent.restore 3 .USD] ++
  List.replicate 6 (TxEvent.statement 1) ++ List.replicate 7 (TxEvent.statement 2) ++
  [TxEvent.restore 3 .USD,TxEvent.statement 3,TxEvent.clear 3 ⟨"AAPL",by decide⟩,
    TxEvent.statement 3,TxEvent.statement 3,TxEvent.statement 3]

theorem race_orders {n : ℕ} {o : OrderRequest} (h : TxEvent.start n (.order o) ∈ race) :
    o.ticker = "AAPL" ∧ o.commissionRate = 0.00025 ∧ o.slippagePct = 0.001 := by
  simp only [race,List.mem_append,List.mem_cons,TxEvent.start.injEq,BrokerCall.order.injEq,
    reduceCtorEq,List.not_mem_nil,List.mem_replicate,and_false,or_false] at h
  rcases h with ⟨_,rfl⟩ | ⟨_,rfl⟩ <;> exact ⟨rfl,rfl,rfl⟩

theorem concurrent_calls_serialize_race :
    let w := runTxs seededDb race
    let calls := w.history.map Commit.call
    w.history.map Commit.id = [1,2,3] ∧
    w.db.virtualAccounts = (final brokerStep seededDb calls).virtualAccounts ∧
    w.db.portfolioHoldings = (final brokerStep seededDb calls).portfolioHoldings ∧
    Solvent w.db := by
  intro w calls
  have htickers : ∀ n o, TxEvent.start n (.order o) ∈ race → o.KeepsCurrency := by
    intro n o ho
    refine keepsCurrency_of_fits ?_
    rw [(race_orders ho).1]
    decide
  obtain ⟨haccounts,hholdings,_,_,_,hstarted,hsolvent⟩ :=
    concurrent_calls_serialize seededDb race htickers
  refine ⟨by decide +kernel,haccounts,hholdings,hsolvent solvent_seed ?_⟩
  intro o ho
  obtain ⟨c,hc,hcall⟩ := List.mem_map.mp ho
  obtain ⟨_,hrate,hslippage⟩ := race_orders (hcall ▸ hstarted c hc)
  constructor
  all_goals norm_num [hrate,hslippage]

/-- A KRW ticker and the same digits with a blank, a USD ticker stored under the same key: both
orders find no holding, and the second write overwrites the first. -/
def paddedRace : List TxEvent :=
  [TxEvent.start 1 (.order (buyOf "1234567890" 2 10)),
    TxEvent.start 2 (.order (buyOf "1234567890 " 5 10)),TxEvent.statement 1,TxEvent.statement 1] ++
  List.replicate 7 (TxEvent.statement 2) ++ List.replicate 5 (TxEvent.statement 1)

/-- The shares of the padded race after its calls in some order. -/
def sharesAfter (calls : List BrokerCall) : ℚ :=
  (final brokerStep seededDb calls).heldQty "1234567890"

/-- A sale at the last price paid with a commission of twice the notional. -/
def ruinousSale : List TxEvent :=
  [TxEvent.start 1 (.order (buyOf "AAPL" 500 195)),
    TxEvent.start 2 (.order { buyOf "AAPL" 500 195 with side := .SELL, commissionRate := 2 })] ++
  List.replicate 7 (TxEvent.statement 1) ++ List.replicate 7 (TxEvent.statement 2)

/-- Neither order of the two committed calls leaves the shares that the race leaves, and a
commission above the notional takes an account below zero. -/
theorem padded_ticker_overwrites :
    ((runTxs seededDb paddedRace).history.map Commit.id = [2,1] ∧
      (runTxs seededDb paddedRace).db.heldQty "1234567890" = 2 ∧
      sharesAfter ((runTxs seededDb paddedRace).history.map Commit.call) = 7 ∧
      sharesAfter ((runTxs seededDb paddedRace).history.map Commit.call).reverse = 5) ∧
    ((runTxs seededDb ruinousSale).history.map Commit.id = [1,2] ∧
      ((runTxs seededDb ruinousSale).db.virtualAccounts .USD).any
        (fun account => account.cashBalance.val < 0) = true) := by
  decide +kernel

end MacroInvest.Broker
