import MacroInvest.Broker.OrderEffect

/-! # Runs of broker calls

The trace of a run is read as a journal: a filled order is an entry, a reset clears,
everything else leaves no mark. Each ledger law is then three obligations: the seeded
tables, one filled order, one reset.
-/
namespace MacroInvest.Broker
open CallRun Journal

inductive BrokerCall where
  | order (o : OrderRequest)
  | reset

inductive BrokerReply where
  | order (r : OrderResult)
  | reset

def brokerStep (db : BrokerDb) : BrokerCall → BrokerDb × BrokerReply
  | .order o => ((executeVirtualOrder db o).1,.order (executeVirtualOrder db o).2)
  | .reset => (resetVirtualPortfolio db,.reset)

abbrev BrokerTrace := List (BrokerCall × BrokerReply)

def mark : BrokerCall × BrokerReply → Mark Fill
  | (_,.order (.FILLED f)) => .entry f
  | (_,.reset) => .clear
  | _ => .skip

/-- What the orders filled since the last reset returned, oldest first. -/
def filledSinceReset (t : BrokerTrace) : List Fill := sinceClear (t.map mark)

def filledEver (t : BrokerTrace) : List Fill := everWritten (t.map mark)

@[simp] theorem filledSinceReset_nil : filledSinceReset [] = [] := rfl
@[simp] theorem filledEver_nil : filledEver [] = [] := rfl

@[simp] theorem filledSinceReset_concat (t : BrokerTrace) (p : BrokerCall × BrokerReply) :
    filledSinceReset (t ++ [p]) = write (filledSinceReset t) (mark p) := by
  simp [filledSinceReset]

@[simp] theorem filledEver_concat (t : BrokerTrace) (p : BrokerCall × BrokerReply) :
    filledEver (t ++ [p]) = filledEver t ++ (entryOf (mark p)).toList := by
  simp [filledEver]

/-- The amounts of the fills of one side that satisfy a condition, added up. -/
def sumOver (side : Side) (p : Fill → Prop) [DecidablePred p] (amount : Fill → ℚ)
    (fills : List Fill) : ℚ :=
  ((fills.filter (fun f => f.side = side ∧ p f)).map amount).sum

section Sums
variable (p : Fill → Prop) [DecidablePred p]

theorem sumOver_cons (side : Side) (amount : Fill → ℚ) (f : Fill) (fills : List Fill) :
    sumOver side p amount (f :: fills) =
      (if f.side = side ∧ p f then amount f else 0) + sumOver side p amount fills := by
  unfold sumOver
  by_cases h : f.side = side ∧ p f
  · rw [List.filter_cons_of_pos (by simpa using h),if_pos h,List.map_cons,List.sum_cons]
  · rw [List.filter_cons_of_neg (by simpa using h),if_neg h,zero_add]

/-- A journal whose amounts depend on the side splits into a BUY sum and a SELL sum. -/
theorem balance_sides (opening : ℚ) (bought sold : Fill → ℚ) (fills : List Fill) :
    balance opening (fun f => if p f then
      (match f.side with | .BUY => bought f | .SELL => sold f) else 0) fills =
    opening + sumOver .BUY p bought fills + sumOver .SELL p sold fills := by
  induction fills with
  | nil => simp [balance,sumOver]
  | cons f fills ih =>
    unfold balance at ih ⊢
    rw [sumOver_cons,sumOver_cons,List.map_cons,List.sum_cons]
    by_cases hp : p f
    · cases hs : f.side with
      | BUY => simp only [hp,and_self,if_true,reduceCtorEq,false_and,if_false]; linarith
      | SELL => simp only [hp,and_self,if_true,reduceCtorEq,false_and,if_false]; linarith
    · simp only [hp,and_false,if_false]
      linarith

theorem sumOver_neg (side : Side) (amount : Fill → ℚ) (fills : List Fill) :
    sumOver side p (fun f => -amount f) fills = -sumOver side p amount fills := by
  induction fills with
  | nil => simp [sumOver]
  | cons f fills ih =>
    rw [sumOver_cons,sumOver_cons,ih]
    split_ifs <;> ring

end Sums

/-- Every order of a list of calls meets a condition on the tables it finds and the request. -/
def OrdersMeetIn (G : BrokerDb → OrderRequest → Prop) (calls : List BrokerCall) : Prop :=
  Admits brokerStep (fun db c => ∀ o, c = .order o → G db o) seededDb calls

def OrdersMeet (G : OrderRequest → Prop) (calls : List BrokerCall) : Prop :=
  ∀ o, BrokerCall.order o ∈ calls → G o

theorem OrdersMeet.inTables {G : OrderRequest → Prop} {calls : List BrokerCall}
    (h : OrdersMeet G calls) : OrdersMeetIn (fun _ o => G o) calls :=
  admits_of_forall (fun _ _ hc o ho => h o (ho ▸ hc))

abbrev brokerFinal (calls : List BrokerCall) : BrokerDb := final brokerStep seededDb calls
abbrev brokerTrace (calls : List BrokerCall) : BrokerTrace := trace brokerStep seededDb calls

/-- The induction behind every ledger law of the broker. -/
theorem broker_induction {P : BrokerDb → List Fill → List Fill → Prop}
    {G : BrokerDb → OrderRequest → Prop} (hseed : P seededDb [] [])
    (hfilled : ∀ db since ever o db' f, G db o → P db since ever → Filled db o db' f →
      P db' (since ++ [f]) (ever ++ [f]))
    (hreset : ∀ db since ever, P db since ever → P (resetVirtualPortfolio db) [] ever)
    (calls : List BrokerCall) (hcalls : OrdersMeetIn G calls) :
    P (brokerFinal calls) (filledSinceReset (brokerTrace calls))
      (filledEver (brokerTrace calls)) := by
  refine run_induction (P := fun db t => P db (filledSinceReset t) (filledEver t))
    hseed ?_ calls hcalls
  intro db t c hc h
  cases c with
  | reset => simpa [brokerStep,mark,write,entryOf] using hreset db _ _ h
  | order o =>
    rcases executeVirtualOrder_cases db o with ⟨why,he⟩ | ⟨exc,he⟩ | ⟨db',f,he,hf⟩
    · simpa [brokerStep,he,mark,write,entryOf] using h
    · simpa [brokerStep,he,mark,write,entryOf] using h
    · simpa [brokerStep,he,mark,write,entryOf] using
        hfilled db _ _ o db' f (hc o rfl) h hf

theorem resetVirtualPortfolio_account {db : BrokerDb} {c : Currency} {account : AccountRow}
    (h : db.virtualAccounts c = some account) :
    (resetVirtualPortfolio db).virtualAccounts c =
      some { account with cashBalance := account.initialBalance } := by
  simp [resetVirtualPortfolio,h]

end MacroInvest.Broker
