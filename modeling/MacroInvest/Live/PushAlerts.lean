import MacroInvest.Library.CallRun

/-! # Push subscriptions under broadcasts

A broadcast lists the subscriptions, sends to one after the other, and afterwards deletes the
endpoints whose send did not succeed. Requests store and remove subscriptions meanwhile, and
several broadcasts may be under way. A row is read by endpoint and keys and deleted by
endpoint alone.
-/
namespace MacroInvest.Live
open CallRun

/-- A row of `push_subscriptions`; its id is its place in the table. -/
structure Subscription where
  endpoint : String
  p256dh : String
  auth : String
  deriving DecidableEq

/-- What becomes of a post to the push service: a response, or anything that raises. -/
inductive PushAnswer where
  | status (code : ℕ)
  | exception
  deriving DecidableEq

/-- A request body: a field is missing, or `keys` is no object. -/
structure SubscribeBody where
  endpoint : Option String
  keys : Option (Option String × Option String)

inductive PushReply where
  | subscribed
  | unsubscribed
  | vapidNotConfigured
  | fieldsRequired
  | pending
  | sent (sub : Subscription) (answer : PushAnswer)
  | invalid (sub : Subscription)
  deriving DecidableEq

/-- A broadcast past its listing: what it has still to send to, and what it will delete. -/
structure Broadcast where
  todo : List Subscription
  stale : List Subscription

structure PushServer where
  subscriptions : List Subscription
  broadcasts : ℕ → Option Broadcast

/-- Every call to the database may fail, and is then logged and forgotten. -/
inductive PushEvent where
  | subscribe (vapid : Bool) (body : SubscribeBody) (dbOk : Bool)
  | unsubscribe (endpoint : String) (dbOk : Bool)
  | list (n : ℕ) (dbOk : Bool)
  | send (n : ℕ) (answer : PushAnswer)
  | delete (n : ℕ) (dbOk : Bool)

def Subscription.Complete (sub : Subscription) : Prop :=
  sub.endpoint ≠ "" ∧ sub.p256dh ≠ "" ∧ sub.auth ≠ ""

instance (sub : Subscription) : Decidable sub.Complete := inferInstanceAs (Decidable (_ ∧ _))

/-- The body as the handler reads it, with empty texts for what is missing. -/
def SubscribeBody.read (body : SubscribeBody) : Subscription :=
  let keys := body.keys.getD (none,none)
  ⟨body.endpoint.getD "",keys.1.getD "",keys.2.getD ""⟩

def upsertPushSubscription (sub : Subscription) (rows : List Subscription) : List Subscription :=
  if sub.endpoint ∈ rows.map Subscription.endpoint then
    rows.map (fun row => if row.endpoint = sub.endpoint then sub else row)
  else rows ++ [sub]

def deletePushSubscription (endpoint : String) (rows : List Subscription) : List Subscription :=
  rows.filter (fun row => row.endpoint ≠ endpoint)

/-- `send_web_push`: nothing goes out for an incomplete subscription. -/
def sendWebPush (sub : Subscription) (answer : PushAnswer) : PushReply × Bool :=
  if sub.Complete then (.sent sub answer,answer = .status 200 ∨ answer = .status 201)
  else (.invalid sub,false)

namespace PushServer
variable (s : PushServer)

def setBroadcast (n : ℕ) (b : Broadcast) : PushServer :=
  { s with broadcasts := Function.update s.broadcasts n (some b) }

def subscribePush (vapid : Bool) (body : SubscribeBody) (dbOk : Bool) : PushServer × PushReply :=
  if !vapid then (s,.vapidNotConfigured)
  else if body.read.Complete then
    let rows := if dbOk then upsertPushSubscription body.read s.subscriptions else s.subscriptions
    ({ s with subscriptions := rows },.subscribed)
  else (s,.fieldsRequired)

def unsubscribePush (endpoint : String) (dbOk : Bool) : PushServer × PushReply :=
  let rows := if dbOk then deletePushSubscription endpoint s.subscriptions else s.subscriptions
  ({ s with subscriptions := rows },.unsubscribed)

def listFor (n : ℕ) (dbOk : Bool) : PushServer :=
  match s.broadcasts n with
  | none => s.setBroadcast n ⟨if dbOk then s.subscriptions else [],[]⟩
  | some _ => s

/-- The next send of a broadcast; every outcome but success makes the endpoint stale. -/
def sendNext (n : ℕ) (answer : PushAnswer) : PushServer × PushReply :=
  match s.broadcasts n with
  | some ⟨sub :: todo,stale⟩ =>
    let sent := sendWebPush sub answer
    (s.setBroadcast n ⟨todo,if sent.2 then stale else stale ++ [sub]⟩,sent.1)
  | _ => (s,.pending)

/-- The next delete of a broadcast that has sent to all; an empty endpoint is skipped. -/
def deleteNext (n : ℕ) (dbOk : Bool) : PushServer :=
  match s.broadcasts n with
  | some ⟨[],sub :: stale⟩ =>
    { s.setBroadcast n ⟨[],stale⟩ with
      subscriptions := if sub.endpoint ≠ "" ∧ dbOk then
        deletePushSubscription sub.endpoint s.subscriptions else s.subscriptions }
  | _ => s

end PushServer

def pushStep (s : PushServer) : PushEvent → PushServer × PushReply
  | .subscribe vapid body dbOk => s.subscribePush vapid body dbOk
  | .unsubscribe endpoint dbOk => s.unsubscribePush endpoint dbOk
  | .list n dbOk => (s.listFor n dbOk,.pending)
  | .send n answer => s.sendNext n answer
  | .delete n dbOk => (s.deleteNext n dbOk,.pending)

def noSubscriptions : PushServer := ⟨[],fun _ => none⟩

/-- The endpoint of a stored subscription is not stored any more. -/
def Removes (s s' : PushServer) (sub : Subscription) : Prop :=
  sub ∈ s.subscriptions ∧ sub.endpoint ∉ s'.subscriptions.map Subscription.endpoint

/-- Whatever a run removes, its owner unsubscribed, or a send to it with the stored keys was
answered 410 before. -/
def NeverDropped (events : List PushEvent) : Prop :=
  ∀ front e, front ++ [e] <+: events → ∀ sub,
    Removes (final pushStep noSubscriptions front)
      (pushStep (final pushStep noSubscriptions front) e).1 sub →
    (∃ dbOk, e = .unsubscribe sub.endpoint dbOk) ∨
      ∃ p ∈ trace pushStep noSubscriptions front, p.2 = .sent sub (.status 410)

/-- A send is answered with success or 410, and what a broadcast deletes is stored, if at all,
as the broadcast listed it. -/
def GoneOnly (s : PushServer) : PushEvent → Prop
  | .send _ answer => answer ∈ [.status 200,.status 201,.status 410]
  | .delete n _ => ∀ b, s.broadcasts n = some b → ∀ sub, b.stale.head? = some sub →
      ∀ row ∈ s.subscriptions, row.endpoint = sub.endpoint → row = sub
  | _ => True

theorem upsert_endpoints {sub row : Subscription} {rows : List Subscription} (h : row ∈ rows) :
    row.endpoint ∈ (upsertPushSubscription sub rows).map Subscription.endpoint := by
  unfold upsertPushSubscription
  split
  · rw [List.map_map]
    refine List.mem_map.mpr ⟨row,h,?_⟩
    by_cases hrow : row.endpoint = sub.endpoint <;> simp [hrow]
  · rw [List.map_append]
    exact List.mem_append_left _ (List.mem_map_of_mem h)

theorem mem_upsert {sub row : Subscription} {rows : List Subscription}
    (h : row ∈ upsertPushSubscription sub rows) : row = sub ∨ row ∈ rows := by
  unfold upsertPushSubscription at h
  split at h
  · obtain ⟨old,hold,hrow⟩ := List.mem_map.mp h
    split at hrow
    · exact .inl hrow.symm
    · exact .inr (hrow ▸ hold)
  · rcases List.mem_append.mp h with h | h
    · exact .inr h
    · exact .inl (List.mem_singleton.mp h)

/-- What a run keeps: complete rows are stored and listed, and a stale one got its 410. -/
structure Answered (s : PushServer) (h : List (PushEvent × PushReply)) : Prop where
  stored : ∀ sub ∈ s.subscriptions, sub.Complete
  listed : ∀ n b, s.broadcasts n = some b → ∀ sub ∈ b.todo, sub.Complete
  stale : ∀ n b, s.broadcasts n = some b → ∀ sub ∈ b.stale,
    ∃ p ∈ h, p.2 = .sent sub (.status 410)

section Steps
variable {s : PushServer} {h : List (PushEvent × PushReply)}

theorem Answered.later (ha : Answered s h) (p : PushEvent × PushReply) :
    Answered s (h ++ [p]) := by
  refine ⟨ha.stored,ha.listed,?_⟩
  intro n b hb sub hsub
  obtain ⟨q,hq,hsent⟩ := ha.stale n b hb sub hsub
  exact ⟨q,List.mem_append_left _ hq,hsent⟩

theorem Answered.setRows (ha : Answered s h) {rows : List Subscription}
    (hrows : ∀ sub ∈ rows, sub.Complete) : Answered { s with subscriptions := rows } h :=
  ⟨hrows,ha.listed,ha.stale⟩

theorem Answered.setBroadcast (ha : Answered s h) (n : ℕ) {b : Broadcast}
    (htodo : ∀ sub ∈ b.todo, sub.Complete)
    (hstale : ∀ sub ∈ b.stale, ∃ p ∈ h, p.2 = .sent sub (.status 410)) :
    Answered (s.setBroadcast n b) h := by
  refine ⟨ha.stored,?_,?_⟩
  · intro m b' hb'
    by_cases hm : m = n
    · subst hm
      simp only [PushServer.setBroadcast,Function.update_self,Option.some.injEq] at hb'
      rw [← hb']
      exact htodo
    · simp only [PushServer.setBroadcast,Function.update_of_ne hm] at hb'
      exact ha.listed m b' hb'
  · intro m b' hb'
    by_cases hm : m = n
    · subst hm
      simp only [PushServer.setBroadcast,Function.update_self,Option.some.injEq] at hb'
      rw [← hb']
      exact hstale
    · simp only [PushServer.setBroadcast,Function.update_of_ne hm] at hb'
      exact ha.stale m b' hb'

theorem delete_complete (ha : Answered s h) (endpoint : String) :
    ∀ sub ∈ deletePushSubscription endpoint s.subscriptions, sub.Complete :=
  fun sub hsub => ha.stored sub (List.mem_filter.mp hsub).1

theorem subscribe_answered (ha : Answered s h) (vapid : Bool) (body : SubscribeBody)
    (dbOk : Bool) : Answered (s.subscribePush vapid body dbOk).1 h := by
  unfold PushServer.subscribePush
  split
  · exact ha
  · split
    · rename_i hcomplete
      apply ha.setRows
      cases dbOk with
      | false => exact ha.stored
      | true =>
        intro sub hsub
        rcases mem_upsert hsub with rfl | hsub
        · exact hcomplete
        · exact ha.stored sub hsub
    · exact ha

theorem unsubscribe_answered (ha : Answered s h) (endpoint : String) (dbOk : Bool) :
    Answered (s.unsubscribePush endpoint dbOk).1 h := by
  apply ha.setRows
  cases dbOk with
  | false => exact ha.stored
  | true => exact delete_complete ha endpoint

theorem list_answered (ha : Answered s h) (n : ℕ) (dbOk : Bool) : Answered (s.listFor n dbOk) h := by
  unfold PushServer.listFor
  split
  · refine ha.setBroadcast n ?_ (by simp)
    cases dbOk with
    | false => simp
    | true => exact ha.stored
  · exact ha

/-- A send answered with success leaves nothing to delete, and one answered 410 is on record. -/
theorem send_answered (ha : Answered s h) (n : ℕ) {answer : PushAnswer}
    (hanswer : answer ∈ [PushAnswer.status 200,.status 201,.status 410]) :
    Answered (s.sendNext n answer).1 (h ++ [(.send n answer,(s.sendNext n answer).2)]) := by
  unfold PushServer.sendNext
  split
  · rename_i sub todo stale hb
    have hcomplete := ha.listed n _ hb sub List.mem_cons_self
    have hold := (ha.later (.send n answer,(sendWebPush sub answer).1)).stale n _ hb
    refine (ha.later _).setBroadcast n ?_ ?_
    · intro row hrow
      exact ha.listed n _ hb row (List.mem_cons_of_mem _ hrow)
    · intro row hrow
      have hgone : row ∈ stale ∨ (row = sub ∧ answer = .status 410) := by
        simp only [sendWebPush,hcomplete,if_true] at hrow
        simp only [List.mem_cons,List.not_mem_nil,or_false] at hanswer
        rcases hanswer with rfl | rfl | rfl
        · exact .inl (by simpa using hrow)
        · exact .inl (by simpa using hrow)
        · simpa using hrow
      rcases hgone with hrow | ⟨rfl,rfl⟩
      · exact hold row hrow
      · refine ⟨_,List.mem_append_right _ List.mem_cons_self,?_⟩
        simp [sendWebPush,hcomplete]
  · exact ha.later _

theorem delete_answered (ha : Answered s h) (n : ℕ) (dbOk : Bool) :
    Answered (s.deleteNext n dbOk) h := by
  unfold PushServer.deleteNext
  split
  · rename_i sub stale hb
    have hkept := ha.setBroadcast n (b := ⟨[],stale⟩) (by simp)
      (fun row hrow => ha.stale n _ hb row (List.mem_cons_of_mem _ hrow))
    apply hkept.setRows
    split
    · exact delete_complete ha sub.endpoint
    · exact ha.stored
  · exact ha

theorem pushStep_answered (ha : Answered s h) {e : PushEvent} (hgone : GoneOnly s e) :
    Answered (pushStep s e).1 (h ++ [(e,(pushStep s e).2)]) := by
  cases e with
  | subscribe vapid body dbOk => exact (subscribe_answered ha vapid body dbOk).later _
  | unsubscribe endpoint dbOk => exact (unsubscribe_answered ha endpoint dbOk).later _
  | list n dbOk => exact (list_answered ha n dbOk).later _
  | send n answer => exact send_answered ha n hgone
  | delete n dbOk => exact (delete_answered ha n dbOk).later _

theorem not_removes_of_same {s' : PushServer} (hsame : s'.subscriptions = s.subscriptions)
    {sub : Subscription} : ¬Removes s s' sub := by
  rintro ⟨hsub,hnot⟩
  rw [hsame] at hnot
  exact hnot (List.mem_map_of_mem hsub)

/-- A delete by endpoint removes nothing else. -/
theorem endpoint_of_removes {s' : PushServer} {endpoint : String} {sub : Subscription}
    (hrows : s'.subscriptions = deletePushSubscription endpoint s.subscriptions)
    (hremoves : Removes s s' sub) : sub.endpoint = endpoint := by
  obtain ⟨hsub,hnot⟩ := hremoves
  by_contra hne
  apply hnot
  rw [hrows]
  exact List.mem_map_of_mem (List.mem_filter.mpr ⟨hsub,by simpa using hne⟩)

/-- The only steps that remove a row: an unsubscribe, or a delete that found a 410. -/
theorem pushStep_removes (ha : Answered s h) {e : PushEvent} (hgone : GoneOnly s e)
    {sub : Subscription} (hremoves : Removes s (pushStep s e).1 sub) :
    (∃ dbOk, e = .unsubscribe sub.endpoint dbOk) ∨ ∃ p ∈ h, p.2 = .sent sub (.status 410) := by
  cases e with
  | subscribe vapid body dbOk =>
    exfalso
    simp only [pushStep,PushServer.subscribePush] at hremoves
    split at hremoves
    · exact not_removes_of_same rfl hremoves
    · split at hremoves
      · cases dbOk with
        | false => exact not_removes_of_same rfl hremoves
        | true => exact hremoves.2 (upsert_endpoints hremoves.1)
      · exact not_removes_of_same rfl hremoves
  | unsubscribe endpoint dbOk =>
    cases dbOk with
    | false => exact absurd hremoves (not_removes_of_same rfl)
    | true => exact .inl ⟨true,by rw [endpoint_of_removes rfl hremoves]⟩
  | list n dbOk =>
    simp only [pushStep,PushServer.listFor] at hremoves
    split at hremoves <;> exact absurd hremoves (not_removes_of_same rfl)
  | send n answer =>
    simp only [pushStep,PushServer.sendNext] at hremoves
    split at hremoves <;> exact absurd hremoves (not_removes_of_same rfl)
  | delete n dbOk =>
    simp only [pushStep,PushServer.deleteNext] at hremoves
    split at hremoves
    · rename_i stale rest hb
      by_cases hdelete : stale.endpoint ≠ "" ∧ dbOk = true
      · rw [if_pos hdelete] at hremoves
        have hendpoint := endpoint_of_removes rfl hremoves
        have hrow := hgone _ hb stale rfl sub hremoves.1 hendpoint
        rw [hrow]
        exact .inr (ha.stale n _ hb stale List.mem_cons_self)
      · rw [if_neg hdelete] at hremoves
        exact absurd hremoves (not_removes_of_same rfl)
    · exact absurd hremoves (not_removes_of_same rfl)

end Steps

theorem run_answered {events : List PushEvent}
    (hgone : Admits pushStep GoneOnly noSubscriptions events) :
    Answered (final pushStep noSubscriptions events) (trace pushStep noSubscriptions events) := by
  refine run_induction (P := fun (s : PushServer) h => Answered s h) ?_ ?_ events hgone
  · refine ⟨List.forall_mem_nil _,?_,?_⟩
    · intro n b hb
      cases hb
    · intro n b hb
      cases hb
  · intro s h e hadmitted hprev
    exact pushStep_answered hprev hadmitted

/-- No live subscription is dropped in a run in which every send succeeds or is answered 410,
and no broadcast deletes an endpoint stored again with other keys since it was listed. -/
theorem push_law (events : List PushEvent)
    (hgone : Admits pushStep GoneOnly noSubscriptions events) : NeverDropped events := by
  rintro front e ⟨rest,rfl⟩ sub hremoves
  have hfront := admits_concat.mp (admits_append_left hgone)
  exact pushStep_removes (run_answered hfront.1) hfront.2 hremoves

def browser : Subscription := ⟨"https://push.example/a","key","auth"⟩

def browserBody : SubscribeBody := ⟨some browser.endpoint,some (some browser.p256dh,some browser.auth)⟩

def broadcastTo (answer : PushAnswer) : List PushEvent :=
  [.subscribe true browserBody true,.list 0 true,.send 0 answer,.delete 0 true]

theorem push_law_gone :
    (final pushStep noSubscriptions (broadcastTo (.status 410))).subscriptions = [] ∧
      NeverDropped (broadcastTo (.status 410)) := by
  refine ⟨by decide,push_law _ ⟨trivial,trivial,by simp [GoneOnly],?_,trivial⟩⟩
  intro b hb sub hsub row hrow _
  have hstored : row ∈ [browser] := hrow
  have hlisted : some (⟨[],[browser]⟩ : Broadcast) = some b := hb
  cases hlisted
  cases hsub
  exact List.mem_singleton.mp hstored

/-- One answer 500 is enough to lose the subscription. -/
theorem push_dropped :
    (final pushStep noSubscriptions (broadcastTo (.status 500))).subscriptions = [] ∧
      ¬NeverDropped (broadcastTo (.status 500)) := by
  refine ⟨by decide,?_⟩
  intro h
  have hdropped := h (broadcastTo (.status 500)).dropLast (.delete 0 true) (List.prefix_refl _)
    browser (by unfold Removes; decide)
  rcases hdropped with ⟨dbOk,he⟩ | hsent
  · cases he
  · exact absurd hsent (by decide)

end MacroInvest.Live
