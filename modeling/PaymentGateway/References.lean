/-
# What the rows refer to

The foreign keys of the tables are not enforced by every database that the program runs on.  They
hold all the same: in every interleaving, every API key, payment and idempotency record belongs to
a user that is there, every refund to a payment that is there and has its currency, and every row
of the audit log tells of something that is there and was its actor's (`references_kept`).  A
request relies on rows that it has read a while ago; what helps is that no row is ever deleted and
none changes hands.

That the log leaves nothing out is `AuditCompleteness`; here it is that it makes nothing up.
-/
import PaymentGateway.LastingAnswers
import PaymentGateway.Revocation

namespace PaymentGateway

open Transact

/-! ## References -/

section Model

variable (app : App) (t : Tables)

/-- A user with this id is there. -/
def HasUser (id : Uuid) : Prop := ∃ u ∈ t.users, u.id = id

/-- The payment of the refund is there, in the same currency. -/
def HasSource (r : Refund) : Prop := ∃ p ∈ t.payments, p.id = r.paymentId ∧ p.currency = r.currency

/-- What the row of the log tells is so: the actor and the resource that it names are there, and
the action fits the resource. -/
inductive Truthful (row : AuditLog) : Prop
  | user {u : User} (mem : u ∈ t.users) (action : row.action ∈ [.userRegistered, .userLogin])
      (actor : row.actorId = some u.id) (resourceType : row.resourceType = some "user")
      (resourceId : row.resourceId = some u.id.str)
  | keyCreated {k : ApiKey} (mem : k ∈ t.apiKeys) (action : row.action = .apiKeyCreated)
      (actor : row.actorId = some k.userId) (resourceType : row.resourceType = some "api_key")
      (resourceId : row.resourceId = some k.id.str)
  /-- The id is as it was given with the request. -/
  | keyRevoked {k : ApiKey} {keyId : String} (mem : k ∈ t.apiKeys)
      (action : row.action = .apiKeyRevoked) (actor : row.actorId = some k.userId)
      (resourceType : row.resourceType = some "api_key") (resourceId : row.resourceId = some keyId)
      (named : app.parseUuid keyId = .ok k.id) (inactive : k.isActive = false)
  | payment {p : Payment} (mem : p ∈ t.payments)
      (action : row.action ∈
        [.paymentAuthorized, .paymentCaptured, .paymentCanceled, .paymentFailed])
      (actor : row.actorId = some p.ownerId) (resourceType : row.resourceType = some "payment")
      (resourceId : row.resourceId = some p.id.str)
  | refund {r : Refund} {p : Payment} (mem : r ∈ t.refunds) (source : p ∈ t.payments)
      (of : p.id = r.paymentId) (action : row.action = .refundCreated)
      (actor : row.actorId = some p.ownerId) (resourceType : row.resourceType = some "refund")
      (resourceId : row.resourceId = some r.id.str)
  | webhook {e : WebhookEvent} (mem : e ∈ t.webhookEvents) (action : row.action = .webhookReceived)
      (actor : row.actorId = none) (resourceType : row.resourceType = some "webhook")
      (resourceId : row.resourceId = some e.eventId)

/-- The rows refer to what is there in the tables `t`: users to users, refunds to payments, the
log to everything that it names. -/
structure References (rows : Tables) : Prop where
  apiKeys : ∀ k ∈ rows.apiKeys, HasUser t k.userId
  providerConfigs : ∀ c ∈ rows.providerConfigs, HasUser t c.ownerId
  payments : ∀ p ∈ rows.payments, HasUser t p.ownerId
  refunds : ∀ r ∈ rows.refunds, HasSource t r
  idempotencyKeys : ∀ row ∈ rows.idempotencyKeys, HasUser t row.ownerId
  auditLogs : ∀ row ∈ rows.auditLogs, Truthful app t row

/-- The tables refer to themselves: no reference leads nowhere. -/
def Closed : Prop := References app t t

end Model

/-! ## What was there is there -/

section Lasting

variable {app : App} {t t' : Tables} (ht : Evolves t t')
include ht

lemma HasUser.lasts {id : Uuid} (h : HasUser t id) : HasUser t' id := by
  obtain ⟨u, hu, hid⟩ := h
  obtain ⟨v, hv, hlater⟩ := ht.users.exists_of_mem hu
  exact ⟨v, hv, hlater.id.trans hid⟩

lemma HasSource.lasts {r : Refund} (h : HasSource t r) : HasSource t' r := by
  obtain ⟨p, hp, hid, hcurrency⟩ := h
  obtain ⟨q, hq, hlater⟩ := ht.payments.exists_of_mem hp
  exact ⟨q, hq, hlater.id.trans hid, hlater.currency.trans hcurrency⟩

/-- What the log tells stays true. -/
lemma Truthful.lasts {row : AuditLog} (h : Truthful app t row) : Truthful app t' row := by
  cases h with
  | user mem action actor resourceType resourceId =>
    obtain ⟨v, hv, hlater⟩ := ht.users.exists_of_mem mem
    rw [← hlater.id] at actor resourceId
    exact .user hv action actor resourceType resourceId
  | keyCreated mem action actor resourceType resourceId =>
    obtain ⟨l, hl, hlater⟩ := ht.apiKeys.exists_of_mem mem
    rw [← hlater.userId] at actor
    rw [← hlater.id] at resourceId
    exact .keyCreated hl action actor resourceType resourceId
  | keyRevoked mem action actor resourceType resourceId named inactive =>
    obtain ⟨l, hl, hlater⟩ := ht.apiKeys.exists_of_mem mem
    rw [← hlater.userId] at actor
    rw [← hlater.id] at named
    exact .keyRevoked hl action actor resourceType resourceId named (hlater.inactive inactive)
  | payment mem action actor resourceType resourceId =>
    obtain ⟨q, hq, hlater⟩ := ht.payments.exists_of_mem mem
    rw [← hlater.ownerId] at actor
    rw [← hlater.id] at resourceId
    exact .payment hq action actor resourceType resourceId
  | refund mem source of action actor resourceType resourceId =>
    obtain ⟨q, hq, hlater⟩ := ht.payments.exists_of_mem source
    rw [← hlater.ownerId] at actor
    exact .refund (ht.refunds.subset mem) hq (hlater.id.trans of) action actor resourceType
      resourceId
  | webhook mem action actor resourceType resourceId =>
    exact .webhook (ht.webhookEvents.subset mem) action actor resourceType resourceId

lemma References.lasts {rows : Tables} (h : References app t rows) : References app t' rows where
  apiKeys k hk := (h.apiKeys k hk).lasts ht
  providerConfigs c hc := (h.providerConfigs c hc).lasts ht
  payments p hp := (h.payments p hp).lasts ht
  refunds r hr := (h.refunds r hr).lasts ht
  idempotencyKeys row hrow := (h.idempotencyKeys row hrow).lasts ht
  auditLogs row hrow := (h.auditLogs row hrow).lasts ht

end Lasting

/-! ## Statements -/

section Statements

variable {app : App} {t : Tables} (h : Closed app t)
include h

lemma Closed.insertUser {user : User} (hrole : user.role = .merchant)
    (hactive : user.isActive = true) : Closed app (t.insertUser user) :=
  { h.lasts (evolving_insertUser hrole hactive t) with }

lemma Closed.saveUser {now : Timestamp} {old new : User} :
    Closed app (t.saveUser now old new) :=
  { h.lasts (evolving_saveUser t) with }

lemma Closed.insertWebhookEvent {event : WebhookEvent} :
    Closed app (t.insertWebhookEvent event) :=
  { h.lasts (evolving_insertWebhookEvent t) with }

lemma Closed.insertApiKey {key : ApiKey} (huser : HasUser t key.userId) :
    Closed app (t.insertApiKey key) :=
  { h.lasts (evolving_insertApiKey t) with
    apiKeys := List.forall_mem_append.2 ⟨h.apiKeys, List.forall_mem_singleton.2 huser⟩ }

lemma Closed.saveApiKey {now : Timestamp} {old new : ApiKey}
    (hactive : new.isActive = old.isActive ∨ new.isActive = false)
    (hrevoked : new.revokedAt = old.revokedAt ∨ new.revokedAt.isSome) :
    Closed app (t.saveApiKey now old new) :=
  { h.lasts (evolving_saveApiKey hactive hrevoked t) with
    apiKeys := by
      intro k hk
      obtain ⟨l, hl, ⟨-, rfl⟩ | ⟨-, rfl⟩⟩ := exists_of_mem_updateAt hk
      · rw [ApiKey.saved_userId]
        exact h.apiKeys l hl
      · exact h.apiKeys k hl }

lemma Closed.insertPayment {payment : Payment} (huser : HasUser t payment.ownerId) :
    Closed app (t.insertPayment payment) :=
  { h.lasts (evolving_insertPayment t) with
    payments := List.forall_mem_append.2 ⟨h.payments, List.forall_mem_singleton.2 huser⟩ }

lemma Closed.savePayment {now : Timestamp} {old new : Payment} :
    Closed app (t.savePayment now old new) :=
  { h.lasts (evolving_savePayment t) with
    payments := by
      intro p hp
      obtain ⟨q, hq, ⟨-, rfl⟩ | ⟨-, rfl⟩⟩ := exists_of_mem_updateAt hp
      · rw [(q.later_saved now old new).ownerId]
        exact h.payments q hq
      · exact h.payments p hq }

lemma Closed.insertRefund {refund : Refund} (hsource : HasSource t refund) :
    Closed app (t.insertRefund refund) :=
  { h.lasts (evolving_insertRefund t) with
    refunds := List.forall_mem_append.2 ⟨h.refunds, List.forall_mem_singleton.2 hsource⟩ }

lemma Closed.insertAuditLog {row : AuditLog} (htruthful : Truthful app t row) :
    Closed app (t.insertAuditLog row) :=
  { h.lasts (evolving_insertAuditLog t) with
    auditLogs := List.forall_mem_append.2
      ⟨(h.lasts (evolving_insertAuditLog t)).auditLogs,
        List.forall_mem_singleton.2 (htruthful.lasts (evolving_insertAuditLog t))⟩ }

lemma Closed.recording {env : Ambient} {user : User} {key : Option String} {post : Post}
    {response : ResponseBody} (huser : HasUser t user.id) :
    Closed app (view (recording app env user key post response) t) := by
  rw [PaymentGateway.recording]
  split
  · exact { h.lasts (evolving_insertIdempotencyKey t) with
      idempotencyKeys := List.forall_mem_append.2
        ⟨h.idempotencyKeys, List.forall_mem_singleton.2 huser⟩ }
  · exact h

lemma Closed.signIn {env : Ambient} {gs : List (Tables → Tables)} (hgs : SignInStages env gs) :
    Closed app (view gs t) := by
  cases hgs with
  | nothing => exact h
  | used => exact h.saveApiKey (Or.inl rfl) (Or.inl rfl)

end Statements

/-! ## Requests -/

section Requests

variable {app : App} {env : Ambient} {user : User} {key : Option String} {t : Tables}
  {H : History Tables GatewayOp Exn} {answer : ApiAnswer}

lemma withCharge_paymentAction (p : Payment) (charge : ProviderCharge) : (withCharge p charge).2 ∈
    [AuditAction.paymentAuthorized, .paymentCaptured, .paymentCanceled, .paymentFailed] := by
  rw [withCharge]
  split <;> simp

/-- The log may tell of a payment that was read a while ago. -/
lemma truthful_of_read {d : Tables} {payment : Payment} {action : AuditAction}
    (hd : Evolves d t) (hpayment : payment ∈ d.payments) (howner : payment.ownerId = user.id)
    (haction : action ∈
      [AuditAction.paymentAuthorized, .paymentCaptured, .paymentCanceled, .paymentFailed]) :
    Truthful app t (auditEntry env action user.id "payment" payment.id.str) := by
  have htruthful : Truthful app d (auditEntry env action user.id "payment" payment.id.str) :=
    .payment hpayment haction (by rw [howner]; rfl) rfl rfl
  exact htruthful.lasts hd

lemma OpenCall.Books.closed {call : OpenCall} (h : call.Books app env H answer)
    (ht : Closed app t) (hreads : ∀ d ∈ H.reads, Evolves d t) : Closed app (view H.writes t) := by
  cases h with
  | registered read free hash writes =>
    rw [writes]
    refine (ht.insertUser rfl rfl).insertAuditLog ?_
    exact .user (List.mem_append_right _ List.mem_cons_self) List.mem_cons_self rfl rfl rfl
  | @loggedIn _ _ u _ d read found verified active unlocked hash writes =>
    rw [writes]
    refine ht.saveUser.insertAuditLog ?_
    have htruthful : Truthful app d (auditEntry env .userLogin u.id "user" u.id.str) :=
      .user (Tables.mem_of_getByEmail found) (List.mem_cons_of_mem _ List.mem_cons_self) rfl rfl
        rfl
    exact htruthful.lasts ((hreads d read).trans (evolving_saveUser t))
  | refreshed read token named found active writes =>
    rw [writes]
    exact ht
  | refused writes =>
    rw [writes]
    exact ht
  | duplicate read mem writes =>
    rw [writes]
    exact ht
  | received writes =>
    rw [writes]
    refine ht.insertWebhookEvent.insertAuditLog ?_
    exact .webhook (List.mem_append_right _ List.mem_cons_self) rfl rfl rfl rfl

lemma UserCall.Books.closed {call : UserCall} (h : call.Books app env user key H answer)
    (ht : Closed app t) (huser : HasUser t user.id) (hreads : ∀ d ∈ H.reads, Evolves d t) :
    Closed app (view H.writes t) := by
  cases h with
  | me writes
  | keysListed read own writes
  | listed read found responded writes
  | shown read found responded writes
  | providersListed writes
  | counted read total writes
  | refused writes
  | replayed read found same writes =>
    rw [writes]
    exact ht
  | keyCreated writes =>
    rw [writes]
    refine (ht.insertApiKey huser).insertAuditLog ?_
    exact .keyCreated (List.mem_append_right _ List.mem_cons_self) rfl rfl rfl rfl
  | @keyRevoked keyId d row₀ row read mem same named owner writes =>
    rw [writes]
    refine (ht.saveApiKey (Or.inr rfl) (Or.inr rfl)).insertAuditLog ?_
    obtain ⟨l, hl, hlater⟩ := (hreads d read).apiKeys.exists_of_mem mem
    have hid : l.id = row.id := by rw [hlater.id, same.id]
    have howner : l.userId = user.id := by rw [hlater.userId, ← same.userId, owner]
    refine .keyRevoked (k := l.saved env.now row (withRevocation env row))
      (List.mem_map.2 ⟨l, hl, if_pos hid⟩) rfl ?_ rfl rfl ?_ ?_
    · rw [ApiKey.saved_userId, howner]
      rfl
    · rw [ApiKey.saved_id, hid, named]
    · exact isActive_saved_revocation _ fun hinactive =>
        hlater.inactive (same.isActive ▸ hinactive)
  | @created payload charge response status responded writes =>
    rw [writes, view_append]
    have hinserted : Closed app (t.insertPayment (newPayment env user (payload.args key))) :=
      ht.insertPayment huser
    refine Closed.recording (hinserted.savePayment.insertAuditLog ?_) huser
    have hpayment : newPayment env user (payload.args key) ∈
        (t.insertPayment (newPayment env user (payload.args key))).payments :=
      List.mem_append_right _ List.mem_cons_self
    exact truthful_of_read (evolving_savePayment _) hpayment rfl (withCharge_paymentAction _ _)
  | @refunded paymentId payload d payment result response read found status amount responded writes =>
    obtain ⟨hmem, -, howner⟩ := Tables.mem_of_getForOwner found
    obtain ⟨q, hq, hlater⟩ := (hreads d read).payments.exists_of_mem hmem
    rw [writes, view_append]
    have hinserted : Closed app (t.insertRefund (newRefund env payment
        (payload.amountMinor.map Subtype.val) (payload.reason.map Subtype.val) result)) :=
      ht.insertRefund ⟨q, hq, hlater.id, hlater.currency⟩
    refine Closed.recording (hinserted.savePayment.insertAuditLog ?_) huser
    refine Truthful.lasts (evolving_savePayment _) ?_
    refine .refund (List.mem_append_right _ List.mem_cons_self) hq hlater.id rfl ?_ rfl rfl
    rw [hlater.ownerId, howner]
    rfl
  | @captured _ _ _ d payment _ _ read found status responded writes =>
    obtain ⟨hmem, -, howner⟩ := Tables.mem_of_getForOwner found
    rw [writes]
    exact ht.savePayment.insertAuditLog (truthful_of_read
      ((hreads d read).trans (evolving_savePayment _)) hmem howner (by simp))
  | @canceled _ d payment _ read found status responded writes =>
    obtain ⟨hmem, -, howner⟩ := Tables.mem_of_getForOwner found
    rw [writes]
    exact ht.savePayment.insertAuditLog (truthful_of_read
      ((hreads d read).trans (evolving_savePayment _)) hmem howner (by simp))

/-- **Whatever a request books, it refers to what is there.** -/
lemma bookingsKeep_closed : BookingsKeep app (Closed app) := by
  intro request H answer t h ht hreads _
  cases h with
  | «open» books => exact books.closed ht fun d hd => (hreads d hd).2
  | @user env headers call _ user L K signedIn role stages books history =>
    subst history
    obtain ⟨-, u, hu, hlater⟩ := signedIn.identifies fun d hd => (hreads d hd).2
    have hstages := evolving_view (evolving_signIn stages) t
    have huser : HasUser t user.id := ⟨u, hu, hlater.id⟩
    rw [History.writes_append, view_append]
    exact books.closed (ht.signIn stages) (huser.lasts hstages) fun d hd =>
      (hreads d (by simp [hd])).2.trans hstages

end Requests

/-! ## All interleavings -/

/-- **References are kept.**  Whatever the requests are and however their steps interleave, every
row refers to rows that are there, and the log tells of nothing that is not so; the database need
not see to it. -/
theorem references_kept {ι W C : Type} [DecidableEq ι] (app : App)
    (handle : C → Handler GatewayOp Exn W) (requests : ι → HttpCall) {t : Tables}
    (ht : Closed app t) (w : W) (moves : List (Move ι C)) :
    Always (System.step (serviceHost app handle)) (fun s => Closed app s.store)
      (apiStart app requests t w) moves := by
  have halways : Always (System.step (serviceHost app handle)) (ApiSound app requests (Closed app))
      (apiStart app requests t w) moves :=
    always_of_step (fun _ _ hs => apiSound_step bookingsKeep_closed hs) (apiSound_start ht) moves
  exact halways.mono fun _ hs => hs.sound.store

/-- A merchant pays and refunds the payment. -/
def payAndRefund (pays : Bool) : HttpCall where
  env := demoEnv (if pays then 1 else 2)
  call := .user ⟨some "upgi_sk_1", none, none⟩ (.post
    (if pays then .payment (demoPayload .mock) else .refund (demoEnv 1).paymentId ⟨none, none⟩))

theorem references_kept_demo :
    Always (System.step (serviceHost demoApp (mockHandler "")))
      (fun s => Closed demoApp s.store) (apiStart demoApp payAndRefund apiKeyTables ())
      (List.replicate 12 ⟨true, ()⟩ ++ List.replicate 12 ⟨false, ()⟩) := by
  refine references_kept demoApp (mockHandler "") payAndRefund ?_ () _
  refine ⟨?_, ?_, ?_, ?_, ?_, ?_⟩
  · intro k hk
    rw [List.mem_singleton.1 hk]
    exact ⟨demoUser, List.mem_cons_self, rfl⟩
  all_goals simp [apiKeyTables, Tables.empty]

end PaymentGateway
