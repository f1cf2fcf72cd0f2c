/-
# The audit log is complete

Requests of any kind, in any number and in any order of their steps.  Whatever is new between
two states of the system is named in the audit log (`Logs`): a user, an API key and its
revocation, a payment and each status it has got, a refund, a webhook event.  The row names
what was done, and whose doing it was: the owner of the key or of the payment.

A payment that the provider has canceled at once is logged as failed (`statusActions`).
-/
import PaymentGateway.Evolution

namespace PaymentGateway

open Transact

/-! ## What the log says -/

/-- The log has a row with this action, this actor and this resource. -/
def Logged (log : List AuditLog) (action : AuditAction) (actorId : Option Uuid)
    (resourceType resourceId : String) : Prop :=
  ∃ row ∈ log, row.action = action ∧ row.actorId = actorId ∧
    row.resourceType = some resourceType ∧ row.resourceId = some resourceId

/-- The actions by which a payment may get a status other than by a refund. -/
def statusActions : PaymentStatus → List AuditAction
  | .captured => [.paymentCaptured]
  | .authorized => [.paymentAuthorized]
  | .canceled => [.paymentCanceled, .paymentFailed]
  | .failed => [.paymentFailed]
  | .requiresConfirmation | .partiallyRefunded | .refunded => []

/-- The log says how the payment got its status: there is a row about the payment with an action
of that outcome, or a row about one of its refunds. -/
inductive StatusLogged (log : List AuditLog) (refunds : List Refund) (p : Payment) : Prop where
  | outcome {action} (mem : action ∈ statusActions p.status)
      (logged : Logged log action (some p.ownerId) "payment" p.id.str)
  | refund {r} (mem : r ∈ refunds) (payment : r.paymentId = p.id)
      (status : p.status ∈ [PaymentStatus.partiallyRefunded, .refunded])
      (logged : Logged log .refundCreated (some p.ownerId) "refund" r.id.str)

section Logs

variable (app : App)

/-- What `t'` has beyond `t` is in its log: each kind of news has its own kind of row, with the
actor that caused it. -/
structure Logs (t t' : Tables) : Prop where
  users : ∀ u ∈ t'.users, (∃ v ∈ t.users, v.id = u.id) ∨
    Logged t'.auditLogs .userRegistered (some u.id) "user" u.id.str
  apiKeys : ∀ k ∈ t'.apiKeys, (∃ l ∈ t.apiKeys, l.id = k.id ∧ l.userId = k.userId) ∨
    Logged t'.auditLogs .apiKeyCreated (some k.userId) "api_key" k.id.str
  revocations : ∀ k ∈ t'.apiKeys, k.revokedAt.isSome →
    (∃ l ∈ t.apiKeys, l.id = k.id ∧ l.userId = k.userId ∧ l.revokedAt.isSome) ∨
      ∃ keyId, app.parseUuid keyId = .ok k.id ∧
        Logged t'.auditLogs .apiKeyRevoked (some k.userId) "api_key" keyId
  payments : ∀ p ∈ t'.payments,
    (∃ q ∈ t.payments, q.id = p.id ∧ q.ownerId = p.ownerId ∧ q.status = p.status) ∨
      StatusLogged t'.auditLogs t'.refunds p
  refunds : ∀ r ∈ t'.refunds, r ∈ t.refunds ∨ ∃ p ∈ t'.payments, p.id = r.paymentId ∧
    Logged t'.auditLogs .refundCreated (some p.ownerId) "refund" r.id.str
  webhookEvents : ∀ e ∈ t'.webhookEvents, e ∈ t.webhookEvents ∨
    Logged t'.auditLogs .webhookReceived none "webhook" e.eventId
  /-- What was logged stays logged. -/
  auditLogs : ∀ row ∈ t.auditLogs, row ∈ t'.auditLogs
  kept : (∀ r ∈ t.refunds, r ∈ t'.refunds) ∧
    ∀ p ∈ t.payments, ∃ q ∈ t'.payments, q.id = p.id ∧ q.ownerId = p.ownerId

variable {app} {t t' t'' : Tables}

lemma logged_insertAuditLog {t : Tables} (row : AuditLog) {resourceType resourceId : String}
    (htype : row.resourceType = some resourceType) (hid : row.resourceId = some resourceId) :
    Logged (t.insertAuditLog row).auditLogs row.action row.actorId resourceType resourceId :=
  ⟨row, List.mem_append_right _ List.mem_cons_self, rfl, rfl, htype, hid⟩

lemma Logged.mono {log log' : List AuditLog} {action : AuditAction} {actorId : Option Uuid}
    {resourceType resourceId : String} (h : Logged log action actorId resourceType resourceId)
    (hlogs : ∀ row ∈ log, row ∈ log') : Logged log' action actorId resourceType resourceId := by
  obtain ⟨row, hrow, hsays⟩ := h
  exact ⟨row, hlogs row hrow, hsays⟩

lemma StatusLogged.mono {p q : Payment} (h : StatusLogged t.auditLogs t.refunds q)
    (hid : q.id = p.id) (howner : q.ownerId = p.ownerId) (hstatus : q.status = p.status)
    (hlogs : Logs app t t') : StatusLogged t'.auditLogs t'.refunds p := by
  cases h with
  | outcome mem logged =>
    rw [hstatus] at mem
    rw [hid, howner] at logged
    exact .outcome mem (logged.mono hlogs.auditLogs)
  | refund mem payment status logged =>
    rw [hid] at payment
    rw [hstatus] at status
    rw [howner] at logged
    exact .refund (hlogs.kept.1 _ mem) payment status (logged.mono hlogs.auditLogs)

/-- Nothing is new. -/
lemma logs_insertAuditLog (app : App) (t : Tables) (row : AuditLog) :
    Logs app t (t.insertAuditLog row) where
  users u hu := Or.inl ⟨u, hu, rfl⟩
  apiKeys k hk := Or.inl ⟨k, hk, rfl, rfl⟩
  revocations k hk h := Or.inl ⟨k, hk, rfl, rfl, h⟩
  payments p hp := Or.inl ⟨p, hp, rfl, rfl, rfl⟩
  refunds _ hr := Or.inl hr
  webhookEvents _ he := Or.inl he
  auditLogs _ h := List.mem_append_left _ h
  kept := ⟨fun _ h => h, fun p hp => ⟨p, hp, rfl, rfl⟩⟩

lemma logs_refl (app : App) (t : Tables) : Logs app t t where
  users u hu := Or.inl ⟨u, hu, rfl⟩
  apiKeys k hk := Or.inl ⟨k, hk, rfl, rfl⟩
  revocations k hk h := Or.inl ⟨k, hk, rfl, rfl, h⟩
  payments p hp := Or.inl ⟨p, hp, rfl, rfl, rfl⟩
  refunds _ hr := Or.inl hr
  webhookEvents _ he := Or.inl he
  auditLogs _ h := h
  kept := ⟨fun _ h => h, fun p hp => ⟨p, hp, rfl, rfl⟩⟩

/-- What is new was new before, and is still in the log, or has become new. -/
lemma Logs.trans (h : Logs app t t') (h' : Logs app t' t'') : Logs app t t'' where
  users u hu := by
    obtain ⟨v, hv, hid⟩ | hlogged := h'.users u hu
    · rw [← hid]
      exact (h.users v hv).imp_right fun hlogged => hlogged.mono h'.auditLogs
    · exact Or.inr hlogged
  apiKeys k hk := by
    obtain ⟨l, hl, hid, howner⟩ | hlogged := h'.apiKeys k hk
    · rw [← hid, ← howner]
      exact (h.apiKeys l hl).imp_right fun hlogged => hlogged.mono h'.auditLogs
    · exact Or.inr hlogged
  revocations k hk hrevoked := by
    obtain ⟨l, hl, hid, howner, hl'⟩ | hlogged := h'.revocations k hk hrevoked
    · rw [← hid, ← howner]
      refine (h.revocations l hl hl').imp_right ?_
      rintro ⟨keyId, hkeyId, hlogged⟩
      exact ⟨keyId, hkeyId, hlogged.mono h'.auditLogs⟩
    · exact Or.inr hlogged
  payments p hp := by
    obtain ⟨q, hq, hid, howner, hstatus⟩ | hlogged := h'.payments p hp
    · rcases h.payments q hq with ⟨o, ho, hid', howner', hstatus'⟩ | hlogged
      · exact Or.inl ⟨o, ho, hid'.trans hid, howner'.trans howner, hstatus'.trans hstatus⟩
      · exact Or.inr (hlogged.mono hid howner hstatus h')
    · exact Or.inr hlogged
  refunds r hr := by
    rcases h'.refunds r hr with hold | hlogged
    · rcases h.refunds r hold with hold | ⟨p, hp, hid, hlogged⟩
      · exact Or.inl hold
      · obtain ⟨q, hq, hid', howner⟩ := h'.kept.2 p hp
        refine Or.inr ⟨q, hq, hid'.trans hid, ?_⟩
        rw [howner]
        exact hlogged.mono h'.auditLogs
    · exact Or.inr hlogged
  webhookEvents e he := by
    rcases h'.webhookEvents e he with hold | hlogged
    · exact (h.webhookEvents e hold).imp_right fun hlogged => hlogged.mono h'.auditLogs
    · exact Or.inr hlogged
  auditLogs row hrow := h'.auditLogs row (h.auditLogs row hrow)
  kept := by
    refine ⟨fun r hr => h'.kept.1 r (h.kept.1 r hr), fun p hp => ?_⟩
    obtain ⟨q, hq, hid, howner⟩ := h.kept.2 p hp
    obtain ⟨o, ho, hid', howner'⟩ := h'.kept.2 q hq
    exact ⟨o, ho, hid'.trans hid, howner'.trans howner⟩

end Logs

/-! ## What a request books is logged -/

section Statements

variable {app : App} {env : Ambient} {user : User} {t t' : Tables}

lemma logs_signIn {gs : List (Tables → Tables)} (h : SignInStages env gs) :
    Logs app t (view gs t) := by
  cases h with
  | nothing => exact logs_refl app t
  | @used key =>
    refine { logs_refl app t with
      apiKeys := fun k hk => ?_
      revocations := fun k hk hrevoked => ?_ }
    · obtain ⟨l, hl, ⟨-, rfl⟩ | ⟨-, rfl⟩⟩ := exists_of_mem_updateAt hk
      · exact Or.inl ⟨l, hl, by simp⟩
      · exact Or.inl ⟨k, hl, rfl, rfl⟩
    · obtain ⟨l, hl, ⟨-, rfl⟩ | ⟨-, rfl⟩⟩ := exists_of_mem_updateAt hk
      · exact Or.inl ⟨l, hl, by simpa using hrevoked⟩
      · exact Or.inl ⟨k, hl, rfl, rfl, hrevoked⟩

/-- The record of a response is not in the log. -/
lemma Logs.recording {key : Option String} {post : Post} {response : ResponseBody}
    (h : Logs app t t') : Logs app t (view (recording app env user key post response) t') := by
  rw [PaymentGateway.recording]
  split
  · exact ⟨h.users, h.apiKeys, h.revocations, h.payments, h.refunds, h.webhookEvents,
      h.auditLogs, h.kept⟩
  · exact h

@[simp] lemma payments_recording {key : Option String} {post : Post} {response : ResponseBody} :
    (view (recording app env user key post response) t).payments = t.payments := by
  rw [PaymentGateway.recording]
  split <;> rfl

lemma logs_register {u : User} : Logs app t ((t.insertUser u).insertAuditLog
    (auditEntry env .userRegistered u.id "user" u.id.str)) :=
  { logs_insertAuditLog app t _ with
    users := fun v hv => by
      rcases List.mem_append.1 hv with hold | hnew
      · exact Or.inl ⟨v, hold, rfl⟩
      · rw [List.mem_singleton.1 hnew]
        exact Or.inr (logged_insertAuditLog (auditEntry env .userRegistered u.id "user" u.id.str)
          rfl rfl) }

lemma logs_login {old new : User} {row : AuditLog} :
    Logs app t ((t.saveUser env.now old new).insertAuditLog row) :=
  { logs_insertAuditLog app t row with
    users := fun v hv => by
      obtain ⟨u, hu, ⟨-, rfl⟩ | ⟨-, rfl⟩⟩ := exists_of_mem_updateAt hv
      · exact Or.inl ⟨u, hu, (User.saved_id ..).symm⟩
      · exact Or.inl ⟨v, hu, rfl⟩ }

lemma logs_received {provider : ProviderName} {verified : ProviderWebhook} :
    Logs app t ((t.insertWebhookEvent (newWebhookEvent env provider verified)).insertAuditLog
      (webhookAuditEntry env provider verified)) :=
  { logs_insertAuditLog app t _ with
    webhookEvents := fun e he => by
      rcases List.mem_append.1 he with hold | hnew
      · exact Or.inl hold
      · rw [List.mem_singleton.1 hnew]
        exact Or.inr (logged_insertAuditLog (webhookAuditEntry env provider verified) rfl rfl) }

lemma logs_keyCreated {k : ApiKey} (howner : k.userId = user.id) (hlive : k.revokedAt = none) :
    Logs app t ((t.insertApiKey k).insertAuditLog
      (auditEntry env .apiKeyCreated user.id "api_key" k.id.str)) :=
  { logs_insertAuditLog app t _ with
    apiKeys := fun l hl => by
      rcases List.mem_append.1 hl with hold | hnew
      · exact Or.inl ⟨l, hold, rfl, rfl⟩
      · rw [List.mem_singleton.1 hnew, howner]
        exact Or.inr (logged_insertAuditLog
          (auditEntry env .apiKeyCreated user.id "api_key" k.id.str) rfl rfl)
    revocations := fun l hl hrevoked => by
      rcases List.mem_append.1 hl with hold | hnew
      · exact Or.inl ⟨l, hold, rfl, rfl, hrevoked⟩
      · rw [List.mem_singleton.1 hnew, hlive] at hrevoked
        cases hrevoked }

lemma logs_keyRevoked {key new : ApiKey} {keyId : String}
    (howner : ∀ l ∈ t.apiKeys, l.id = key.id → l.userId = user.id)
    (hnamed : app.parseUuid keyId = .ok key.id) :
    Logs app t ((t.saveApiKey env.now key new).insertAuditLog
      (auditEntry env .apiKeyRevoked user.id "api_key" keyId)) :=
  { logs_insertAuditLog app t _ with
    apiKeys := fun k hk => by
      obtain ⟨l, hl, ⟨-, rfl⟩ | ⟨-, rfl⟩⟩ := exists_of_mem_updateAt hk
      · exact Or.inl ⟨l, hl, by simp⟩
      · exact Or.inl ⟨k, hl, rfl, rfl⟩
    revocations := fun k hk hrevoked => by
      obtain ⟨l, hl, ⟨hid, rfl⟩ | ⟨-, rfl⟩⟩ := exists_of_mem_updateAt hk
      · refine Or.inr ⟨keyId, by rw [ApiKey.saved_id, hid, hnamed], ?_⟩
        rw [ApiKey.saved_userId, howner l hl hid]
        exact logged_insertAuditLog (auditEntry env .apiKeyRevoked user.id "api_key" keyId) rfl rfl
      · exact Or.inl ⟨k, hl, rfl, rfl, hrevoked⟩ }

/-- A payment that gets another status other than by a refund. -/
lemma logs_outcome {old new : Payment} {action : AuditAction}
    (howner : ∀ q ∈ t.payments, q.id = old.id → q.ownerId = user.id)
    (hstatus : new.status ≠ old.status) (haction : action ∈ statusActions new.status) :
    Logs app t ((t.savePayment env.now old new).insertAuditLog
      (auditEntry env action user.id "payment" old.id.str)) :=
  { logs_insertAuditLog app t _ with
    payments := fun p hp => by
      obtain ⟨q, hq, ⟨hid, rfl⟩ | ⟨-, rfl⟩⟩ := exists_of_mem_updateAt hp
      · right
        refine @StatusLogged.outcome _ _ _ action ?_ ?_
        · rw [Payment.saved_status, changed, if_neg hstatus]
          exact haction
        · rw [Payment.saved_ownerId, Payment.saved_id, howner q hq hid, hid]
          exact logged_insertAuditLog (auditEntry env action user.id "payment" old.id.str) rfl rfl
      · exact Or.inl ⟨p, hq, rfl, rfl, rfl⟩
    refunds := fun _ hr => Or.inl hr
    kept := ⟨fun _ h => h, fun p hp => by
      refine ⟨_, List.mem_map.2 ⟨p, hp, rfl⟩, ?_⟩
      split <;> simp⟩ }

/-- The outcome of a new payment has an action. -/
lemma withCharge_action_mem {payment : Payment} {charge : ProviderCharge}
    (h : canTransition .requiresConfirmation charge.status = true) :
    (withCharge payment charge).2 ∈ statusActions (withCharge payment charge).1.status := by
  rw [withCharge_status, withCharge]
  cases hstatus : charge.status with
  | authorized | captured | canceled | failed => simp [statusActions]
  | _ =>
    rw [hstatus] at h
    cases h

lemma logs_created {args : CreatePaymentArgs} {charge : ProviderCharge}
    (hids : ((t.insertPayment (newPayment env user args)).payments.map Payment.id).Nodup)
    (hstatus : canTransition .requiresConfirmation charge.status = true) :
    Logs app t (afterCreate env user t args charge) := by
  have hpayments := payments_afterCreate env user args charge (ne_paymentId_of_nodup hids)
  refine { logs_insertAuditLog app t (auditEntry env
    (withCharge (newPayment env user args) charge).2 user.id "payment" env.paymentId.str) with
      payments := fun p hp => ?_
      refunds := fun _ hr => Or.inl hr
      kept := ⟨fun _ h => h, fun p hp => ⟨p, ?_, rfl, rfl⟩⟩ }
  · rw [hpayments] at hp
    rcases List.mem_append.1 hp with hold | hnew
    · exact Or.inl ⟨p, hold, rfl, rfl, rfl⟩
    · right
      rw [List.mem_singleton.1 hnew]
      refine @StatusLogged.outcome _ _ _ (withCharge (newPayment env user args) charge).2 ?_ ?_
      · rw [Payment.saved_status, changed_loaded]
        exact withCharge_action_mem hstatus
      · rw [Payment.saved_ownerId, Payment.saved_id]
        exact logged_insertAuditLog (auditEntry env
          (withCharge (newPayment env user args) charge).2 user.id "payment" env.paymentId.str)
          rfl rfl
  · rw [hpayments]
    exact List.mem_append_left _ hp

lemma logs_refunded {payment : Payment} {amountMinor : Option ℤ} {reason : Option String}
    {result : ProviderRefund}
    (hmem : ∃ q ∈ t.payments, q.id = payment.id)
    (howner : ∀ q ∈ t.payments, q.id = payment.id → q.ownerId = user.id) :
    Logs app t (afterRefund env user t payment amountMinor reason result) := by
  have hlogged := logged_insertAuditLog (t := (t.insertRefund
    (newRefund env payment amountMinor reason result)).savePayment env.now payment
      (withRefund payment amountMinor))
    (auditEntry env .refundCreated user.id "refund" env.refundId.str) rfl rfl
  refine { logs_insertAuditLog app t (auditEntry env .refundCreated user.id "refund"
    env.refundId.str) with
      payments := fun p hp => ?_
      refunds := fun r hr => ?_
      kept := ⟨fun r hr => List.mem_append_left _ hr, fun p hp => ?_⟩ }
  · obtain ⟨q, hq, ⟨hid, rfl⟩ | ⟨-, rfl⟩⟩ := exists_of_mem_updateAt hp
    · by_cases hsame : (withRefund payment amountMinor).status = payment.status
      · exact Or.inl ⟨q, hq, by simp [hsame]⟩
      · right
        have hnew : newRefund env payment amountMinor reason result ∈
            t.refunds ++ [newRefund env payment amountMinor reason result] :=
          List.mem_append_right _ List.mem_cons_self
        refine .refund hnew ?_ ?_ ?_
        · rw [Payment.saved_id, hid]
          rfl
        · rw [Payment.saved_status, changed, if_neg hsame, withRefund]
          dsimp only
          split <;> simp
        · rw [Payment.saved_ownerId, howner q hq hid]
          exact hlogged
    · exact Or.inl ⟨p, hq, rfl, rfl, rfl⟩
  · rcases List.mem_append.1 hr with hold | hnew
    · exact Or.inl hold
    · rw [List.mem_singleton.1 hnew]
      obtain ⟨q, hq, hid⟩ := hmem
      refine Or.inr ⟨_, List.mem_map.2 ⟨q, hq, if_pos hid⟩, ?_, ?_⟩
      · rw [Payment.saved_id, hid]
        rfl
      · rw [Payment.saved_ownerId, howner q hq hid]
        exact hlogged
  · refine ⟨_, List.mem_map.2 ⟨p, hp, rfl⟩, ?_⟩
    split <;> simp

end Statements

section Requests

variable {app : App} {env : Ambient} {user : User} {key : Option String} {t : Tables}
  {H : History Tables GatewayOp Exn} {answer : ApiAnswer}

lemma OpenCall.Books.logs {call : OpenCall} (h : call.Books app env H answer) (t : Tables) :
    Logs app t (view H.writes t) := by
  cases h with
  | registered read free hash writes =>
    rw [writes]
    exact logs_register
  | loggedIn read found verified active unlocked hash writes =>
    rw [writes]
    exact logs_login
  | refreshed read token named found active writes =>
    rw [writes]
    exact logs_refl app t
  | duplicate read mem writes =>
    rw [writes]
    exact logs_refl app t
  | refused writes =>
    rw [writes]
    exact logs_refl app t
  | received writes =>
    rw [writes]
    exact logs_received

/-- The handler runs on tables that what it has read has evolved to, up to its own stamp. -/
structure HandlerReads (K : History Tables GatewayOp Exn) (t : Tables) : Prop where
  payments : ∀ d ∈ K.reads, ∀ p ∈ d.payments, ∃ q ∈ t.payments, q.id = p.id ∧ q.ownerId = p.ownerId
  apiKeys : ∀ d ∈ K.reads, ∀ k ∈ d.apiKeys, ∃ l ∈ t.apiKeys, l.id = k.id ∧ l.userId = k.userId
  paymentIds : (t.payments.map Payment.id).Nodup
  apiKeyIds : (t.apiKeys.map ApiKey.id).Nodup

lemma HandlerReads.payment_owner {K : History Tables GatewayOp Exn} (h : HandlerReads K t)
    {d : Tables} (hd : d ∈ K.reads) {paymentId : Uuid} {payment : Payment}
    (hfound : d.getForOwner paymentId user.id = .ok (some payment)) :
    ∀ q ∈ t.payments, q.id = payment.id → q.ownerId = user.id := by
  intro q hq hid
  obtain ⟨hmem, -, howner⟩ := Tables.mem_of_getForOwner hfound
  obtain ⟨q', hq', hid', howner'⟩ := h.payments d hd payment hmem
  obtain rfl := eq_of_key_eq h.paymentIds hq hq' (hid.trans hid'.symm)
  rw [howner', howner]

/-- **What a handler books is logged.** -/
lemma UserCall.Books.logs {call : UserCall} {K : History Tables GatewayOp Exn}
    (h : call.Books app env user key K answer) (hreads : HandlerReads K t)
    (hids : ((view K.writes t).payments.map Payment.id).Nodup) :
    Logs app t (view K.writes t) := by
  cases h with
  | me writes | keysListed read own writes | listed read found responded writes
  | shown read found responded writes | providersListed writes | counted read total writes
  | refused writes | replayed read found same writes =>
    rw [writes]
    exact logs_refl app t
  | keyCreated writes =>
    rw [writes]
    have howner {name : String} :
        (newApiKey env user name (generatedApiKey app env)).userId = user.id := rfl
    exact logs_keyCreated howner rfl
  | @keyRevoked _ d row₀ row read mem same named owner writes =>
    rw [writes]
    refine logs_keyRevoked (fun l hl hid => ?_) named
    obtain ⟨l', hl', hid', howner'⟩ := hreads.apiKeys d read row₀ mem
    obtain rfl := eq_of_key_eq hreads.apiKeyIds hl hl' (by rw [hid, same.id, hid'])
    rw [howner', ← same.userId, owner]
  | @created payload charge response status responded writes =>
    rw [writes, view_append] at hids ⊢
    refine (logs_created ?_ status).recording
    rw [payments_recording] at hids
    have hsaved (rows : List Payment) (old new : Payment) :
        (updateAt Payment.id env.paymentId (fun p => p.saved env.now old new) rows).map Payment.id =
          rows.map Payment.id := map_key_updateAt fun p => Payment.saved_id ..
    exact hsaved _ _ _ ▸ hids
  | @refunded _ payload d payment result response read found status amount responded writes =>
    rw [writes, view_append]
    obtain ⟨hmem, -, -⟩ := Tables.mem_of_getForOwner found
    obtain ⟨q, hq, hid, -⟩ := hreads.payments d read payment hmem
    exact (logs_refunded ⟨q, hq, hid⟩ (hreads.payment_owner read found)).recording
  | @captured _ _ _ d payment charge _ read found status responded writes =>
    rw [writes]
    refine logs_outcome (hreads.payment_owner read found) ?_ ?_
    · rw [status]
      exact PaymentStatus.noConfusion
    · exact List.mem_singleton_self _
  | @canceled _ d payment _ read found status responded writes =>
    rw [writes]
    refine logs_outcome (hreads.payment_owner read found) ?_ ?_
    · intro hsame
      rw [← hsame] at status
      cases status
    · exact List.mem_cons_self

lemma SignInStages.map_apiKey_id {gs : List (Tables → Tables)} (h : SignInStages env gs) :
    (view gs t).apiKeys.map ApiKey.id = t.apiKeys.map ApiKey.id := by
  cases h with
  | nothing => rfl
  | used => exact map_key_updateAt fun k => ApiKey.saved_id ..

/-- **What a request books is logged.** -/
lemma HttpCall.Books.logs {request : HttpCall} (h : request.Books app H answer) (ht : t.Unique)
    (hreads : ∀ d ∈ H.reads, Evolves d t) (hids : (view H.writes t).Unique) :
    Logs app t (view H.writes t) := by
  cases h with
  | «open» books => exact books.logs t
  | @user _ _ _ _ _ L K signedIn role stages books history =>
    subst history
    have hstages : Evolves t (view L.writes t) := evolving_view (evolving_signIn stages) t
    rw [History.writes_append, view_append] at hids ⊢
    refine (logs_signIn stages).trans (books.logs ⟨?_, ?_, ?_, ?_⟩ hids.paymentId)
    · intro d hd p hp
      obtain ⟨q, hq, hlater⟩ := (hreads d (by simp [hd])).payments.exists_of_mem hp
      exact ⟨q, by rwa [stages.view_payments], hlater.id, hlater.ownerId⟩
    · intro d hd k hk
      obtain ⟨l, hl, hlater⟩ := ((hreads d (by simp [hd])).trans hstages).apiKeys.exists_of_mem hk
      exact ⟨l, hl, hlater.id, hlater.userId⟩
    · rw [stages.view_payments]
      exact ht.paymentId
    · rw [stages.map_apiKey_id]
      exact ht.apiKeyId

end Requests

/-! ## All interleavings -/

section Interleavings

variable {ι W C : Type} [DecidableEq ι] {app : App} {handle : C → Handler GatewayOp Exn W}
  {requests : ι → HttpCall}

lemma logs_step (hunique : ∀ t, app.accepts t = true → t.Unique) {s : ApiSystem ι W C}
    {m : Move ι C} (hs : ApiSound app requests Tables.Unique s) :
    Logs app s.store (System.step (serviceHost app handle) s m).store := by
  rcases System.store_step (h := serviceHost app handle) (s := s) (m := m) with
    ⟨hstore, -, -⟩ | ⟨answer, ha, hstore, -⟩
  · rw [hstore]
    exact logs_refl app _
  · rw [hstore]
    exact (hs.books_of_publishes ha).logs hs.sound.store
      (fun d hd => (hs.sound.reads _ d hd).2) (hunique _ ha.2)

/-- **The audit log is complete**: whatever is new between two states of a run is in it. -/
theorem audit_complete (hunique : ∀ t, app.accepts t = true → t.Unique) {t : Tables}
    (ht : t.Unique) (handle : C → Handler GatewayOp Exn W) (requests : ι → HttpCall) (w : W)
    (moves later : List (Move ι C)) :
    Logs app
      (run (System.step (serviceHost app handle)) (apiStart app requests t w) moves).store
      (run (System.step (serviceHost app handle)) (apiStart app requests t w)
        (moves ++ later)).store := by
  have hsound : ApiSound app requests Tables.Unique
      (run (System.step (serviceHost app handle)) (apiStart app requests t w) moves) :=
    apiSound_run (bookingsKeep_of_accepts hunique) ht w moves
  rw [run_append]
  exact run_of_obeys (R := fun s s' : ApiSystem ι W C => Logs app s.store s'.store)
    (fun s => logs_refl app s.store) (fun _ _ _ => Logs.trans)
    (fun _ _ hs _ => apiSound_step (bookingsKeep_of_accepts hunique) hs)
    (fun _ _ hs _ => logs_step hunique hs) hsound
    (obeys_of_forall fun _ _ => trivial)

end Interleavings

/-- Two registrations. -/
def registrationRequest (first : Bool) : HttpCall where
  env := demoEnv (if first then 1 else 2)
  call := .open (.register (if first then "a@example.com" else "b@example.com") "correct horse"
    none)

/-- The registrations take turns. -/
theorem audit_complete_demo :
    Logs demoApp
      (run (System.step (serviceHost demoApp (mockHandler "")))
        (apiStart demoApp registrationRequest Tables.empty ()) []).store
      (run (System.step (serviceHost demoApp (mockHandler "")))
        (apiStart demoApp registrationRequest Tables.empty ())
        ([] ++ (List.replicate 5 [⟨true, ()⟩, ⟨false, ()⟩]).flatten)).store :=
  audit_complete demoApp_unique (by decide) (mockHandler "") registrationRequest () [] _

end PaymentGateway
