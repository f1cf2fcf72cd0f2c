/-
# Tables

The database as lists of rows, with the queries of `app/repositories` and the statements a
session emits when it flushes.

An `INSERT` appends a row.  An `UPDATE` is emitted for a loaded object that was changed, and
sets the columns whose value differs from the one that was loaded, so a row that was changed
by someone else in between keeps the other columns (`changed`).  What the database itself
enforces are the primary keys and the unique constraints (`Tables.Unique`).
-/
import Mathlib.Algebra.BigOperators.Group.List.Basic
import Mathlib.Algebra.Order.Ring.Int
import Mathlib.Tactic.Simps.Basic
import PaymentGateway.Db.Models
import PaymentGateway.Lib.Rows

namespace PaymentGateway

open Transact

/-- The tables, each as the list of its rows in the order in which they were inserted.  A query
reads the whole list, and the services see the rows that their own session has staged. -/
structure Tables where
  users : List User
  apiKeys : List ApiKey
  providerConfigs : List ProviderConfig
  payments : List Payment
  refunds : List Refund
  idempotencyKeys : List IdempotencyKey
  webhookEvents : List WebhookEvent
  auditLogs : List AuditLog
deriving DecidableEq, Repr

/-- What an event is deduplicated by: the provider, and the id that it gave the event.  The
account is not part of it. -/
def WebhookEvent.key (e : WebhookEvent) : ProviderName × String := (e.provider, e.eventId)

/-- `result.scalar_one_or_none()`: two rows raise. -/
def scalarOneOrNone {α : Type} : List α → Except Exn (Option α)
  | [] => .ok none
  | [a] => .ok (some a)
  | _ => .error .multipleResultsFound

lemma scalarOneOrNone_eq_some {α : Type} {xs : List α} {a : α} :
    scalarOneOrNone xs = .ok (some a) ↔ xs = [a] := by
  rcases xs with _ | ⟨x, _ | ⟨y, xs⟩⟩ <;> simp [scalarOneOrNone]

lemma scalarOneOrNone_eq_none {α : Type} {xs : List α} :
    scalarOneOrNone xs = .ok none ↔ xs = [] := by
  rcases xs with _ | ⟨x, _ | ⟨y, xs⟩⟩ <;> simp [scalarOneOrNone]

/-- The value that an `UPDATE` leaves in a column that holds `current`, when the object was
loaded with `old` and now has `new`. -/
def changed {α : Type} [DecidableEq α] (old new current : α) : α :=
  if new = old then current else new

@[simp] lemma changed_same {α : Type} [DecidableEq α] (old current : α) :
    changed old old current = current := if_pos rfl

/-- Nobody changed the column in between. -/
@[simp] lemma changed_loaded {α : Type} [DecidableEq α] (old new : α) :
    changed old new old = new := by
  rw [changed]
  split <;> simp [*]

namespace Tables

variable (t : Tables)

/-! ## Queries -/

/-- `PaymentRepository.get_for_owner` -/
def getForOwner (paymentId ownerId : Uuid) : Except Exn (Option Payment) :=
  scalarOneOrNone (t.payments.filter fun p => p.id = paymentId ∧ p.ownerId = ownerId)

/-- The rows that `list_for_owner` counts and pages through: those of the owner, with the given
status if there is one. -/
def paymentsOf (ownerId : Uuid) (status : Option PaymentStatus) : List Payment :=
  t.payments.filter fun p => p.ownerId = ownerId ∧ ∀ s ∈ status, p.status = s

/-- One page of `list_for_owner`, the latest payment first.  Payments with the same time stand in
the order of their insertion here. -/
def pageOfPayments (ownerId : Uuid) (status : Option PaymentStatus) (limit offset : ℕ) :
    List Payment :=
  (((t.paymentsOf ownerId status).insertionSort fun p q => q.createdAt ≤ p.createdAt).drop
    offset).take limit

/-- `ProviderConfigRepository.get_active`: two active configurations of one provider raise. -/
def getActive (ownerId : Uuid) (provider : ProviderName) : Except Exn (Option ProviderConfig) :=
  scalarOneOrNone (t.providerConfigs.filter fun c =>
    c.ownerId = ownerId ∧ c.provider = provider ∧ c.isActive = true)

/-- `IdempotencyRepository.get`, by the owner, the endpoint and the key. -/
def getIdempotencyKey (ownerId : Uuid) (endpoint key : String) :
    Except Exn (Option IdempotencyKey) :=
  scalarOneOrNone (t.idempotencyKeys.filter fun r =>
    r.ownerId = ownerId ∧ r.endpoint = endpoint ∧ r.key = key)

/-- `WebhookRepository.get_by_event`, over the events of all accounts. -/
def getByEvent (provider : ProviderName) (eventId : String) : Except Exn (Option WebhookEvent) :=
  scalarOneOrNone (t.webhookEvents.filter fun e => e.key = (provider, eventId))

/-- `ApiKeyRepository.get_by_hash`, over the keys of all users, the revoked ones too. -/
def getByHash (hashedKey : String) : Except Exn (Option ApiKey) :=
  scalarOneOrNone (t.apiKeys.filter fun k => k.hashedKey = hashedKey)

/-- `UserRepository.get_by_email`, on the lower-cased address. -/
def getByEmail (email : String) : Except Exn (Option User) :=
  scalarOneOrNone (t.users.filter fun u => u.email = email)

/-- `UserRepository.email_exists`, on the lower-cased address. -/
def emailExists (email : String) : Bool := t.users.any fun u => u.email = email

/-- `session.get(User, id)` -/
def getUser (id : Uuid) : Option User := t.users.find? fun u => u.id = id

/-- `session.get(ApiKey, id)` -/
def getApiKey (id : Uuid) : Option ApiKey := t.apiKeys.find? fun k => k.id = id

/-- `ApiKeyRepository.list_for_owner`: the latest key first. -/
def listApiKeysForOwner (ownerId : Uuid) : List ApiKey :=
  (t.apiKeys.filter fun k => k.userId = ownerId).insertionSort fun k l => l.createdAt ≤ k.createdAt

/-- The refunds of a payment, in the order in which they were made. -/
def refundsOf (paymentId : Uuid) : List Refund := t.refunds.filter fun r => r.paymentId = paymentId

/-- The amounts of the refunds of a payment, whatever their status. -/
def refundedTotal (paymentId : Uuid) : ℤ := ((t.refundsOf paymentId).map Refund.amount).sum

/-! ## Statements -/

/-- The tables after `INSERT INTO users`. -/
@[simps]
def insertUser (u : User) : Tables := { t with users := t.users ++ [u] }

/-- The tables after `INSERT INTO payments`. -/
@[simps]
def insertPayment (p : Payment) : Tables := { t with payments := t.payments ++ [p] }

/-- The tables after `INSERT INTO refunds`. -/
@[simps]
def insertRefund (r : Refund) : Tables := { t with refunds := t.refunds ++ [r] }

/-- The tables after `INSERT INTO idempotency_keys`. -/
@[simps]
def insertIdempotencyKey (r : IdempotencyKey) : Tables :=
  { t with idempotencyKeys := t.idempotencyKeys ++ [r] }

/-- The tables after `INSERT INTO api_keys`. -/
@[simps]
def insertApiKey (k : ApiKey) : Tables := { t with apiKeys := t.apiKeys ++ [k] }

/-- The tables after `INSERT INTO webhook_events`. -/
@[simps]
def insertWebhookEvent (e : WebhookEvent) : Tables :=
  { t with webhookEvents := t.webhookEvents ++ [e] }

/-- The tables after `INSERT INTO audit_logs`. -/
@[simps]
def insertAuditLog (e : AuditLog) : Tables := { t with auditLogs := t.auditLogs ++ [e] }

end Tables

/-- The row after the `UPDATE` for a payment that was loaded as `old` and is now `new`; the
services assign the five columns below, and `updated_at` is set by the database. -/
def Payment.saved (row : Payment) (now : Timestamp) (old new : Payment) : Payment :=
  if old = new then row else
    { row with
      providerReference := changed old.providerReference new.providerReference row.providerReference
      amountCaptured := changed old.amountCaptured new.amountCaptured row.amountCaptured
      amountRefunded := changed old.amountRefunded new.amountRefunded row.amountRefunded
      status := changed old.status new.status row.status
      failureReason := changed old.failureReason new.failureReason row.failureReason
      updatedAt := now }

section

variable (now : Timestamp) (old new row : Payment)

@[simp] lemma Payment.saved_id : (row.saved now old new).id = row.id := by
  rw [saved]
  split <;> rfl

@[simp] lemma Payment.saved_ownerId : (row.saved now old new).ownerId = row.ownerId := by
  rw [saved]
  split <;> rfl

@[simp] lemma Payment.saved_provider : (row.saved now old new).provider = row.provider := by
  rw [saved]
  split <;> rfl

@[simp] lemma Payment.saved_amount : (row.saved now old new).amount = row.amount := by
  rw [saved]
  split <;> rfl

@[simp] lemma Payment.saved_providerReference : (row.saved now old new).providerReference =
    changed old.providerReference new.providerReference row.providerReference := by
  rw [saved]
  split <;> simp [*]

@[simp] lemma Payment.saved_amountCaptured : (row.saved now old new).amountCaptured =
    changed old.amountCaptured new.amountCaptured row.amountCaptured := by
  rw [saved]
  split <;> simp [*]

@[simp] lemma Payment.saved_amountRefunded : (row.saved now old new).amountRefunded =
    changed old.amountRefunded new.amountRefunded row.amountRefunded := by
  rw [saved]
  split <;> simp [*]

@[simp] lemma Payment.saved_status : (row.saved now old new).status =
    changed old.status new.status row.status := by
  rw [saved]
  split <;> simp [*]

@[simp] lemma Payment.saved_failureReason : (row.saved now old new).failureReason =
    changed old.failureReason new.failureReason row.failureReason := by
  rw [saved]
  split <;> simp [*]

end

/-- The row after the `UPDATE` for a user; `authenticate` assigns these two columns. -/
def User.saved (row : User) (now : Timestamp) (old new : User) : User :=
  if old = new then row else
    { row with
      failedLoginAttempts :=
        changed old.failedLoginAttempts new.failedLoginAttempts row.failedLoginAttempts
      hashedPassword := changed old.hashedPassword new.hashedPassword row.hashedPassword
      updatedAt := now }

section

variable (now : Timestamp) (old new row : User)

@[simp] lemma User.saved_id : (row.saved now old new).id = row.id := by
  rw [saved]
  split <;> rfl

@[simp] lemma User.saved_failedLoginAttempts : (row.saved now old new).failedLoginAttempts =
    changed old.failedLoginAttempts new.failedLoginAttempts row.failedLoginAttempts := by
  rw [saved]
  split <;> simp [*]

end

/-- The row after the `UPDATE` for an API key that was used or revoked. -/
def ApiKey.saved (row : ApiKey) (now : Timestamp) (old new : ApiKey) : ApiKey :=
  if old = new then row else
    { row with
      isActive := changed old.isActive new.isActive row.isActive
      lastUsedAt := changed old.lastUsedAt new.lastUsedAt row.lastUsedAt
      revokedAt := changed old.revokedAt new.revokedAt row.revokedAt
      updatedAt := now }

section

variable (now : Timestamp) (old new row : ApiKey)

@[simp] lemma ApiKey.saved_id : (row.saved now old new).id = row.id := by
  rw [saved]
  split <;> rfl

@[simp] lemma ApiKey.saved_userId : (row.saved now old new).userId = row.userId := by
  rw [saved]
  split <;> rfl

@[simp] lemma ApiKey.saved_hashedKey : (row.saved now old new).hashedKey = row.hashedKey := by
  rw [saved]
  split <;> rfl

@[simp] lemma ApiKey.saved_isActive : (row.saved now old new).isActive =
    changed old.isActive new.isActive row.isActive := by
  rw [saved]
  split <;> simp [*]

@[simp] lemma ApiKey.saved_revokedAt : (row.saved now old new).revokedAt =
    changed old.revokedAt new.revokedAt row.revokedAt := by
  rw [saved]
  split <;> simp [*]

end

namespace Tables

variable (t : Tables)

/-- `UPDATE payments … WHERE id = …`: only the columns that the session has changed are written.
-/
@[simps]
def savePayment (now : Timestamp) (old new : Payment) : Tables :=
  { t with payments := updateAt Payment.id old.id (fun p => p.saved now old new) t.payments }

/-- `UPDATE users … WHERE id = …`: only the columns that the session has changed are written. -/
@[simps]
def saveUser (now : Timestamp) (old new : User) : Tables :=
  { t with users := updateAt User.id old.id (fun u => u.saved now old new) t.users }

/-- `UPDATE api_keys … WHERE id = …`: only the columns that the session has changed are written.
-/
@[simps]
def saveApiKey (now : Timestamp) (old new : ApiKey) : Tables :=
  { t with apiKeys := updateAt ApiKey.id old.id (fun k => k.saved now old new) t.apiKeys }

/-! ## Rows that a query finds -/

variable {t}

lemma mem_of_getForOwner {paymentId ownerId : Uuid} {p : Payment}
    (h : t.getForOwner paymentId ownerId = .ok (some p)) :
    p ∈ t.payments ∧ p.id = paymentId ∧ p.ownerId = ownerId := by
  have hp := mem_of_filter_eq_singleton (scalarOneOrNone_eq_some.1 h)
  simpa using hp

lemma ownerId_of_mem_pageOfPayments {ownerId : Uuid} {status : Option PaymentStatus}
    {limit offset : ℕ} {p : Payment} (h : p ∈ t.pageOfPayments ownerId status limit offset) :
    p.ownerId = ownerId := by
  have hp := List.mem_of_mem_drop (List.mem_of_mem_take h)
  rw [List.mem_insertionSort, paymentsOf, List.mem_filter] at hp
  exact (of_decide_eq_true hp.2).1

lemma userId_of_mem_listApiKeysForOwner {ownerId : Uuid} {k : ApiKey}
    (h : k ∈ t.listApiKeysForOwner ownerId) : k.userId = ownerId := by
  rw [listApiKeysForOwner, List.mem_insertionSort, List.mem_filter] at h
  exact of_decide_eq_true h.2

lemma mem_of_getIdempotencyKey {ownerId : Uuid} {endpoint key : String} {r : IdempotencyKey}
    (h : t.getIdempotencyKey ownerId endpoint key = .ok (some r)) :
    r ∈ t.idempotencyKeys ∧ r.ownerId = ownerId := by
  obtain ⟨hr, hfields⟩ := mem_of_filter_eq_singleton (scalarOneOrNone_eq_some.1 h)
  exact ⟨hr, (of_decide_eq_true hfields).1⟩

lemma mem_of_getByEmail {email : String} {u : User} (h : t.getByEmail email = .ok (some u)) :
    u ∈ t.users :=
  (mem_of_filter_eq_singleton (scalarOneOrNone_eq_some.1 h)).1

/-- With distinct ids, `session.get` finds the row with the id. -/
lemma getUser_eq_some (hids : (t.users.map User.id).Nodup) {id : Uuid} {u : User} :
    t.getUser id = some u ↔ u ∈ t.users ∧ u.id = id := find?_key_eq_some hids

lemma getApiKey_eq_some (hids : (t.apiKeys.map ApiKey.id).Nodup) {id : Uuid} {k : ApiKey} :
    t.getApiKey id = some k ↔ k ∈ t.apiKeys ∧ k.id = id := find?_key_eq_some hids

lemma getByHash_eq_some (hhashes : (t.apiKeys.map ApiKey.hashedKey).Nodup) {hashedKey : String}
    {k : ApiKey} :
    t.getByHash hashedKey = .ok (some k) ↔ k ∈ t.apiKeys ∧ k.hashedKey = hashedKey := by
  rw [getByHash, scalarOneOrNone_eq_some]
  constructor
  · intro h
    simpa using mem_of_filter_eq_singleton h
  · rintro ⟨hk, rfl⟩
    exact filter_key_eq hhashes hk

/-- The total of the refunds of a payment, one refund later. -/
lemma refundedTotal_insertRefund (r : Refund) (paymentId : Uuid) :
    (t.insertRefund r).refundedTotal paymentId =
      t.refundedTotal paymentId + if r.paymentId = paymentId then r.amount else 0 := by
  by_cases hr : r.paymentId = paymentId
  · simp [refundedTotal, refundsOf, hr]
  · simp [refundedTotal, refundsOf, hr]

/-! ## What the database enforces -/

variable (t)

/-- The primary keys and the unique constraints.  A reference that is `NULL` is unique. -/
structure Unique : Prop where
  userId : (t.users.map User.id).Nodup
  email : (t.users.map User.email).Nodup
  apiKeyId : (t.apiKeys.map ApiKey.id).Nodup
  hashedKey : (t.apiKeys.map ApiKey.hashedKey).Nodup
  providerConfigId : (t.providerConfigs.map ProviderConfig.id).Nodup
  paymentId : (t.payments.map Payment.id).Nodup
  providerReference :
    ((t.payments.filter fun p => p.providerReference.isSome).map fun p =>
      (p.provider, p.providerReference)).Nodup
  refundId : (t.refunds.map Refund.id).Nodup
  idempotencyKeyId : (t.idempotencyKeys.map IdempotencyKey.id).Nodup
  ownerEndpointKey :
    (t.idempotencyKeys.map fun r => (r.ownerId, r.endpoint, r.key)).Nodup
  webhookEventId : (t.webhookEvents.map WebhookEvent.id).Nodup
  providerEventId : (t.webhookEvents.map WebhookEvent.key).Nodup
  auditLogId : (t.auditLogs.map AuditLog.id).Nodup

instance : Decidable t.Unique :=
  decidable_of_iff
    ((t.users.map User.id).Nodup ∧ (t.users.map User.email).Nodup ∧
      (t.apiKeys.map ApiKey.id).Nodup ∧ (t.apiKeys.map ApiKey.hashedKey).Nodup ∧
      (t.providerConfigs.map ProviderConfig.id).Nodup ∧ (t.payments.map Payment.id).Nodup ∧
      ((t.payments.filter fun p => p.providerReference.isSome).map fun p =>
        (p.provider, p.providerReference)).Nodup ∧
      (t.refunds.map Refund.id).Nodup ∧ (t.idempotencyKeys.map IdempotencyKey.id).Nodup ∧
      (t.idempotencyKeys.map fun r => (r.ownerId, r.endpoint, r.key)).Nodup ∧
      (t.webhookEvents.map WebhookEvent.id).Nodup ∧
      (t.webhookEvents.map WebhookEvent.key).Nodup ∧
      (t.auditLogs.map AuditLog.id).Nodup)
    ⟨fun ⟨a, b, c, d, e, f, g, h, i, j, k, l, m⟩ => ⟨a, b, c, d, e, f, g, h, i, j, k, l, m⟩,
      fun ⟨a, b, c, d, e, f, g, h, i, j, k, l, m⟩ => ⟨a, b, c, d, e, f, g, h, i, j, k, l, m⟩⟩

/-- No rows at all. -/
def empty : Tables := ⟨[], [], [], [], [], [], [], []⟩

end Tables

end PaymentGateway
