/-
# The lengths of the columns

What `String(n)` and `BigInteger` allow in the columns whose values come from outside: from
headers, request bodies and the answers of the providers (`app/db/models`).  PostgreSQL
refuses a row that does not fit; SQLite takes it.
-/
import PaymentGateway.Db.Tables

namespace PaymentGateway

open Transact

/-- A value that a column `String(n)` takes: `NULL`, or a text of `n` characters at most. -/
def FitsText (n : ℕ) (s : Option String) : Prop := ∀ x ∈ s, x.length ≤ n

instance {n : ℕ} {s : Option String} : Decidable (FitsText n s) :=
  inferInstanceAs (Decidable (∀ x ∈ s, x.length ≤ n))

/-- A value that a column `BigInteger` takes: a signed integer of 64 bits. -/
def FitsBigInteger (n : ℤ) : Prop := -2 ^ 63 ≤ n ∧ n < 2 ^ 63

instance {n : ℤ} : Decidable (FitsBigInteger n) :=
  inferInstanceAs (Decidable (-2 ^ 63 ≤ n ∧ n < 2 ^ 63))

/-- The text of a reason, if it is one; a column cannot take another value. -/
def Json.text? : Json → Option String
  | .str s => some s
  | _ => none

/-! ## Rows -/

/-- Every text of the row is at most as long as its column, and every amount is within the range
of a `BigInteger`. -/
structure Payment.Fits (p : Payment) : Prop where
  providerReference : FitsText 255 p.providerReference
  description : FitsText 500 p.description
  customerReference : FitsText 255 p.customerReference
  failureReason : FitsText 500 p.failureReason.text?
  amount : FitsBigInteger p.amount
  amountCaptured : FitsBigInteger p.amountCaptured
  amountRefunded : FitsBigInteger p.amountRefunded

/-- Every text of the row is at most as long as its column, and the amount is within the range of
a `BigInteger`. -/
structure Refund.Fits (r : Refund) : Prop where
  reason : FitsText 500 r.reason
  providerReference : FitsText 255 r.providerReference
  amount : FitsBigInteger r.amount

/-- The key is at most as long as its column; the other texts of the row have a fixed length. -/
def IdempotencyKey.Fits (r : IdempotencyKey) : Prop := r.key.length ≤ 255

/-- The id and the type that the provider has sent are at most as long as their columns. -/
structure WebhookEvent.Fits (e : WebhookEvent) : Prop where
  eventId : e.eventId.length ≤ 255
  eventType : e.eventType.length ≤ 120

/-- The id of the resource and the correlation id are at most as long as their columns. -/
structure AuditLog.Fits (e : AuditLog) : Prop where
  resourceId : FitsText 64 e.resourceId
  correlationId : FitsText 64 e.correlationId

instance (p : Payment) : Decidable p.Fits :=
  decidable_of_iff
    (FitsText 255 p.providerReference ∧ FitsText 500 p.description ∧
      FitsText 255 p.customerReference ∧ FitsText 500 p.failureReason.text? ∧
      FitsBigInteger p.amount ∧ FitsBigInteger p.amountCaptured ∧ FitsBigInteger p.amountRefunded)
    ⟨fun ⟨a, b, c, d, e, f, g⟩ => ⟨a, b, c, d, e, f, g⟩,
      fun ⟨a, b, c, d, e, f, g⟩ => ⟨a, b, c, d, e, f, g⟩⟩

instance (r : Refund) : Decidable r.Fits :=
  decidable_of_iff
    (FitsText 500 r.reason ∧ FitsText 255 r.providerReference ∧ FitsBigInteger r.amount)
    ⟨fun ⟨a, b, c⟩ => ⟨a, b, c⟩, fun ⟨a, b, c⟩ => ⟨a, b, c⟩⟩

instance (r : IdempotencyKey) : Decidable r.Fits := inferInstanceAs (Decidable (r.key.length ≤ 255))

instance (e : WebhookEvent) : Decidable e.Fits :=
  decidable_of_iff (e.eventId.length ≤ 255 ∧ e.eventType.length ≤ 120)
    ⟨fun ⟨a, b⟩ => ⟨a, b⟩, fun ⟨a, b⟩ => ⟨a, b⟩⟩

instance (e : AuditLog) : Decidable e.Fits :=
  decidable_of_iff (FitsText 64 e.resourceId ∧ FitsText 64 e.correlationId)
    ⟨fun ⟨a, b⟩ => ⟨a, b⟩, fun ⟨a, b⟩ => ⟨a, b⟩⟩

/-- Every row fits its table.  Columns that only the code itself fills are not mentioned. -/
structure Tables.Fits (t : Tables) : Prop where
  payments : ∀ p ∈ t.payments, p.Fits
  refunds : ∀ r ∈ t.refunds, r.Fits
  idempotencyKeys : ∀ r ∈ t.idempotencyKeys, r.Fits
  webhookEvents : ∀ e ∈ t.webhookEvents, e.Fits
  auditLogs : ∀ e ∈ t.auditLogs, e.Fits

instance (t : Tables) : Decidable t.Fits :=
  decidable_of_iff
    ((∀ p ∈ t.payments, p.Fits) ∧ (∀ r ∈ t.refunds, r.Fits) ∧
      (∀ r ∈ t.idempotencyKeys, r.Fits) ∧ (∀ e ∈ t.webhookEvents, e.Fits) ∧
      ∀ e ∈ t.auditLogs, e.Fits)
    ⟨fun ⟨a, b, c, d, e⟩ => ⟨a, b, c, d, e⟩, fun ⟨a, b, c, d, e⟩ => ⟨a, b, c, d, e⟩⟩

lemma FitsText.mono {m n : ℕ} (hmn : m ≤ n) {s : Option String} (h : FitsText m s) :
    FitsText n s := fun x hx => (h x hx).trans hmn

lemma fitsText_none {n : ℕ} : FitsText n none := fun x hx => by cases hx

lemma fitsText_some {n : ℕ} {s : String} : FitsText n (some s) ↔ s.length ≤ n := by
  constructor
  · intro h
    exact h s rfl
  · rintro h x ⟨⟩
    exact h

/-- A text that a schema has bounded. -/
lemma fitsText_map_val {n : ℕ} (s : Option (Text n)) : FitsText n (s.map Subtype.val) := by
  rcases s with _ | s
  · exact fitsText_none
  · exact fitsText_some.2 s.2

lemma fitsBigInteger_zero : FitsBigInteger 0 := by decide

lemma fitsBigInteger_amountMinor (n : AmountMinor) : FitsBigInteger n.1 := by
  obtain ⟨hpos, hle⟩ := n.2
  constructor <;> omega

/-- An `UPDATE` leaves the value of the row or writes the one of the object. -/
lemma changed_of {α : Type} [DecidableEq α] (P : α → Prop) {old new current : α} (h : P current)
    (h' : P new) : P (changed old new current) := by
  rw [changed]
  split
  · exact h
  · exact h'

lemma Payment.Fits.saved {row old new : Payment} {now : Timestamp} (hrow : row.Fits)
    (hnew : new.Fits) : (row.saved now old new).Fits := by
  rw [Payment.saved]
  split
  · exact hrow
  · exact {
      providerReference := changed_of (FitsText 255) hrow.providerReference hnew.providerReference
      description := hrow.description
      customerReference := hrow.customerReference
      failureReason :=
        changed_of (fun r : Json => FitsText 500 r.text?) hrow.failureReason hnew.failureReason
      amount := hrow.amount
      amountCaptured := changed_of FitsBigInteger hrow.amountCaptured hnew.amountCaptured
      amountRefunded := changed_of FitsBigInteger hrow.amountRefunded hnew.amountRefunded }

/-! ## Statements -/

/-- Every row fits, and no payment has a negative refunded amount. -/
structure InRange (t : Tables) : Prop extends t.Fits where
  refunded : ∀ p ∈ t.payments, 0 ≤ p.amountRefunded

lemma inRange_empty : InRange .empty := by
  constructor
  · constructor <;> intro r hr <;> cases hr
  · intro p hp
    cases hp

section Statements

variable {t t' : Tables}

/-- The other tables do not matter. -/
lemma InRange.congr (h : InRange t) (hpayments : t'.payments = t.payments)
    (hrefunds : t'.refunds = t.refunds) (hkeys : t'.idempotencyKeys = t.idempotencyKeys)
    (hevents : t'.webhookEvents = t.webhookEvents) (hlogs : t'.auditLogs = t.auditLogs) :
    InRange t' := by
  refine ⟨⟨?_, ?_, ?_, ?_, ?_⟩, ?_⟩
  · rw [hpayments]
    exact h.payments
  · rw [hrefunds]
    exact h.refunds
  · rw [hkeys]
    exact h.idempotencyKeys
  · rw [hevents]
    exact h.webhookEvents
  · rw [hlogs]
    exact h.auditLogs
  · rw [hpayments]
    exact h.refunded

lemma forall_mem_concat {α : Type} {P : α → Prop} {xs : List α} {a : α} (h : ∀ x ∈ xs, P x)
    (ha : P a) : ∀ x ∈ xs ++ [a], P x := by
  intro x hx
  rcases List.mem_append.1 hx with hx | hx
  · exact h x hx
  · rw [List.mem_singleton.1 hx]
    exact ha

lemma InRange.insertPayment (h : InRange t) {p : Payment} (hp : p.Fits) (h0 : 0 ≤ p.amountRefunded) :
    InRange (t.insertPayment p) :=
  { h with
    payments := forall_mem_concat h.payments hp
    refunded := forall_mem_concat h.refunded h0 }

lemma InRange.insertRefund (h : InRange t) {r : Refund} (hr : r.Fits) :
    InRange (t.insertRefund r) := { h with refunds := forall_mem_concat h.refunds hr }

lemma InRange.insertIdempotencyKey (h : InRange t) {r : IdempotencyKey} (hr : r.Fits) :
    InRange (t.insertIdempotencyKey r) :=
  { h with idempotencyKeys := forall_mem_concat h.idempotencyKeys hr }

lemma InRange.insertWebhookEvent (h : InRange t) {e : WebhookEvent} (he : e.Fits) :
    InRange (t.insertWebhookEvent e) :=
  { h with webhookEvents := forall_mem_concat h.webhookEvents he }

lemma InRange.insertAuditLog (h : InRange t) {e : AuditLog} (he : e.Fits) :
    InRange (t.insertAuditLog e) := { h with auditLogs := forall_mem_concat h.auditLogs he }

lemma InRange.savePayment (h : InRange t) {now : Timestamp} {old new : Payment} (hnew : new.Fits)
    (h0 : 0 ≤ new.amountRefunded) : InRange (t.savePayment now old new) := by
  refine { h with payments := fun p hp => ?_, refunded := fun p hp => ?_ }
  · obtain ⟨q, hq, ⟨-, rfl⟩ | ⟨-, rfl⟩⟩ := exists_of_mem_updateAt hp
    · exact (h.payments q hq).saved hnew
    · exact h.payments p hq
  · obtain ⟨q, hq, ⟨-, rfl⟩ | ⟨-, rfl⟩⟩ := exists_of_mem_updateAt hp
    · rw [Payment.saved_amountRefunded]
      exact changed_of (fun n => 0 ≤ n) (h.refunded q hq) h0
    · exact h.refunded p hq

end Statements

end PaymentGateway
