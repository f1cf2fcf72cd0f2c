/-
# Captured funds and the status of a payment

A weaker companion of the ledger invariant, which asks nothing of the providers: the ids of
the payments are distinct, and a payment has no captured funds while its status says so.  It
holds in every state that service calls lead to, whatever the providers answer
(`orderly_run`); the results about the provider's answers and about concurrent requests start
from it.
-/
import PaymentGateway.Services.Calls

namespace PaymentGateway

open Transact

/-- The statuses in which nothing was captured. -/
def uncapturedStates : List PaymentStatus := [.requiresConfirmation, .authorized, .canceled]

/-- The payments have different ids, and none of them has captured anything before it was
captured. -/
structure Orderly (t : Tables) : Prop where
  ids : (t.payments.map Payment.id).Nodup
  row : ∀ p ∈ t.payments, p.status ∈ uncapturedStates → p.amountCaptured ≤ 0

variable {app : App} {c : CallInput} {t t' : Tables} {payment updated : Payment} {now : Timestamp}

/-- An update keeps the payments in order if the new version of its row is in order. -/
lemma Orderly.update (h : Orderly t)
    (payments : t'.payments = (t.savePayment now payment updated).payments)
    (hrow : ∀ p ∈ t.payments, p.id = payment.id →
      (p.saved now payment updated).status ∈ uncapturedStates →
        (p.saved now payment updated).amountCaptured ≤ 0) : Orderly t' := by
  refine ⟨?_, fun p hp hs => ?_⟩
  · rw [payments, Tables.savePayment_payments, map_key_updateAt (fun q => by simp)]
    exact h.ids
  · rw [payments] at hp
    obtain ⟨q, hq, ⟨hid, rfl⟩ | ⟨-, rfl⟩⟩ := exists_of_mem_updateAt hp
    · exact hrow q hq hid hs
    · exact h.row p hq hs

/-- The same where the row is still the one that was read. -/
lemma Orderly.save (h : Orderly t) (hp : payment ∈ t.payments)
    (payments : t'.payments = (t.savePayment now payment updated).payments)
    (hrow : updated.status ∈ uncapturedStates → updated.amountCaptured ≤ 0) : Orderly t' := by
  refine h.update payments fun p hp' hid hs => ?_
  obtain rfl := eq_of_key_eq h.ids hp' hp hid
  rw [Payment.saved_status, changed_loaded] at hs
  rw [Payment.saved_amountCaptured, changed_loaded]
  exact hrow hs

lemma Orderly.create (h : Orderly t) {args : CreatePaymentArgs} {charge : ProviderCharge}
    (hids : ((t.insertPayment (newPayment c.env c.owner args)).payments.map Payment.id).Nodup) :
    Orderly (afterCreate c.env c.owner t args charge) := by
  have hinsert : Orderly (t.insertPayment (newPayment c.env c.owner args)) := by
    refine ⟨hids, fun p hp hs => ?_⟩
    rcases List.mem_append.1 hp with hp | hp
    · exact h.row p hp hs
    · rw [List.mem_singleton.1 hp]
      exact le_refl _
  refine hinsert.save (List.mem_append_right _ (List.mem_singleton_self _)) rfl fun hs => ?_
  rw [withCharge_status] at hs
  rw [withCharge_amountCaptured,
    if_neg (by rintro hcap; rw [hcap] at hs; exact absurd hs (by decide))]
  exact le_refl _

/-- A refunded payment has captured funds. -/
lemma withRefund_status_not_mem (payment : Payment) (amountMinor : Option ℤ) :
    (withRefund payment amountMinor).status ∉ uncapturedStates := by
  rw [withRefund]
  dsimp only
  split <;> decide

/-- **Step lemma.**  Every call keeps the payments in order. -/
lemma Orderly.step (hdb : ∀ t, app.accepts t = true → t.Unique) (h : Orderly t) :
    Orderly (PaymentGateway.step app t c) := by
  have hset := settled app c t
  rw [PaymentGateway.step]
  generalize (process app c t).calls = calls at hset
  generalize (process app c t).answer = answer at hset
  generalize (process app c t).store = t' at hset ⊢
  cases hset with
  | refused => exact h
  | unanswered => exact h
  | illegal => exact h
  | rejected => exact h
  | created call amount resolved reacts status fresh => exact h.create (hdb _ fresh).paymentId
  | captured call found =>
    refine h.save (Tables.mem_of_getForOwner found).1 rfl fun hs => ?_
    exact absurd hs (by simp [withCapture, uncapturedStates])
  | @canceled paymentId adapter payment charge call found status =>
    have hp := (Tables.mem_of_getForOwner found).1
    have hs : payment.status ∈ uncapturedStates := by
      rcases canTransition_canceled status with hs | hs <;> rw [hs] <;> decide
    exact h.save hp rfl fun _ => h.row payment hp hs
  | @refunded paymentId amountMinor reason adapter payment result call found =>
    refine h.save (Tables.mem_of_getForOwner found).1 rfl fun hs => ?_
    exact absurd hs (withRefund_status_not_mem payment amountMinor)

/-- The payments are in order in every state that calls lead to. -/
theorem orderly_run (hdb : ∀ t, app.accepts t = true → t.Unique) (hpay : t.payments = [])
    (calls : List CallInput) : Orderly (run (PaymentGateway.step app) t calls) := by
  have hstart : Orderly t := ⟨by simp [hpay], by simp [hpay]⟩
  exact (always_of_step (fun t c (h : Orderly t) => h.step hdb) hstart calls).last

end PaymentGateway
