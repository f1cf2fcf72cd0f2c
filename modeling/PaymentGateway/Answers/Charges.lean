/-
# The status of a payment and the provider's answer

A charge that the provider answers with carries a status.  `create_payment` books that status;
`capture_payment` books `captured` and `cancel_payment` books `canceled`, without a look at it.
So after a call that returned, the payment has the status that the provider reported exactly
if the call created the payment or the report is the status that the method expects
(`agrees_iff`).  In `agrees_capture_canceled` a capture is answered with a canceled charge,
and the payment is booked as captured in full.
-/
import PaymentGateway.Answers.Recorded
import PaymentGateway.Orderly

namespace PaymentGateway

open Transact

/-- The committed payment has the status that the provider reported, and captured funds only
if the provider reported a captured charge. -/
def Agrees (t : Tables) (p : Payment) (charge : ProviderCharge) : Prop :=
  ∀ row ∈ t.payments, row.id = p.id →
    row.status = charge.status ∧ (0 < row.amountCaptured → charge.status = .captured)

/-- The status is the one that the method makes of every answer: a capture always writes
captured, and a cancellation canceled, whatever the provider has said. -/
def ServiceCall.Expects : ServiceCall → PaymentStatus → Prop
  | .createPayment _, _ => True
  | .capturePayment _ _, s => s = .captured
  | .cancelPayment _, s => s = .canceled
  | .createRefund _ _ _, _ => False

section Steps

variable {app : App} {c : CallInput} {t t' : Tables} {payment updated : Payment} {now : Timestamp}
  {charge : ProviderCharge}

/-- What an update of a row that was just read says about its new version. -/
lemma agrees_save_iff (hids : (t.payments.map Payment.id).Nodup) (hp : payment ∈ t.payments)
    (payments : t'.payments = (t.savePayment now payment updated).payments)
    (hid : updated.id = payment.id) :
    Agrees t' updated charge ↔
      updated.status = charge.status ∧ (0 < updated.amountCaptured → charge.status = .captured) := by
  have hrow : ∀ row, row ∈ t'.payments ∧ row.id = updated.id ↔
      row = payment.saved now payment updated := by
    intro row
    rw [payments, Tables.savePayment_payments, mem_updateAt hids hp, hid]
    constructor
    · rintro ⟨rfl | ⟨-, hne⟩, hrow⟩
      · rfl
      · exact absurd hrow hne
    · rintro rfl
      exact ⟨Or.inl rfl, Payment.saved_id ..⟩
  have hstatus : (payment.saved now payment updated).status = updated.status := by simp
  have hcaptured : (payment.saved now payment updated).amountCaptured =
      updated.amountCaptured := by simp
  constructor
  · intro h
    obtain ⟨hmem, hid'⟩ := (hrow _).2 rfl
    rw [← hstatus, ← hcaptured]
    exact h _ hmem hid'
  · intro h row hmem hid'
    obtain rfl := (hrow row).1 ⟨hmem, hid'⟩
    rw [hstatus, hcaptured]
    exact h

/-- **Step lemma.**  A call that was answered with a charge and returned agrees with it exactly
if the charge has the status that the method expects. -/
lemma Orderly.agrees_of_call (hdb : ∀ t, app.accepts t = true → t.Unique) (h : Orderly t)
    {op : GatewayOp ProviderCharge} {p : Payment}
    (hcalls : (process app c t).calls = [⟨op, .ok charge⟩])
    (hanswer : (process app c t).answer = .ok (.payment p)) :
    Agrees (process app c t).store p charge ↔ c.call.Expects charge.status := by
  have hset := settled app c t
  generalize (process app c t).calls = calls at hset hcalls
  generalize (process app c t).answer = answer at hset hanswer
  generalize (process app c t).store = t' at hset ⊢
  cases hset with
  | refused => cases hanswer
  | unanswered => cases hanswer
  | illegal => cases hanswer
  | rejected => cases hanswer
  | @created args adapter charge call amount resolved reacts status fresh =>
    cases hanswer
    cases hcalls
    have hpayments : (afterCreate c.env c.owner t args charge).payments =
        ((t.insertPayment (newPayment c.env c.owner args)).savePayment c.env.now
          (newPayment c.env c.owner args)
          (withCharge (newPayment c.env c.owner args) charge).1).payments := rfl
    have hmem : newPayment c.env c.owner args ∈
        (t.insertPayment (newPayment c.env c.owner args)).payments :=
      List.mem_append_right _ (List.mem_singleton_self _)
    rw [call, agrees_save_iff (hdb _ fresh).paymentId hmem hpayments (withCharge_id _ _),
      withCharge_status, withCharge_amountCaptured]
    -- the booked amount stays zero unless the charge is captured
    have hfunds : 0 < (if charge.status = .captured then charge.amountCaptured
        else (newPayment c.env c.owner args).amountCaptured) → charge.status = .captured := by
      intro hpos
      by_contra hno
      rw [if_neg hno] at hpos
      exact absurd hpos (by simp)
    exact ⟨fun _ => trivial, fun _ => ⟨rfl, hfunds⟩⟩
  | @captured paymentId amount adapter payment charge call found =>
    cases hanswer
    cases hcalls
    have hpayments : (afterCapture c.env c.owner t payment amount charge).payments =
        (t.savePayment c.env.now payment (withCapture payment amount charge)).payments := rfl
    rw [call, agrees_save_iff h.ids (Tables.mem_of_getForOwner found).1 hpayments rfl]
    exact ⟨fun hagrees => hagrees.1.symm, fun hs => ⟨hs.symm, fun _ => hs⟩⟩
  | @canceled paymentId adapter payment charge call found status =>
    cases hanswer
    cases hcalls
    have hpayments : (afterCancel c.env c.owner t payment).payments =
        (t.savePayment c.env.now payment (withCancel payment)).payments := rfl
    have hp := (Tables.mem_of_getForOwner found).1
    -- nothing was captured of a payment that may be canceled
    have hzero : payment.amountCaptured ≤ 0 := by
      refine h.row payment hp ?_
      rcases canTransition_canceled status with hs | hs <;> rw [hs] <;> decide
    rw [call, agrees_save_iff h.ids hp hpayments rfl]
    refine ⟨fun hagrees => hagrees.1.symm, fun hs => ⟨hs.symm, fun hpos => ?_⟩⟩
    have hpos' : 0 < payment.amountCaptured := hpos
    omega
  | refunded => cases hanswer

/-- **The status agrees with the provider's answer.**  In every state that calls lead to, the
next call, if it is answered with a charge and returns, leaves the payment with the status
that the charge reports, and with captured funds only if the charge is captured, exactly if
it created the payment or the reported status is the one that the method expects. -/
theorem agrees_iff (hdb : ∀ t, app.accepts t = true → t.Unique) (hpay : t.payments = [])
    (calls : List CallInput) (c : CallInput) {op : GatewayOp ProviderCharge} {p : Payment}
    (hcalls : (process app c (run (PaymentGateway.step app) t calls)).calls = [⟨op, .ok charge⟩])
    (hanswer : (process app c (run (PaymentGateway.step app) t calls)).answer =
      .ok (.payment p)) :
    Agrees (process app c (run (PaymentGateway.step app) t calls)).store p charge ↔
      c.call.Expects charge.status :=
  (orderly_run hdb hpay calls).agrees_of_call hdb hcalls hanswer

end Steps

/-! ## A capture that Stripe answers with a canceled charge -/

/-- The payment is authorized at Stripe. -/
def stripeAuthorization : CallInput :=
  stripeCall 1 (.createPayment (stripeArgs .manual)) "requires_capture"

/-- The capture of the whole payment, answered by Stripe with the given status. -/
def stripeCapture (status : String) : CallInput :=
  stripeCall 2 (.capturePayment (.ofNat 16) none) status

/-- The theorem on a capture that Stripe has made. -/
theorem agrees_iff_demo :
    ∃ p charge, Agrees (process demoApp (stripeCapture "succeeded")
        (run (step demoApp) stripeTables [stripeAuthorization])).store p charge ↔
      (stripeCapture "succeeded").call.Expects charge.status :=
  ⟨_, _, agrees_iff demoApp_unique rfl [stripeAuthorization] _ rfl rfl⟩

/-- The charge is canceled, and the payment is captured in full. -/
theorem agrees_capture_canceled :
    ¬ ∀ (op : GatewayOp ProviderCharge) (charge : ProviderCharge) (p : Payment),
      (process demoApp (stripeCapture "canceled")
        (run (step demoApp) stripeTables [stripeAuthorization])).calls = [⟨op, .ok charge⟩] →
      (process demoApp (stripeCapture "canceled")
        (run (step demoApp) stripeTables [stripeAuthorization])).answer = .ok (.payment p) →
      Agrees (process demoApp (stripeCapture "canceled")
        (run (step demoApp) stripeTables [stripeAuthorization])).store p charge := by
  intro h
  have hagrees := h _ _ _ rfl rfl
  obtain ⟨row, hmem, hid, hcaptured⟩ : ∃ row ∈ (process demoApp (stripeCapture "canceled")
      (run (step demoApp) stripeTables [stripeAuthorization])).store.payments,
      row.id = .ofNat 16 ∧ row.status = .captured ∧ row.amountCaptured = 1000 := by decide
  have hstatus := (hagrees row hmem hid).1
  rw [hcaptured.1] at hstatus
  cases hstatus

end PaymentGateway
