/-
# The refund service

`app/services/refunds.py`: refund a captured payment, in full or in part.  The checks, the
new refunded amount and the new status are computed from the row that the method read before
it called the provider.
-/
import PaymentGateway.Services.Payments

namespace PaymentGateway

open Transact

/-- `_REFUNDABLE_STATES`: funds were captured, and not all of them are refunded. -/
def refundableStates : List PaymentStatus := [.captured, .partiallyRefunded]

/-- The amount of the refund: the one asked for, or the whole refundable balance. -/
def refundAmount (payment : Payment) (amountMinor : Option ℤ) : Money :=
  ⟨amountMinor.getD payment.amountRefundable, payment.currency⟩

/-- `lambda: adapter.refund(payment.provider_reference or "", refund_amount, reason)` -/
def refundOp (payment : Payment) (amountMinor : Option ℤ) (reason : Option String)
    (adapter : Adapter) : GatewayOp ProviderRefund :=
  .execute payment.provider adapter
    (.refund (payment.providerReference.getD "") (refundAmount payment amountMinor) reason)

/-- The row of the refund, with the amount that was asked for.  Every status but `succeeded` is
stored as pending. -/
def newRefund (env : Ambient) (payment : Payment) (amountMinor : Option ℤ)
    (reason : Option String) (result : ProviderRefund) : Refund where
  id := env.refundId
  paymentId := payment.id
  amount := (refundAmount payment amountMinor).minorUnits
  currency := payment.currency
  status := if result.status = "succeeded" then .succeeded else .pending
  reason := reason
  providerReference := some result.reference
  createdAt := env.now
  updatedAt := env.now

/-- The refunded amount and the status after the refund, computed from the row that was read. -/
def withRefund (payment : Payment) (amountMinor : Option ℤ) : Payment :=
  let refunded := payment.amountRefunded + (refundAmount payment amountMinor).minorUnits
  { payment with
    amountRefunded := refunded
    status := if payment.amountCaptured ≤ refunded then .refunded else .partiallyRefunded }

variable (app : App) (env : Ambient) (owner : User)

/-- `create_refund`: the amount is checked against the balance of the row that was read, without
a lock, and the new sum is computed from that row after the provider has answered.  The amount
that the provider reports is not read. -/
def createRefund (paymentId : Uuid) (amountMinor : Option ℤ) (reason : Option String) :
    ServiceProg Refund := do
  let payment ← requirePayment owner paymentId
  Prog.raiseIf (payment.status ∉ refundableStates)
    (.invalidStateError "only captured payments can be refunded"
      [("status", .str payment.status.value)])
  let refundable := payment.amountRefundable
  Prog.raiseIf (¬ (refundAmount payment amountMinor).isPositive)
    (.validationError "refund amount must be greater than zero" [])
  Prog.raiseIf (refundable < (refundAmount payment amountMinor).minorUnits)
    (.validationError "refund amount exceeds refundable balance"
      [("refundable_minor_units", .int refundable)])
  let adapter ← getProvider app owner.id payment.provider
  let result ← Prog.perform (refundOp payment amountMinor reason adapter)
  let refund := newRefund env payment amountMinor reason result
  Prog.modify fun t => t.insertRefund refund
  let updated := withRefund payment amountMinor
  Prog.ofExcept (assertTransition payment.status updated.status)
  Prog.modify fun t => t.savePayment env.now payment updated
  flush app
  record env .refundCreated owner.id "refund" refund.id.str
  return refund

variable {app env owner} {gs : List (Tables → Tables)} {H : History Tables GatewayOp Exn}

/-- Everything that `create_refund` can do, from its first read to its return or exception. -/
inductive CreatesRefund (app : App) (env : Ambient) (owner : User) (paymentId : Uuid)
    (amountMinor : Option ℤ) (reason : Option String) (gs : List (Tables → Tables)) :
    History Tables GatewayOp Exn → Except Exn Refund → Prop
  /-- It raised before it called the provider. -/
  | refused {H e} (calls : H.calls = []) :
      CreatesRefund app env owner paymentId amountMinor reason gs H (.error e)
  /-- The provider call raised. -/
  | unanswered {H e adapter} {payment : Payment}
      (calls : H.calls = [⟨refundOp payment amountMinor reason adapter, .error e⟩]) :
      CreatesRefund app env owner paymentId amountMinor reason gs H (.error e)
  /-- The database refused the rows. -/
  | rejected {H adapter d} {payment : Payment} {result : ProviderRefund}
      (calls : H.calls = [⟨refundOp payment amountMinor reason adapter, .ok result⟩])
      (flushed : app.accepts d = false) :
      CreatesRefund app env owner paymentId amountMinor reason gs H (.error .integrityError)
  /-- The refund was booked. -/
  | done {d₁ d₂ d₃ adapter} {payment : Payment} {result : ProviderRefund}
      (found : (view gs d₁).getForOwner paymentId owner.id = .ok (some payment))
      (status : payment.status ∈ refundableStates)
      (amount : (refundAmount payment amountMinor).isPositive)
      (bound : (refundAmount payment amountMinor).minorUnits ≤ payment.amountRefundable)
      (resolved : resolveProvider app owner.id payment.provider (view gs d₂) = .ok adapter) :
      CreatesRefund app env owner paymentId amountMinor reason gs
        (.ofRead d₁ ++ (.ofRead d₂ ++ (.ofCall
            (refundOp payment amountMinor reason adapter) (.ok result) ++
          (.ofWrite (fun t => t.insertRefund (newRefund env payment amountMinor reason result)) ++
          (.ofWrite (fun t => t.savePayment env.now payment (withRefund payment amountMinor)) ++
          (.ofRead d₃ ++ .ofWrite (fun t => t.insertAuditLog (auditEntry env .refundCreated
            owner.id "refund" env.refundId.str))))))))
        (.ok (newRefund env payment amountMinor reason result))

/-- A payment that may be refunded may move to either status of `withRefund`. -/
lemma canTransition_withRefund {payment : Payment} (amountMinor : Option ℤ)
    (h : payment.status ∈ refundableStates) :
    canTransition payment.status (withRefund payment amountMinor).status = true := by
  simp only [refundableStates, List.mem_cons, List.not_mem_nil, or_false] at h
  rw [withRefund]
  rcases h with h | h <;> rw [h] <;> dsimp only <;> split <;> rfl

lemma createRefund_path {paymentId : Uuid} {amountMinor : Option ℤ} {reason : Option String}
    {r : Except Exn Refund}
    (h : (createRefund app env owner paymentId amountMinor reason).Path gs H r) :
    CreatesRefund app env owner paymentId amountMinor reason gs H r := by
  simp only [createRefund, path_requirePayment_bind, Prog.path_raiseIf_bind,
    Prog.path_modify_bind, path_getProvider_bind, Prog.path_perform_bind,
    Prog.path_ofExcept_bind, path_record_bind, path_flush_bind, assertTransition_ok_iff,
    Prog.pure_def, Prog.path_ret, not_not, not_lt] at h
  obtain ⟨d₁, K, rfl, ⟨e, -, rfl, rfl⟩ | ⟨-, rfl, rfl⟩ | ⟨payment, hfound, h⟩⟩ := h
  · exact .refused rfl
  · exact .refused rfl
  rcases h with ⟨-, rfl, rfl⟩ | ⟨hstatus, ⟨-, rfl, rfl⟩ | ⟨hpos, ⟨-, rfl, rfl⟩ | ⟨hle, h⟩⟩⟩
  · exact .refused rfl
  · exact .refused rfl
  · exact .refused rfl
  obtain ⟨d₂, K, rfl, ⟨e, -, rfl, rfl⟩ | ⟨adapter, hres, ⟨e, rfl, rfl⟩ | ⟨result, K, rfl, h⟩⟩⟩ := h
  · exact .refused rfl
  · exact .unanswered rfl
  obtain ⟨K, rfl, ⟨e, hno, rfl, rfl⟩ | ⟨-, -, K, rfl, d₃, K, rfl, h⟩⟩ := h
  · have hyes := canTransition_withRefund amountMinor hstatus
    rw [canTransition_of_error hno] at hyes
    cases hyes
  rcases h with ⟨hacc, rfl, rfl⟩ | ⟨-, K, rfl, rfl, rfl⟩
  · exact .rejected rfl hacc
  · rw [History.append_nil]
    exact .done hfound hstatus hpos hle hres

/-! ## Payments that were captured -/

/-- The payment was captured and nothing of it is refunded yet. -/
structure CapturedPayment (paymentId : Uuid) (t : Tables) : Prop where
  ids : (t.payments.map Payment.id).Nodup
  row : ∃ p ∈ t.payments, p.id = paymentId ∧ p.status = .captured ∧ 0 ≤ p.amountCaptured ∧
    p.amountRefunded = 0
  refunds : t.refundsOf paymentId = []

lemma demoPayment_captured :
    CapturedPayment (.ofNat 16) { Tables.empty with payments := [demoPayment] } :=
  ⟨by decide, ⟨demoPayment, by simp, rfl, rfl, by decide, rfl⟩, rfl⟩

end PaymentGateway
