/-
# The payment service

`app/services/payments.py`: create, capture and cancel a payment, and look payments up.  A
method that changes a payment reads what it needs, calls the provider in the middle of its
transaction, and then writes what it makes of the answer.

After each method comes the description of everything it can do (`CreatesPayment`,
`CapturesPayment`, `CancelsPayment`) and the lemma that its paths are of that form; no later
proof unfolds a method.
-/
import PaymentGateway.Domain.StateMachine
import PaymentGateway.Lib.Paths
import PaymentGateway.Services.Base

namespace PaymentGateway

open Transact

/-- The keyword arguments of `create_payment`, as the endpoint or another caller gives them. -/
structure CreatePaymentArgs where
  provider : ProviderName
  amount : Money
  captureMethod : CaptureMethod
  methodType : PaymentMethodType
  paymentMethodToken : Option String
  description : Option String
  customerReference : Option String
  metadata : Option (List (String × Json))
  idempotencyKey : Option String
deriving DecidableEq, Repr

/-- The request that is passed to the adapter; without metadata, an empty dict is. -/
def CreatePaymentArgs.chargeRequest (args : CreatePaymentArgs) : ChargeRequest where
  amount := args.amount
  captureMethod := args.captureMethod
  methodType := args.methodType
  paymentMethodToken := args.paymentMethodToken
  description := args.description
  customerReference := args.customerReference
  idempotencyKey := args.idempotencyKey
  metadata := args.metadata.getD []

/-- `lambda: adapter.create_payment(request)` -/
def CreatePaymentArgs.op (args : CreatePaymentArgs) (adapter : Adapter) :
    GatewayOp ProviderCharge :=
  .execute args.provider adapter (.createPayment args.chargeRequest)

/-- The row as it is first inserted, before the provider is called: it requires confirmation. -/
@[simps]
def newPayment (env : Ambient) (owner : User) (args : CreatePaymentArgs) : Payment where
  id := env.paymentId
  ownerId := owner.id
  provider := args.provider
  providerReference := none
  amount := args.amount.minorUnits
  currency := args.amount.currency
  amountCaptured := 0
  amountRefunded := 0
  status := .requiresConfirmation
  captureMethod := args.captureMethod
  methodType := args.methodType
  description := args.description
  customerReference := args.customerReference
  failureReason := .null
  paymentMetadata := args.metadata.getD []
  createdAt := env.now
  updatedAt := env.now

/-- What `create_payment` makes of the charge, and the action it audits. -/
def withCharge (payment : Payment) (charge : ProviderCharge) : Payment × AuditAction :=
  let payment := { payment with
    providerReference := some charge.reference
    status := charge.status }
  match charge.status with
  | .captured => ({ payment with amountCaptured := charge.amountCaptured }, .paymentCaptured)
  | .authorized => (payment, .paymentAuthorized)
  | _ => ({ payment with failureReason := charge.failureReason }, .paymentFailed)

section

variable (payment : Payment) (charge : ProviderCharge)

@[simp] lemma withCharge_id : (withCharge payment charge).1.id = payment.id := by
  rw [withCharge]
  split <;> rfl

@[simp] lemma withCharge_ownerId : (withCharge payment charge).1.ownerId = payment.ownerId := by
  rw [withCharge]
  split <;> rfl

@[simp] lemma withCharge_amount : (withCharge payment charge).1.amount = payment.amount := by
  rw [withCharge]
  split <;> rfl

@[simp] lemma withCharge_status : (withCharge payment charge).1.status = charge.status := by
  rw [withCharge]
  split <;> rfl

@[simp] lemma withCharge_providerReference :
    (withCharge payment charge).1.providerReference = some charge.reference := by
  rw [withCharge]
  split <;> rfl

@[simp] lemma withCharge_amountCaptured : (withCharge payment charge).1.amountCaptured =
    if charge.status = .captured then charge.amountCaptured else payment.amountCaptured := by
  rw [withCharge]
  split
  · rename_i hcap
    rw [if_pos hcap]
  · rename_i hauth
    rw [if_neg (by simp [hauth])]
  · rename_i hcap _
    rw [if_neg hcap]

@[simp] lemma withCharge_amountRefunded :
    (withCharge payment charge).1.amountRefunded = payment.amountRefunded := by
  rw [withCharge]
  split <;> rfl

lemma withCharge_failureReason (hcap : charge.status ≠ .captured)
    (hauth : charge.status ≠ .authorized) :
    (withCharge payment charge).1.failureReason = charge.failureReason := by
  rw [withCharge]
  split
  · exact absurd ‹_› hcap
  · exact absurd ‹_› hauth
  · rfl

end

section Methods

variable (app : App) (env : Ambient) (owner : User)

/-- `create_payment`: the row is flushed before the provider is called, so that it is only
committed with the charge.  An outcome that the state machine does not allow raises. -/
def createPayment (args : CreatePaymentArgs) : ServiceProg Payment := do
  Prog.raiseIf (¬ args.amount.isPositive)
    (.validationError "amount must be greater than zero" [])
  let payment := newPayment env owner args
  Prog.modify fun t => t.insertPayment payment
  flush app
  let adapter ← getProvider app owner.id args.provider
  let charge ← Prog.perform (args.op adapter)
  Prog.ofExcept (assertTransition payment.status charge.status)
  let (updated, action) := withCharge payment charge
  Prog.modify fun t => t.savePayment env.now payment updated
  record env action owner.id "payment" payment.id.str
  return updated

/-- `_require_payment`: the payment of the owner, or the error that there is none. -/
def requirePayment (paymentId : Uuid) : ServiceProg Payment := do
  let found ← Prog.ofExcept (← Prog.ask fun t => t.getForOwner paymentId owner.id)
  Prog.orRaise found (.notFoundError "payment not found" [])

/-- The amount that a capture asks the provider for: all of it, if none is given. -/
def captureAmount (payment : Payment) (amount : Option Money) : Money :=
  amount.getD ⟨payment.amount, payment.currency⟩

/-- `lambda: adapter.capture(payment.provider_reference or "", capture_amount)` -/
def captureOp (payment : Payment) (amount : Option Money) (adapter : Adapter) :
    GatewayOp ProviderCharge :=
  .execute payment.provider adapter
    (.capture (payment.providerReference.getD "") (captureAmount payment amount))

/-- What `capture_payment` makes of the charge: the status of the answer is not read, and an
answer of 0 counts as the whole amount that was asked for. -/
def withCapture (payment : Payment) (amount : Option Money) (charge : ProviderCharge) : Payment :=
  { payment with
    status := .captured
    amountCaptured :=
      if charge.amountCaptured ≠ 0 then charge.amountCaptured
      else (captureAmount payment amount).minorUnits }

/-- `capture`: only an authorized payment, in its own currency and up to its amount.  The row is
updated after the provider has answered. -/
def capturePayment (paymentId : Uuid) (amount : Option Money) : ServiceProg Payment := do
  let payment ← requirePayment owner paymentId
  Prog.raiseIf (payment.status ≠ .authorized)
    (.invalidStateError "only authorized payments can be captured"
      [("status", .str payment.status.value)])
  Prog.raiseIf ((captureAmount payment amount).currency ≠ payment.currency)
    (.validationError "capture currency mismatch" [])
  Prog.raiseIf (payment.amount < (captureAmount payment amount).minorUnits)
    (.validationError "capture amount exceeds authorized amount" [])
  let adapter ← getProvider app owner.id payment.provider
  let charge ← Prog.perform (captureOp payment amount adapter)
  Prog.ofExcept (assertTransition payment.status .captured)
  Prog.modify fun t => t.savePayment env.now payment (withCapture payment amount charge)
  record env .paymentCaptured owner.id "payment" payment.id.str
  return withCapture payment amount charge

/-- `lambda: adapter.cancel(payment.provider_reference or "")` -/
def cancelOp (payment : Payment) (adapter : Adapter) : GatewayOp ProviderCharge :=
  .execute payment.provider adapter (.cancel (payment.providerReference.getD ""))

/-- The payment after `cancel_payment`, which does not look at the provider's answer. -/
def withCancel (payment : Payment) : Payment := { payment with status := .canceled }

/-- `cancel`: the transition is checked before the provider is called, and what the provider
answers is not read. -/
def cancelPayment (paymentId : Uuid) : ServiceProg Payment := do
  let payment ← requirePayment owner paymentId
  Prog.ofExcept (assertTransition payment.status .canceled)
  let adapter ← getProvider app owner.id payment.provider
  let _ ← Prog.perform (cancelOp payment adapter)
  Prog.modify fun t => t.savePayment env.now payment (withCancel payment)
  record env .paymentCanceled owner.id "payment" payment.id.str
  return withCancel payment

/-- `get_payment`: the payment of the owner. -/
def getPayment (paymentId : Uuid) : ServiceProg Payment := requirePayment owner paymentId

/-- `list_payments`: the total is queried first, and then the page. -/
def listPayments (status : Option PaymentStatus) (limit offset : ℕ) :
    ServiceProg (List Payment × ℕ) := do
  let total ← Prog.ask fun t => (t.paymentsOf owner.id status).length
  let items ← Prog.ask fun t => t.pageOfPayments owner.id status limit offset
  return (items, total)

end Methods

/-- A payment that the user does not have. -/
lemma run_requirePayment_bind_of_none {α W : Type} {owner : User} {paymentId : Uuid}
    {f : Payment → ServiceProg α} {handle : Handler GatewayOp Exn W} {t : Tables} {w : W}
    (h : t.getForOwner paymentId owner.id = .ok none) :
    (requirePayment owner paymentId >>= f).run handle t w =
      ⟨.error (.notFoundError "payment not found" []), t, w, []⟩ := by
  simp only [requirePayment, Prog.bind_assoc, Prog.run_ask_bind, h, Prog.ofExcept_ok,
    Prog.ret_bind]
  rfl

/-! ## What the methods can do -/

section Paths

variable {app : App} {env : Ambient} {owner : User} {gs : List (Tables → Tables)}
  {H : History Tables GatewayOp Exn}

lemma path_requirePayment_bind {α : Type} {paymentId : Uuid} {f : Payment → ServiceProg α}
    {r : Except Exn α} :
    (requirePayment owner paymentId >>= f).Path gs H r ↔ ∃ d K, H = .ofRead d ++ K ∧
      ((∃ e, (view gs d).getForOwner paymentId owner.id = .error e ∧ K = .nil ∧ r = .error e) ∨
        (view gs d).getForOwner paymentId owner.id = .ok none ∧ K = .nil ∧
          r = .error (.notFoundError "payment not found" []) ∨
        ∃ p, (view gs d).getForOwner paymentId owner.id = .ok (some p) ∧ (f p).Path gs K r) := by
  simp only [requirePayment, Prog.bind_assoc, Prog.path_ask_bind, Prog.path_ofExcept_bind,
    Prog.path_orRaise_bind]
  constructor
  · rintro ⟨d, K, rfl, h | ⟨found, hfound, ⟨rfl, h⟩ | ⟨p, rfl, h⟩⟩⟩
    · exact ⟨d, K, rfl, Or.inl h⟩
    · exact ⟨d, K, rfl, Or.inr (Or.inl ⟨hfound, h⟩)⟩
    · exact ⟨d, K, rfl, Or.inr (Or.inr ⟨p, hfound, h⟩)⟩
  · rintro ⟨d, K, rfl, h | ⟨hfound, h⟩ | ⟨p, hfound, h⟩⟩
    · exact ⟨d, K, rfl, Or.inl h⟩
    · exact ⟨d, K, rfl, Or.inr ⟨_, hfound, Or.inl ⟨rfl, h⟩⟩⟩
    · exact ⟨d, K, rfl, Or.inr ⟨_, hfound, Or.inr ⟨p, rfl, h⟩⟩⟩

/-- Everything that `create_payment` can do. -/
inductive CreatesPayment (app : App) (env : Ambient) (owner : User) (args : CreatePaymentArgs)
    (gs : List (Tables → Tables)) : History Tables GatewayOp Exn → Except Exn Payment → Prop
  /-- It raised before it called the provider. -/
  | refused {H e} (calls : H.calls = []) : CreatesPayment app env owner args gs H (.error e)
  /-- The provider call raised. -/
  | unanswered {H adapter e} (calls : H.calls = [⟨args.op adapter, .error e⟩]) :
      CreatesPayment app env owner args gs H (.error e)
  /-- The state machine has no transition to the status of the charge. -/
  | illegal {H d adapter e} {charge : ProviderCharge} (amount : args.amount.isPositive)
      (read : d ∈ H.reads)
      (resolved : resolveProvider app owner.id args.provider
        (view (gs ++ [fun t => t.insertPayment (newPayment env owner args)]) d) = .ok adapter)
      (calls : H.calls = [⟨args.op adapter, .ok charge⟩])
      (status : canTransition .requiresConfirmation charge.status = false) :
      CreatesPayment app env owner args gs H (.error e)
  /-- The charge was booked. -/
  | done {d₁ d₂ adapter} {charge : ProviderCharge} (amount : args.amount.isPositive)
      (flushed : app.accepts (view (gs ++ [fun t => t.insertPayment (newPayment env owner args)])
        d₁) = true)
      (resolved : resolveProvider app owner.id args.provider
        (view (gs ++ [fun t => t.insertPayment (newPayment env owner args)]) d₂) = .ok adapter)
      (status : canTransition .requiresConfirmation charge.status = true) :
      CreatesPayment app env owner args gs
        (.ofWrite (fun t => t.insertPayment (newPayment env owner args)) ++ (.ofRead d₁ ++
          (.ofRead d₂ ++ (.ofCall (args.op adapter) (.ok charge) ++
          (.ofWrite (fun t => t.savePayment env.now (newPayment env owner args)
            (withCharge (newPayment env owner args) charge).1) ++
          .ofWrite (fun t => t.insertAuditLog (auditEntry env
            (withCharge (newPayment env owner args) charge).2 owner.id "payment"
            env.paymentId.str)))))))
        (.ok (withCharge (newPayment env owner args) charge).1)

lemma createPayment_path {args : CreatePaymentArgs} {r : Except Exn Payment}
    (h : (createPayment app env owner args).Path gs H r) :
    CreatesPayment app env owner args gs H r := by
  simp only [createPayment, Prog.path_raiseIf_bind, Prog.path_modify_bind, path_flush_bind,
    path_getProvider_bind, Prog.path_perform_bind, Prog.path_ofExcept_bind, path_record_bind,
    assertTransition_ok_iff, Prog.pure_def, Prog.path_ret, not_not] at h
  rcases h with ⟨-, rfl, rfl⟩ | ⟨hpos, K, rfl, d₁, K, rfl, ⟨-, rfl, rfl⟩ | ⟨hacc, d₂, K, rfl, h⟩⟩
  · exact .refused rfl
  · exact .refused rfl
  rcases h with ⟨e, -, rfl, rfl⟩ | ⟨adapter, hres, ⟨e, rfl, rfl⟩ | ⟨charge, K, rfl, h⟩⟩
  · exact .refused rfl
  · exact .unanswered rfl
  rcases h with ⟨e, hno, rfl, rfl⟩ | ⟨-, hok, K, rfl, K, rfl, rfl, rfl⟩
  · exact .illegal hpos (by simp) hres rfl (canTransition_of_error hno)
  · rw [History.append_nil]
    exact .done hpos hacc hres hok

/-- Everything that `capture_payment` can do, from its first read to its return or exception. -/
inductive CapturesPayment (app : App) (env : Ambient) (owner : User) (paymentId : Uuid)
    (amount : Option Money) (gs : List (Tables → Tables)) :
    History Tables GatewayOp Exn → Except Exn Payment → Prop
  /-- It raised before it called the provider. -/
  | refused {H e} (calls : H.calls = []) :
      CapturesPayment app env owner paymentId amount gs H (.error e)
  /-- The provider call raised. -/
  | unanswered {H e adapter} {payment : Payment}
      (calls : H.calls = [⟨captureOp payment amount adapter, .error e⟩]) :
      CapturesPayment app env owner paymentId amount gs H (.error e)
  /-- The capture was booked. -/
  | done {d₁ d₂ adapter} {payment : Payment} {charge : ProviderCharge}
      (found : (view gs d₁).getForOwner paymentId owner.id = .ok (some payment))
      (status : payment.status = .authorized)
      (currency : (captureAmount payment amount).currency = payment.currency)
      (bound : (captureAmount payment amount).minorUnits ≤ payment.amount)
      (resolved : resolveProvider app owner.id payment.provider (view gs d₂) = .ok adapter) :
      CapturesPayment app env owner paymentId amount gs
        (.ofRead d₁ ++ (.ofRead d₂ ++ (.ofCall (captureOp payment amount adapter) (.ok charge) ++
          (.ofWrite (fun t => t.savePayment env.now payment (withCapture payment amount charge)) ++
          .ofWrite (fun t => t.insertAuditLog (auditEntry env .paymentCaptured owner.id "payment"
            payment.id.str))))))
        (.ok (withCapture payment amount charge))

lemma capturePayment_path {paymentId : Uuid} {amount : Option Money} {r : Except Exn Payment}
    (h : (capturePayment app env owner paymentId amount).Path gs H r) :
    CapturesPayment app env owner paymentId amount gs H r := by
  simp only [capturePayment, path_requirePayment_bind, Prog.path_raiseIf_bind,
    Prog.path_modify_bind, path_getProvider_bind, Prog.path_perform_bind,
    Prog.path_ofExcept_bind, path_record_bind, assertTransition_ok_iff, Prog.pure_def,
    Prog.path_ret, not_not, not_lt] at h
  obtain ⟨d₁, K, rfl, ⟨e, -, rfl, rfl⟩ | ⟨-, rfl, rfl⟩ | ⟨payment, hfound, h⟩⟩ := h
  · exact .refused rfl
  · exact .refused rfl
  rcases h with ⟨-, rfl, rfl⟩ | ⟨hstatus, ⟨-, rfl, rfl⟩ | ⟨hcur, ⟨-, rfl, rfl⟩ | ⟨hle, h⟩⟩⟩
  · exact .refused rfl
  · exact .refused rfl
  · exact .refused rfl
  obtain ⟨d₂, K, rfl, ⟨e, -, rfl, rfl⟩ | ⟨adapter, hres, ⟨e, rfl, rfl⟩ | ⟨charge, K, rfl, h⟩⟩⟩ := h
  · exact .refused rfl
  · exact .unanswered rfl
  rcases h with ⟨e, hno, rfl, rfl⟩ | ⟨-, -, K, rfl, K, rfl, rfl, rfl⟩
  · -- an authorized payment may always be captured
    exact absurd (canTransition_of_error hno) (by simp [hstatus, canTransition, allowed])
  · rw [History.append_nil]
    exact .done hfound hstatus hcur hle hres

/-- Everything that `cancel_payment` can do, from its first read to its return or exception. -/
inductive CancelsPayment (app : App) (env : Ambient) (owner : User) (paymentId : Uuid)
    (gs : List (Tables → Tables)) : History Tables GatewayOp Exn → Except Exn Payment → Prop
  /-- It raised before it called the provider. -/
  | refused {H e} (calls : H.calls = []) : CancelsPayment app env owner paymentId gs H (.error e)
  /-- The provider call raised. -/
  | unanswered {H e adapter} {payment : Payment}
      (calls : H.calls = [⟨cancelOp payment adapter, .error e⟩]) :
      CancelsPayment app env owner paymentId gs H (.error e)
  /-- The cancellation was booked. -/
  | done {d₁ d₂ adapter} {payment : Payment} {charge : ProviderCharge}
      (found : (view gs d₁).getForOwner paymentId owner.id = .ok (some payment))
      (status : canTransition payment.status .canceled = true)
      (resolved : resolveProvider app owner.id payment.provider (view gs d₂) = .ok adapter) :
      CancelsPayment app env owner paymentId gs
        (.ofRead d₁ ++ (.ofRead d₂ ++ (.ofCall (cancelOp payment adapter) (.ok charge) ++
          (.ofWrite (fun t => t.savePayment env.now payment (withCancel payment)) ++
          .ofWrite (fun t => t.insertAuditLog (auditEntry env .paymentCanceled owner.id "payment"
            payment.id.str))))))
        (.ok (withCancel payment))

lemma cancelPayment_path {paymentId : Uuid} {r : Except Exn Payment}
    (h : (cancelPayment app env owner paymentId).Path gs H r) :
    CancelsPayment app env owner paymentId gs H r := by
  simp only [cancelPayment, path_requirePayment_bind, Prog.path_modify_bind,
    path_getProvider_bind, Prog.path_perform_bind, Prog.path_ofExcept_bind, path_record_bind,
    assertTransition_ok_iff, Prog.pure_def, Prog.path_ret] at h
  obtain ⟨d₁, K, rfl, ⟨e, -, rfl, rfl⟩ | ⟨-, rfl, rfl⟩ | ⟨payment, hfound, h⟩⟩ := h
  · exact .refused rfl
  · exact .refused rfl
  rcases h with ⟨e, -, rfl, rfl⟩ | ⟨-, hstatus, d₂, K, rfl, h⟩
  · exact .refused rfl
  rcases h with ⟨e, -, rfl, rfl⟩ | ⟨adapter, hres, ⟨e, rfl, rfl⟩ | ⟨charge, K, rfl, h⟩⟩
  · exact .refused rfl
  · exact .unanswered rfl
  obtain ⟨K, rfl, K, rfl, rfl, rfl⟩ := h
  rw [History.append_nil]
  exact .done hfound hstatus hres

end Paths

end PaymentGateway
