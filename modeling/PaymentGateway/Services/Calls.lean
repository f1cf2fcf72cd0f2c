/-
# Service calls, one after another

The four state-changing methods as calls that are each processed in a unit of work of their
own: `step` publishes what a call wrote if it returned, and leaves the tables alone if it
raised.  A call carries the provider's reaction to whatever it asks, so that "every adapter
answer" is a quantifier over calls.

`settled` says, once for all four methods, what one call can do to the tables and what it
then answers.
-/
import PaymentGateway.Lib.Sessions
import PaymentGateway.Providers.Mock
import PaymentGateway.Providers.Stripe
import PaymentGateway.Services.Refunds

namespace PaymentGateway

open Transact

/-- A call of a service method that changes payments or refunds. -/
inductive ServiceCall where
  | createPayment (args : CreatePaymentArgs)
  | capturePayment (paymentId : Uuid) (amount : Option Money)
  | cancelPayment (paymentId : Uuid)
  | createRefund (paymentId : Uuid) (amountMinor : Option ℤ) (reason : Option String)

/-- What such a method returns: the row as it left it. -/
inductive ServiceResult where
  | payment (p : Payment)
  | refund (r : Refund)
deriving DecidableEq, Repr

/-- The program of the call, run on behalf of `owner`. -/
def ServiceCall.prog (app : App) (env : Ambient) (owner : User) :
    ServiceCall → ServiceProg ServiceResult
  | .createPayment args => do return .payment (← PaymentGateway.createPayment app env owner args)
  | .capturePayment paymentId amount => do
      return .payment (← PaymentGateway.capturePayment app env owner paymentId amount)
  | .cancelPayment paymentId => do
      return .payment (← PaymentGateway.cancelPayment app env owner paymentId)
  | .createRefund paymentId amountMinor reason => do
      return .refund (← PaymentGateway.createRefund app env owner paymentId amountMinor reason)

/-- The answer of the gateway manager to whatever a call asks of it. -/
abbrev Reaction := (β : Type) → GatewayOp β → Except Exn β

/-- The provider as a handler: it answers every call in the same way, and remembers nothing. -/
def Reaction.handler (reaction : Reaction) : Handler GatewayOp Exn Unit :=
  fun β op w => (reaction β op, w)

/-- The mock provider, which makes up the reference `reference`. -/
def mockReaction (reference : String) : Reaction
  | _, .execute _ _ op => MockProvider.answer op reference

/-- The Stripe adapter, when its request is answered with `response`. -/
def stripeReaction (repr : Json → String) (response : HttpResponse) : Reaction
  | _, .execute _ adapter op => StripeProvider.answer repr adapter.context op response

/-- What surrounds sessions of the services: the provider, whose choices are free, and the
database. -/
def serviceHost {W C : Type} (app : App) (handle : C → Handler GatewayOp Exn W) :
    Host Tables W C GatewayOp Exn :=
  ⟨handle, app.accepts, .integrityError⟩

/-- The mock provider for sessions; it has no choices and keeps nothing. -/
def mockHandler (reference : String) (_ : Unit) : Handler GatewayOp Exn Unit :=
  (mockReaction reference).handler

/-- A schedule of two sessions: both take their first step; then the one runs for `n` steps,
and then the other. -/
def race (n : ℕ) : List (Move Bool Unit) :=
  ([false, true] ++ List.replicate n false ++ List.replicate n true).map fun i => ⟨i, ()⟩

/-- A call with the user it is made for, what it draws from its surroundings, and the
provider's reaction. -/
structure CallInput where
  env : Ambient
  owner : User
  call : ServiceCall
  reaction : Reaction

variable (app : App)

/-- The call in a unit of work of its own: its changes are committed if it returns and the
database accepts them. -/
def process (c : CallInput) (t : Tables) : Outcome Tables Unit GatewayOp Exn ServiceResult :=
  (c.call.prog app c.env c.owner).atomically c.reaction.handler t () app.accepts .integrityError

/-- The tables after the call, whether it has succeeded or not. -/
def step (t : Tables) (c : CallInput) : Tables := (process app c t).store

/-! ## What a booked call leaves -/

section Booked

variable (env : Ambient) (owner : User) (t : Tables)

/-- What `create_payment` leaves: the new row, updated with the charge, and the row of the audit
log that names the outcome. -/
def afterCreate (args : CreatePaymentArgs) (charge : ProviderCharge) : Tables :=
  ((t.insertPayment (newPayment env owner args)).savePayment env.now (newPayment env owner args)
    (withCharge (newPayment env owner args) charge).1).insertAuditLog (auditEntry env
      (withCharge (newPayment env owner args) charge).2 owner.id "payment" env.paymentId.str)

/-- What `capture` leaves: the updated row, and its row of the audit log. -/
def afterCapture (payment : Payment) (amount : Option Money) (charge : ProviderCharge) : Tables :=
  (t.savePayment env.now payment (withCapture payment amount charge)).insertAuditLog
    (auditEntry env .paymentCaptured owner.id "payment" payment.id.str)

/-- What `cancel` leaves: the updated row, and its row of the audit log. -/
def afterCancel (payment : Payment) : Tables :=
  (t.savePayment env.now payment (withCancel payment)).insertAuditLog
    (auditEntry env .paymentCanceled owner.id "payment" payment.id.str)

/-- What `create_refund` leaves: the new refund, the updated payment, and the row of the audit
log. -/
def afterRefund (payment : Payment) (amountMinor : Option ℤ) (reason : Option String)
    (result : ProviderRefund) : Tables :=
  ((t.insertRefund (newRefund env payment amountMinor reason result)).savePayment env.now payment
    (withRefund payment amountMinor)).insertAuditLog
      (auditEntry env .refundCreated owner.id "refund" env.refundId.str)

variable {env owner t}

/-- The id of a payment that was inserted is new. -/
lemma ne_paymentId_of_nodup {args : CreatePaymentArgs}
    (hids : ((t.insertPayment (newPayment env owner args)).payments.map Payment.id).Nodup) :
    ∀ p ∈ t.payments, p.id ≠ env.paymentId := by
  intro p hp heq
  simp only [Tables.insertPayment_payments, List.map_append, List.nodup_append] at hids
  exact hids.2.2 _ (List.mem_map_of_mem hp) _ (by simp) heq

/-- Inserting a payment and booking its charge adds one row. -/
lemma payments_afterCreate (env : Ambient) (owner : User) (args : CreatePaymentArgs)
    (charge : ProviderCharge)
    (hfresh : ∀ p ∈ t.payments, p.id ≠ env.paymentId) :
    (afterCreate env owner t args charge).payments = t.payments ++
      [(newPayment env owner args).saved env.now (newPayment env owner args)
        (withCharge (newPayment env owner args) charge).1] := by
  simp only [afterCreate, Tables.insertAuditLog_payments, Tables.savePayment_payments,
    Tables.insertPayment_payments, updateAt_append, newPayment_id]
  rw [updateAt_of_forall_ne hfresh]
  simp [updateAt]

end Booked

/-- What one call can do to the tables `t`: the gateway calls it makes, its answer, and the
tables it leaves. -/
inductive Settled (c : CallInput) (t : Tables) :
    List (Call GatewayOp Exn) → Except Exn ServiceResult → Tables → Prop
  /-- It raised before it called the provider. -/
  | refused {e} : Settled c t [] (.error e) t
  /-- The provider call raised. -/
  | unanswered {β} {op : GatewayOp β} {e} : Settled c t [⟨op, .error e⟩] (.error e) t
  /-- The state machine has no transition to the status of a new payment's charge. -/
  | illegal {args adapter e} {charge : ProviderCharge} (call : c.call = .createPayment args)
      (amount : args.amount.isPositive)
      (resolved : resolveProvider app c.owner.id args.provider t = .ok adapter)
      (reacts : c.reaction _ (args.op adapter) = .ok charge)
      (status : canTransition .requiresConfirmation charge.status = false) :
      Settled c t [⟨args.op adapter, .ok charge⟩] (.error e) t
  /-- The provider call was answered, and the database refused the rows. -/
  | rejected {β} {op : GatewayOp β} {b : β} {e d} (refused : app.accepts d = false) :
      Settled c t [⟨op, .ok b⟩] (.error e) t
  | created {args adapter} {charge : ProviderCharge} (call : c.call = .createPayment args)
      (amount : args.amount.isPositive)
      (resolved : resolveProvider app c.owner.id args.provider t = .ok adapter)
      (reacts : c.reaction _ (args.op adapter) = .ok charge)
      (status : canTransition .requiresConfirmation charge.status = true)
      (fresh : app.accepts (t.insertPayment (newPayment c.env c.owner args)) = true)
      (accepted : app.accepts (afterCreate c.env c.owner t args charge) = true) :
      Settled c t [⟨args.op adapter, .ok charge⟩]
        (.ok (.payment (withCharge (newPayment c.env c.owner args) charge).1))
        (afterCreate c.env c.owner t args charge)
  | captured {paymentId amount adapter} {payment : Payment} {charge : ProviderCharge}
      (call : c.call = .capturePayment paymentId amount)
      (found : t.getForOwner paymentId c.owner.id = .ok (some payment))
      (status : payment.status = .authorized)
      (currency : (captureAmount payment amount).currency = payment.currency)
      (bound : (captureAmount payment amount).minorUnits ≤ payment.amount)
      (reacts : c.reaction _ (captureOp payment amount adapter) = .ok charge)
      (accepted : app.accepts (afterCapture c.env c.owner t payment amount charge) = true) :
      Settled c t [⟨captureOp payment amount adapter, .ok charge⟩]
        (.ok (.payment (withCapture payment amount charge)))
        (afterCapture c.env c.owner t payment amount charge)
  | canceled {paymentId adapter} {payment : Payment} {charge : ProviderCharge}
      (call : c.call = .cancelPayment paymentId)
      (found : t.getForOwner paymentId c.owner.id = .ok (some payment))
      (status : canTransition payment.status .canceled = true)
      (reacts : c.reaction _ (cancelOp payment adapter) = .ok charge)
      (accepted : app.accepts (afterCancel c.env c.owner t payment) = true) :
      Settled c t [⟨cancelOp payment adapter, .ok charge⟩] (.ok (.payment (withCancel payment)))
        (afterCancel c.env c.owner t payment)
  | refunded {paymentId amountMinor reason adapter} {payment : Payment} {result : ProviderRefund}
      (call : c.call = .createRefund paymentId amountMinor reason)
      (found : t.getForOwner paymentId c.owner.id = .ok (some payment))
      (status : payment.status ∈ refundableStates)
      (amount : (refundAmount payment amountMinor).isPositive)
      (bound : (refundAmount payment amountMinor).minorUnits ≤ payment.amountRefundable)
      (reacts : c.reaction _ (refundOp payment amountMinor reason adapter) = .ok result)
      (accepted :
        app.accepts (afterRefund c.env c.owner t payment amountMinor reason result) = true) :
      Settled c t [⟨refundOp payment amountMinor reason adapter, .ok result⟩]
        (.ok (.refund (newRefund c.env payment amountMinor reason result)))
        (afterRefund c.env c.owner t payment amountMinor reason result)

variable {app} {c : CallInput} {t : Tables}

/-- What a path of a call's program, taken against the tables `t`, leaves. -/
def Settles (app : App) (c : CallInput) (t : Tables) (H : History Tables GatewayOp Exn) :
    Except Exn ServiceResult → Prop
  | .ok a =>
      if app.accepts (view H.writes t) = true then
        Settled app c t H.calls (.ok a) (view H.writes t)
      else ∀ e, Settled app c t H.calls (.error e) t
  | .error e => Settled app c t H.calls (.error e) t

/-- The reads of the path met the tables `t`, and its calls got the reaction of `c`. -/
structure Alone (c : CallInput) (t : Tables) (H : History Tables GatewayOp Exn) : Prop where
  reads : ∀ d ∈ H.reads, d = t
  reacts : ∀ k ∈ H.calls, k.answer = c.reaction k.β k.op

variable {H : History Tables GatewayOp Exn}

/-- A path that returns is booked if the database accepts the rows. -/
lemma settles_ok {β : Type} {op : GatewayOp β} {b : β} {a : ServiceResult} {t' : Tables}
    (calls : H.calls = [⟨op, .ok b⟩]) (store : view H.writes t = t')
    (booked : app.accepts t' = true → Settled app c t [⟨op, .ok b⟩] (.ok a) t') :
    Settles app c t H (.ok a) := by
  simp only [Settles, calls, store]
  by_cases hacc : app.accepts t' = true
  · rw [if_pos hacc]
    exact booked hacc
  · rw [if_neg hacc]
    exact fun e => .rejected (by simpa using hacc)

lemma settles_error {e : Exn} (h : Settled app c t H.calls (.error e) t) :
    Settles app c t H (.error e) := h

lemma settles_createPayment {args : CreatePaymentArgs} (call : c.call = .createPayment args)
    {x : Except Exn Payment} (h : CreatesPayment app c.env c.owner args [] H x)
    (hH : Alone c t H) : Settles app c t H (x.map .payment) := by
  cases h with
  | refused calls => exact settles_error (calls ▸ .refused)
  | unanswered calls => exact settles_error (calls ▸ .unanswered)
  | @illegal _ d adapter e charge amount read resolved calls status =>
    obtain rfl : d = t := hH.reads d read
    have hreacts := hH.reacts ⟨args.op adapter, .ok charge⟩ (by simp [calls])
    exact settles_error (calls ▸ .illegal call amount resolved hreacts.symm status)
  | @done d₁ d₂ adapter charge amount flushed resolved status =>
    obtain rfl : d₁ = t := hH.reads d₁ (by simp)
    obtain rfl : d₂ = d₁ := hH.reads d₂ (by simp)
    have hreacts := hH.reacts ⟨args.op adapter, .ok charge⟩ (by simp)
    exact settles_ok rfl rfl fun hacc =>
      .created call amount resolved hreacts.symm status flushed hacc

lemma settles_capturePayment {paymentId : Uuid} {amount : Option Money}
    (call : c.call = .capturePayment paymentId amount) {x : Except Exn Payment}
    (h : CapturesPayment app c.env c.owner paymentId amount [] H x) (hH : Alone c t H) :
    Settles app c t H (x.map .payment) := by
  cases h with
  | refused calls => exact settles_error (calls ▸ .refused)
  | unanswered calls => exact settles_error (calls ▸ .unanswered)
  | @done d₁ d₂ adapter payment charge found status currency bound resolved =>
    obtain rfl : d₁ = t := hH.reads d₁ (by simp)
    have hreacts := hH.reacts ⟨captureOp payment amount adapter, .ok charge⟩ (by simp)
    exact settles_ok rfl rfl fun hacc =>
      .captured call found status currency bound hreacts.symm hacc

lemma settles_cancelPayment {paymentId : Uuid} (call : c.call = .cancelPayment paymentId)
    {x : Except Exn Payment} (h : CancelsPayment app c.env c.owner paymentId [] H x)
    (hH : Alone c t H) : Settles app c t H (x.map .payment) := by
  cases h with
  | refused calls => exact settles_error (calls ▸ .refused)
  | unanswered calls => exact settles_error (calls ▸ .unanswered)
  | @done d₁ d₂ adapter payment charge found status resolved =>
    obtain rfl : d₁ = t := hH.reads d₁ (by simp)
    have hreacts := hH.reacts ⟨cancelOp payment adapter, .ok charge⟩ (by simp)
    exact settles_ok rfl rfl fun hacc => .canceled call found status hreacts.symm hacc

lemma settles_createRefund {paymentId : Uuid} {amountMinor : Option ℤ} {reason : Option String}
    (call : c.call = .createRefund paymentId amountMinor reason) {x : Except Exn Refund}
    (h : CreatesRefund app c.env c.owner paymentId amountMinor reason [] H x)
    (hH : Alone c t H) : Settles app c t H (x.map .refund) := by
  cases h with
  | refused calls => exact settles_error (calls ▸ .refused)
  | unanswered calls => exact settles_error (calls ▸ .unanswered)
  | rejected calls flushed => exact settles_error (calls ▸ .rejected flushed)
  | @done d₁ d₂ d₃ adapter payment result found status amount bound resolved =>
    obtain rfl : d₁ = t := hH.reads d₁ (by simp)
    have hreacts := hH.reacts ⟨refundOp payment amountMinor reason adapter, .ok result⟩ (by simp)
    exact settles_ok rfl rfl fun hacc =>
      .refunded call found status amount bound hreacts.symm hacc

/-- Every path of the call's program settles as described. -/
lemma settles_of_path {r : Except Exn ServiceResult}
    (h : (c.call.prog app c.env c.owner).Path [] H r) (hH : Alone c t H) :
    Settles app c t H r := by
  rcases hcall : c.call with args | ⟨paymentId, amount⟩ | paymentId | ⟨paymentId, minor, reason⟩ <;>
    rw [hcall, ServiceCall.prog, Prog.path_map] at h <;> obtain ⟨x, hx, rfl⟩ := h
  · exact settles_createPayment hcall (createPayment_path hx) hH
  · exact settles_capturePayment hcall (capturePayment_path hx) hH
  · exact settles_cancelPayment hcall (cancelPayment_path hx) hH
  · exact settles_createRefund hcall (createRefund_path hx) hH

variable (app c t)

/-- **Everything a call can do.** -/
theorem settled : Settled app c t (process app c t).calls (process app c t).answer
    (process app c t).store := by
  obtain ⟨H, r, hpath, hreads, hcalls, hend⟩ := Prog.path_atomically c.reaction.handler app.accepts
    .integrityError (c.call.prog app c.env c.owner) t ()
  have hH : Alone c t H := by
    refine ⟨hreads, fun k hk => ?_⟩
    rw [← hcalls, Prog.atomically_calls] at hk
    obtain ⟨_, hw⟩ := Prog.calls_run _ _ _ _ k hk
    exact hw
  have hset := settles_of_path hpath hH
  rw [process]
  rw [hcalls]
  rcases hend with ⟨a, rfl, hacc, hans, hstore⟩ | ⟨e, hans, hstore, rfl | ⟨a, rfl, hacc, rfl⟩⟩
  · rw [hans, hstore]
    simpa [Settles, hacc] using hset
  · rw [hans, hstore]
    exact hset
  · rw [hans, hstore]
    simp only [Settles, hacc, Bool.false_eq_true, if_false] at hset
    exact hset _

end PaymentGateway
