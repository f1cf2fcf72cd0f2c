/-
# Values that fit their columns

The requests that write to the tables, each in a unit of work of its own, and the rows that
they stage (`staged`): what the database is asked for at a flush or at the commit.  The
schemas bound what they validate, but not everything comes through a schema: an
`Idempotency-Key`, an `X-Correlation-ID`, the id of an API key in a path, the id and the type
of a webhook event, and the answers of the providers are written as they come.

All rows that are staged in a run fit their columns, if these values do (`Fitting`), and the
rows of a request that returns fit only then (`lengths_iff`).  In `lengths_longKey` a payment
with a long key is made at the provider, and then refused by the database.
-/
import PaymentGateway.Api
import PaymentGateway.Db.Columns
import PaymentGateway.Lib.Runs
import PaymentGateway.Services.Webhooks

namespace PaymentGateway

open Transact

/-! ## Requests -/

/-- The requests that write to one of the tables, with the user who has sent them. -/
inductive ApiWrite where
  | register (email password : String) (fullName : Option String)
  | login (email password : String)
  | createApiKey (owner : User) (name : String)
  | revokeApiKey (owner : User) (keyId : String)
  | post (owner : User) (idempotencyKey : Option String) (request : Post)
  | capture (owner : User) (paymentId : Uuid) (payload : CapturePaymentRequest)
  | cancel (owner : User) (paymentId : Uuid)
  | webhook (request : WebhookRequest)

/-- The program of the request, without what it returns. -/
def ApiWrite.prog (app : App) (env : Ambient) : ApiWrite → ServiceProg Unit
  | .register email password fullName => do
      let _ ← PaymentGateway.register app env email password fullName
      return ()
  | .login email password => do
      let _ ← PaymentGateway.login app env email password
      return ()
  | .createApiKey owner name => do
      let _ ← PaymentGateway.createApiKey app env owner name
      return ()
  | .revokeApiKey owner keyId => PaymentGateway.revokeApiKey app env owner keyId
  | .post owner idempotencyKey request => do
      let _ ← request.handler app env owner idempotencyKey
      return ()
  | .capture owner paymentId payload => do
      let _ ← capturePaymentEndpoint app env owner paymentId payload
      return ()
  | .cancel owner paymentId => do
      let _ ← cancelPaymentEndpoint app env owner paymentId
      return ()
  | .webhook request => do
      let _ ← receiveWebhook app env request
      return ()

/-- A request, what it draws from its surroundings, and the reaction of the providers. -/
structure ApiWriteInput where
  env : Ambient
  call : ApiWrite
  reaction : Reaction

section Model

variable (app : App)

/-- The request run against the tables `t`, without the commit. -/
def ApiWriteInput.runOn (c : ApiWriteInput) (t : Tables) : Outcome Tables Unit GatewayOp Exn Unit :=
  (c.call.prog app c.env).run c.reaction.handler t ()

/-- The rows that the session sees when the request stops, by an answer or by an exception. -/
def ApiWriteInput.staged (c : ApiWriteInput) (t : Tables) : Tables := (c.runOn app t).store

/-- The request in a unit of work of its own, with the commit. -/
def ApiWriteInput.process (c : ApiWriteInput) (t : Tables) : Outcome Tables Unit GatewayOp Exn Unit :=
  (c.call.prog app c.env).atomically c.reaction.handler t () app.accepts .integrityError

/-- The tables after the request was processed. -/
def ApiWriteInput.step (t : Tables) (c : ApiWriteInput) : Tables := (c.process app t).store

/-- What the request stages fits its columns, so that the database has no reason to refuse a
length. -/
def StagesFitting (t : Tables) (c : ApiWriteInput) : Prop := (c.staged app t).Fits

/-- The request returns, and the database is asked to commit what it staged. -/
def Answers (t : Tables) (c : ApiWriteInput) : Prop := (c.runOn app t).answer = .ok ()

end Model

/-! ## Values that come from outside -/

/-- The correlation id of the request is at most as long as its column.  The middleware takes any
`X-Correlation-ID` that a client sends. -/
def CorrelationFits (env : Ambient) : Prop := env.correlationId.length ≤ 64

instance {env : Ambient} : Decidable (CorrelationFits env) :=
  inferInstanceAs (Decidable (env.correlationId.length ≤ 64))

/-- What is booked of a charge fits: its reference, its failure reason and its amount come from
the provider, and nobody has bounded them. -/
def ChargeFits (charge : ProviderCharge) : Prop :=
  canTransition .requiresConfirmation charge.status = true →
    charge.reference.length ≤ 255 ∧
      (charge.status = .captured → FitsBigInteger charge.amountCaptured) ∧
      (charge.status ≠ .captured → charge.status ≠ .authorized →
        FitsText 500 charge.failureReason.text?)

/-- The amount that a capture request asks for, in the currency of the payment; none means all of
it. -/
def CapturePaymentRequest.amount (payload : CapturePaymentRequest) (payment : Payment) :
    Option Money := payload.amountMinor.map fun n => ⟨n.1, payment.currency⟩

section Fitting

variable (app : App) (reaction : Reaction) (owner : User) (t : Tables)

/-- The answer to a request that makes a payment or a refund fits. -/
def Post.AnswerFits (idempotencyKey : Option String) : Post → Prop
  | .payment payload => ∀ adapter charge,
      resolveProvider app owner.id payload.provider t = .ok adapter →
      reaction _ ((payload.args idempotencyKey).op adapter) = .ok charge → ChargeFits charge
  | .refund paymentId payload => ∀ payment adapter result,
      t.getForOwner paymentId owner.id = .ok (some payment) →
      resolveProvider app owner.id payment.provider t = .ok adapter →
      reaction _ (refundOp payment (payload.amountMinor.map Subtype.val)
        (payload.reason.map Subtype.val) adapter) = .ok result → result.reference.length ≤ 255

/-- There is a record of the key, so that the request stores nothing. -/
def Replays (idempotencyKey : Option String) (request : Post) : Prop :=
  given idempotencyKey = true ∧ ∃ row,
    t.getIdempotencyKey owner.id request.endpoint (idempotencyKey.getD "") = .ok (some row)

end Fitting

/-- The values that the request writes and that no schema has bounded are within their columns.
-/
def Fitting (app : App) (t : Tables) (c : ApiWriteInput) : Prop :=
  match c.call with
  | .register _ _ _ | .login _ _ | .createApiKey _ _ | .cancel _ _ => CorrelationFits c.env
  | .revokeApiKey _ keyId => CorrelationFits c.env ∧ keyId.length ≤ 64
  | .post owner idempotencyKey request =>
      Replays owner t idempotencyKey request ∨
        CorrelationFits c.env ∧
        (given idempotencyKey = true → (idempotencyKey.getD "").length ≤ 255) ∧
        request.AnswerFits app c.reaction owner t idempotencyKey
  | .capture owner paymentId payload => CorrelationFits c.env ∧ ∀ payment adapter charge,
      t.getForOwner paymentId owner.id = .ok (some payment) →
      resolveProvider app owner.id payment.provider t = .ok adapter →
      c.reaction _ (captureOp payment (payload.amount payment) adapter) = .ok charge →
        FitsBigInteger charge.amountCaptured
  | .webhook request => ∀ verified,
      (⟨c.env, request⟩ : WebhookDelivery).verified app t = .ok verified →
        (∃ e ∈ t.webhookEvents, e.key = (request.provider, verified.eventId)) ∨
          CorrelationFits c.env ∧ verified.eventId.length ≤ 64 ∧ verified.eventType.length ≤ 120

/-! ## Rows that are written -/

/-- The column of the correlation id. -/
lemma fitsText_correlationId {env : Ambient} :
    FitsText 64 (if env.correlationId = "" then none else some env.correlationId) ↔
      CorrelationFits env := by
  rw [CorrelationFits]
  by_cases h : env.correlationId = ""
  · rw [if_pos h, h]
    exact iff_of_true fitsText_none (by decide)
  · rw [if_neg h]
    exact fitsText_some

lemma auditEntry_fits_iff {env : Ambient} {action : AuditAction} {actorId : Uuid}
    {resourceType resourceId : String} :
    (auditEntry env action actorId resourceType resourceId).Fits ↔
      CorrelationFits env ∧ resourceId.length ≤ 64 := by
  constructor
  · rintro ⟨hid, hcor⟩
    exact ⟨fitsText_correlationId.1 hcor, fitsText_some.1 hid⟩
  · rintro ⟨hcor, hid⟩
    exact ⟨fitsText_some.2 hid, fitsText_correlationId.2 hcor⟩

lemma auditEntry_fits {env : Ambient} (h : CorrelationFits env) {action : AuditAction}
    {actorId : Uuid} {resourceType : String} {id : Uuid} :
    (auditEntry env action actorId resourceType id.str).Fits :=
  auditEntry_fits_iff.2 ⟨h, by rw [Uuid.length_str]; decide⟩

/-! ## What a program stops with -/

section Programs

variable {app : App} {env : Ambient} {owner : User} {α W : Type}
  {handle : Handler GatewayOp Exn W} {t : Tables} {w : W} {I : Tables → Prop}

lemma leavesIn_flush_bind {f : Unit → ServiceProg α} (ht : I t)
    (h : Prog.LeavesIn handle I (f ()) t w) :
    Prog.LeavesIn handle I (flush app >>= f) t w := by
  rw [Prog.LeavesIn, run_flush_bind]
  split
  · exact ht
  · exact h

lemma leavesIn_getProvider_bind {ownerId : Uuid} {provider : ProviderName}
    {f : Adapter → ServiceProg α} (ht : I t)
    (h : ∀ adapter, resolveProvider app ownerId provider t = .ok adapter →
      Prog.LeavesIn handle I (f adapter) t w) :
    Prog.LeavesIn handle I (getProvider app ownerId provider >>= f) t w := by
  rw [Prog.LeavesIn, run_getProvider_bind]
  exact Prog.leavesIn_ofExcept_bind ht h

lemma leavesIn_requirePayment_bind {paymentId : Uuid} {f : Payment → ServiceProg α} (ht : I t)
    (h : ∀ p, t.getForOwner paymentId owner.id = .ok (some p) →
      Prog.LeavesIn handle I (f p) t w) :
    Prog.LeavesIn handle I (requirePayment owner paymentId >>= f) t w := by
  rw [requirePayment, Prog.bind_assoc]
  refine Prog.leavesIn_ask_bind ?_
  rw [Prog.bind_assoc]
  refine Prog.leavesIn_ofExcept_bind ht fun found hfound => ?_
  exact Prog.leavesIn_orRaise_bind ht fun p hp => h p (hp ▸ hfound)

lemma leavesIn_record_bind {action : AuditAction} {actorId : Uuid}
    {resourceType resourceId : String} {f : Unit → ServiceProg α}
    (h : Prog.LeavesIn handle I (f ())
      (t.insertAuditLog (auditEntry env action actorId resourceType resourceId)) w) :
    Prog.LeavesIn handle I (record env action actorId resourceType resourceId >>= f) t w := h

/-- The row of a payment that is booked. -/
lemma withCharge_fits {payment : Payment} {charge : ProviderCharge} (hp : payment.Fits)
    (hstatus : canTransition .requiresConfirmation charge.status = true) (hc : ChargeFits charge) :
    (withCharge payment charge).1.Fits := by
  obtain ⟨hreference, hcaptured, hreason⟩ := hc hstatus
  rw [withCharge]
  split
  · rename_i hcap
    exact { hp with
      providerReference := fitsText_some.2 hreference
      amountCaptured := hcaptured hcap }
  · exact { hp with providerReference := fitsText_some.2 hreference }
  · rename_i hcap hauth
    exact { hp with
      providerReference := fitsText_some.2 hreference
      failureReason := hreason hcap hauth }

lemma leavesIn_createPayment (ht : InRange t) (hcor : CorrelationFits env)
    {args : CreatePaymentArgs} (hamount : FitsBigInteger args.amount.minorUnits)
    (hdescription : FitsText 500 args.description)
    (hcustomer : FitsText 255 args.customerReference)
    (hcharge : ∀ adapter charge, resolveProvider app owner.id args.provider t = .ok adapter →
      (handle _ (args.op adapter) w).1 = .ok charge → ChargeFits charge) :
    Prog.LeavesIn handle InRange (createPayment app env owner args) t w := by
  have hnew : (newPayment env owner args).Fits :=
    { providerReference := fitsText_none
      description := hdescription
      customerReference := hcustomer
      failureReason := fitsText_none
      amount := hamount
      amountCaptured := fitsBigInteger_zero
      amountRefunded := fitsBigInteger_zero }
  have hinserted := ht.insertPayment hnew le_rfl
  refine Prog.leavesIn_raiseIf_bind ht fun _ => Prog.leavesIn_modify_bind ?_
  refine leavesIn_flush_bind hinserted (leavesIn_getProvider_bind hinserted fun adapter hres => ?_)
  refine Prog.leavesIn_perform_bind hinserted fun charge hans => ?_
  refine Prog.leavesIn_ofExcept_bind hinserted fun _ hstatus => ?_
  have hupdated := withCharge_fits hnew (assertTransition_ok_iff.1 hstatus)
    (hcharge adapter charge hres hans)
  refine Prog.leavesIn_modify_bind (leavesIn_record_bind (Prog.leavesIn_ret ?_))
  refine (hinserted.savePayment hupdated ?_).insertAuditLog (auditEntry_fits hcor)
  rw [withCharge_amountRefunded]
  exact le_rfl

/-- What a capture books fits, if the charge does. -/
lemma withCapture_fits {payment : Payment} (hp : payment.Fits) (payload : CapturePaymentRequest)
    {charge : ProviderCharge} (hcharge : FitsBigInteger charge.amountCaptured) :
    (withCapture payment (payload.amount payment) charge).Fits := by
  have hamount : FitsBigInteger (captureAmount payment (payload.amount payment)).minorUnits := by
    rw [captureAmount, CapturePaymentRequest.amount]
    rcases payload.amountMinor with _ | n
    · exact hp.amount
    · exact fitsBigInteger_amountMinor n
  refine { hp with amountCaptured := ?_ }
  show FitsBigInteger (if _ then _ else _)
  split
  · exact hcharge
  · exact hamount

lemma leavesIn_capturePaymentEndpoint (ht : InRange t) (hcor : CorrelationFits env)
    {paymentId : Uuid} {payload : CapturePaymentRequest}
    (hcharge : ∀ payment adapter charge, t.getForOwner paymentId owner.id = .ok (some payment) →
      resolveProvider app owner.id payment.provider t = .ok adapter →
      (handle _ (captureOp payment (payload.amount payment) adapter) w).1 = .ok charge →
        FitsBigInteger charge.amountCaptured) :
    Prog.LeavesIn handle InRange (capturePaymentEndpoint app env owner paymentId payload) t w := by
  refine leavesIn_requirePayment_bind ht fun payment hfound => ?_
  refine Prog.leavesIn_bind ?_ fun _ _ _ h => Prog.leavesIn_ofExcept h
  refine leavesIn_requirePayment_bind ht fun payment' hfound' => ?_
  rw [hfound] at hfound'
  cases hfound'
  have hmem := (Tables.mem_of_getForOwner hfound).1
  refine Prog.leavesIn_raiseIf_bind ht fun _ => Prog.leavesIn_raiseIf_bind ht fun _ => ?_
  refine Prog.leavesIn_raiseIf_bind ht fun _ => leavesIn_getProvider_bind ht fun adapter hres => ?_
  refine Prog.leavesIn_perform_bind ht fun charge hans => ?_
  refine Prog.leavesIn_ofExcept_bind ht fun _ _ => Prog.leavesIn_modify_bind ?_
  refine leavesIn_record_bind (Prog.leavesIn_ret ?_)
  have hupdated := withCapture_fits (ht.payments payment hmem) payload
    (hcharge payment adapter charge hfound hres hans)
  exact (ht.savePayment hupdated (ht.refunded payment hmem)).insertAuditLog (auditEntry_fits hcor)

lemma leavesIn_cancelPaymentEndpoint (ht : InRange t) (hcor : CorrelationFits env)
    {paymentId : Uuid} :
    Prog.LeavesIn handle InRange (cancelPaymentEndpoint app env owner paymentId) t w := by
  refine Prog.leavesIn_bind ?_ fun _ _ _ h => Prog.leavesIn_ofExcept h
  refine leavesIn_requirePayment_bind ht fun payment hfound => ?_
  have hmem := (Tables.mem_of_getForOwner hfound).1
  refine Prog.leavesIn_ofExcept_bind ht fun _ _ => leavesIn_getProvider_bind ht fun adapter _ => ?_
  refine Prog.leavesIn_perform_bind ht fun _ _ => Prog.leavesIn_modify_bind ?_
  refine leavesIn_record_bind (Prog.leavesIn_ret ?_)
  have hupdated : (withCancel payment).Fits := { ht.payments payment hmem with }
  exact (ht.savePayment hupdated (ht.refunded payment hmem)).insertAuditLog (auditEntry_fits hcor)

/-- The amount of a refund that the checks let through. -/
lemma refundAmount_bounds {payment : Payment} (hp : payment.Fits) (h0 : 0 ≤ payment.amountRefunded)
    {amountMinor : Option ℤ} (hpos : (refundAmount payment amountMinor).isPositive)
    (hle : (refundAmount payment amountMinor).minorUnits ≤ payment.amountRefundable) :
    FitsBigInteger (refundAmount payment amountMinor).minorUnits ∧
      (withRefund payment amountMinor).Fits ∧ 0 ≤ (withRefund payment amountMinor).amountRefunded := by
  have hpos' : 0 < (refundAmount payment amountMinor).minorUnits := by
    simpa [Money.isPositive] using hpos
  have hcaptured := hp.amountCaptured.2
  rw [Payment.amountRefundable] at hle
  have hbound : payment.amountRefunded + (refundAmount payment amountMinor).minorUnits ≤
      payment.amountCaptured := by omega
  refine ⟨⟨by omega, by omega⟩, { hp with amountRefunded := ⟨?_, ?_⟩ }, ?_⟩
  · show -2 ^ 63 ≤ payment.amountRefunded + (refundAmount payment amountMinor).minorUnits
    omega
  · show payment.amountRefunded + (refundAmount payment amountMinor).minorUnits < 2 ^ 63
    omega
  · show 0 ≤ payment.amountRefunded + (refundAmount payment amountMinor).minorUnits
    omega

lemma leavesIn_createRefund (ht : InRange t) (hcor : CorrelationFits env) {paymentId : Uuid}
    {amountMinor : Option ℤ} {reason : Option String} (hreason : FitsText 500 reason)
    (hresult : ∀ payment adapter result, t.getForOwner paymentId owner.id = .ok (some payment) →
      resolveProvider app owner.id payment.provider t = .ok adapter →
      (handle _ (refundOp payment amountMinor reason adapter) w).1 = .ok result →
        result.reference.length ≤ 255) :
    Prog.LeavesIn handle InRange (createRefund app env owner paymentId amountMinor reason) t w := by
  refine leavesIn_requirePayment_bind ht fun payment hfound => ?_
  have hmem := (Tables.mem_of_getForOwner hfound).1
  refine Prog.leavesIn_raiseIf_bind ht fun _ => Prog.leavesIn_raiseIf_bind ht fun hpos => ?_
  refine Prog.leavesIn_raiseIf_bind ht fun hle => leavesIn_getProvider_bind ht fun adapter hres => ?_
  refine Prog.leavesIn_perform_bind ht fun result hans => Prog.leavesIn_modify_bind ?_
  obtain ⟨hamount, hupdated, h0⟩ := refundAmount_bounds (ht.payments payment hmem)
    (ht.refunded payment hmem) (not_not.1 hpos) (not_lt.1 hle)
  have hrefund : (newRefund env payment amountMinor reason result).Fits :=
    { reason := hreason
      providerReference := fitsText_some.2 (hresult payment adapter result hfound hres hans)
      amount := hamount }
  have hinserted := ht.insertRefund hrefund
  have hsaved : InRange ((t.insertRefund (newRefund env payment amountMinor reason result)).savePayment
      env.now payment (withRefund payment amountMinor)) := hinserted.savePayment hupdated h0
  refine Prog.leavesIn_ofExcept_bind hinserted fun _ _ => Prog.leavesIn_modify_bind ?_
  refine leavesIn_flush_bind hsaved (leavesIn_record_bind (Prog.leavesIn_ret ?_))
  exact hsaved.insertAuditLog (auditEntry_fits hcor)

lemma leavesIn_register (ht : InRange t) (hcor : CorrelationFits env) {email password : String}
    {fullName : Option String} :
    Prog.LeavesIn handle InRange (register app env email password fullName) t w := by
  refine Prog.leavesIn_ask_bind (Prog.leavesIn_raiseIf_bind ht fun _ => ?_)
  refine Prog.leavesIn_ofExcept_bind ht fun hashed _ => Prog.leavesIn_modify_bind ?_
  have hinserted : InRange
      (t.insertUser (newUser env (app.strip (app.lower email)) hashed fullName)) :=
    ht.congr rfl rfl rfl rfl rfl
  refine leavesIn_flush_bind hinserted (leavesIn_record_bind (Prog.leavesIn_ret ?_))
  exact hinserted.insertAuditLog (auditEntry_fits hcor)

lemma leavesIn_login (ht : InRange t) (hcor : CorrelationFits env) {email password : String} :
    Prog.LeavesIn handle InRange (login app env email password) t w := by
  refine Prog.leavesIn_bind ?_ fun _ _ _ h => Prog.leavesIn_ret h
  refine Prog.leavesIn_ask_bind (Prog.leavesIn_ofExcept_bind ht fun found _ => ?_)
  rcases found with _ | user
  · exact Prog.leavesIn_raise ht
  dsimp only
  split
  · exact Prog.leavesIn_modify_bind (Prog.leavesIn_raise (ht.congr rfl rfl rfl rfl rfl))
  · refine Prog.leavesIn_raiseIf_bind ht fun _ => Prog.leavesIn_ofExcept_bind ht fun hashed _ => ?_
    refine Prog.leavesIn_modify_bind (leavesIn_record_bind (Prog.leavesIn_ret ?_))
    have hsaved : InRange (t.saveUser env.now user (withLogin user hashed)) :=
      ht.congr rfl rfl rfl rfl rfl
    exact hsaved.insertAuditLog (auditEntry_fits hcor)

lemma leavesIn_createApiKey (ht : InRange t) (hcor : CorrelationFits env) {name : String} :
    Prog.LeavesIn handle InRange (createApiKey app env owner name) t w := by
  have hinserted : InRange (t.insertApiKey (newApiKey env owner name (generatedApiKey app env))) :=
    ht.congr rfl rfl rfl rfl rfl
  refine Prog.leavesIn_modify_bind (leavesIn_flush_bind hinserted (leavesIn_record_bind ?_))
  exact Prog.leavesIn_ret (hinserted.insertAuditLog (auditEntry_fits hcor))

/-- The path of the request is written to the audit log as it was sent. -/
lemma leavesIn_revokeApiKey (ht : InRange t) (hcor : CorrelationFits env) {keyId : String}
    (hid : keyId.length ≤ 64) :
    Prog.LeavesIn handle InRange (revokeApiKey app env owner keyId) t w := by
  refine Prog.leavesIn_ofExcept_bind ht fun _ _ => Prog.leavesIn_ask_bind ?_
  refine Prog.leavesIn_orRaise_bind ht fun key _ => Prog.leavesIn_raiseIf_bind ht fun _ => ?_
  have hsaved : InRange (t.saveApiKey env.now key (withRevocation env key)) :=
    ht.congr rfl rfl rfl rfl rfl
  exact Prog.leavesIn_modify_bind (hsaved.insertAuditLog (auditEntry_fits_iff.2 ⟨hcor, hid⟩))

lemma leavesIn_operation {reaction : Reaction} {key : Option String} {post : Post} (ht : InRange t)
    (hcor : CorrelationFits env) (hanswer : post.AnswerFits app reaction owner t key) :
    Prog.LeavesIn reaction.handler InRange (post.operation app env owner key) t () := by
  rcases post with payload | ⟨paymentId, payload⟩
  · refine Prog.leavesIn_bind ?_ fun _ _ _ h =>
      Prog.leavesIn_ofExcept_bind h fun _ _ => Prog.leavesIn_ret h
    exact leavesIn_createPayment ht hcor (fitsBigInteger_amountMinor payload.amountMinor)
      (fitsText_map_val payload.description) (fitsText_map_val payload.customerReference) hanswer
  · refine Prog.leavesIn_bind ?_ fun _ _ _ h =>
      Prog.leavesIn_ofExcept_bind h fun _ _ => Prog.leavesIn_ret h
    exact leavesIn_createRefund ht hcor (fitsText_map_val payload.reason) hanswer

lemma leavesIn_idempotently {endpoint : String} {key : Option String} {body : List (String × Json)}
    {operation : ServiceProg ResponseBody} (ht : InRange t)
    (h : (¬ ∃ row, t.getIdempotencyKey owner.id endpoint (key.getD "") = .ok (some row)) ∨
      given key = false → (given key = true → (key.getD "").length ≤ 255) ∧
        Prog.LeavesIn handle InRange operation t w) :
    Prog.LeavesIn handle InRange (idempotently app env owner.id endpoint key body operation) t w := by
  by_cases hkey : given key = true
  · rcases hfound : t.getIdempotencyKey owner.id endpoint (key.getD "") with e | _ | row
    · rw [idempotently, if_pos hkey, lookup, Prog.bind_assoc, Prog.LeavesIn, Prog.run_ask_bind,
        hfound]
      exact ht
    · obtain ⟨hlength, hop⟩ := h (.inl (by simp [hfound]))
      rw [Prog.LeavesIn, run_idempotently_of_none hkey hfound]
      refine Prog.leavesIn_bind hop fun response t' _ ht' => ?_
      have hstored : InRange (storing app env owner.id endpoint (key.getD "") body 201 response t') :=
        ht'.insertIdempotencyKey (hlength hkey)
      rw [store, Prog.bind_assoc]
      exact Prog.leavesIn_modify_bind (leavesIn_flush_bind hstored (Prog.leavesIn_ret hstored))
    · by_cases hsame : row.requestHash = hashBody app body
      · rw [Prog.LeavesIn, run_idempotently_of_same hkey hfound hsame]
        exact ht
      · rw [Prog.LeavesIn, run_idempotently_of_differs hkey hfound hsame]
        exact ht
  · obtain ⟨-, hop⟩ := h (.inr (by simpa using hkey))
    rw [idempotently, if_neg hkey]
    exact Prog.leavesIn_bind hop fun _ _ _ h => Prog.leavesIn_ret h

lemma leavesIn_receiveWebhook {d : WebhookDelivery} (ht : InRange t)
    (h : ∀ verified, d.verified app t = .ok verified →
      (∃ e ∈ t.webhookEvents, e.key = (d.request.provider, verified.eventId)) ∨
        CorrelationFits d.env ∧ verified.eventId.length ≤ 64 ∧ verified.eventType.length ≤ 120) :
    Prog.LeavesIn handle InRange (d.prog app) t w := by
  rw [Prog.LeavesIn, run_receiveWebhook]
  cases hverified : d.verified app t with
  | error e => exact ht
  | ok verified =>
    dsimp only
    rcases hfound : t.getByEvent d.request.provider verified.eventId with e | _ | event
    · exact ht
    · have hnew : ¬ ∃ e ∈ t.webhookEvents, e.key = (d.request.provider, verified.eventId) := by
        rintro ⟨e, he, hkey⟩
        have hnil := scalarOneOrNone_eq_none.1 hfound
        rw [List.filter_eq_nil_iff] at hnil
        exact hnil e he (decide_eq_true hkey)
      obtain ⟨hcor, hid, htype⟩ := (h verified hverified).resolve_left hnew
      have hevent : (d.event verified).Fits := ⟨hid.trans (by decide), htype⟩
      have hinserted := ht.insertWebhookEvent hevent
      dsimp only
      split
      · exact hinserted
      · exact hinserted.insertAuditLog ⟨fitsText_some.2 hid, fitsText_correlationId.2 hcor⟩
    · exact ht

end Programs

/-- A request whose values fit stops with rows that fit. -/
lemma inRange_staged {app : App} {t : Tables} {c : ApiWriteInput} (ht : InRange t)
    (h : Fitting app t c) : InRange (c.staged app t) := by
  obtain ⟨env, call, reaction⟩ := c
  show Prog.LeavesIn reaction.handler InRange (call.prog app env) t ()
  cases call with
  | register email password fullName =>
    exact Prog.leavesIn_bind (leavesIn_register ht h) fun _ _ _ h => h
  | login email password => exact Prog.leavesIn_bind (leavesIn_login ht h) fun _ _ _ h => h
  | createApiKey owner name =>
    exact Prog.leavesIn_bind (leavesIn_createApiKey ht h) fun _ _ _ h => h
  | revokeApiKey owner keyId => exact leavesIn_revokeApiKey ht h.1 h.2
  | post owner key request =>
    refine Prog.leavesIn_bind ?_ fun _ _ _ h => h
    rw [Post.handler_eq]
    refine leavesIn_idempotently ht fun hnew => ?_
    -- a replay stores nothing, so its lengths do not matter
    have hno : ¬ Replays owner t key request := by
      rintro ⟨hkey, hrow⟩
      rcases hnew with hnew | hnew
      · exact hnew hrow
      · rw [hnew] at hkey
        cases hkey
    obtain ⟨hcor, hlength, hanswer⟩ := h.resolve_left hno
    exact ⟨hlength, leavesIn_operation ht hcor hanswer⟩
  | capture owner paymentId payload =>
    exact Prog.leavesIn_bind (leavesIn_capturePaymentEndpoint ht h.1 h.2) fun _ _ _ h => h
  | cancel owner paymentId =>
    exact Prog.leavesIn_bind (leavesIn_cancelPaymentEndpoint ht h) fun _ _ _ h => h
  | webhook request =>
    refine Prog.leavesIn_bind ?_ fun _ _ _ h => h
    exact leavesIn_receiveWebhook (d := ⟨env, request⟩) ht h

/-! ## What a request that returns has written -/

lemma Tables.Fits.newLog {t : Tables} {e : AuditLog} (h : (t.insertAuditLog e).Fits) : e.Fits :=
  h.auditLogs e (by simp)

/-- The row of a payment after the object that was loaded from it was saved. -/
lemma Tables.Fits.saved {t t' : Tables} (h : t'.Fits) {now : Timestamp} {old new : Payment}
    (hold : old ∈ t.payments) (hpayments : t'.payments = (t.savePayment now old new).payments) :
    (old.saved now old new).Fits := by
  refine h.payments _ ?_
  rw [hpayments, Tables.savePayment_payments]
  exact mem_updateAt_self hold _

section Returns

variable {app : App} {env : Ambient} {owner : User} {reaction : Reaction} {t : Tables}
  {H : History Tables GatewayOp Exn}

/-- The path of a request whose reads met the tables `t` and whose calls had the answers of the
provider, and which has staged rows that fit. -/
structure Wrote (reaction : Reaction) (t : Tables) (H : History Tables GatewayOp Exn) : Prop where
  reads : ∀ d ∈ H.reads, d = t
  calls : ∀ c ∈ H.calls, reaction _ c.op = c.answer
  fits : (view H.writes t).Fits

/-- A request that returns has followed such a path. -/
lemma exists_wrote {c : ApiWriteInput} (h : Answers app t c) (hfits : StagesFitting app t c) :
    ∃ H, (c.call.prog app c.env).Path [] H (.ok ()) ∧ Wrote c.reaction t H := by
  obtain ⟨H, hpath, hreads, hcalls, hstore⟩ :=
    Prog.path_run c.reaction.handler (c.call.prog app c.env) [] t ()
  simp only [view_nil, List.nil_append] at hpath hcalls hstore
  have hanswer : ((c.call.prog app c.env).run c.reaction.handler t ()).answer = .ok () := h
  rw [hanswer] at hpath
  refine ⟨H, hpath, hreads, fun d hd => ?_, hstore ▸ hfits⟩
  obtain ⟨w, hw⟩ := Prog.calls_run c.reaction.handler _ t () d (hcalls ▸ hd)
  exact hw.symm

lemma path_ofExcept {α : Type} {x : Except Exn α} {gs : List (Tables → Tables)} {r : Except Exn α}
    (h : (Prog.ofExcept x : ServiceProg α).Path gs H r) : H = .nil ∧ r = x := by
  cases x with
  | ok a => exact h
  | error e => exact h

lemma createPayment_fits {args : CreatePaymentArgs} {payment : Payment}
    (hpath : (createPayment app env owner args).Path [] H (.ok payment)) (h : Wrote reaction t H) :
    CorrelationFits env ∧ ∀ adapter charge,
      resolveProvider app owner.id args.provider t = .ok adapter →
      reaction _ (args.op adapter) = .ok charge → ChargeFits charge := by
  obtain ⟨hreads, hcalls, hfits⟩ := h
  cases createPayment_path hpath with
  | @done d₁ d₂ adapter charge _ _ hres hstatus =>
    refine ⟨(auditEntry_fits_iff.1 hfits.newLog).1, fun adapter' charge' hres' hcharge _ => ?_⟩
    have hd : d₂ = t := hreads d₂ (by simp)
    have hadapter : adapter' = adapter := by
      have hsame : resolveProvider app owner.id args.provider t = .ok adapter := hd ▸ hres
      rw [hres'] at hsame
      exact Except.ok.inj hsame
    have hans : reaction _ (args.op adapter) = .ok charge :=
      hcalls ⟨args.op adapter, .ok charge⟩ (by simp)
    rw [hadapter, hans] at hcharge
    cases hcharge
    have hsaved := hfits.saved (t := t.insertPayment (newPayment env owner args)) (by simp) rfl
    refine ⟨?_, fun hcap => ?_, fun hcap hauth => ?_⟩
    · have hreference := hsaved.providerReference
      rw [Payment.saved_providerReference, changed_loaded, withCharge_providerReference] at hreference
      exact fitsText_some.1 hreference
    · have hcaptured := hsaved.amountCaptured
      rwa [Payment.saved_amountCaptured, changed_loaded, withCharge_amountCaptured, if_pos hcap]
        at hcaptured
    · have hreason := hsaved.failureReason
      rwa [Payment.saved_failureReason, changed_loaded, withCharge_failureReason _ _ hcap hauth]
        at hreason

lemma createRefund_fits {paymentId : Uuid} {amountMinor : Option ℤ} {reason : Option String}
    {refund : Refund}
    (hpath : (createRefund app env owner paymentId amountMinor reason).Path [] H (.ok refund))
    (h : Wrote reaction t H) :
    CorrelationFits env ∧ ∀ payment adapter result,
      t.getForOwner paymentId owner.id = .ok (some payment) →
      resolveProvider app owner.id payment.provider t = .ok adapter →
      reaction _ (refundOp payment amountMinor reason adapter) = .ok result →
        result.reference.length ≤ 255 := by
  obtain ⟨hreads, hcalls, hfits⟩ := h
  cases createRefund_path hpath with
  | @done d₁ d₂ d₃ adapter payment result hfound _ _ _ hres =>
    refine ⟨(auditEntry_fits_iff.1 hfits.newLog).1, fun payment' adapter' result' => ?_⟩
    intro hfound' hres' hresult
    -- what the path has read is what the table holds
    have hpayment : payment' = payment := by
      have hsame : t.getForOwner paymentId owner.id = .ok (some payment) :=
        hreads d₁ (by simp) ▸ hfound
      rw [hfound'] at hsame
      exact Option.some.inj (Except.ok.inj hsame)
    have hadapter : adapter' = adapter := by
      have hsame : resolveProvider app owner.id payment.provider t = .ok adapter :=
        hreads d₂ (by simp) ▸ hres
      rw [← hpayment, hres'] at hsame
      exact Except.ok.inj hsame
    have hans : reaction _ (refundOp payment amountMinor reason adapter) = .ok result :=
      hcalls ⟨refundOp payment amountMinor reason adapter, .ok result⟩ (by simp)
    rw [hpayment, hadapter, hans] at hresult
    cases hresult
    have hrefund : (newRefund env payment amountMinor reason result).Fits :=
      hfits.refunds _ (by simp)
    exact fitsText_some.1 hrefund.providerReference

lemma capturePaymentEndpoint_fits {paymentId : Uuid} {payload : CapturePaymentRequest}
    {response : PaymentResponse}
    (hpath : (capturePaymentEndpoint app env owner paymentId payload).Path [] H (.ok response))
    (h : Wrote reaction t H) :
    CorrelationFits env ∧ ∀ payment adapter charge,
      t.getForOwner paymentId owner.id = .ok (some payment) →
      resolveProvider app owner.id payment.provider t = .ok adapter →
      reaction _ (captureOp payment (payload.amount payment) adapter) = .ok charge →
        FitsBigInteger charge.amountCaptured := by
  obtain ⟨hreads, hcalls, hfits⟩ := h
  -- the endpoint loads the payment once to find the amount, and the service once more
  rw [capturePaymentEndpoint, getPayment, path_requirePayment_bind] at hpath
  obtain ⟨d, K, rfl, ⟨_, -, -, hr⟩ | ⟨-, -, hr⟩ | ⟨loaded, hloaded, hpath⟩⟩ := hpath
  · cases hr
  · cases hr
  rw [Prog.path_bind] at hpath
  obtain ⟨_, -, hr⟩ | ⟨updated, K, L, rfl, hcapture, hL⟩ := hpath
  · cases hr
  rw [(path_ofExcept hL).1, History.append_nil] at hreads hcalls hfits
  cases capturePayment_path hcapture with
  | @done d₁ d₂ adapter payment charge hfound _ _ _ hres =>
    refine ⟨(auditEntry_fits_iff.1 hfits.newLog).1, fun payment' adapter' charge' => ?_⟩
    intro hfound' hres' hcharge
    have hloaded' : payment' = loaded := by
      have hsame : t.getForOwner paymentId owner.id = .ok (some loaded) :=
        hreads d (by simp) ▸ hloaded
      rw [hfound'] at hsame
      exact Option.some.inj (Except.ok.inj hsame)
    have hread : t.getForOwner paymentId owner.id = .ok (some payment) :=
      hreads d₁ (by simp) ▸ hfound
    have hpayment : payment' = payment := by
      rw [hfound'] at hread
      exact Option.some.inj (Except.ok.inj hread)
    have hadapter : adapter' = adapter := by
      have hsame : resolveProvider app owner.id payment.provider t = .ok adapter :=
        hreads d₂ (by simp) ▸ hres
      rw [← hpayment, hres'] at hsame
      exact Except.ok.inj hsame
    have hans : reaction _ (captureOp payment (payload.amount loaded) adapter) = .ok charge :=
      hcalls ⟨captureOp payment (payload.amount loaded) adapter, .ok charge⟩
        (by simp [CapturePaymentRequest.amount])
    rw [← hloaded', hpayment] at hans
    rw [hpayment, hadapter, hans] at hcharge
    cases hcharge
    have hsaved := hfits.saved (Tables.mem_of_getForOwner hread).1 rfl
    have hcaptured := hsaved.amountCaptured
    rw [Payment.saved_amountCaptured, changed_loaded] at hcaptured
    -- `charge.amount_captured or ...` falls back to the amount when nothing is reported
    by_cases hzero : charge.amountCaptured = 0
    · rw [hzero]
      exact fitsBigInteger_zero
    · rwa [withCapture, if_pos hzero] at hcaptured

lemma cancelPaymentEndpoint_fits {paymentId : Uuid} {response : PaymentResponse}
    (hpath : (cancelPaymentEndpoint app env owner paymentId).Path [] H (.ok response))
    (h : Wrote reaction t H) : CorrelationFits env := by
  rw [cancelPaymentEndpoint, Prog.path_bind] at hpath
  obtain ⟨_, -, hr⟩ | ⟨updated, K, L, rfl, hcancel, hL⟩ := hpath
  · cases hr
  have hfits := h.fits
  rw [(path_ofExcept hL).1, History.append_nil] at hfits
  cases cancelPayment_path hcancel with
  | done => exact (auditEntry_fits_iff.1 hfits.newLog).1

lemma register_fits {email password : String} {fullName : Option String} {user : User}
    (hpath : (register app env email password fullName).Path [] H (.ok user))
    (h : Wrote reaction t H) : CorrelationFits env := by
  simp only [register, Prog.path_ask_bind, Prog.path_raiseIf_bind, Prog.path_ofExcept_bind,
    Prog.path_modify_bind, path_flush_bind, path_record_bind, Prog.pure_def, Prog.path_ret] at hpath
  obtain ⟨d, K, rfl, ⟨-, -, hr⟩ | ⟨-, ⟨_, -, -, hr⟩ | ⟨hashed, -, hpath⟩⟩⟩ := hpath
  · cases hr
  · cases hr
  obtain ⟨K, rfl, d', K, rfl, ⟨-, -, hr⟩ | ⟨-, K, rfl, rfl, -⟩⟩ := hpath
  · cases hr
  · exact (auditEntry_fits_iff.1 h.fits.newLog).1

lemma login_fits {email password : String} {tokens : TokenPair}
    (hpath : (login app env email password).Path [] H (.ok tokens)) (h : Wrote reaction t H) :
    CorrelationFits env := by
  obtain ⟨x, hx, hok⟩ := Prog.path_map.1 hpath
  cases authenticate_path hx with
  | refused => cases hok
  | done => exact (auditEntry_fits_iff.1 h.fits.newLog).1

lemma createApiKey_fits {name : String} {key : IssuedApiKey}
    (hpath : (createApiKey app env owner name).Path [] H (.ok key)) (h : Wrote reaction t H) :
    CorrelationFits env := by
  cases createApiKey_path hpath with
  | done => exact (auditEntry_fits_iff.1 h.fits.newLog).1

lemma revokeApiKey_fits {keyId : String}
    (hpath : (revokeApiKey app env owner keyId).Path [] H (.ok ())) (h : Wrote reaction t H) :
    CorrelationFits env ∧ keyId.length ≤ 64 := by
  cases revokeApiKey_path hpath with
  | done => exact auditEntry_fits_iff.1 h.fits.newLog

lemma operation_fits {key : Option String} {post : Post} {body : ResponseBody}
    (hpath : (post.operation app env owner key).Path [] H (.ok body)) (h : Wrote reaction t H) :
    CorrelationFits env ∧ post.AnswerFits app reaction owner t key := by
  rcases post with payload | ⟨paymentId, payload⟩
  · obtain ⟨x, hx, hok⟩ := Prog.path_convert.1 hpath
    rcases x with e | payment
    · cases hok
    · exact createPayment_fits hx h
  · obtain ⟨x, hx, hok⟩ := Prog.path_convert.1 hpath
    rcases x with e | refund
    · cases hok
    · exact createRefund_fits hx h

lemma handler_fits {key : Option String} {post : Post} {response : StoredResponse}
    (hpath : (post.handler app env owner key).Path [] H (.ok response)) (h : Wrote reaction t H) :
    Replays owner t key post ∨ CorrelationFits env ∧
      (given key = true → (key.getD "").length ≤ 255) ∧
      post.AnswerFits app reaction owner t key := by
  rw [Post.handler_eq] at hpath
  -- without a key the operation runs by itself
  by_cases hkey : given key = true
  · cases idempotently_path hkey hpath with
    | @replayed d row hfound hsame =>
      have hread : t.getIdempotencyKey owner.id post.endpoint (key.getD "") = .ok (some row) :=
        h.reads d (by simp) ▸ hfound
      exact .inl ⟨hkey, row, hread⟩
    | @stored d K d' body _ hran =>
      have hfits : ((view K.writes t).insertIdempotencyKey (newIdempotencyKey app env owner.id
          post.endpoint (key.getD "") post.body 201 body)).Fits := by
        simpa [storing] using h.fits
      -- the operation has written all but the row of the key
      have hK : Wrote reaction t K :=
        { reads := fun x hx => h.reads x (by simp [hx])
          calls := fun c hc => h.calls c (by simp [hc])
          fits := { hfits with
            idempotencyKeys := fun r hr => hfits.idempotencyKeys r (by simp [hr]) } }
      obtain ⟨hcor, hanswer⟩ := operation_fits hran hK
      have hlength : IdempotencyKey.Fits _ :=
        hfits.idempotencyKeys (newIdempotencyKey app env owner.id post.endpoint (key.getD "")
          post.body 201 body) (by simp)
      exact .inr ⟨hcor, fun _ => hlength, hanswer⟩
  · rw [idempotently, if_neg hkey] at hpath
    obtain ⟨x, hx, hok⟩ := Prog.path_map.1 hpath
    rcases x with e | body
    · cases hok
    obtain ⟨hcor, hanswer⟩ := operation_fits hx h
    exact .inr ⟨hcor, fun hgiven => absurd hgiven hkey, hanswer⟩

lemma receiveWebhook_fits {request : WebhookRequest} {ack : WebhookAck}
    (hpath : (receiveWebhook app env request).Path [] H (.ok ack)) (h : Wrote reaction t H)
    {verified : ProviderWebhook}
    (hverified : (⟨env, request⟩ : WebhookDelivery).verified app t = .ok verified) :
    (∃ e ∈ t.webhookEvents, e.key = (request.provider, verified.eventId)) ∨
      CorrelationFits env ∧ verified.eventId.length ≤ 64 ∧ verified.eventType.length ≤ 120 := by
  -- the event on the path is the one that was verified
  have hsame : ∀ ownerId adapter verified', webhookOwner app env request = .ok ownerId →
      resolveProvider app ownerId request.provider t = .ok adapter →
      verifyWebhook app env adapter request = .ok verified' → verified' = verified := by
    intro ownerId adapter verified' howner hres hverify
    rw [WebhookDelivery.verified, howner] at hverified
    change (resolveProvider app ownerId request.provider t >>= fun adapter =>
      verifyWebhook app env adapter request) = .ok verified at hverified
    rw [hres] at hverified
    exact Except.ok.inj (hverify.symm.trans hverified)
  cases receiveWebhook_path hpath with
  | @duplicate d d' ownerId adapter verified' event howner hres hverify hfound =>
    obtain rfl := hsame _ _ _ howner (h.reads d (by simp) ▸ hres) hverify
    have hread : t.getByEvent request.provider verified'.eventId = .ok (some event) :=
      h.reads d' (by simp) ▸ hfound
    obtain ⟨hmem, hkey⟩ := mem_of_filter_eq_singleton (scalarOneOrNone_eq_some.1 hread)
    exact .inl ⟨event, hmem, of_decide_eq_true hkey⟩
  | @stored d d' d'' ownerId adapter verified' howner hres hverify hfound =>
    obtain rfl := hsame _ _ _ howner (h.reads d (by simp) ▸ hres) hverify
    have hevent : (newWebhookEvent env request.provider verified').Fits :=
      h.fits.webhookEvents _ (by simp)
    have hentry : (webhookAuditEntry env request.provider verified').Fits := h.fits.newLog
    exact .inr ⟨fitsText_correlationId.1 hentry.correlationId, fitsText_some.1 hentry.resourceId,
      hevent.eventType⟩

end Returns

/-- The rows of a request that returns fit only if its values do. -/
lemma fitting_of_answers {app : App} {t : Tables} {c : ApiWriteInput} (h : Answers app t c)
    (hfits : StagesFitting app t c) : Fitting app t c := by
  obtain ⟨H, hpath, hwrote⟩ := exists_wrote h hfits
  obtain ⟨env, call, reaction⟩ := c
  cases call with
  | register email password fullName =>
    obtain ⟨x, hx, hok⟩ := Prog.path_map.1 hpath
    rcases x with e | user
    · cases hok
    · exact register_fits hx hwrote
  | login email password =>
    obtain ⟨x, hx, hok⟩ := Prog.path_map.1 hpath
    rcases x with e | tokens
    · cases hok
    · exact login_fits hx hwrote
  | createApiKey owner name =>
    obtain ⟨x, hx, hok⟩ := Prog.path_map.1 hpath
    rcases x with e | key
    · cases hok
    · exact createApiKey_fits hx hwrote
  | revokeApiKey owner keyId => exact revokeApiKey_fits hpath hwrote
  | post owner key request =>
    obtain ⟨x, hx, hok⟩ := Prog.path_map.1 hpath
    rcases x with e | response
    · cases hok
    · exact handler_fits hx hwrote
  | capture owner paymentId payload =>
    obtain ⟨x, hx, hok⟩ := Prog.path_map.1 hpath
    rcases x with e | response
    · cases hok
    · exact capturePaymentEndpoint_fits hx hwrote
  | cancel owner paymentId =>
    obtain ⟨x, hx, hok⟩ := Prog.path_map.1 hpath
    rcases x with e | response
    · cases hok
    · exact cancelPaymentEndpoint_fits hx hwrote
  | webhook request =>
    obtain ⟨x, hx, hok⟩ := Prog.path_map.1 hpath
    rcases x with e | ack
    · cases hok
    · exact fun verified hverified => receiveWebhook_fits hx hwrote hverified

/-! ## Runs -/

/-- A unit of work leaves the rows that its request has staged, or those from before. -/
lemma inRange_step {app : App} {t : Tables} {c : ApiWriteInput} (ht : InRange t)
    (h : Fitting app t c) : InRange (c.step app t) := by
  have hstaged : InRange ((c.call.prog app c.env).run c.reaction.handler t ()).store :=
    inRange_staged ht h
  show InRange ((c.call.prog app c.env).atomically c.reaction.handler t () app.accepts
    .integrityError).store
  rw [Prog.atomically]
  split
  · split
    · exact hstaged
    · exact ht
  · exact ht

/-- **What is staged in a run fits the columns, if what comes from outside does.**  For requests
that return, only if. -/
theorem lengths_iff (app : App) {t : Tables} (ht : InRange t) (requests : List ApiWriteInput) :
    (Obeys (ApiWriteInput.step app) (Fitting app) t requests →
      Obeys (ApiWriteInput.step app) (StagesFitting app) t requests) ∧
    (Obeys (ApiWriteInput.step app) (Answers app) t requests →
      Obeys (ApiWriteInput.step app) (StagesFitting app) t requests →
      Obeys (ApiWriteInput.step app) (Fitting app) t requests) := by
  constructor
  · intro h
    exact obeys_of_obeys (fun t c ht hc => inRange_step ht hc)
      (fun t c ht hc => (inRange_staged ht hc).toFits) ht h
  · intro hanswers hfits
    exact obeys_of_obeys
      (fun t c ht hc => inRange_step ht (fitting_of_answers hc.1 hc.2))
      (fun t c _ hc => fitting_of_answers hc.1 hc.2) ht (hanswers.and hfits)

/-! ## A long key -/

/-- A database that enforces the lengths too. -/
def strictApp : App := { demoApp with accepts := fun t => decide (t.Unique ∧ t.Fits) }

/-- A payment of ten dollars with the given key, at the mock provider. -/
def keyedPost (key : String) : ApiWriteInput where
  env := demoEnv 1
  call := .post demoUser (some key) (.payment (demoPayload .mock))
  reaction := mockReaction "mock_pay_1"

lemma keyedPost_fitting {key : String} (h : key.length ≤ 255) :
    Fitting strictApp .empty (keyedPost key) := by
  have hcor : CorrelationFits (demoEnv 1) := by decide
  refine .inr ⟨hcor, fun _ => h, ?_⟩
  intro adapter charge _ hcharge _
  cases hcharge
  have hreference : "mock_pay_1".length ≤ 255 := by decide
  have hamount : FitsBigInteger 1000 := by decide
  exact ⟨hreference, fun _ => hamount, fun hcap => absurd rfl hcap⟩

/-- A payment with a short key. -/
theorem lengths_demo :
    Obeys (ApiWriteInput.step strictApp) (StagesFitting strictApp) .empty [keyedPost "k"] :=
  (lengths_iff strictApp inRange_empty [keyedPost "k"]).1
    ⟨keyedPost_fitting (by decide), trivial⟩

/-- The provider has made the payment before the database refuses the key. -/
theorem lengths_longKey :
    let request := keyedPost (String.ofList (List.replicate 256 'k'))
    ¬ StagesFitting strictApp .empty request ∧
    (request.process strictApp .empty).calls.map (fun call => call.answer.isOk) = [true] ∧
    (request.process strictApp .empty).answer = .error .integrityError := by
  intro request
  have hprocess : ((request.process strictApp .empty).calls.map (fun call => call.answer.isOk),
      (request.process strictApp .empty).answer) = ([true], .error .integrityError) := by
    decide +kernel
  obtain ⟨hcalls, hanswer⟩ := Prod.mk.inj hprocess
  refine ⟨?_, hcalls, hanswer⟩
  rw [StagesFitting]
  decide +kernel

end PaymentGateway
