/-
# The endpoints

`POST /payments` and `POST /payments/{id}/refunds` (`app/api/v1/payments.py`,
`app/api/v1/refunds.py`) with what FastAPI resolves before them: the user of the request and
the scope that the endpoint requires (`app/api/deps.py`).  All of it happens in the one
session of the request.
-/
import PaymentGateway.Providers.Effects
import PaymentGateway.Services.Auth
import PaymentGateway.Services.Calls
import PaymentGateway.Services.Idempotency

namespace PaymentGateway

open Transact

/-- The headers of a request that are looked at: the two credentials and the key of idempotency.
-/
structure Headers where
  apiKey : Option String
  authorization : Option String
  idempotencyKey : Option String

/-! ## Who sends the request -/

/-- `authorization.partition(" ")`, without the separator. -/
def partitionSpace (s : String) : String × String :=
  (String.ofList (s.toList.takeWhile (· ≠ ' ')),
    String.ofList ((s.toList.dropWhile (· ≠ ' ')).drop 1))

section Dependencies

variable (app : App) (env : Ambient)

/-- `_user_from_access_token`: the user that the subject of the token names, who must exist and
be active.  A subject that is no UUID raises what the parser raises. -/
def userFromAccessToken (token : String) : ServiceProg User := do
  let subject ← Prog.ofExcept (app.decode token "access")
  let id ← Prog.ofExcept (app.parseUuid subject)
  let found ← Prog.ask fun t => t.getUser id
  let user ← Prog.orRaise found (.authenticationError "user not found or inactive")
  Prog.raiseIf (user.isActive = false) (.authenticationError "user not found or inactive")
  return user

/-- `get_current_user`: an API key is looked at first, and a bearer token only where no key was
sent.  The scheme is compared in lower case. -/
def getCurrentUser (headers : Headers) : ServiceProg User :=
  if given headers.apiKey then authenticateApiKey app env (headers.apiKey.getD "")
  else
    let (scheme, token) := partitionSpace (headers.authorization.getD "")
    if app.lower scheme = "bearer" ∧ token ≠ "" then userFromAccessToken app token
    else .raise (.authenticationError "missing authentication credentials")

/-- `require_scope(scope)`: the user is found out first, and then the scopes of the role are
looked at. -/
def requireScope (scope : String) (headers : Headers) : ServiceProg User := do
  let user ← getCurrentUser app env headers
  Prog.raiseIf (hasScope (scopesForRole user.role) scope = false)
    (.permissionDeniedError "insufficient scope" [("required_scope", .str scope)])
  return user

end Dependencies

/-! ## Responses -/

/-- `payment_to_response`: the schema takes a string or `None` as the reason of a failure. -/
def paymentToResponse (p : Payment) : Except Exn PaymentResponse := do
  let amount ← moneyOut p.amount p.currency
  let amountCaptured ← moneyOut p.amountCaptured p.currency
  let amountRefunded ← moneyOut p.amountRefunded p.currency
  let response : PaymentResponse := {
    id := p.id
    provider := p.provider
    providerReference := p.providerReference
    status := p.status
    captureMethod := p.captureMethod
    methodType := p.methodType
    amount := amount
    amountCaptured := amountCaptured
    amountRefunded := amountRefunded
    description := p.description
    customerReference := p.customerReference
    failureReason := p.failureReason
    metadata := p.paymentMetadata
    createdAt := p.createdAt
    updatedAt := p.updatedAt }
  match p.failureReason with
  | .null | .str _ => .ok response
  | _ => .error (.python .valueError)

/-- `refund_to_response`: the amount is shown in the refund's currency, which may fail for a
large one. -/
def refundToResponse (r : Refund) : Except Exn RefundResponse := do
  let amount ← moneyOut r.amount r.currency
  .ok {
    id := r.id
    paymentId := r.paymentId
    amount := amount
    status := r.status
    reason := r.reason
    providerReference := r.providerReference
    createdAt := r.createdAt }

lemma paymentToResponse_id {p : Payment} {response : PaymentResponse}
    (h : paymentToResponse p = .ok response) : response.id = p.id := by
  simp only [paymentToResponse, bind, Except.bind] at h
  split at h
  · cases h
  split at h
  · cases h
  split at h
  · cases h
  split at h
  · cases h
    rfl
  · cases h
    rfl
  · cases h

lemma refundToResponse_paymentId {r : Refund} {response : RefundResponse}
    (h : refundToResponse r = .ok response) : response.paymentId = r.paymentId := by
  simp only [refundToResponse, bind, Except.bind] at h
  split at h
  · cases h
  · cases h
    rfl

/-! ## The endpoints -/

/-- The arguments that the endpoint passes to the service.  The key of idempotency is passed on
as well, for the provider. -/
def CreatePaymentRequest.args (payload : CreatePaymentRequest) (idempotencyKey : Option String) :
    CreatePaymentArgs where
  provider := payload.provider
  amount := ⟨payload.amountMinor.1, payload.currency⟩
  captureMethod := payload.captureMethod
  methodType := payload.methodType
  paymentMethodToken := payload.paymentMethodToken.map Subtype.val
  description := payload.description.map Subtype.val
  customerReference := payload.customerReference.map Subtype.val
  metadata := some payload.metadata
  idempotencyKey := idempotencyKey

/-- The parsed body of a refund request: the path's payment and the payload. -/
def refundFields (paymentId : Uuid) (payload : CreateRefundRequest) : List (String × Json) :=
  ("payment_id", .str paymentId.str) :: payload.fields

/-- `{"payment_id": str(payment_id), **payload.model_dump(mode="json")}` -/
def refundBody (paymentId : Uuid) (payload : CreateRefundRequest) : List (String × Json) :=
  ("payment_id", .str paymentId.str) :: payload.modelDump

section Endpoints

variable (app : App) (env : Ambient) (user : User) (idempotencyKey : Option String)

/-- The operation that `create_payment` runs under the key: the service's method, and the
response built from the row that it returns. -/
def paymentOperation (payload : CreatePaymentRequest) : ServiceProg ResponseBody := do
  let payment ← createPayment app env user (payload.args idempotencyKey)
  return .payment (← Prog.ofExcept (paymentToResponse payment))

/-- The operation that `create_refund` runs under the key: the service's method, and the response
built from the row that it returns. -/
def refundOperation (paymentId : Uuid) (payload : CreateRefundRequest) :
    ServiceProg ResponseBody := do
  let refund ← createRefund app env user paymentId (payload.amountMinor.map Subtype.val)
    (payload.reason.map Subtype.val)
  return .refund (← Prog.ofExcept (refundToResponse refund))

/-- `POST /payments`: under a key, a stored response is sent again or the operation is run and
stored; without a key it is just run. -/
def createPaymentEndpoint (payload : CreatePaymentRequest) : ServiceProg StoredResponse :=
  idempotently app env user.id "create_payment" idempotencyKey payload.modelDump
    (paymentOperation app env user idempotencyKey payload)

/-- `POST /payments/{id}/refunds`: as for payments, and the payment of the path is part of what
is hashed. -/
def createRefundEndpoint (paymentId : Uuid) (payload : CreateRefundRequest) :
    ServiceProg StoredResponse :=
  idempotently app env user.id "create_refund" idempotencyKey (refundBody paymentId payload)
    (refundOperation app env user paymentId payload)

/-- `POST /payments/{id}/capture`: the payment is read first for its currency, and there is no
key of idempotency. -/
def capturePaymentEndpoint (paymentId : Uuid) (payload : CapturePaymentRequest) :
    ServiceProg PaymentResponse := do
  let payment ← getPayment user paymentId
  let amount : Option Money := payload.amountMinor.map fun n => ⟨n.1, payment.currency⟩
  let updated ← capturePayment app env user paymentId amount
  Prog.ofExcept (paymentToResponse updated)

/-- `POST /payments/{id}/cancel`: there is no body and no key of idempotency. -/
def cancelPaymentEndpoint (paymentId : Uuid) : ServiceProg PaymentResponse := do
  let updated ← cancelPayment app env user paymentId
  Prog.ofExcept (paymentToResponse updated)

end Endpoints

/-- A validated request to one of the two endpoints that look at the `Idempotency-Key`. -/
inductive Post where
  | payment (payload : CreatePaymentRequest)
  | refund (paymentId : Uuid) (payload : CreateRefundRequest)

/-- The key of idempotency that a gateway call is sent to the provider with, if with any. -/
def GatewayOp.sentKey : {β : Type} → GatewayOp β → Option String
  | _, .execute provider _ op => op.sentKey provider

namespace Post

/-- The `endpoint` that the record of the request is kept under. -/
def endpoint : Post → String
  | .payment _ => "create_payment"
  | .refund _ _ => "create_refund"

/-- The scope that the route of the request asks for. -/
def scope : Post → String
  | .payment _ => scopePaymentsWrite
  | .refund _ _ => scopeRefundsWrite

/-- The parsed body of the request, and for a refund the payment that its path names. -/
def parsed : Post → List (String × Json)
  | .payment payload => payload.fields
  | .refund paymentId payload => refundFields paymentId payload

/-- What is hashed of the request: the body as `model_dump` gives it, with the payment of the
path for a refund. -/
def body : Post → List (String × Json)
  | .payment payload => payload.modelDump
  | .refund paymentId payload => refundBody paymentId payload

/-- The operation that is run for the request where no record of it is found. -/
def operation (app : App) (env : Ambient) (user : User) (idempotencyKey : Option String) :
    Post → ServiceProg ResponseBody
  | .payment payload => paymentOperation app env user idempotencyKey payload
  | .refund paymentId payload => refundOperation app env user paymentId payload

/-- The endpoint of the request, after its dependencies were resolved. -/
def handler (app : App) (env : Ambient) (user : User) (idempotencyKey : Option String) :
    Post → ServiceProg StoredResponse
  | .payment payload => createPaymentEndpoint app env user idempotencyKey payload
  | .refund paymentId payload => createRefundEndpoint app env user idempotencyKey paymentId payload

/-- The key that the operation is sent to the provider with: only Stripe's charge has one, and
only where the client gave it. -/
def sentKey (idempotencyKey : Option String) : Post → Option String
  | .payment payload =>
      if payload.provider = .stripe ∧ given idempotencyKey = true then idempotencyKey else none
  | .refund _ _ => none

lemma body_eq (post : Post) : post.body = Json.modelDumpFields post.parsed := by
  cases post <;> rfl

lemma handler_eq (app : App) (env : Ambient) (user : User) (idempotencyKey : Option String)
    (post : Post) : post.handler app env user idempotencyKey =
      idempotently app env user.id post.endpoint idempotencyKey post.body
        (post.operation app env user idempotencyKey) := by
  cases post <;> rfl

end Post

/-- A payment of ten dollars by card, captured at once, with nothing optional. -/
def demoPayload (provider : ProviderName) : CreatePaymentRequest where
  currency := .usd
  provider := provider
  amountMinor := ⟨1000, by decide⟩
  captureMethod := .automatic
  methodType := .card
  paymentMethodToken := none
  description := none
  customerReference := none
  metadata := []

/-! ## What the parts of a request do -/

section Paths

variable {app : App} {env : Ambient} {gs : List (Tables → Tables)}
  {H : History Tables GatewayOp Exn}

/-- The change by which an API key was used, if one was: the key that was presented is
stamped. -/
inductive Stamps (app : App) (env : Ambient) (headers : Headers) (gs : List (Tables → Tables))
    (H : History Tables GatewayOp Exn) : Prop where
  | nothing (writes : H.writes = [])
  | used {d key} (given : given headers.apiKey = true) (read : d ∈ H.reads)
      (found : (view gs d).getByHash (app.sha256 (headers.apiKey.getD "")) = .ok (some key))
      (writes : H.writes = [fun t => t.saveApiKey env.now key (withUse env key)])

lemma authenticateApiKey_path {headers : Headers} (hgiven : given headers.apiKey = true)
    {r : Except Exn User}
    (h : (authenticateApiKey app env (headers.apiKey.getD "")).Path gs H r) :
    H.calls = [] ∧ Stamps app env headers gs H := by
  cases authenticateApiKey_uses h with
  | refused calls writes => exact ⟨calls, .nothing writes⟩
  | done found => exact ⟨rfl, .used hgiven (by simp) found rfl⟩

lemma userFromAccessToken_path {token : String} {r : Except Exn User}
    (h : (userFromAccessToken app token).Path gs H r) : H.calls = [] ∧ H.writes = [] := by
  simp only [userFromAccessToken, Prog.path_ask_bind, Prog.path_ofExcept_bind,
    Prog.path_orRaise_bind, Prog.path_raiseIf_bind, Prog.pure_def, Prog.path_ret] at h
  obtain ⟨e, -, rfl, -⟩ | ⟨subject, -, ⟨e, -, rfl, -⟩ | ⟨id, -, d, K, rfl, h⟩⟩ := h
  · exact ⟨rfl, rfl⟩
  · exact ⟨rfl, rfl⟩
  obtain ⟨-, rfl, -⟩ | ⟨user, -, ⟨-, rfl, -⟩ | ⟨-, rfl, -⟩⟩ := h
  all_goals exact ⟨rfl, rfl⟩

lemma getCurrentUser_path {headers : Headers} {r : Except Exn User}
    (h : (getCurrentUser app env headers).Path gs H r) :
    H.calls = [] ∧ Stamps app env headers gs H := by
  rw [getCurrentUser] at h
  split at h
  · rename_i hgiven
    exact authenticateApiKey_path hgiven h
  · dsimp only at h
    split at h
    · have hquiet := userFromAccessToken_path h
      exact ⟨hquiet.1, .nothing hquiet.2⟩
    · obtain ⟨rfl, -⟩ := h
      exact ⟨rfl, .nothing rfl⟩

/-- Who sends the request is found without the provider, and nothing but the key that was
presented is changed. -/
lemma requireScope_path {scope : String} {headers : Headers} {r : Except Exn User}
    (h : (requireScope app env scope headers).Path gs H r) :
    H.calls = [] ∧ Stamps app env headers gs H := by
  rw [requireScope, Prog.path_bind] at h
  rcases h with ⟨e, h, -⟩ | ⟨user, K, L, rfl, h, hL⟩
  · exact getCurrentUser_path h
  · have hnil : L = .nil := by
      rw [Prog.path_raiseIf_bind] at hL
      rcases hL with ⟨-, rfl, -⟩ | ⟨-, rfl, -⟩ <;> rfl
    rw [hnil, History.append_nil]
    exact getCurrentUser_path h

/-- An operation that returns has called the provider, and leaves the idempotency keys
alone. -/
lemma operation_path {user : User} {key : Option String} {post : Post} {b : ResponseBody}
    (h : (post.operation app env user key).Path gs H (.ok b)) :
    H.calls ≠ [] ∧ ∀ t, (view H.writes t).idempotencyKeys = t.idempotencyKeys := by
  rcases post with payload | ⟨paymentId, payload⟩
  · obtain ⟨x, hx, hok⟩ := Prog.path_convert.1 h
    cases createPayment_path hx with
    | done => exact ⟨by simp, fun t => rfl⟩
    | _ => cases hok
  · obtain ⟨x, hx, hok⟩ := Prog.path_convert.1 h
    cases createRefund_path hx with
    | done => exact ⟨by simp, fun t => rfl⟩
    | _ => cases hok

/-- At most one call, with the key `key`. -/
def CallsWith (key : Option String) (calls : List (Call GatewayOp Exn)) : Prop :=
  calls.length ≤ 1 ∧ ∀ c ∈ calls, c.op.sentKey = key

lemma callsWith_nil (key : Option String) : CallsWith key [] := ⟨by simp, by simp⟩

lemma callsWith_singleton {key : Option String} {c : Call GatewayOp Exn}
    (hc : c.op.sentKey = key) : CallsWith key [c] := by
  refine ⟨by simp, ?_⟩
  intro d hd
  rw [List.mem_singleton.1 hd, hc]

/-- An operation calls the provider at most once, with its key. -/
lemma operation_calls {user : User} {key : Option String} {post : Post}
    {r : Except Exn ResponseBody} (h : (post.operation app env user key).Path gs H r) :
    CallsWith (post.sentKey key) H.calls := by
  rcases post with payload | ⟨paymentId, payload⟩
  · obtain ⟨x, hx, -⟩ := Prog.path_convert.1 h
    cases createPayment_path hx with
    | refused calls => exact calls ▸ callsWith_nil _
    | unanswered calls => exact calls ▸ callsWith_singleton rfl
    | illegal amount read resolved calls => exact calls ▸ callsWith_singleton rfl
    | done => exact callsWith_singleton rfl
  · obtain ⟨x, hx, -⟩ := Prog.path_convert.1 h
    cases createRefund_path hx with
    | refused calls => exact calls ▸ callsWith_nil _
    | unanswered calls => exact calls ▸ callsWith_singleton rfl
    | rejected calls => exact calls ▸ callsWith_singleton rfl
    | done => exact callsWith_singleton rfl

end Paths

end PaymentGateway
