/-
# The Stripe adapter

`app/providers/stripe.py`: every operation is one POST, whose JSON answer is mapped to the
unified result.  What the mapping does with a payload that is not what Stripe documents
(no object, no `id`, a number where a string is expected) is what Python does with it.

`repr` is Python's `repr` on values that are not strings; nothing is assumed of it.
-/
import PaymentGateway.Core.Numerals
import PaymentGateway.Providers.Base

namespace PaymentGateway

open Transact

namespace Json

/-- The items of a dict, as `.get` needs one; another value has no `get`, and raises an
`AttributeError`. -/
def asDict : Json → Except Exn (List (String × Json))
  | .obj fs => .ok fs
  | _ => .error (.python .attributeError)

/-- `d[key]` -/
def item (key : String) : Json → Except Exn Json
  | .obj fs =>
      match lookup fs key with
      | some v => .ok v
      | none => .error (.python .keyError)
  | _ => .error (.python .typeError)

/-- `str(v)`; of a value that is no string the text is what `repr` gives. -/
def toStr (repr : Json → String) : Json → String
  | .str s => s
  | v => repr v

/-- `int(v)`: a float is truncated towards zero, a text is read, and `None` or a container
raises. -/
def toInt : Json → Except Exn ℤ
  | .int n => .ok n
  | .bool b => .ok (if b then 1 else 0)
  | .float (.finite x) => .ok (x.num.tdiv x.den)
  | .float .negZero => .ok 0
  | .float (.infinite _) => .error (.python .overflowError)
  | .float .nan => .error (.python .valueError)
  | .str s =>
      match intOfText s with
      | some n => .ok n
      | none => .error (.python .valueError)
  | _ => .error (.python .typeError)

end Json

namespace StripeProvider

/-- `_LIVE_BASE_URL`, where the configuration names no other. -/
def liveBaseUrl : String := "https://api.stripe.com"

/-- `_STATUS_MAP`: from the status of a PaymentIntent to our unified status. -/
def statusMap : String → Option PaymentStatus
  | "succeeded" => some .captured
  | "requires_capture" => some .authorized
  | "canceled" => some .canceled
  | "processing" => some .requiresConfirmation
  | "requires_confirmation" => some .requiresConfirmation
  | "requires_action" => some .requiresConfirmation
  | "requires_payment_method" => some .failed
  | _ => none

/-- The client of the context, or a new one for the configured base URL. -/
def client (context : ProviderContext) : Except Exn HttpClient :=
  match context.http with
  | some http => .ok http
  | none =>
      match (Json.lookup context.config "base_url").getD (.str liveBaseUrl) with
      | .str baseUrl => .ok ⟨some baseUrl⟩
      | _ => .error (.python .typeError)

/-- `_headers`: the credentials and the type of the body, and the `Idempotency-Key` where one was
given. -/
def headers (context : ProviderContext) (idempotencyKey : Option String) :
    List (String × String) :=
  [("Authorization", "Bearer " ++ context.secret),
   ("Content-Type", "application/x-www-form-urlencoded")] ++
  (if given idempotencyKey then [("Idempotency-Key", idempotencyKey.getD "")] else [])

/-- The payload of a response, or the error that it reports: a status of 400 or more raises a
`ProviderError`. -/
def payloadOf (response : HttpResponse) : Except Exn Json := do
  let payload ← match response.json with
    | some v => .ok v
    | none => .error (.python .valueError)
  if 400 ≤ response.statusCode then
    let err ← match payload with
      | .obj fs => Json.asDict ((Json.lookup fs "error").getD (.obj []))
      | _ => .ok []
    .error (.domain ⟨.providerError, (Json.lookup err "message").getD "Stripe request failed",
      [("provider", "stripe"), ("type", (Json.lookup err "type").getD .null),
       ("code", (Json.lookup err "code").getD .null)]⟩)
  .ok payload

/-- `_post`: the client is made first, which may fail on the configuration, then the request is
sent, and the answer is read. -/
def post (context : ProviderContext) (path : String) (data : List (String × Json))
    (idempotencyKey : Option String) : AdapterProg Json := do
  let http ← Prog.ofExcept (client context)
  let response ← Prog.perform (.post ⟨http, path, data, headers context idempotencyKey⟩)
  Prog.ofExcept (payloadOf response)

/-- The unified status of a status value; a list or a dict cannot be looked up. -/
def statusOf : Json → Except Exn PaymentStatus
  | .str s => .ok ((statusMap s).getD .failed)
  | .arr _ | .obj _ => .error (.python .typeError)
  | _ => .ok .failed

/-- `_to_charge`: the unified view of a PaymentIntent.  The id is read last, and what fails on
the way raises what Python raises. -/
def toCharge (repr : Json → String) (intent : Json) : Except Exn ProviderCharge := do
  let fields ← intent.asDict
  let status ← statusOf ((Json.lookup fields "status").getD (.str ""))
  let amountCaptured ←
    (((Json.lookup fields "amount_received").getD (.int 0)).orElse (.int 0)).toInt
  let failure ← match status with
    | .failed => do
        let lastErr ←
          (((Json.lookup fields "last_payment_error").getD .null).orElse (.obj [])).asDict
        .ok ((Json.lookup lastErr "message").getD "payment_failed")
    | _ => .ok .null
  let id ← intent.item "id"
  .ok ⟨id.toStr repr, status, amountCaptured, intent, failure⟩

variable (repr : Json → String) (context : ProviderContext)

/-- `create_payment`: a PaymentIntent that is confirmed at once.  Only this request carries the
`Idempotency-Key` of the client. -/
def createPayment (request : ChargeRequest) : AdapterProg ProviderCharge := do
  let data : List (String × Json) :=
    [("amount", .int request.amount.minorUnits),
     ("currency", .str request.amount.currency.code.toLower),
     ("capture_method", .str (if request.captureMethod = .manual then "manual" else "automatic")),
     ("confirm", .str "true")] ++
    (if given request.paymentMethodToken then
      [("payment_method", .str (request.paymentMethodToken.getD ""))] else []) ++
    (if given request.description then
      [("description", .str (request.description.getD ""))] else []) ++
    request.metadata.map fun f => ("metadata[" ++ f.1 ++ "]", f.2)
  let intent ← post context "/v1/payment_intents" data request.idempotencyKey
  Prog.ofExcept (toCharge repr intent)

/-- `capture`: sent without an `Idempotency-Key`. -/
def capture (reference : String) (amount : Money) : AdapterProg ProviderCharge := do
  let intent ← post context ("/v1/payment_intents/" ++ reference ++ "/capture")
    [("amount_to_capture", .int amount.minorUnits)] none
  Prog.ofExcept (toCharge repr intent)

/-- `cancel`: sent without an `Idempotency-Key`. -/
def cancel (reference : String) : AdapterProg ProviderCharge := do
  let intent ← post context ("/v1/payment_intents/" ++ reference ++ "/cancel") [] none
  Prog.ofExcept (toCharge repr intent)

/-- The unified view of a refund; an amount that the answer does not name is the one that was
asked for. -/
def toRefund (amount : Money) (refund : Json) : Except Exn ProviderRefund := do
  let id ← refund.item "id"
  let fields ← refund.asDict
  let status := (Json.lookup fields "status").getD "pending"
  let refunded ← ((Json.lookup fields "amount").getD (.int amount.minorUnits)).toInt
  .ok ⟨id.toStr repr, status.toStr repr, refunded, refund⟩

/-- `refund`: sent without an `Idempotency-Key`. -/
def refund (reference : String) (amount : Money) (reason : Option String) :
    AdapterProg ProviderRefund := do
  let data : List (String × Json) :=
    [("payment_intent", .str reference), ("amount", .int amount.minorUnits)] ++
    (if given reason then [("metadata[reason]", .str (reason.getD ""))] else [])
  let answer ← post context "/v1/refunds" data none
  Prog.ofExcept (toRefund repr amount answer)

/-- The operation of the interface, as the Stripe adapter implements it. -/
def program : {β : Type} → ProviderOp β → AdapterProg β
  | _, .createPayment request => createPayment repr context request
  | _, .capture reference amount => capture repr context reference amount
  | _, .cancel reference => cancel repr context reference
  | _, .refund reference amount reason => refund repr context reference amount reason

/-- The answer of the adapter, when its POST is answered with `response`. -/
def answer {β : Type} (op : ProviderOp β) (response : HttpResponse) : Except Exn β :=
  ((program repr context op).run (fun _ op w =>
    match op with
    | .post _ => (.ok response, w)
    | .newReference kind => (.ok kind, w)) () ()).answer

end StripeProvider

end PaymentGateway
