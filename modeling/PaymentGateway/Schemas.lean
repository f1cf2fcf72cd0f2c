/-
# Request and response schemas

`app/schemas/payment.py` and `MoneyOut` of `app/schemas/common.py`.  A request that fails
validation never reaches a handler, so the bounds of the schema are part of the types.
`fields` are the values that a request was parsed to, and `modelDump` is what
`model_dump(mode="json")` makes of them, which the idempotency service hashes.
-/
import Mathlib.Algebra.Order.Ring.Int
import PaymentGateway.Core.Money
import PaymentGateway.Core.Uuid
import PaymentGateway.Domain.Enums

namespace PaymentGateway

/-- A point in time, in microseconds since the epoch. -/
abbrev Timestamp := ℤ

/-- `Field(gt=0, le=10**12)`: an amount that the schemas accept. -/
abbrev AmountMinor := { n : ℤ // 0 < n ∧ n ≤ 10 ^ 12 }

/-- `Field(max_length=n)`: a text that the schemas accept, whose length is counted in code
points. -/
abbrev Text (n : ℕ) := { s : String // s.length ≤ n }

namespace Json

/-- A string or `None`, as a value of the dump. -/
def ofText? {n : ℕ} : Option (Text n) → Json
  | some s => .str s.1
  | none => .null

/-- An amount or `None`, as a value of the dump. -/
def ofAmount? : Option AmountMinor → Json
  | some n => .int n.1
  | none => .null

end Json

/-! ## Requests -/

/-- `CreatePaymentRequest`: the body of `POST /payments`, validated and with its defaults filled
in. -/
structure CreatePaymentRequest where
  currency : Currency
  provider : ProviderName
  amountMinor : AmountMinor
  captureMethod : CaptureMethod
  methodType : PaymentMethodType
  paymentMethodToken : Option (Text 255)
  description : Option (Text 500)
  customerReference : Option (Text 255)
  metadata : List (String × Json)

/-- The parsed body, under the names of the schema and in its order. -/
def CreatePaymentRequest.fields (r : CreatePaymentRequest) : List (String × Json) :=
  [("currency", .str r.currency.code),
   ("provider", .str r.provider.value),
   ("amount_minor", .int r.amountMinor.1),
   ("capture_method", .str r.captureMethod.value),
   ("method_type", .str r.methodType.value),
   ("payment_method_token", .ofText? r.paymentMethodToken),
   ("description", .ofText? r.description),
   ("customer_reference", .ofText? r.customerReference),
   ("metadata", .obj r.metadata)]

/-- `payload.model_dump(mode="json")`: the parsed body, in which the floats that JSON cannot
write have become null. -/
def CreatePaymentRequest.modelDump (r : CreatePaymentRequest) : List (String × Json) :=
  Json.modelDumpFields r.fields

/-- The body of `POST /payments/{id}/capture`.  The amount defaults to the full authorized
amount. -/
structure CapturePaymentRequest where
  amountMinor : Option AmountMinor

/-- The body of `POST /payments/{id}/refunds`.  The amount defaults to the full refundable
balance. -/
structure CreateRefundRequest where
  amountMinor : Option AmountMinor
  reason : Option (Text 500)

/-- The parsed body, under the names of the schema and in its order. -/
def CreateRefundRequest.fields (r : CreateRefundRequest) : List (String × Json) :=
  [("amount_minor", .ofAmount? r.amountMinor), ("reason", .ofText? r.reason)]

/-- `payload.model_dump(mode="json")`; a refund has no field that the dump would change. -/
def CreateRefundRequest.modelDump (r : CreateRefundRequest) : List (String × Json) :=
  Json.modelDumpFields r.fields

/-! ## Responses -/

/-- Serialised money: minor units, currency and a human-readable decimal. -/
structure MoneyOut where
  minorUnits : ℤ
  currency : Currency
  display : String
deriving DecidableEq, Repr

/-- `money_out`: an amount whose currency is not supported is not shown. -/
def moneyOut (minorUnits : ℤ) (currency : Currency) : Except Exn MoneyOut :=
  (Money.format ⟨minorUnits, currency⟩).map fun display => ⟨minorUnits, currency, display⟩

/-- A payment as the API shows it, before it is serialised.  A reason that is no string fails
the schema when the response is built (`paymentToResponse`). -/
structure PaymentResponse where
  id : Uuid
  provider : ProviderName
  providerReference : Option String
  status : PaymentStatus
  captureMethod : CaptureMethod
  methodType : PaymentMethodType
  amount : MoneyOut
  amountCaptured : MoneyOut
  amountRefunded : MoneyOut
  description : Option String
  customerReference : Option String
  failureReason : Json
  metadata : List (String × Json)
  createdAt : Timestamp
  updatedAt : Timestamp
deriving DecidableEq, Repr

/-- `RefundResponse`: a refund as the API shows it, before it is serialised. -/
structure RefundResponse where
  id : Uuid
  paymentId : Uuid
  amount : MoneyOut
  status : RefundStatus
  reason : Option String
  providerReference : Option String
  createdAt : Timestamp
deriving DecidableEq, Repr

/-- The body of a response that is stored under an idempotency key, before it is serialised:
what is sent and what is stored are both its `model_dump(mode="json")`. -/
inductive ResponseBody where
  | payment (r : PaymentResponse)
  | refund (r : RefundResponse)
deriving DecidableEq, Repr

end PaymentGateway
