/-
# The mock provider

`app/providers/mock.py`: deterministic, offline, with magic inputs that force a failure.
-/
import PaymentGateway.Providers.Base

namespace PaymentGateway

open Transact

namespace MockProvider

/-- `_should_fail`: the token or the metadata of the request ask for a failure. -/
def shouldFail (request : ChargeRequest) : Bool :=
  request.paymentMethodToken = some "pm_fail" ||
    ((Json.lookup request.metadata "force_failure").getD .null).truthy

/-- `create_payment`: the charge fails, is only authorized or is captured at once, as the request
asks for. -/
def createPayment (request : ChargeRequest) : AdapterProg ProviderCharge := do
  let reference ← Prog.perform (.newReference "mock_pay")
  if shouldFail request then
    return ⟨reference, .failed, 0, .obj [("simulated", .bool true)], .str "card_declined"⟩
  if request.captureMethod = .manual then
    return ⟨reference, .authorized, 0,
      .obj [("simulated", .bool true), ("captured", .bool false)], .null⟩
  return ⟨reference, .captured, request.amount.minorUnits,
    .obj [("simulated", .bool true), ("captured", .bool true)], .null⟩

/-- `capture`, which always succeeds. -/
def capture (reference : String) (amount : Money) : AdapterProg ProviderCharge :=
  return ⟨reference, .captured, amount.minorUnits, .obj [("simulated", .bool true)], .null⟩

/-- `cancel`, which always succeeds. -/
def cancel (reference : String) : AdapterProg ProviderCharge :=
  return ⟨reference, .canceled, 0, .obj [("simulated", .bool true)], .null⟩

/-- `refund`, which always succeeds under a new reference. -/
def refund (reference : String) (amount : Money) (reason : Option String) :
    AdapterProg ProviderRefund := do
  let new ← Prog.perform (.newReference "mock_ref")
  return ⟨new, "succeeded", amount.minorUnits,
    .obj [("simulated", .bool true), ("payment", .str reference),
      ("reason", reason.elim .null .str)]⟩

/-- The operation of the interface, as the mock provider implements it. -/
def program : {β : Type} → ProviderOp β → AdapterProg β
  | _, .createPayment request => createPayment request
  | _, .capture reference amount => capture reference amount
  | _, .cancel reference => cancel reference
  | _, .refund reference amount reason => refund reference amount reason

/-- The answer of the mock provider, when the reference it makes up is `reference`. -/
def answer {β : Type} (op : ProviderOp β) (reference : String) : Except Exn β :=
  ((program op).run (fun _ op w =>
    match op with
    | .newReference _ => (.ok reference, w)
    | .post _ => (.error (.httpx .other), w)) () ()).answer

end MockProvider

end PaymentGateway
