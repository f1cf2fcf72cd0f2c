/-
# The provider interface

`app/providers/base.py`: what a service asks of an adapter and what it gets back.  An
operation of the interface is a value, `ProviderOp`, indexed by the type of its result; an
adapter is a program over the operations that leave the process.
-/
import PaymentGateway.Lib.Prog
import PaymentGateway.Schemas

namespace PaymentGateway

/-- `ChargeRequest`: what a provider is asked to charge, and how. -/
structure ChargeRequest where
  amount : Money
  captureMethod : CaptureMethod
  methodType : PaymentMethodType
  paymentMethodToken : Option String
  description : Option String
  customerReference : Option String
  idempotencyKey : Option String
  metadata : List (String × Json)
deriving DecidableEq, Repr

/-- `ProviderCharge`: the normalised result of a create, capture or cancel operation. -/
structure ProviderCharge where
  reference : String
  status : PaymentStatus
  amountCaptured : ℤ
  raw : Json
  failureReason : Json
deriving DecidableEq, Repr

/-- `ProviderRefund`: the refund as the provider reports it, with its own status and amount. -/
structure ProviderRefund where
  reference : String
  status : String
  amount : ℤ
  raw : Json
deriving DecidableEq, Repr

/-- An `httpx.AsyncClient`; without a base URL, a relative path addresses nothing. -/
structure HttpClient where
  baseUrl : Option String
deriving DecidableEq, Repr

/-- Everything an adapter needs to talk to its backend for one operation. -/
structure ProviderContext where
  secret : String
  sandbox : Bool
  config : List (String × Json)
  http : Option HttpClient
deriving DecidableEq, Repr

/-- An adapter bound to its context (`build_provider`: both names are registered). -/
structure Adapter where
  name : ProviderName
  context : ProviderContext
deriving DecidableEq, Repr

/-- The operations that every adapter implements, with the type of their results. -/
inductive ProviderOp : Type → Type where
  | createPayment (request : ChargeRequest) : ProviderOp ProviderCharge
  | capture (reference : String) (amount : Money) : ProviderOp ProviderCharge
  | cancel (reference : String) : ProviderOp ProviderCharge
  | refund (reference : String) (amount : Money) (reason : Option String) :
      ProviderOp ProviderRefund

/-- The truth value of an optional string in Python: it is present, and not empty. -/
def given (s : Option String) : Bool := s.any (· ≠ "")

/-! ## What an adapter does outside the process -/

/-- A form-encoded POST of an adapter, with the client that it is sent by. -/
structure HttpRequest where
  client : HttpClient
  path : String
  data : List (String × Json)
  headers : List (String × String)
deriving DecidableEq, Repr

/-- A response: its status and the value of its JSON body, if it has one. -/
structure HttpResponse where
  statusCode : ℕ
  json : Option Json
deriving DecidableEq, Repr

/-- What an adapter asks of its surroundings: a request to the provider, and a random reference.
-/
inductive AdapterOp : Type → Type where
  | post (request : HttpRequest) : AdapterOp HttpResponse
  /-- `f"{prefix}_{uuid.uuid4().hex[:24]}"` -/
  | newReference (kind : String) : AdapterOp String

/-- An adapter's program, which keeps no state of its own between operations. -/
abbrev AdapterProg (α : Type) := Transact.Prog Unit AdapterOp Exn α

end PaymentGateway
