/-
# Rows

`app/db/models`: one structure per table, one field per column.  A column that is `NULL` is
`none`; `failure_reason` is JSON because the Stripe adapter passes on what the provider
sent, and `NULL` there is `Json.null`.
-/
import PaymentGateway.Schemas

namespace PaymentGateway

/-- `User`: the account that owns everything else.  The password is kept as a hash, and the
failed logins are counted for the lockout. -/
structure User where
  id : Uuid
  email : String
  hashedPassword : String
  fullName : Option String
  role : UserRole
  isActive : Bool
  failedLoginAttempts : ℤ
  createdAt : Timestamp
  updatedAt : Timestamp
deriving DecidableEq, Repr

/-- `ApiKey`: a credential of a user for a machine.  Only a hash of the key is stored, which it
is looked up by, and a prefix that is shown. -/
structure ApiKey where
  id : Uuid
  userId : Uuid
  name : String
  hashedKey : String
  displayPrefix : String
  isActive : Bool
  lastUsedAt : Option Timestamp
  revokedAt : Option Timestamp
  createdAt : Timestamp
  updatedAt : Timestamp
deriving DecidableEq, Repr

/-- `ProviderConfig`: how an owner is connected to a provider.  The credentials are stored
encrypted, and `config` holds the settings that are no secret. -/
structure ProviderConfig where
  id : Uuid
  ownerId : Uuid
  provider : ProviderName
  encryptedSecret : String
  config : List (String × Json)
  isActive : Bool
  sandbox : Bool
  createdAt : Timestamp
  updatedAt : Timestamp
deriving DecidableEq, Repr

/-- `Payment`: an amount in minor units that an owner charges through a provider, how much of it
was captured and refunded, and where it stands in its lifecycle. -/
structure Payment where
  id : Uuid
  ownerId : Uuid
  provider : ProviderName
  providerReference : Option String
  amount : ℤ
  currency : Currency
  amountCaptured : ℤ
  amountRefunded : ℤ
  status : PaymentStatus
  captureMethod : CaptureMethod
  methodType : PaymentMethodType
  description : Option String
  customerReference : Option String
  failureReason : Json
  paymentMetadata : List (String × Json)
  createdAt : Timestamp
  updatedAt : Timestamp
deriving DecidableEq, Repr

/-- `Payment.amount_refundable`: the minor units that are still eligible for a refund, and never
less than none. -/
def Payment.amountRefundable (p : Payment) : ℤ := max 0 (p.amountCaptured - p.amountRefunded)

/-- `Refund`: one (possibly partial) refund of a payment, with the id that the provider gave it.
-/
structure Refund where
  id : Uuid
  paymentId : Uuid
  amount : ℤ
  currency : Currency
  status : RefundStatus
  reason : Option String
  providerReference : Option String
  createdAt : Timestamp
  updatedAt : Timestamp
deriving DecidableEq, Repr

/-- `IdempotencyKey`: the response that was stored for a key of an owner at an endpoint, and the
hash of the request that it answered. -/
structure IdempotencyKey where
  id : Uuid
  ownerId : Uuid
  endpoint : String
  key : String
  requestHash : String
  responseStatus : ℕ
  responseBody : ResponseBody
  createdAt : Timestamp
  updatedAt : Timestamp
deriving DecidableEq, Repr

/-- `WebhookEvent`: an inbound event of a provider, under the id that the provider gave it.  Its
raw payload is stored with it. -/
structure WebhookEvent where
  id : Uuid
  provider : ProviderName
  eventId : String
  eventType : String
  status : WebhookStatus
  payload : Json
  attempts : ℤ
  lastError : Option String
  createdAt : Timestamp
  updatedAt : Timestamp
deriving DecidableEq, Repr

/-- `AuditLog`: who did what to which resource, in which request.  Rows are only ever added. -/
structure AuditLog where
  id : Uuid
  actorId : Option Uuid
  action : AuditAction
  resourceType : Option String
  resourceId : Option String
  correlationId : Option String
  context : List (String × Json)
  createdAt : Timestamp
  updatedAt : Timestamp
deriving DecidableEq, Repr

end PaymentGateway
