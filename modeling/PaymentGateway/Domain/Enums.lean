/-
# Enumerations and scopes

`app/domain/enums.py` and `app/domain/rbac.py`.
-/
import Mathlib.Data.List.Basic

namespace PaymentGateway

/-- `UserRole`: the coarse-grained roles, from which the scopes follow. -/
inductive UserRole where
  | admin | merchant | viewer
deriving DecidableEq, Repr

/-- `PaymentStatus`: the lifecycle states of a payment. -/
inductive PaymentStatus where
  | requiresConfirmation
  | authorized
  | captured
  | partiallyRefunded
  | refunded
  | canceled
  | failed
deriving DecidableEq, Repr

/-- The value of the member, as it is stored, logged and sent. -/
def PaymentStatus.value : PaymentStatus → String
  | requiresConfirmation => "requires_confirmation"
  | authorized => "authorized"
  | captured => "captured"
  | partiallyRefunded => "partially_refunded"
  | refunded => "refunded"
  | canceled => "canceled"
  | failed => "failed"

/-- `RefundStatus`: where a refund stands with the provider. -/
inductive RefundStatus where
  | pending | succeeded | failed
deriving DecidableEq, Repr

/-- Whether funds are captured immediately or authorized for later capture. -/
inductive CaptureMethod where
  | automatic | manual
deriving DecidableEq, Repr

/-- The value of the member, as a request names it. -/
def CaptureMethod.value : CaptureMethod → String
  | automatic => "automatic"
  | manual => "manual"

/-- `PaymentMethodType`: what a payment is made with.  The gateway only passes it on. -/
inductive PaymentMethodType where
  | card | applePay | googlePay | bankTransfer | sepa | ach | wire | wallet | crypto | qr | bnpl
deriving DecidableEq, Repr

/-- The value of the member, as a request names it. -/
def PaymentMethodType.value : PaymentMethodType → String
  | card => "card"
  | applePay => "apple_pay"
  | googlePay => "google_pay"
  | bankTransfer => "bank_transfer"
  | sepa => "sepa"
  | ach => "ach"
  | wire => "wire"
  | wallet => "wallet"
  | crypto => "crypto"
  | qr => "qr"
  | bnpl => "bnpl"

/-- `ProviderName`: the identifiers of the registered provider adapters. -/
inductive ProviderName where
  | mock | stripe
deriving DecidableEq, Repr

/-- The value of the member, which the paths of the webhooks name too. -/
def ProviderName.value : ProviderName → String
  | mock => "mock"
  | stripe => "stripe"

/-- `WebhookStatus`: how far the processing of an event has come. -/
inductive WebhookStatus where
  | received | processed | failed | deadLettered
deriving DecidableEq, Repr

/-- `AuditAction`: the actions that a row of the audit log can tell of. -/
inductive AuditAction where
  | userRegistered
  | userLogin
  | apiKeyCreated
  | apiKeyRevoked
  | paymentCreated
  | paymentAuthorized
  | paymentCaptured
  | paymentCanceled
  | paymentFailed
  | refundCreated
  | webhookReceived
deriving DecidableEq, Repr

/-! ## Scopes -/

/-- `SCOPE_PAYMENTS_READ` -/
def scopePaymentsRead : String := "payments:read"
/-- `SCOPE_PAYMENTS_WRITE` -/
def scopePaymentsWrite : String := "payments:write"
/-- `SCOPE_REFUNDS_WRITE` -/
def scopeRefundsWrite : String := "refunds:write"
/-- `SCOPE_PROVIDERS_MANAGE` -/
def scopeProvidersManage : String := "providers:manage"
/-- `SCOPE_ADMIN`, which stands for every scope. -/
def scopeAdmin : String := "admin:all"

/-- `scopes_for_role`: the scopes of a user are those of the role, and are not stored. -/
def scopesForRole : UserRole → List String
  | .admin => [scopeAdmin, scopePaymentsRead, scopePaymentsWrite, scopeRefundsWrite,
      scopeProvidersManage]
  | .merchant => [scopePaymentsRead, scopePaymentsWrite, scopeRefundsWrite, scopeProvidersManage]
  | .viewer => [scopePaymentsRead]

/-- `has_scope`: the scope was granted, or `admin:all` was, which is a wildcard. -/
def hasScope (granted : List String) (required : String) : Bool :=
  granted.contains scopeAdmin || granted.contains required

end PaymentGateway
