/-
# Errors

The application's own errors (`app/core/errors.py`), and the exceptions of the language and
of the libraries that pass through the modelled code.  Handlers and adapters of the model
end in `Except Exn`.
-/
import PaymentGateway.Core.Json

namespace PaymentGateway

/-- `ErrorCode`: the stable codes by which a client tells the errors apart. -/
inductive ErrorCode where
  | validationError
  | authenticationFailed
  | permissionDenied
  | notFound
  | conflict
  | idempotencyConflict
  | rateLimited
  | invalidState
  | providerError
  | providerUnavailable
  | circuitOpen
  | signatureInvalid
  | replayDetected
  | unsupportedCurrency
  | insufficientFunds
  | internalError
deriving DecidableEq, Repr

/-- The value of the member, which is the `code` that a client reads in the envelope of the
error. -/
def ErrorCode.value : ErrorCode → String
  | .validationError => "validation_error"
  | .authenticationFailed => "authentication_failed"
  | .permissionDenied => "permission_denied"
  | .notFound => "not_found"
  | .conflict => "conflict"
  | .idempotencyConflict => "idempotency_conflict"
  | .rateLimited => "rate_limited"
  | .invalidState => "invalid_state"
  | .providerError => "provider_error"
  | .providerUnavailable => "provider_unavailable"
  | .circuitOpen => "circuit_open"
  | .signatureInvalid => "signature_invalid"
  | .replayDetected => "replay_detected"
  | .unsupportedCurrency => "unsupported_currency"
  | .insufficientFunds => "insufficient_funds"
  | .internalError => "internal_error"

/-- The subclasses of `DomainError`, each with its own code and HTTP status. -/
inductive DomainErrorClass where
  | validationError
  | authenticationError
  | permissionDeniedError
  | notFoundError
  | conflictError
  | idempotencyConflictError
  | rateLimitedError
  | invalidStateError
  | unsupportedCurrencyError
  | providerError
  | providerUnavailableError
  | circuitOpenError
  | signatureInvalidError
  | replayDetectedError
deriving DecidableEq, Repr

namespace DomainErrorClass

/-- The `code` of the class, which its instances are sent with and which does not depend on the
message. -/
def code : DomainErrorClass → ErrorCode
  | validationError => .validationError
  | authenticationError => .authenticationFailed
  | permissionDeniedError => .permissionDenied
  | notFoundError => .notFound
  | conflictError => .conflict
  | idempotencyConflictError => .idempotencyConflict
  | rateLimitedError => .rateLimited
  | invalidStateError => .invalidState
  | unsupportedCurrencyError => .unsupportedCurrency
  | providerError => .providerError
  | providerUnavailableError => .providerUnavailable
  | circuitOpenError => .circuitOpen
  | signatureInvalidError => .signatureInvalid
  | replayDetectedError => .replayDetected

/-- The status of the response; a `CircuitOpenError` takes it from its base class. -/
def httpStatus : DomainErrorClass → ℕ
  | signatureInvalidError | replayDetectedError => 400
  | authenticationError => 401
  | permissionDeniedError => 403
  | notFoundError => 404
  | conflictError | idempotencyConflictError | invalidStateError => 409
  | validationError | unsupportedCurrencyError => 422
  | rateLimitedError => 429
  | providerError => 502
  | providerUnavailableError | circuitOpenError => 503

/-- Every error is told by its status. -/
lemma four_hundred_le_httpStatus (cls : DomainErrorClass) : 400 ≤ cls.httpStatus := by
  cases cls <;> decide

/-- The class is `ProviderUnavailableError` or a subclass of it. -/
def isProviderUnavailable : DomainErrorClass → Bool
  | providerUnavailableError | circuitOpenError => true
  | _ => false

end DomainErrorClass

/-- An expected, mapped application error.  The message is a string wherever the code writes
one; the Stripe adapter passes on whatever the provider sent. -/
structure DomainError where
  cls : DomainErrorClass
  message : Json
  details : List (String × Json)
deriving DecidableEq, Repr

/-- The exceptions of the language and its standard library that are told apart in this
development. -/
inductive PyError where
  | keyError
  | attributeError
  | typeError
  | valueError
  | overflowError
  | assertionError
  | invalidOperation
  | other (name : String)
deriving DecidableEq, Repr

/-- Exceptions of `httpx`: `TimeoutException` is a `TransportError`; others are not. -/
inductive HttpxError where
  | timeoutException
  | transportError
  | other
deriving DecidableEq, Repr

/-- An exception that may leave a handler: an error of the domain, or one that nobody meant for a
client. -/
inductive Exn where
  | domain (e : DomainError)
  | python (e : PyError)
  | httpx (e : HttpxError)
  /-- A constraint of the database was violated. -/
  | integrityError
  /-- `scalar_one_or_none` met two rows. -/
  | multipleResultsFound
  /-- `asyncio.CancelledError`, which is not an `Exception`. -/
  | cancelled
deriving DecidableEq, Repr

namespace Exn

/-- `DomainError(message, details=details)` of the given class. -/
def of (cls : DomainErrorClass) (message : String) (details : List (String × Json)) : Exn :=
  .domain ⟨cls, .str message, details⟩

/-- `ValidationError(message, details)` -/
def validationError (message : String) (details : List (String × Json)) : Exn :=
  .of .validationError message details

/-- `AuthenticationError(message)`; no call of the source gives it details. -/
def authenticationError (message : String) : Exn := .of .authenticationError message []

/-- `PermissionDeniedError(message, details)` -/
def permissionDeniedError (message : String) (details : List (String × Json)) : Exn :=
  .of .permissionDeniedError message details

/-- `NotFoundError(message, details)` -/
def notFoundError (message : String) (details : List (String × Json)) : Exn :=
  .of .notFoundError message details

/-- `IdempotencyConflictError(message, details)` -/
def idempotencyConflictError (message : String) (details : List (String × Json)) : Exn :=
  .of .idempotencyConflictError message details

/-- `InvalidStateError(message, details)` -/
def invalidStateError (message : String) (details : List (String × Json)) : Exn :=
  .of .invalidStateError message details

/-- `ProviderUnavailableError(message, details)` -/
def providerUnavailableError (message : String) (details : List (String × Json)) : Exn :=
  .of .providerUnavailableError message details

/-- `isinstance(exc, Exception)`: not so for a cancellation, which only derives from
`BaseException`. -/
def isException : Exn → Bool
  | .cancelled => false
  | _ => true

/-- `isinstance(exc, ProviderError)`: the provider has answered with an error.  An unavailable
provider is another class, beside this one. -/
def isProviderError : Exn → Bool
  | .domain e => e.cls = .providerError
  | _ => false

/-- `isinstance(exc, ProviderUnavailableError)` -/
def isProviderUnavailable : Exn → Bool
  | .domain e => e.cls.isProviderUnavailable
  | _ => false

/-- `isinstance(exc, (httpx.TimeoutException, httpx.TransportError))` -/
def isTransportFault : Exn → Bool
  | .httpx .timeoutException | .httpx .transportError => true
  | _ => false

end Exn

end PaymentGateway
