/-
# The whole API

Every route of `app/api/v1` as one type of requests.  The routes of the first kind take no
credentials: registration, login, the refresh of tokens, and the webhooks of the providers,
which are trusted for their signature.  The others first find out who the user is
(`get_current_user`) and, where the route has a scope, whether the user's role has it
(`require_scope`); then the handler runs on behalf of that user, in the same session.

A request that does not fit the schema of its route is one of them too.  FastAPI refuses it after
the dependencies of the route have run, and what becomes of their session depends on its version:
before 0.118 it is committed, from 0.118 on it is dropped.  Here the program of such a request
returns its errors, and a session that is dropped is one that stops before it commits.
-/
import PaymentGateway.Api
import PaymentGateway.Providers.Registry
import PaymentGateway.Services.Webhooks

namespace PaymentGateway

open Transact

/-! ## Responses -/

/-- A user as the API shows them; the hash of the password is not in it. -/
structure UserResponse where
  id : Uuid
  email : String
  fullName : Option String
  role : UserRole
  isActive : Bool
  createdAt : Timestamp
deriving DecidableEq, Repr

/-- `UserResponse.model_validate(user)`: the columns of the row that are shown. -/
def UserResponse.ofUser (user : User) : UserResponse where
  id := user.id
  email := user.email
  fullName := user.fullName
  role := user.role
  isActive := user.isActive
  createdAt := user.createdAt

/-- An API key as it is listed.  Nothing of the secret is in it but the prefix that is kept for
display. -/
structure ApiKeyResponse where
  id : Uuid
  name : String
  displayPrefix : String
  isActive : Bool
  createdAt : Timestamp
  lastUsedAt : Option Timestamp
deriving DecidableEq, Repr

/-- `ApiKeyResponse.model_validate(key)`: the columns of the row that are shown, without the
hash. -/
def ApiKeyResponse.ofApiKey (key : ApiKey) : ApiKeyResponse where
  id := key.id
  name := key.name
  displayPrefix := key.displayPrefix
  isActive := key.isActive
  createdAt := key.createdAt
  lastUsedAt := key.lastUsedAt

/-- An API key as its creation answers it.  The full secret is shown here, and only here. -/
structure ApiKeyCreatedResponse extends ApiKeyResponse where
  apiKey : String
deriving DecidableEq, Repr

/-- What a page says of itself: the size of the whole list, and where the page stands in it. -/
structure PageMeta where
  total : ℕ
  limit : ℕ
  offset : ℕ
deriving DecidableEq, Repr

/-- The answer of `GET /admin/providers`: what is registered and which currencies are known. -/
structure ProvidersInfo where
  registeredProviders : List String
  supportedCurrencies : List String
deriving DecidableEq, Repr

/-- The answer of `GET /admin/stats`, over the payments of all users. -/
structure PaymentStats where
  totalPayments : ℕ
  byStatus : List (PaymentStatus × ℕ)
  capturedMinorUnits : ℤ
deriving DecidableEq, Repr

/-! ## Handlers that the payments do not need -/

/-- `SELECT status, count(*) … GROUP BY status`: one row for each status that occurs. -/
def groupByStatus (payments : List Payment) : List (PaymentStatus × ℕ) :=
  (payments.map Payment.status).dedup.map fun s =>
    (s, (payments.filter fun p => p.status = s).length)

/-- Every payment is counted once. -/
lemma sum_groupByStatus (payments : List Payment) :
    ((groupByStatus payments).map Prod.snd).sum = payments.length := by
  have hcount (s : PaymentStatus) : (payments.filter fun p => p.status = s).length =
      (payments.map Payment.status).count s := by
    rw [List.count_eq_length_filter, List.filter_map, List.length_map]
    congr 1
  rw [groupByStatus, List.map_map]
  simp only [Function.comp_def, hcount]
  rw [List.sum_map_count_dedup_eq_length, List.length_map]

/-- The keys of `CURRENCY_EXPONENTS`. -/
def currencies : List Currency :=
  [.usd, .eur, .gbp, .cad, .aud, .try_, .aed, .sar, .inr, .jpy, .btc, .eth, .usdt]

/-- `list_providers`: the registered providers and the currencies, in alphabetical order. -/
def listProviders : ProvidersInfo where
  registeredProviders := builtinRegistry.availableProviders.map ProviderName.value
  supportedCurrencies := (currencies.map Currency.code).insertionSort (· ≤ ·)

/-- Two queries; the total is summed up from the rows of the first one. -/
def paymentStats : ServiceProg PaymentStats := do
  let byStatus ← Prog.ask fun t => groupByStatus t.payments
  let captured ← Prog.ask fun t => (t.payments.map Payment.amountCaptured).sum
  return ⟨(byStatus.map Prod.snd).sum, byStatus, captured⟩

/-- `AuthService.refresh`: a refresh token is exchanged for a new pair, if its user is still
active. -/
def refresh (app : App) (refreshToken : String) : ServiceProg TokenPair := do
  let subject ← Prog.ofExcept (app.decode refreshToken "refresh")
  let id ← Prog.ofExcept (app.parseUuid subject)
  let found ← Prog.ask fun t => t.getUser id
  let user ← Prog.orRaise found (.authenticationError "user no longer active")
  Prog.raiseIf (user.isActive = false) (.authenticationError "user no longer active")
  return issueTokens app user

/-! ## Requests -/

/-- An entry of the list of errors that `_validation_error` makes of what pydantic has found. -/
structure FieldError where
  loc : List String
  message : String
  type : String
deriving DecidableEq, Repr

/-- The routes on behalf of a user that check what is sent to them. -/
inductive CheckedRoute where
  | createApiKey
  | createPayment
  | createRefund
  | listPayments
  | getPayment
  | capturePayment
  | cancelPayment

/-- The scope that the route requires, which is looked at before the errors are reported. -/
def CheckedRoute.scope : CheckedRoute → Option String
  | .createApiKey => none
  | .createPayment | .capturePayment | .cancelPayment => some scopePaymentsWrite
  | .createRefund => some scopeRefundsWrite
  | .listPayments | .getPayment => some scopePaymentsRead

/-- A route that takes no credentials, or a request that is refused before any dependency has
run: it does not fit its route, which takes none, or its body is no JSON at all. -/
inductive OpenCall where
  | register (email password : String) (fullName : Option String)
  | login (email password : String)
  | refresh (refreshToken : String)
  | receiveWebhook (request : WebhookRequest)
  | invalid (errors : List FieldError)

/-- A route that runs on behalf of a user, with what it was sent; a request that does not fit its
route is refused once the user is known. -/
inductive UserCall where
  | me
  | createApiKey (name : String)
  | listApiKeys
  | revokeApiKey (keyId : String)
  | post (request : Post)
  | listPayments (status : Option PaymentStatus) (limit : {n : ℕ // 1 ≤ n ∧ n ≤ 200}) (offset : ℕ)
  | getPayment (paymentId : Uuid)
  | capturePayment (paymentId : Uuid) (payload : CapturePaymentRequest)
  | cancelPayment (paymentId : Uuid)
  | listProviders
  | paymentStats
  | invalid (route : CheckedRoute) (errors : List FieldError)

/-- What the handler of a route returns, before the response is built from it. -/
inductive ApiAnswer where
  | user (r : UserResponse)
  | tokens (pair : TokenPair)
  | apiKeyCreated (r : ApiKeyCreatedResponse)
  | apiKeys (rs : List ApiKeyResponse)
  | noContent
  | stored (r : StoredResponse)
  | payment (r : PaymentResponse)
  | page (items : List PaymentResponse) (info : PageMeta)
  | ack (a : WebhookAck)
  | providers (info : ProvidersInfo)
  | stats (stats : PaymentStats)
  | invalid (errors : List FieldError)
deriving DecidableEq, Repr

/-- The handler of a route without credentials.  A request that fails the validation does
nothing. -/
def OpenCall.prog (app : App) (env : Ambient) : OpenCall → ServiceProg ApiAnswer
  | .register email password fullName => do
      return .user (.ofUser (← PaymentGateway.register app env email password fullName))
  | .login email password => do return .tokens (← PaymentGateway.login app env email password)
  | .refresh refreshToken => do return .tokens (← PaymentGateway.refresh app refreshToken)
  | .receiveWebhook request => do return .ack (← PaymentGateway.receiveWebhook app env request)
  | .invalid errors => return .invalid errors

/-- The scope that the route requires; some routes only require a user. -/
def UserCall.scope : UserCall → Option String
  | .me | .createApiKey _ | .listApiKeys | .revokeApiKey _ => none
  | .post request => some request.scope
  | .listPayments _ _ _ | .getPayment _ => some scopePaymentsRead
  | .capturePayment _ _ | .cancelPayment _ => some scopePaymentsWrite
  | .listProviders | .paymentStats => some scopeAdmin
  | .invalid route _ => route.scope

/-- The handler of a route with credentials, once its user was found out.  A request that fails
the validation does nothing more. -/
def UserCall.handler (app : App) (env : Ambient) (user : User) (idempotencyKey : Option String) :
    UserCall → ServiceProg ApiAnswer
  | .me => return .user (.ofUser user)
  | .createApiKey name => do
      let issued ← PaymentGateway.createApiKey app env user name
      return .apiKeyCreated ⟨.ofApiKey issued.apiKey, issued.plaintext⟩
  | .listApiKeys => do
      let keys ← PaymentGateway.listApiKeys user
      return .apiKeys (keys.map .ofApiKey)
  | .revokeApiKey keyId => do
      let _ ← PaymentGateway.revokeApiKey app env user keyId
      return .noContent
  | .post request => do return .stored (← request.handler app env user idempotencyKey)
  | .listPayments status limit offset => do
      let (items, total) ← PaymentGateway.listPayments user status limit.1 offset
      let responses ← Prog.ofExcept (items.mapM paymentToResponse)
      return .page responses ⟨total, limit.1, offset⟩
  | .getPayment paymentId => do
      let payment ← PaymentGateway.getPayment user paymentId
      return .payment (← Prog.ofExcept (paymentToResponse payment))
  | .capturePayment paymentId payload => do
      return .payment (← capturePaymentEndpoint app env user paymentId payload)
  | .cancelPayment paymentId => do
      return .payment (← cancelPaymentEndpoint app env user paymentId)
  | .listProviders => return .providers PaymentGateway.listProviders
  | .paymentStats => do return .stats (← PaymentGateway.paymentStats)
  | .invalid _ errors => return .invalid errors

/-- The dependency that finds the user: `CurrentUser` or `require_scope(scope)`. -/
def UserCall.dependency (app : App) (env : Ambient) (headers : Headers) (call : UserCall) :
    ServiceProg User :=
  match call.scope with
  | none => getCurrentUser app env headers
  | some scope => requireScope app env scope headers

/-- A request to a route, with the headers if the route looks at them. -/
inductive Route where
  | open (call : OpenCall)
  | user (headers : Headers) (call : UserCall)

/-- A request to one of the routes, and what its processing draws from its surroundings. -/
structure HttpCall where
  env : Ambient
  call : Route

/-- The whole request: the dependencies of the route and then its handler. -/
def HttpCall.prog (app : App) (request : HttpCall) : ServiceProg ApiAnswer :=
  match request.call with
  | .open call => call.prog app request.env
  | .user headers call => do
      let user ← call.dependency app request.env headers
      call.handler app request.env user headers.idempotencyKey

/-- Requests in any number, each in its own session over the shared tables. -/
abbrev ApiSystem (ι W C : Type) := System ι Tables W C GatewayOp Exn ApiAnswer

/-- The system of the requests, none of which has started yet. -/
def apiStart {ι W C : Type} (app : App) (requests : ι → HttpCall) (t : Tables) (w : W) :
    ApiSystem ι W C :=
  .start t w fun i => (requests i).prog app

/-- The tables with one merchant, who has one API key. -/
def apiKeyTables : Tables :=
  { Tables.empty with
    users := [demoUser]
    apiKeys := [⟨.ofNat 3, demoUser.id, "ci", "upgi_sk_1", "upgi_sk_1", true, none, none, 0, 0⟩] }

end PaymentGateway
