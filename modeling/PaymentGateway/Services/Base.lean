/-
# What the services share

The services run inside a request: a database session, the gateway manager, and what the
request draws from its surroundings.  A service method is a program over `Tables` whose
outside calls are the calls of `GatewayManager.execute`.

`App` holds what the modelled code takes from elsewhere: the database's check of the rows it
is about to keep, and the functions of libraries.
-/
import PaymentGateway.Db.Tables
import PaymentGateway.Lib.Paths
import PaymentGateway.Providers.Webhooks

namespace PaymentGateway

open Transact

/-- What surrounds the application's code: the database's checks, the libraries and the settings
that the services use. -/
structure App where
  /-- The database accepts these rows, at a flush or at a commit. -/
  accepts : Tables → Bool
  /-- `SecretBox.decrypt(token, aad=aad)` -/
  decrypt : String → String → Except Exn String
  /-- The HTTP client that the gateway manager was given. -/
  http : Option HttpClient
  /-- `json.dumps(body, separators=(",", ":"), sort_keys=True)` -/
  dumps : Json → String
  /-- The hexadecimal SHA-256 digest of the UTF-8 encoding. -/
  sha256 : String → String
  /-- `TokenService.decode(token, expected_type=type).subject` -/
  decode : String → String → Except Exn String
  /-- `uuid.UUID(text)` -/
  parseUuid : String → Except Exn Uuid
  /-- `email.lower()` and `email.strip()` -/
  lower : String → String
  strip : String → String
  /-- `verify_password(plain, hashed)` -/
  verifyPassword : String → String → Bool
  needsRehash : String → Bool
  /-- The encoded hash of a password under a salt. -/
  hash : String → String → String
  /-- `create_access_token(subject, scopes)` and `create_refresh_token(subject)` -/
  accessToken : String → List String → String
  refreshToken : String → String
  /-- `settings.api_key_prefix` -/
  apiKeyPrefix : String
  /-- `hmac.new(key, message, hashlib.sha256).hexdigest()` -/
  hmac : Bytes → Bytes → String
  /-- `json.loads(body.decode("utf-8"))` -/
  loads : Bytes → Except Exn Json
  /-- `str(value)` of a value that is not a string. -/
  repr : Json → String

/-- What one request draws from its surroundings: the values of `uuid.uuid4()` for the rows
it inserts, the time, a salt, the secret of a new API key, and the correlation id. -/
structure Ambient where
  paymentId : Uuid
  refundId : Uuid
  recordId : Uuid
  auditId : Uuid
  userId : Uuid
  apiKeyId : Uuid
  webhookEventId : Uuid
  /-- The owner that a webhook without an account is looked up for. -/
  guestId : Uuid
  now : Timestamp
  salt : String
  /-- `secrets.token_urlsafe(32)` -/
  apiKeySecret : String
  correlationId : String

/-- A call of `GatewayManager.execute(provider, lambda: adapter.op(…))`. -/
inductive GatewayOp : Type → Type where
  | execute {β : Type} (provider : ProviderName) (adapter : Adapter) (op : ProviderOp β) :
      GatewayOp β

/-- A method of a service: a program over the tables, whose outside calls go to the gateway
manager. -/
abbrev ServiceProg (α : Type) := Prog Tables GatewayOp Exn α

/-- `session.flush()`: the database checks the rows that this session sees. -/
def flush (app : App) : ServiceProg Unit := do
  let ok ← Prog.ask app.accepts
  Prog.raiseIf (ok = false) .integrityError

/-- The row that `AuditService.record` adds, with the correlation id of the request. -/
def auditEntry (env : Ambient) (action : AuditAction) (actorId : Uuid) (resourceType : String)
    (resourceId : String) : AuditLog where
  id := env.auditId
  actorId := some actorId
  action := action
  resourceType := some resourceType
  resourceId := some resourceId
  correlationId := if env.correlationId = "" then none else some env.correlationId
  context := []
  createdAt := env.now
  updatedAt := env.now

/-- `AuditService.record`: the row is added to the session, and committed with the rest. -/
def record (env : Ambient) (action : AuditAction) (actorId : Uuid) (resourceType : String)
    (resourceId : String) : ServiceProg Unit :=
  Prog.modify fun t => t.insertAuditLog (auditEntry env action actorId resourceType resourceId)

/-! ## A fixed application, to evaluate the model in -/

/-- An application whose database enforces its constraints and nothing else; simple functions
stand in for the libraries. -/
def demoApp : App where
  accepts t := decide t.Unique
  decrypt token _ := .ok token
  http := none
  dumps _ := ""
  sha256 text := text
  decode token _ := .ok token
  parseUuid _ := .error (.python .valueError)
  lower text := text
  strip text := text
  verifyPassword plain hashed := plain = hashed
  needsRehash _ := false
  hash _ plain := plain
  accessToken subject _ := subject
  refreshToken subject := subject
  apiKeyPrefix := "upgi_sk"
  hmac _ _ := ""
  loads _ := .error (.python .valueError)
  repr _ := ""

lemma demoApp_unique : ∀ t, demoApp.accepts t = true → t.Unique :=
  fun _ h => of_decide_eq_true h

/-- A merchant, whose password is the text that is stored. -/
def demoUser : User where
  id := .ofNat 1
  email := "merchant@example.com"
  hashedPassword := "correct horse"
  fullName := none
  role := .merchant
  isActive := true
  failedLoginAttempts := 0
  createdAt := 0
  updatedAt := 0

/-- A payment of 1000 units that was captured in full. -/
def demoPayment : Payment where
  id := .ofNat 16
  ownerId := demoUser.id
  provider := .mock
  providerReference := some "mock_pay_1"
  amount := 1000
  currency := .usd
  amountCaptured := 1000
  amountRefunded := 0
  status := .captured
  captureMethod := .automatic
  methodType := .card
  description := none
  customerReference := none
  failureReason := .null
  paymentMetadata := []
  createdAt := 1
  updatedAt := 1

/-- Tables in which the user has configured Stripe, and nothing else is. -/
def stripeTables : Tables :=
  { Tables.empty with
    providerConfigs := [⟨.ofNat 2, demoUser.id, .stripe, "sk_test", [], true, true, 0, 0⟩] }

/-- The ids that the `n`-th request makes up, all of them different from those of other requests.
-/
def demoEnv (n : ℕ) : Ambient where
  paymentId := .ofNat (16 * n)
  refundId := .ofNat (16 * n + 1)
  recordId := .ofNat (16 * n + 2)
  auditId := .ofNat (16 * n + 3)
  userId := .ofNat (16 * n + 7)
  apiKeyId := .ofNat (16 * n + 4)
  webhookEventId := .ofNat (16 * n + 5)
  guestId := .ofNat (16 * n + 6)
  now := n
  salt := ""
  apiKeySecret := (Uuid.ofNat n).str
  correlationId := ""

/-! ## Provider resolution -/

/-- The signing secret of the mock provider when a tenant has configured none. -/
def mockSandboxSecret : String := "upgi_sandbox_signing_secret"

/-- The adapter for a tenant's provider, from the rows that `get_provider` reads. -/
def resolveProvider (app : App) (ownerId : Uuid) (provider : ProviderName) (t : Tables) :
    Except Exn Adapter := do
  match ← t.getActive ownerId provider with
  | some config => do
      let secret ← app.decrypt config.encryptedSecret ownerId.str
      .ok ⟨provider, secret, config.sandbox, config.config, app.http⟩
  | none =>
      -- the mock provider works out of the box in sandbox
      if provider = .mock then .ok ⟨provider, mockSandboxSecret, true, [], app.http⟩
      else .error (.notFoundError
        ("provider '" ++ provider.value ++ "' is not configured for this account")
        [("provider", .str provider.value)])

/-- `GatewayManager.get_provider`: the adapter of the owner's configuration, or the mock
provider's default one. -/
def getProvider (app : App) (ownerId : Uuid) (provider : ProviderName) : ServiceProg Adapter := do
  Prog.ofExcept (← Prog.ask (resolveProvider app ownerId provider))

/-! ## Sequential runs -/

section Runs

variable {app : App} {α W : Type} {handle : Handler GatewayOp Exn W} {t : Tables} {w : W}

lemma run_flush_bind {f : Unit → ServiceProg α} :
    (flush app >>= f).run handle t w =
      if app.accepts t = false then ⟨.error .integrityError, t, w, []⟩
      else (f ()).run handle t w := by
  show (Prog.ask app.accepts >>= fun ok => Prog.raiseIf (ok = false) _ >>= f).run handle t w = _
  rw [Prog.run_ask_bind, Prog.run_raiseIf_bind]

lemma run_getProvider_bind {ownerId : Uuid} {provider : ProviderName}
    {f : Adapter → ServiceProg α} :
    (getProvider app ownerId provider >>= f).run handle t w =
      (Prog.ofExcept (resolveProvider app ownerId provider t) >>= f).run handle t w := rfl

end Runs

/-! ## Paths -/

section Paths

variable {app : App} {α : Type} {gs : List (Tables → Tables)} {H : History Tables GatewayOp Exn}
  {r : Except Exn α}

lemma path_flush_bind {f : Unit → ServiceProg α} :
    (flush app >>= f).Path gs H r ↔ ∃ d K, H = .ofRead d ++ K ∧
      (app.accepts (view gs d) = false ∧ K = .nil ∧ r = .error .integrityError ∨
        app.accepts (view gs d) = true ∧ (f ()).Path gs K r) := by
  show (Prog.ask app.accepts >>= fun ok => Prog.raiseIf (ok = false) _ >>= f).Path gs H r ↔ _
  simp only [Prog.path_ask_bind, Prog.path_raiseIf_bind, Bool.not_eq_false]

lemma path_getProvider_bind {ownerId : Uuid} {provider : ProviderName}
    {f : Adapter → ServiceProg α} :
    (getProvider app ownerId provider >>= f).Path gs H r ↔ ∃ d K, H = .ofRead d ++ K ∧
      ((∃ e, resolveProvider app ownerId provider (view gs d) = .error e ∧ K = .nil ∧
          r = .error e) ∨
        ∃ adapter, resolveProvider app ownerId provider (view gs d) = .ok adapter ∧
          (f adapter).Path gs K r) := by
  show (Prog.ask (resolveProvider app ownerId provider) >>= fun x =>
    Prog.ofExcept x >>= f).Path gs H r ↔ _
  simp only [Prog.path_ask_bind, Prog.path_ofExcept_bind]

lemma path_record_bind {env : Ambient} {action : AuditAction} {actorId : Uuid}
    {resourceType resourceId : String} {f : Unit → ServiceProg α} :
    (record env action actorId resourceType resourceId >>= f).Path gs H r ↔
      ∃ K, H = .ofWrite (fun t => t.insertAuditLog
          (auditEntry env action actorId resourceType resourceId)) ++ K ∧
        (f ()).Path (gs ++ [fun t => t.insertAuditLog
          (auditEntry env action actorId resourceType resourceId)]) K r := Iff.rfl

end Paths

/-- The adapter is the provider's, with the HTTP client of the gateway manager. -/
lemma resolveProvider_ok {app : App} {ownerId : Uuid} {provider : ProviderName} {t : Tables}
    {adapter : Adapter} (h : resolveProvider app ownerId provider t = .ok adapter) :
    adapter.name = provider ∧ adapter.context.http = app.http := by
  rw [resolveProvider] at h
  cases hactive : t.getActive ownerId provider with
  | error e =>
    rw [hactive] at h
    cases h
  | ok found =>
    rw [hactive] at h
    cases found with
    | none =>
      simp only [bind, Except.bind] at h
      split at h
      · cases h
        exact ⟨rfl, rfl⟩
      · cases h
    | some config =>
      cases hsecret : app.decrypt config.encryptedSecret ownerId.str with
      | error e =>
        simp only [bind, Except.bind, hsecret] at h
        cases h
      | ok secret =>
        simp only [bind, Except.bind, hsecret] at h
        cases h
        exact ⟨rfl, rfl⟩

end PaymentGateway
