/-
# The authentication service

`AuthService` as far as the modelled requests use it: the registration, the password login
with its counter of failed attempts, and the API keys (`app/services/auth.py`,
`app/security/api_keys.py`).  The unit of work belongs to the caller (`get_session`): what a
method stages before it raises is dropped.
-/
import PaymentGateway.Services.Base

namespace PaymentGateway

open Transact

/-! ## Passwords -/

/-- `_MAX_FAILED_LOGINS`: with so many failed attempts on record, no login succeeds. -/
def maxFailedLogins : ℤ := 10

/-- The hash that is verified for an unknown user, so that the answer takes as long as for a
known one. -/
def unknownUserHash : String :=
  "$argon2id$v=19$m=65536,t=3,p=2$" ++ String.ofList (List.replicate 22 'A') ++ "$" ++
    String.ofList (List.replicate 43 'A')

/-- The address as `authenticate` passes it to `get_by_email`, which lower-cases it again. -/
def loginEmail (app : App) (email : String) : String := app.lower (app.strip (app.lower email))

section Methods

variable (app : App) (env : Ambient)

/-- `hash_password`, with the salt that this request draws.  The empty password raises. -/
def hashPassword (plain : String) : Except Exn String :=
  if plain = "" then .error (.python .valueError) else .ok (app.hash env.salt plain)

/-- The hash that a successful login leaves: a new one if the parameters have changed. -/
def upgradedHash (user : User) (password : String) : Except Exn String :=
  if app.needsRehash user.hashedPassword then hashPassword app env password
  else .ok user.hashedPassword

/-- The row of a new user: an active merchant, with no failed logins. -/
@[simps]
def newUser (email hashed : String) (fullName : Option String) : User where
  id := env.userId
  email := email
  hashedPassword := hashed
  fullName := fullName
  role := .merchant
  isActive := true
  failedLoginAttempts := 0
  createdAt := env.now
  updatedAt := env.now

/-- `register`: the address is stripped and lower-cased, looked for, and inserted with a hash of
the password.  Two registrations of one address meet at the unique column. -/
def register (email password : String) (fullName : Option String) : ServiceProg User := do
  let address := app.strip (app.lower email)
  let taken ← Prog.ask fun t => t.emailExists (app.lower address)
  Prog.raiseIf (taken = true)
    (.of .conflictError "an account with this email already exists" [])
  let hashed ← Prog.ofExcept (hashPassword app env password)
  let user := newUser env address hashed fullName
  Prog.modify fun t => t.insertUser user
  flush app
  record env .userRegistered user.id "user" user.id.str
  return user

/-- The user after one more failed attempt. -/
def withFailedLogin (user : User) : User :=
  { user with failedLoginAttempts := user.failedLoginAttempts + 1 }

/-- The user after a login: the counter starts anew, and the hash may have been upgraded. -/
def withLogin (user : User) (hashed : String) : User :=
  { user with failedLoginAttempts := 0, hashedPassword := hashed }

/-- `authenticate`: a wrong password adds one to the counter before it raises, and the counter is
looked at only once the password was right. -/
def authenticate (email password : String) : ServiceProg User := do
  let found ← Prog.ofExcept (← Prog.ask fun t => t.getByEmail (loginEmail app email))
  match found with
  | none => do
      -- the verification against the dummy hash has no other effect than its duration
      let _ := app.verifyPassword password unknownUserHash
      .raise (.authenticationError "invalid email or password")
  | some user =>
      if app.verifyPassword password user.hashedPassword = false then do
        Prog.modify fun t => t.saveUser env.now user (withFailedLogin user)
        .raise (.authenticationError "invalid email or password")
      else do
        Prog.raiseIf (user.isActive = false ∨ maxFailedLogins ≤ user.failedLoginAttempts)
          (.authenticationError "account is locked; contact support")
        let hashed ← Prog.ofExcept (upgradedHash app env user password)
        Prog.modify fun t => t.saveUser env.now user (withLogin user hashed)
        record env .userLogin user.id "user" user.id.str
        return withLogin user hashed

/-- `TokenPair`: the tokens of a login, and how they are presented. -/
structure TokenPair where
  accessToken : String
  refreshToken : String
  tokenType : String
deriving DecidableEq, Repr

/-- `issue_tokens`: the access token carries the scopes of the user's role. -/
def issueTokens (user : User) : TokenPair where
  accessToken := app.accessToken user.id.str (scopesForRole user.role)
  refreshToken := app.refreshToken user.id.str
  tokenType := "bearer"

/-- `POST /auth/login`: the user is authenticated, and gets a pair of tokens. -/
def login (email password : String) : ServiceProg TokenPair := do
  return issueTokens app (← authenticate app env email password)

end Methods

/-! ## API keys -/

/-- `GeneratedApiKey`: the key itself, the hash that it is looked up by, and what is shown of it.
-/
structure GeneratedApiKey where
  fullKey : String
  lookupHash : String
  displayPrefix : String
deriving DecidableEq, Repr

/-- `generate_api_key(prefix)`, when the random part is `secret`: eight characters of it are
shown later on. -/
def generateApiKey (app : App) (keyPrefix secret : String) : GeneratedApiKey where
  fullKey := keyPrefix ++ "_" ++ secret
  lookupHash := app.sha256 (keyPrefix ++ "_" ++ secret)
  displayPrefix := keyPrefix ++ "_" ++ String.ofList (secret.toList.take 8) ++ "…"

/-- `IssuedApiKey`: the row of a new key, and its secret, which is shown only here. -/
structure IssuedApiKey where
  apiKey : ApiKey
  plaintext : String
deriving DecidableEq, Repr

/-- The row of a new key: active, and never used. -/
@[simps]
def newApiKey (env : Ambient) (user : User) (name : String) (generated : GeneratedApiKey) :
    ApiKey where
  id := env.apiKeyId
  userId := user.id
  name := name
  hashedKey := generated.lookupHash
  displayPrefix := generated.displayPrefix
  isActive := true
  lastUsedAt := none
  revokedAt := none
  createdAt := env.now
  updatedAt := env.now

/-- The row of an API key after it was used: the time of the use is noted. -/
@[simps]
def withUse (env : Ambient) (key : ApiKey) : ApiKey := { key with lastUsedAt := some env.now }

/-- The row of an API key after it was revoked: it is dead, and says since when. -/
@[simps]
def withRevocation (env : Ambient) (key : ApiKey) : ApiKey :=
  { key with isActive := false, revokedAt := some env.now }

section ApiKeys

variable (app : App) (env : Ambient)

/-- The key that `create_api_key` generates, with the random part that this request draws. -/
def generatedApiKey : GeneratedApiKey := generateApiKey app app.apiKeyPrefix env.apiKeySecret

/-- `create_api_key`: the row of the new key is inserted, and the key itself is returned this
once. -/
def createApiKey (user : User) (name : String) : ServiceProg IssuedApiKey := do
  let generated := generatedApiKey app env
  let key := newApiKey env user name generated
  Prog.modify fun t => t.insertApiKey key
  flush app
  record env .apiKeyCreated user.id "api_key" key.id.str
  return ⟨key, generated.fullKey⟩

/-- `authenticate_api_key`: the key is looked up by its hash, must not be revoked and must belong
to an active user.  The time of its last use is noted. -/
def authenticateApiKey (presentedKey : String) : ServiceProg User := do
  let found ← Prog.ofExcept (← Prog.ask fun t => t.getByHash (app.sha256 presentedKey))
  let key ← Prog.orRaise found (.authenticationError "invalid API key")
  Prog.raiseIf (key.isActive = false ∨ key.revokedAt.isSome)
    (.authenticationError "invalid API key")
  let owner ← Prog.ask fun t => t.getUser key.userId
  let user ← Prog.orRaise owner (.authenticationError "API key owner is inactive")
  Prog.raiseIf (user.isActive = false) (.authenticationError "API key owner is inactive")
  Prog.modify fun t => t.saveApiKey env.now key (withUse env key)
  return user

/-- `list_api_keys`: all keys of the user, the revoked ones too. -/
def listApiKeys (user : User) : ServiceProg (List ApiKey) :=
  Prog.ask fun t => t.listApiKeysForOwner user.id

/-- `revoke_api_key`: a key of another user is not found.  A revocation can be repeated, and the
row then gets a new time. -/
def revokeApiKey (user : User) (keyId : String) : ServiceProg Unit := do
  let id ← Prog.ofExcept (app.parseUuid keyId)
  let found ← Prog.ask fun t => t.getApiKey id
  let key ← Prog.orRaise found (.notFoundError "API key not found" [])
  Prog.raiseIf (key.userId ≠ user.id) (.notFoundError "API key not found" [])
  Prog.modify fun t => t.saveApiKey env.now key (withRevocation env key)
  record env .apiKeyRevoked user.id "api_key" keyId

end ApiKeys

/-- The provider behind methods that call none. -/
def noGateway : Handler GatewayOp Exn Unit := fun _ _ w => (.error .cancelled, w)

/-! ## What a login does -/

/-- Everything that `authenticate` can do: it raises, or it stages the login. -/
inductive Authenticates (app : App) (env : Ambient) (email password : String)
    (gs : List (Tables → Tables)) : History Tables GatewayOp Exn → Except Exn User → Prop
  | refused {H e} : Authenticates app env email password gs H (.error e)
  | done {d user hashed} (found : (view gs d).getByEmail (loginEmail app email) = .ok (some user))
      (verified : app.verifyPassword password user.hashedPassword = true)
      (active : user.isActive = true) (unlocked : user.failedLoginAttempts < maxFailedLogins)
      (hash : upgradedHash app env user password = .ok hashed) :
      Authenticates app env email password gs
        (.ofRead d ++ (.ofWrite (fun t => t.saveUser env.now user (withLogin user hashed)) ++
          .ofWrite (fun t => t.insertAuditLog
            (auditEntry env .userLogin user.id "user" user.id.str))))
        (.ok (withLogin user hashed))

lemma authenticate_path {app : App} {env : Ambient} {email password : String}
    {gs : List (Tables → Tables)} {H : History Tables GatewayOp Exn} {r : Except Exn User}
    (h : (authenticate app env email password).Path gs H r) :
    Authenticates app env email password gs H r := by
  simp only [authenticate, Prog.path_ask_bind, Prog.path_ofExcept_bind] at h
  obtain ⟨d, K, rfl, ⟨e, -, rfl, rfl⟩ | ⟨found, hfound, h⟩⟩ := h
  · exact .refused
  rcases found with _ | user
  · obtain ⟨rfl, rfl⟩ := h
    exact .refused
  dsimp only at h
  by_cases hverified : app.verifyPassword password user.hashedPassword = true
  · rw [if_neg (by simp [hverified])] at h
    simp only [Prog.path_raiseIf_bind, Prog.path_ofExcept_bind, Prog.path_modify_bind,
      path_record_bind, Prog.pure_def, Prog.path_ret, not_or, Bool.not_eq_false, not_le] at h
    rcases h with ⟨-, rfl, rfl⟩ | ⟨⟨hactive, hlock⟩, ⟨e, -, rfl, rfl⟩ | ⟨hashed, hhash, h⟩⟩
    · exact .refused
    · exact .refused
    · obtain ⟨K, rfl, K, rfl, rfl, rfl⟩ := h
      rw [History.append_nil]
      exact .done hfound hverified hactive hlock hhash
  · rw [if_pos (by simpa using hverified), Prog.path_modify_bind] at h
    obtain ⟨K, rfl, rfl, rfl⟩ := h
    exact .refused

/-- Everything that `create_api_key` can do: it raises, or the key is inserted. -/
inductive CreatesApiKey (app : App) (env : Ambient) (user : User) (name : String)
    (gs : List (Tables → Tables)) :
    History Tables GatewayOp Exn → Except Exn IssuedApiKey → Prop
  | refused {H e} (calls : H.calls = []) : CreatesApiKey app env user name gs H (.error e)
  | done {d} :
      CreatesApiKey app env user name gs
        (.ofWrite (fun t => t.insertApiKey (newApiKey env user name (generatedApiKey app env))) ++
          (.ofRead d ++ .ofWrite (fun t => t.insertAuditLog
            (auditEntry env .apiKeyCreated user.id "api_key" env.apiKeyId.str))))
        (.ok ⟨newApiKey env user name (generatedApiKey app env),
          (generatedApiKey app env).fullKey⟩)

lemma createApiKey_path {app : App} {env : Ambient} {user : User} {name : String}
    {gs : List (Tables → Tables)} {H : History Tables GatewayOp Exn} {r : Except Exn IssuedApiKey}
    (h : (createApiKey app env user name).Path gs H r) :
    CreatesApiKey app env user name gs H r := by
  simp only [createApiKey, Prog.path_modify_bind, path_flush_bind, path_record_bind,
    Prog.pure_def, Prog.path_ret] at h
  obtain ⟨K, rfl, d, K, rfl, ⟨-, rfl, rfl⟩ | ⟨-, K, rfl, rfl, rfl⟩⟩ := h
  · exact .refused rfl
  · rw [History.append_nil]
    exact .done

/-- Everything that `revoke_api_key` can do: it raises, or a key of the user is revoked. -/
inductive RevokesApiKey (app : App) (env : Ambient) (user : User) (keyId : String)
    (gs : List (Tables → Tables)) : History Tables GatewayOp Exn → Except Exn Unit → Prop
  | refused {H e} (calls : H.calls = []) : RevokesApiKey app env user keyId gs H (.error e)
  | done {d id key} (named : app.parseUuid keyId = .ok id)
      (found : (view gs d).getApiKey id = some key) (owner : key.userId = user.id) :
      RevokesApiKey app env user keyId gs
        (.ofRead d ++ (.ofWrite (fun t => t.saveApiKey env.now key (withRevocation env key)) ++
          .ofWrite (fun t => t.insertAuditLog
            (auditEntry env .apiKeyRevoked user.id "api_key" keyId))))
        (.ok ())

lemma revokeApiKey_path {app : App} {env : Ambient} {user : User} {keyId : String}
    {gs : List (Tables → Tables)} {H : History Tables GatewayOp Exn} {r : Except Exn Unit}
    (h : (revokeApiKey app env user keyId).Path gs H r) :
    RevokesApiKey app env user keyId gs H r := by
  simp only [revokeApiKey, Prog.path_ofExcept_bind, Prog.path_ask_bind, Prog.path_orRaise_bind,
    Prog.path_raiseIf_bind, Prog.path_modify_bind, not_not] at h
  obtain ⟨e, -, rfl, rfl⟩ | ⟨id, hid, d, K, rfl, ⟨-, rfl, rfl⟩ | ⟨key, hkey, h⟩⟩ := h
  · exact .refused rfl
  · exact .refused rfl
  obtain ⟨-, rfl, rfl⟩ | ⟨howner, K, rfl, L, rfl, rfl, rfl⟩ := h
  · exact .refused rfl
  · rw [History.append_nil]
    exact .done hid hkey howner

/-- Everything that `authenticate_api_key` can do: it raises, or the use of the key is
stamped. -/
inductive UsesApiKey (app : App) (env : Ambient) (presentedKey : String)
    (gs : List (Tables → Tables)) : History Tables GatewayOp Exn → Except Exn User → Prop
  | refused {H e} (calls : H.calls = []) (writes : H.writes = []) :
      UsesApiKey app env presentedKey gs H (.error e)
  | done {d d' key user}
      (found : (view gs d).getByHash (app.sha256 presentedKey) = .ok (some key)) :
      UsesApiKey app env presentedKey gs
        (.ofRead d ++ (.ofRead d' ++ .ofWrite (fun t => t.saveApiKey env.now key (withUse env key))))
        (.ok user)

lemma authenticateApiKey_uses {app : App} {env : Ambient} {presentedKey : String}
    {gs : List (Tables → Tables)} {H : History Tables GatewayOp Exn} {r : Except Exn User}
    (h : (authenticateApiKey app env presentedKey).Path gs H r) :
    UsesApiKey app env presentedKey gs H r := by
  simp only [authenticateApiKey, Prog.path_ask_bind, Prog.path_ofExcept_bind,
    Prog.path_orRaise_bind, Prog.path_raiseIf_bind, Prog.path_modify_bind, Prog.pure_def,
    Prog.path_ret] at h
  obtain ⟨d, K, rfl, ⟨e, -, rfl, rfl⟩ | ⟨found, hfound, ⟨-, rfl, rfl⟩ | ⟨key, rfl, h⟩⟩⟩ := h
  · exact .refused rfl rfl
  · exact .refused rfl rfl
  obtain ⟨-, rfl, rfl⟩ | ⟨-, d', K, rfl, ⟨-, rfl, rfl⟩ | ⟨user, -, h⟩⟩ := h
  · exact .refused rfl rfl
  · exact .refused rfl rfl
  obtain ⟨-, rfl, rfl⟩ | ⟨-, K, rfl, rfl, rfl⟩ := h
  · exact .refused rfl rfl
  · rw [History.append_nil]
    exact .done hfound

/-- A key that the user does not have. -/
lemma run_revokeApiKey_of_not_own {app : App} {env : Ambient} {user : User} {keyId : String}
    {id : Uuid} {t : Tables} {W : Type} {handle : Handler GatewayOp Exn W} {w : W}
    (hid : app.parseUuid keyId = .ok id)
    (hforeign : ∀ key, t.getApiKey id = some key → key.userId ≠ user.id) :
    (revokeApiKey app env user keyId).run handle t w =
      ⟨.error (.notFoundError "API key not found" []), t, w, []⟩ := by
  rw [revokeApiKey, hid, Prog.ofExcept_ok, Prog.ret_bind, Prog.run_ask_bind]
  rcases hkey : t.getApiKey id with _ | key
  · rfl
  · rw [Prog.orRaise, Option.elim, Prog.ofExcept_ok, Prog.ret_bind, Prog.run_raiseIf_bind,
      if_pos (hforeign key hkey)]

/-- When a key is accepted, and as whose. -/
lemma authenticateApiKey_ok_iff {app : App} {env : Ambient} {presentedKey : String} {t : Tables}
    {W : Type} {handle : Handler GatewayOp Exn W} {w : W} {user : User} :
    ((authenticateApiKey app env presentedKey).run handle t w).answer = .ok user ↔
      ∃ key, t.getByHash (app.sha256 presentedKey) = .ok (some key) ∧ key.isActive = true ∧
        key.revokedAt = none ∧ t.getUser key.userId = some user ∧ user.isActive = true := by
  rw [authenticateApiKey, Prog.run_ask_bind]
  -- the lookup by hash, the state of the key, its owner, and the state of the owner
  rcases t.getByHash (app.sha256 presentedKey) with e | _ | key
  · simp
  · simp [Prog.orRaise]
  rw [Prog.ofExcept_ok, Prog.ret_bind, Prog.orRaise, Option.elim, Prog.ofExcept_ok, Prog.ret_bind,
    Prog.run_raiseIf_bind]
  split
  · rename_i hdead
    rcases hdead with hdead | hdead
    · simp [hdead]
    · obtain ⟨at_, hat⟩ := Option.isSome_iff_exists.1 hdead
      simp [hat]
  rename_i hlive
  obtain ⟨hactive, hkept⟩ : key.isActive = true ∧ key.revokedAt = none := by simpa using hlive
  rw [Prog.run_ask_bind]
  rcases howner : t.getUser key.userId with _ | owner
  · simp [Prog.orRaise, hactive, hkept, howner]
  rw [Prog.orRaise, Option.elim, Prog.ofExcept_ok, Prog.ret_bind, Prog.run_raiseIf_bind]
  split
  · rename_i hinactive
    simp only [reduceCtorEq, false_iff]
    rintro ⟨key', hkey', -, -, hfound, hopen⟩
    cases hkey'
    rw [howner, Option.some_inj] at hfound
    rw [← hfound, hinactive] at hopen
    cases hopen
  · rename_i hopen
    constructor
    · intro h
      cases h
      exact ⟨key, rfl, hactive, hkept, howner, by simpa using hopen⟩
    · rintro ⟨key', hkey', -, -, hfound, -⟩
      cases hkey'
      rw [howner, Option.some_inj] at hfound
      rw [← hfound]
      rfl

end PaymentGateway
