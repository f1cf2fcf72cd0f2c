/-
# Whose credentials are used

`GatewayManager.get_provider` decrypts the secret of a configuration with the id of the account
as the associated data (`app/services/gateway_manager.py`).  A token that was sealed for one
account is of no use in the row of another one, so it does not matter who can write the rows.

Requests of any kind, in any number, each in a session of its own: whatever the interleaving, a
provider is called with the adapter of the user who is signed in, and if the secret in it was
sealed by the box at all, it was sealed for this user (`credentials_isolated`).
-/
import PaymentGateway.Authorization
import PaymentGateway.Security.Crypto

namespace PaymentGateway

open Transact

/-! ## The box of the application -/

namespace SecretBox

/-- The exception that leaves `decrypt`; `DecryptionError` is a `ValueError`. -/
def raised : CryptoError → Exn
  | .keyError => .python .keyError
  | .overflowError => .python .overflowError
  | .indexError => .python (.other "IndexError")
  | .invalidTag => .python (.other "InvalidTag")
  | .valueError | .unsupportedVersion | .unknownKeyId _ | .decryptionError => .python .valueError

variable (gcm : Gcm) (box : SecretBox)

/-- `decrypt(token, aad=aad)` between strings; what it returns was decoded, so it is Unicode. -/
def decryptText (token aad : String) : Except Exn String :=
  match box.decrypt gcm token (some (.ofString aad)) with
  | .ok plaintext =>
      (plaintext.mapM CodePoint.char?).elim (.error (.python .valueError)) fun cs =>
        .ok (String.ofList cs)
  | .error e => .error (raised e)

/-- `encrypt(plaintext, aad=aad)` between strings without surrogates, as the service calls it. -/
def encryptText (nonce : Nonce) (plaintext aad : String) : Except CryptoError String :=
  box.encrypt gcm nonce (.ofString plaintext) (some (.ofString aad))

variable {gcm box} {nonce : Nonce} {token plaintext plaintext' aad aad' : String}

lemma decrypt_of_decryptText (h : box.decryptText gcm token aad = .ok plaintext) :
    box.decrypt gcm token (some (.ofString aad)) = .ok (.ofString plaintext) := by
  rw [decryptText] at h
  cases hplain : box.decrypt gcm token (some (.ofString aad)) with
  | error e =>
    rw [hplain] at h
    cases h
  | ok s =>
    rw [hplain] at h
    cases hchars : s.mapM CodePoint.char? with
    | none =>
      simp only [hchars, Option.elim] at h
      cases h
    | some cs =>
      simp only [hchars, Option.elim] at h
      cases h
      rw [PyStr.ofString, String.toList_ofList, ← PyStr.eq_of_mapM_char? hchars]

lemma ofString_injective {s s' : String} (h : PyStr.ofString s = PyStr.ofString s') : s = s' := by
  have hchars := PyStr.mapM_char?_ofString s.toList
  rw [show s.toList.map CodePoint.ofChar = s'.toList.map CodePoint.ofChar from h,
    PyStr.mapM_char?_ofString] at hchars
  exact (String.toList_injective (Option.some.inj hchars)).symm

/-- **What was sealed for one context is read in this context only.** -/
lemma decryptText_encryptText (hgcm : gcm.Ideal)
    (hsealed : box.encryptText gcm nonce plaintext aad = .ok token)
    (hopened : box.decryptText gcm token aad' = .ok plaintext') :
    aad = aad' ∧ plaintext = plaintext' := by
  obtain ⟨key, data, ad, kid, hkey, hdata, had, hkid, hlength, rfl⟩ := encrypt_eq_ok.1 hsealed
  obtain ⟨ad', had'⟩ := exists_aadBytes (some aad')
  rw [Option.map_some] at had'
  have hplain := decrypt_of_decryptText hopened
  rw [decrypt, tryDecrypt_frame gcm _ _ hkid hlength nonce.2 hkey, had'] at hplain
  simp only [bind, Except.bind] at hplain
  by_cases hsame : ad.getD [] = ad'.getD []
  · have hencode := encode_of_aadBytes had
    rw [hsame] at hencode
    obtain rfl : aad = aad' :=
      ofString_injective (PyStr.encode_injective hencode (encode_of_aadBytes had'))
    obtain rfl : ad' = ad := by
      rw [had] at had'
      exact (Except.ok.inj had').symm
    rw [hgcm.correct] at hplain
    simp only [PyStr.decode_of_encode hdata] at hplain
    exact ⟨rfl, ofString_injective (Except.ok.inj hplain)⟩
  · rw [hgcm.authentic _ _ _ _ _ hsame] at hplain
    cases hplain

end SecretBox

/-- The application with this box. -/
def App.withBox (app : App) (gcm : Gcm) (box : SecretBox) : App :=
  { app with decrypt := box.decryptText gcm }

/-! ## Resolution -/

/-- The change leaves the configurations of the providers alone, which no request of the API
writes. -/
def KeepsConfigs (f : Tables → Tables) : Prop := ∀ t, (f t).providerConfigs = t.providerConfigs

lemma keepsConfigs_view {fs : List (Tables → Tables)} (h : ∀ f ∈ fs, KeepsConfigs f) :
    KeepsConfigs (view fs) := by
  induction fs with
  | nil => exact fun t => rfl
  | cons f fs ih =>
    intro t
    rw [view_cons, ih (fun g hg => h g (List.mem_cons_of_mem f hg)) (f t),
      h f List.mem_cons_self t]

/-- A provider is resolved by the configurations alone. -/
lemma resolveProvider_congr {app : App} {ownerId : Uuid} {provider : ProviderName}
    {t t' : Tables} (h : t.providerConfigs = t'.providerConfigs) :
    resolveProvider app ownerId provider t = resolveProvider app ownerId provider t' := by
  rw [resolveProvider, resolveProvider, Tables.getActive, Tables.getActive, h]

/-- The adapter holds what the account has configured, as the box of the application reads it:
a secret that the box has sealed was sealed for this account. -/
inductive ConfiguredFor (app : App) (gcm : Gcm) (box : SecretBox) (t : Tables) (user : User) :
    Adapter → Prop
  /-- A configuration of the account. -/
  | own {row secret} (mem : row ∈ t.providerConfigs) (owner : row.ownerId = user.id)
      (active : row.isActive = true)
      (sealedFor : ∀ nonce plaintext account,
        box.encryptText gcm nonce plaintext account = .ok row.encryptedSecret →
        account = user.id.str ∧ plaintext = secret) :
      ConfiguredFor app gcm box t user
        ⟨row.provider, secret, row.sandbox, row.config, app.http⟩
  /-- The mock provider, which the account has not configured. -/
  | sandbox (none : ∀ row ∈ t.providerConfigs, row.ownerId = user.id → row.isActive = true →
        row.provider ≠ .mock) :
      ConfiguredFor app gcm box t user ⟨.mock, mockSandboxSecret, true, [], app.http⟩

lemma configuredFor_of_resolve {app : App} {gcm : Gcm} (hgcm : gcm.Ideal) {box : SecretBox}
    {user : User} {provider : ProviderName} {t : Tables} {adapter : Adapter}
    (h : resolveProvider (app.withBox gcm box) user.id provider t = .ok adapter) :
    adapter.name = provider ∧ ConfiguredFor (app.withBox gcm box) gcm box t user adapter := by
  refine ⟨(resolveProvider_ok h).1, ?_⟩
  rw [resolveProvider] at h
  cases hactive : t.getActive user.id provider with
  | error e =>
    rw [hactive] at h
    cases h
  | ok found =>
    rw [hactive] at h
    cases found with
    | none =>
      have hnone := scalarOneOrNone_eq_none.1 hactive
      simp only [bind, Except.bind] at h
      split at h
      · rename_i hmock
        subst hmock
        cases h
        refine .sandbox ?_
        intro row hrow howner hopen hprovider
        exact absurd hnone (List.ne_nil_of_mem (List.mem_filter.2
          ⟨hrow, decide_eq_true ⟨howner, hprovider, hopen⟩⟩))
      · cases h
    | some config =>
      obtain ⟨hmem, hfields⟩ := mem_of_filter_eq_singleton (scalarOneOrNone_eq_some.1 hactive)
      obtain ⟨howner, rfl, hopen⟩ := of_decide_eq_true hfields
      cases hsecret : (app.withBox gcm box).decrypt config.encryptedSecret user.id.str with
      | error e =>
        simp only [bind, Except.bind, hsecret] at h
        cases h
      | ok secret =>
        simp only [bind, Except.bind, hsecret] at h
        cases h
        refine .own hmem howner hopen ?_
        intro nonce plaintext account hsealed
        exact SecretBox.decryptText_encryptText hgcm hsealed hsecret

/-! ## The contract of a request -/

/-- The call is made with an adapter that was resolved for the user. -/
inductive ResolvedFor (app : App) (user : User) (H : History Tables GatewayOp Exn) :
    {β : Type} → GatewayOp β → Prop
  | execute {β : Type} {provider : ProviderName} {adapter : Adapter} {op : ProviderOp β}
      {d : Tables} (read : d ∈ H.reads)
      (resolved : resolveProvider app user.id provider d = .ok adapter) :
      ResolvedFor app user H (.execute provider adapter op)

section Model

variable (app : App)

/-- Providers are called for the user, and the configurations are left alone. -/
def resolvedRules (user : User) : Rules Tables GatewayOp Exn where
  call H _ op := ResolvedFor app user H op
  write _ f := KeepsConfigs f

/-- What a request may do here: call a provider only for the user who is signed in, with what was
resolved for that user, and leave the configurations alone. -/
def ownRules (request : HttpCall) : Rules Tables GatewayOp Exn where
  call H _ op := ∃ headers call user, request.call = .user headers call ∧
    SignedIn app headers H user ∧ ResolvedFor app user H op
  write _ f := KeepsConfigs f

end Model

section Handlers

variable {app : App} {env : Ambient} {user : User} {H : History Tables GatewayOp Exn}

lemma ResolvedFor.append {β : Type} {op : GatewayOp β} (h : ResolvedFor app user H op)
    (K : History Tables GatewayOp Exn) : ResolvedFor app user (H ++ K) op := by
  cases h with
  | execute read resolved => exact .execute (List.mem_append_left _ read) resolved

lemma ownRules_stable (app : App) (request : HttpCall) : (ownRules app request).Stable where
  call K _ _ := by
    rintro ⟨headers, call, user, hcall, hsigned, hresolved⟩
    exact ⟨headers, call, user, hcall, hsigned.append K, hresolved.append K⟩
  write _ _ h := h

/-- An adapter is resolved on the tables that were read, whatever is staged. -/
lemma meets_getProvider_bind_resolved {α : Type} {provider : ProviderName}
    {f : Adapter → ServiceProg α} {post : History Tables GatewayOp Exn → α → Prop}
    (hH : ∀ g ∈ H.writes, KeepsConfigs g)
    (hf : ∀ d adapter, resolveProvider app user.id provider d = .ok adapter →
      (f adapter).Meets (resolvedRules app user) post (H ++ .ofRead d)) :
    (getProvider app user.id provider >>= f).Meets (resolvedRules app user) post H := by
  rw [meets_getProvider_bind]
  intro d adapter hadapter
  refine hf d adapter ?_
  rw [← hadapter]
  exact resolveProvider_congr (keepsConfigs_view hH d).symm

lemma createPayment_resolved {args : CreatePaymentArgs} (hH : ∀ g ∈ H.writes, KeepsConfigs g) :
    (createPayment app env user args).Meets (resolvedRules app user) (fun _ _ => True) H := by
  simp only [createPayment, Prog.meets_raiseIf_bind, Prog.meets_modify_bind, meets_flush_bind]
  refine fun _ => ⟨fun t => rfl, fun d _ => ?_⟩
  refine meets_getProvider_bind_resolved ?_ fun d' adapter hadapter => ?_
  · intro g hg
    simp only [History.writes_append, History.writes_ofWrite, History.writes_ofRead,
      List.append_nil, List.mem_append, List.mem_singleton] at hg
    rcases hg with hg | rfl
    · exact hH g hg
    · exact fun t => rfl
  · simp only [Prog.meets_perform_bind, Prog.meets_ofExcept_bind, Prog.meets_modify_bind,
      meets_record_bind, Prog.pure_def, Prog.meets_ret]
    exact ⟨.execute (d := d') (by simp) hadapter,
      fun _ _ _ => ⟨fun t => rfl, fun t => rfl, trivial⟩⟩

lemma capturePayment_resolved {paymentId : Uuid} {amount : Option Money}
    (hH : ∀ g ∈ H.writes, KeepsConfigs g) :
    (capturePayment app env user paymentId amount).Meets (resolvedRules app user)
      (fun _ _ => True) H := by
  simp only [capturePayment, meets_requirePayment_bind, Prog.meets_raiseIf_bind]
  intro d payment _ _ _ _
  refine meets_getProvider_bind_resolved (by simpa using hH) fun d' adapter hadapter => ?_
  simp only [Prog.meets_perform_bind, Prog.meets_ofExcept_bind, Prog.meets_modify_bind,
    meets_record_bind, Prog.pure_def, Prog.meets_ret]
  exact ⟨.execute (d := d') (by simp) hadapter,
    fun _ _ _ => ⟨fun t => rfl, fun t => rfl, trivial⟩⟩

lemma cancelPayment_resolved {paymentId : Uuid} (hH : ∀ g ∈ H.writes, KeepsConfigs g) :
    (cancelPayment app env user paymentId).Meets (resolvedRules app user)
      (fun _ _ => True) H := by
  simp only [cancelPayment, meets_requirePayment_bind, Prog.meets_ofExcept_bind]
  intro d payment _ _ _
  refine meets_getProvider_bind_resolved (by simpa using hH) fun d' adapter hadapter => ?_
  simp only [Prog.meets_perform_bind, Prog.meets_modify_bind, meets_record_bind, Prog.pure_def,
    Prog.meets_ret]
  exact ⟨.execute (d := d') (by simp) hadapter,
    fun _ => ⟨fun t => rfl, fun t => rfl, trivial⟩⟩

lemma createRefund_resolved {paymentId : Uuid} {amountMinor : Option ℤ} {reason : Option String}
    (hH : ∀ g ∈ H.writes, KeepsConfigs g) :
    (createRefund app env user paymentId amountMinor reason).Meets (resolvedRules app user)
      (fun _ _ => True) H := by
  simp only [createRefund, meets_requirePayment_bind, Prog.meets_raiseIf_bind]
  intro d payment _ _ _ _
  refine meets_getProvider_bind_resolved (by simpa using hH) fun d' adapter hadapter => ?_
  simp only [Prog.meets_perform_bind, Prog.meets_ofExcept_bind, Prog.meets_modify_bind,
    meets_flush_bind, meets_record_bind, Prog.pure_def, Prog.meets_ret]
  exact ⟨.execute (d := d') (by simp) hadapter, fun _ => ⟨fun t => rfl, fun _ _ =>
    ⟨fun t => rfl, fun _ _ => ⟨fun t => rfl, trivial⟩⟩⟩⟩

lemma operation_resolved {key : Option String} {post : Post}
    (hH : ∀ g ∈ H.writes, KeepsConfigs g) :
    (post.operation app env user key).Meets (resolvedRules app user) (fun _ _ => True) H := by
  cases post with
  | payment payload =>
    refine Prog.meets_bind.2 ((createPayment_resolved hH).mono (fun _ _ _ h => h)
      (fun _ _ h => h) fun K payment _ => ?_)
    simp only [Prog.meets_ofExcept_bind, Prog.pure_def, Prog.meets_ret]
    exact fun _ _ => trivial
  | refund paymentId payload =>
    refine Prog.meets_bind.2 ((createRefund_resolved hH).mono (fun _ _ _ h => h)
      (fun _ _ h => h) fun K refund _ => ?_)
    simp only [Prog.meets_ofExcept_bind, Prog.pure_def, Prog.meets_ret]
    exact fun _ _ => trivial

/-- Storing the response keeps to the rules as well. -/
lemma idempotently_resolved {endpoint : String} {key : Option String}
    {body : List (String × Json)} {operation : ServiceProg ResponseBody}
    (hH : ∀ g ∈ H.writes, KeepsConfigs g)
    (hop : ∀ K : History Tables GatewayOp Exn, (∀ g ∈ K.writes, KeepsConfigs g) →
      operation.Meets (resolvedRules app user) (fun _ _ => True) K) :
    (idempotently app env user.id endpoint key body operation).Meets (resolvedRules app user)
      (fun _ _ => True) H := by
  rw [idempotently]
  split
  · simp only [lookup, Prog.bind_assoc, Prog.meets_ask_bind, Prog.meets_ofExcept_bind]
    intro d found _
    cases found with
    | some row =>
      simp only [Prog.bind_assoc, Prog.meets_raiseIf_bind, Prog.pure_def, Prog.ret_bind,
        Prog.meets_ret]
      exact fun _ => trivial
    | none =>
      simp only [Prog.pure_def, Prog.ret_bind, runAndStore, store, Prog.bind_assoc]
      refine Prog.meets_bind.2 ((hop _ (by simpa using hH)).mono (fun _ _ _ h => h)
        (fun _ _ h => h) fun K response _ => ?_)
      simp only [Prog.meets_modify_bind, meets_flush_bind, Prog.meets_ret]
      exact ⟨fun t => rfl, fun _ _ => trivial⟩
  · refine Prog.meets_bind.2 ((hop H hH).mono (fun _ _ _ h => h) (fun _ _ h => h) ?_)
    exact fun _ _ _ => trivial

lemma handler_resolved {call : UserCall} {key : Option String}
    (hH : ∀ g ∈ H.writes, KeepsConfigs g) :
    (call.handler app env user key).Meets (resolvedRules app user) (fun _ _ => True) H := by
  cases hmoney : call.movesMoney with
  | false =>
    refine (UserCall.handler_meets hmoney).mono (fun _ _ _ h => h.elim) (fun _ f h t => ?_)
      fun _ _ _ => trivial
    exact (h t).2.2.2
  | true =>
    cases call with
    | post request =>
      refine Prog.meets_bind.2 ?_
      rw [Post.handler_eq]
      exact (idempotently_resolved hH fun K hK => operation_resolved hK).mono (fun _ _ _ h => h)
        (fun _ _ h => h) fun _ _ _ => trivial
    | capturePayment paymentId payload =>
      refine Prog.meets_bind.2 ?_
      simp only [capturePaymentEndpoint, getPayment, meets_requirePayment_bind]
      intro d payment _
      refine Prog.meets_bind.2 ((capturePayment_resolved (by simpa using hH)).mono
        (fun _ _ _ h => h) (fun _ _ h => h) fun K updated _ => ?_)
      exact Prog.meets_ofExcept.2 fun _ _ => trivial
    | cancelPayment paymentId =>
      refine Prog.meets_bind.2 ?_
      rw [cancelPaymentEndpoint]
      refine Prog.meets_bind.2 ((cancelPayment_resolved hH).mono (fun _ _ _ h => h)
        (fun _ _ h => h) fun K updated _ => ?_)
      exact Prog.meets_ofExcept.2 fun _ _ => trivial
    | _ => cases hmoney

/-- **What a request calls, and with what.** -/
lemma HttpCall.prog_own (app : App) (request : HttpCall) :
    (request.prog app).Meets (ownRules app request) (fun _ _ => True) .nil := by
  obtain ⟨env, _ | ⟨headers, call⟩⟩ := request
  · exact (OpenCall.prog_meets _).mono (fun _ _ _ h => h.elim) (fun _ f h t => (h t).2.2.2)
      fun _ _ _ => trivial
  · rw [HttpCall.prog, Prog.meets_bind]
    -- the credentials were looked up without touching a configuration
    have hkept : ∀ (L : History Tables GatewayOp Exn) f, harmlessly.write L f → KeepsConfigs f :=
      fun _ f h t => (h t).2.2.2
    refine ((dependency_meets call).and_writes hkept (by simp)).mono (fun _ _ _ h => h.elim)
      (fun _ f h => hkept _ f h) ?_
    rintro K user ⟨⟨hsigned, -⟩, hkeep⟩
    refine (handler_resolved hkeep).mono (fun L β op h => ?_) (fun _ _ h => h) fun _ _ _ => trivial
    exact ⟨headers, call, user, rfl, hsigned.append L, h⟩

end Handlers

/-! ## All interleavings -/

/-- The call is made for the user who is signed in, with what this user has configured. -/
inductive CallsForUser (app : App) (gcm : Gcm) (box : SecretBox) (t : Tables)
    (request : HttpCall) (H : History Tables GatewayOp Exn) : {β : Type} → GatewayOp β → Prop
  | execute {β : Type} {headers call user provider adapter} {op : ProviderOp β}
      (route : request.call = .user headers call) (signedIn : SignedIn app headers H user)
      (named : adapter.name = provider) (configured : ConfiguredFor app gcm box t user adapter) :
      CallsForUser app gcm box t request H (.execute provider adapter op)

section Interleavings

variable {ι W C : Type} {app : App} {handle : C → Handler GatewayOp Exn W}
  {requests : ι → HttpCall} {t : Tables} {s : ApiSystem ι W C} {m : Move ι C}

/-- Every session keeps to its rules, and the configurations are the ones of `t`, now and
whenever they were read. -/
structure KeepsOwn (app : App) (requests : ι → HttpCall) (t : Tables) (s : ApiSystem ι W C) :
    Prop where
  honours : ∀ i, (s.session i).Honours (ownRules app (requests i)) fun _ _ => True
  store : s.store.providerConfigs = t.providerConfigs
  reads : ∀ i, ∀ d ∈ (s.session i).history.reads, d.providerConfigs = t.providerConfigs

lemma keepsOwn_start {w : W} :
    KeepsOwn app requests t (apiStart app requests t w : ApiSystem ι W C) where
  honours i := Session.honours_fresh ((requests i).prog_own app)
  store := rfl
  reads i d hd := by cases hd

lemma keepsOwn_step [DecidableEq ι] (hs : KeepsOwn app requests t s) :
    KeepsOwn app requests t (System.step (serviceHost app handle) s m) where
  honours := System.honours_step (fun i => ownRules_stable app (requests i)) hs.honours m
  store := by
    rcases System.store_step (h := serviceHost app handle) (s := s) (m := m) with
      ⟨hstore, -, -⟩ | ⟨a, -, hstore, -⟩
    · rw [hstore, hs.store]
    · rw [hstore, keepsConfigs_view (hs.honours m.session).writes, hs.store]
  reads i d hd := by
    by_cases hi : i = m.session
    · subst hi
      rw [System.step_session_self] at hd
      rcases Session.reads_advance d hd with hold | rfl
      · exact hs.reads _ d hold
      · exact hs.store
    · rw [System.step_session_of_ne _ _ _ hi] at hd
      exact hs.reads i d hd

/-- **Every account is served with its own credentials.**  In every state of every interleaving,
each call of a provider was made for the user who is signed in, with what this user has
configured: a token that was sealed for another account is not in use anywhere. -/
theorem credentials_isolated [DecidableEq ι] {gcm : Gcm} (hgcm : gcm.Ideal) (box : SecretBox)
    (app : App) (handle : C → Handler GatewayOp Exn W) (requests : ι → HttpCall) (t : Tables)
    (w : W) (moves : List (Move ι C)) :
    Always (System.step (serviceHost (app.withBox gcm box) handle))
      (fun s => ∀ i, ∀ c ∈ (s.session i).history.calls,
        CallsForUser (app.withBox gcm box) gcm box t (requests i) (s.session i).history c.op)
      (apiStart (app.withBox gcm box) requests t w) moves := by
  refine (always_of_step (fun s m hs => keepsOwn_step hs) keepsOwn_start moves).mono ?_
  intro s hs i c hc
  obtain ⟨headers, call, user, hcall, hsigned, hresolved⟩ := (hs.honours i).calls c hc
  cases hop : c.op with
  | execute provider adapter op =>
    rw [hop] at hresolved
    cases hresolved with
    | execute read resolved =>
      rw [resolveProvider_congr (hs.reads i _ read)] at resolved
      obtain ⟨hname, hown⟩ := configuredFor_of_resolve hgcm resolved
      exact .execute hcall hsigned hname hown

end Interleavings

/-- A merchant with an API key, and the secret of Stripe as the box has sealed it. -/
def credentialTables : Tables :=
  { Tables.empty with
    users := [demoUser]
    apiKeys := [⟨.ofNat 3, demoUser.id, "ci", "upgi_sk_1", "upgi_sk_1", true, none, none, 0, 0⟩]
    providerConfigs := [⟨.ofNat 2, demoUser.id, .stripe,
      "AQJrMQABAgMEBQYHCAkKCwEBAQEBAQEBAQEBAQEBAQEBAQEBAQEBAQEBAQEBAQEBAQEBAQAwMDAwMDAwMC0wMDAwL" ++
      "TAwMDAtMDAwMC0wMDAwMDAwMDAwMDFza19saXZl", [], true, true, 0, 0⟩] }

/-- A payment of the merchant at Stripe, with the merchant's API key. -/
def credentialRequest : HttpCall where
  env := demoEnv 1
  call := .user ⟨some "upgi_sk_1", none, none⟩ (.post (.payment (demoPayload .stripe)))

/-- The application with the box that has sealed the secret. -/
def credentialApp : App := demoApp.withBox SecretBox.demoGcm (SecretBox.demoBox "k1")

/-- One request to pay, over the tables with the merchant's sealed secret. -/
def credentialStart : ApiSystem Unit Unit Unit :=
  apiStart credentialApp (fun _ => credentialRequest) credentialTables ()

/-- A step of the system, with the mock provider behind it. -/
def credentialStep : ApiSystem Unit Unit Unit → Move Unit Unit → ApiSystem Unit Unit Unit :=
  System.step (serviceHost credentialApp (mockHandler "pi_1"))

/-- The payment is made with the merchant's secret. -/
theorem credentials_isolated_demo :
    ((run credentialStep credentialStart
      (List.replicate 7 ⟨(), ()⟩)).session ()).history.calls.length = 1 ∧
    Always credentialStep
      (fun s => ∀ i, ∀ c ∈ (s.session i).history.calls,
        CallsForUser credentialApp SecretBox.demoGcm (SecretBox.demoBox "k1") credentialTables
          credentialRequest (s.session i).history c.op) credentialStart
      (List.replicate 7 ⟨(), ()⟩) :=
  ⟨by decide +kernel, credentials_isolated SecretBox.demoGcm_ideal (SecretBox.demoBox "k1") demoApp
    (mockHandler "pi_1") (fun _ => credentialRequest) credentialTables () _⟩

end PaymentGateway
