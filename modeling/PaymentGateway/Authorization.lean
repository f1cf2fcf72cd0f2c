/-
# Who may do what

Requests of any kind, in any number, each in a session of its own.  Whatever the interleaving,
whatever the tables hold and whatever the providers answer:

* a request calls a provider, or stages a change of a payment, a refund or a record of an
  idempotency key, only after its credentials were found to be those of an active user who is
  an admin or a merchant, and only if its route is one of the four that move money;
* the program of a request that needs a user returns, and so gives an answer, only if the
  credentials are those of an active user with one of the roles of the route.

The roles of a route are written down here once more, apart from the scopes that the code maps
them to (`UserCall.roles`).
-/
import PaymentGateway.Endpoints
import PaymentGateway.Services.Contracts

namespace PaymentGateway

open Transact

/-! ## Credentials -/

/-- The credentials in the headers were found to be those of the active user, on the tables
that the session has read. -/
inductive SignedIn (app : App) (headers : Headers) (H : History Tables GatewayOp Exn)
    (user : User) : Prop where
  /-- A live API key of the user was presented. -/
  | apiKey {d d' : Tables} {key : ApiKey} (presented : given headers.apiKey = true)
      (read : d ∈ H.reads)
      (found : d.getByHash (app.sha256 (headers.apiKey.getD "")) = .ok (some key))
      (live : key.isActive = true ∧ key.revokedAt = none) (later : d' ∈ H.reads)
      (owner : d'.getUser key.userId = some user) (active : user.isActive = true)
  /-- An access token of the user was presented, and no API key. -/
  | bearer {d : Tables} {subject : String} {id : Uuid} (absent : given headers.apiKey = false)
      (token : app.decode (partitionSpace (headers.authorization.getD "")).2 "access" =
        .ok subject)
      (named : app.parseUuid subject = .ok id) (read : d ∈ H.reads)
      (found : d.getUser id = some user) (active : user.isActive = true)

/-- The roles that a route is meant for, written down without a look at its scopes.  A request
that fails the validation has met the same checks. -/
def UserCall.roles : UserCall → List UserRole
  | .me | .createApiKey _ | .listApiKeys | .revokeApiKey _ => [.admin, .merchant, .viewer]
  | .listPayments _ _ _ | .getPayment _ => [.admin, .merchant, .viewer]
  | .post _ | .capturePayment _ _ | .cancelPayment _ => [.admin, .merchant]
  | .listProviders | .paymentStats => [.admin]
  | .invalid .createApiKey _ | .invalid .listPayments _ | .invalid .getPayment _ =>
      [.admin, .merchant, .viewer]
  | .invalid .createPayment _ | .invalid .createRefund _ | .invalid .capturePayment _
  | .invalid .cancelPayment _ => [.admin, .merchant]

/-- The routes that move money; none of the others has to do with a provider. -/
def UserCall.movesMoney : UserCall → Bool
  | .post _ | .capturePayment _ _ | .cancelPayment _ => true
  | _ => false

section Model

variable (app : App) (request : HttpCall)

/-- The request may move money: its route is one that does, and it was found to be made for an
active user who is not a viewer. -/
def MayMoveMoney (H : History Tables GatewayOp Exn) : Prop :=
  ∃ headers call user, request.call = .user headers call ∧ call.movesMoney = true ∧
    SignedIn app headers H user ∧ user.role ≠ .viewer

/-- The request may be answered: a route that needs a user has found an active one, with a role
that the route is meant for. -/
def MayBeAnswered (H : History Tables GatewayOp Exn) : Prop :=
  match request.call with
  | .open _ => True
  | .user headers call => ∃ user, SignedIn app headers H user ∧ user.role ∈ call.roles

/-- The change leaves everything alone that has to do with money: payments, refunds, stored
responses and the configurations of the providers. -/
def Harmless (f : Tables → Tables) : Prop :=
  ∀ t, (f t).payments = t.payments ∧ (f t).refunds = t.refunds ∧
    (f t).idempotencyKeys = t.idempotencyKeys ∧ (f t).providerConfigs = t.providerConfigs

/-- The contract of a request: money only with permission, and no calls for anything else. -/
def accessRules : Rules Tables GatewayOp Exn where
  call H _ _ := MayMoveMoney app request H
  write H f := Harmless f ∨ MayMoveMoney app request H

/-- What holds of a session at any time: what it has called, staged or returned was allowed to
the user whom it has read by then. -/
structure Authorized {C : Type} (x : Session Tables C GatewayOp Exn ApiAnswer) : Prop where
  calls : x.history.calls ≠ [] → MayMoveMoney app request x.history
  writes : ∀ f ∈ x.history.writes, Harmless f ∨ MayMoveMoney app request x.history
  answer : ∀ a, x.HasReturned a → MayBeAnswered app request x.history

end Model

/-! ## Scopes and roles -/

lemma role_of_write {scope : String} (h : scope = scopePaymentsWrite ∨ scope = scopeRefundsWrite)
    (role : UserRole) (hscope : hasScope (scopesForRole role) scope = true) :
    role ∈ [UserRole.admin, .merchant] := by
  rcases h with rfl | rfl <;> cases role <;> first | decide | exact absurd hscope (by decide)

lemma role_of_admin (role : UserRole) (h : hasScope (scopesForRole role) scopeAdmin = true) :
    role ∈ [UserRole.admin] := by
  cases role <;> first | decide | exact absurd h (by decide)

/-- Who has the scope of a route has one of the roles of the route. -/
lemma UserCall.mem_roles {call : UserCall} {role : UserRole}
    (h : ∀ scope ∈ call.scope, hasScope (scopesForRole role) scope = true) :
    role ∈ call.roles := by
  have hall : role ∈ [UserRole.admin, .merchant, .viewer] := by cases role <;> decide
  cases call with
  | me | createApiKey | listApiKeys | revokeApiKey | listPayments | getPayment => exact hall
  | post request =>
    refine role_of_write ?_ role (h request.scope rfl)
    cases request
    · exact Or.inl rfl
    · exact Or.inr rfl
  | capturePayment | cancelPayment => exact role_of_write (Or.inl rfl) role (h _ rfl)
  | listProviders | paymentStats => exact role_of_admin role (h _ rfl)
  | invalid route errors =>
    cases route with
    | createApiKey | listPayments | getPayment => exact hall
    | createPayment | capturePayment | cancelPayment =>
      exact role_of_write (Or.inl rfl) role (h _ rfl)
    | createRefund => exact role_of_write (Or.inr rfl) role (h _ rfl)

lemma UserCall.ne_viewer {call : UserCall} (hmoney : call.movesMoney = true) {role : UserRole}
    (hrole : role ∈ call.roles) : role ≠ .viewer := by
  rintro rfl
  cases call with
  | post | capturePayment | cancelPayment => simp [roles] at hrole
  | _ => cases hmoney

/-! ## What is found out about the user -/

section SigningIn

variable {app : App} {env : Ambient} {headers : Headers} {H : History Tables GatewayOp Exn}
  {user : User}

lemma SignedIn.append (h : SignedIn app headers H user) (K : History Tables GatewayOp Exn) :
    SignedIn app headers (H ++ K) user := by
  cases h with
  | apiKey presented read found live later owner active =>
    exact .apiKey presented (List.mem_append_left _ read) found live
      (List.mem_append_left _ later) owner active
  | bearer absent token named read found active =>
    exact .bearer absent token named (List.mem_append_left _ read) found active

lemma MayMoveMoney.append {request : HttpCall} (h : MayMoveMoney app request H)
    (K : History Tables GatewayOp Exn) : MayMoveMoney app request (H ++ K) := by
  obtain ⟨headers, call, user, hcall, hmoney, hsigned, hrole⟩ := h
  exact ⟨headers, call, user, hcall, hmoney, hsigned.append K, hrole⟩

lemma accessRules_stable (app : App) (request : HttpCall) : (accessRules app request).Stable where
  call K _ _ h := h.append K
  write K _ h := h.imp_right fun h => h.append K

/-- The rules of a program that has nothing to do with money. -/
def harmlessly : Rules Tables GatewayOp Exn where
  call _ _ _ := False
  write _ f := Harmless f

lemma harmless_insertUser (user : User) : Harmless fun t => t.insertUser user :=
  fun _ => ⟨rfl, rfl, rfl, rfl⟩

lemma harmless_saveUser (now : Timestamp) (old new : User) :
    Harmless fun t => t.saveUser now old new :=
  fun _ => ⟨rfl, rfl, rfl, rfl⟩

lemma harmless_insertApiKey (key : ApiKey) : Harmless fun t => t.insertApiKey key :=
  fun _ => ⟨rfl, rfl, rfl, rfl⟩

lemma harmless_saveApiKey (now : Timestamp) (old new : ApiKey) :
    Harmless fun t => t.saveApiKey now old new :=
  fun _ => ⟨rfl, rfl, rfl, rfl⟩

lemma harmless_insertWebhookEvent (event : WebhookEvent) :
    Harmless fun t => t.insertWebhookEvent event :=
  fun _ => ⟨rfl, rfl, rfl, rfl⟩

lemma harmless_insertAuditLog (entry : AuditLog) : Harmless fun t => t.insertAuditLog entry :=
  fun _ => ⟨rfl, rfl, rfl, rfl⟩

lemma authenticateApiKey_meets (hgiven : given headers.apiKey = true) :
    (authenticateApiKey app env (headers.apiKey.getD "")).Meets harmlessly
      (fun H user => SignedIn app headers H user) .nil := by
  simp only [authenticateApiKey, Prog.meets_ask_bind, Prog.meets_ofExcept_bind,
    Prog.meets_orRaise_bind, Prog.meets_raiseIf_bind, Prog.meets_modify_bind, Prog.pure_def,
    Prog.meets_ret]
  intro d found hfound key hkey hlive d' user howner hactive
  refine ⟨harmless_saveApiKey _ _ _, ?_⟩
  rw [hkey] at hfound
  obtain ⟨hopen, hkept⟩ : key.isActive = true ∧ key.revokedAt = none := by simpa using hlive
  exact @SignedIn.apiKey _ _ _ _ d d' key hgiven (by simp) (by simpa using hfound)
    ⟨hopen, hkept⟩ (by simp) (by simpa using howner) (by simpa using hactive)

lemma userFromAccessToken_meets (habsent : given headers.apiKey = false) :
    (userFromAccessToken app (partitionSpace (headers.authorization.getD "")).2).Meets harmlessly
      (fun H user => SignedIn app headers H user) .nil := by
  simp only [userFromAccessToken, Prog.meets_ask_bind, Prog.meets_ofExcept_bind,
    Prog.meets_orRaise_bind, Prog.meets_raiseIf_bind, Prog.pure_def, Prog.meets_ret]
  intro subject htoken id hid d user hfound hactive
  exact .bearer habsent htoken hid (d := d) (by simp) (by simpa using hfound)
    (by simpa using hactive)

lemma getCurrentUser_meets :
    (getCurrentUser app env headers).Meets harmlessly
      (fun H user => SignedIn app headers H user) .nil := by
  rw [getCurrentUser]
  split
  · rename_i hgiven
    exact authenticateApiKey_meets hgiven
  · rename_i habsent
    dsimp only
    split
    · exact userFromAccessToken_meets (by simpa using habsent)
    · trivial

/-- The dependency of a route lets in who has one of its roles. -/
lemma dependency_meets (call : UserCall) :
    (call.dependency app env headers).Meets harmlessly
      (fun H user => SignedIn app headers H user ∧ user.role ∈ call.roles) .nil := by
  rw [UserCall.dependency]
  cases hscope : call.scope with
  | none =>
    refine getCurrentUser_meets.mono (fun _ _ _ h => h) (fun _ _ h => h) fun K user h => ⟨h, ?_⟩
    refine UserCall.mem_roles fun scope hmem => ?_
    rw [hscope] at hmem
    cases hmem
  | some scope =>
    dsimp only
    rw [requireScope, Prog.meets_bind]
    refine getCurrentUser_meets.mono (fun _ _ _ h => h) (fun _ _ h => h) fun K user h => ?_
    rw [Prog.meets_raiseIf_bind]
    refine fun hgranted => ⟨h, UserCall.mem_roles fun scope' hmem => ?_⟩
    rw [hscope, Option.mem_some] at hmem
    rw [← hmem]
    simpa using hgranted

end SigningIn

/-! ## What the handlers do -/

section Handlers

variable {app : App} {env : Ambient} {H : History Tables GatewayOp Exn} {user : User}

lemma register_meets {email password : String} {fullName : Option String} :
    (register app env email password fullName).Meets harmlessly (fun _ _ => True) H := by
  simp only [register, Prog.meets_ask_bind, Prog.meets_raiseIf_bind, Prog.meets_ofExcept_bind,
    Prog.meets_modify_bind, meets_flush_bind, meets_record_bind, Prog.pure_def, Prog.meets_ret]
  intro d _ hashed _
  exact ⟨harmless_insertUser _, fun d' _ => ⟨harmless_insertAuditLog _, trivial⟩⟩

lemma authenticate_meets {email password : String} :
    (authenticate app env email password).Meets harmlessly (fun _ _ => True) H := by
  simp only [authenticate, Prog.meets_ask_bind, Prog.meets_ofExcept_bind]
  intro d found _
  cases found with
  | none => trivial
  | some user =>
    dsimp only
    split
    · exact ⟨harmless_saveUser _ _ _, trivial⟩
    · simp only [Prog.meets_raiseIf_bind, Prog.meets_ofExcept_bind, Prog.meets_modify_bind,
        meets_record_bind, Prog.pure_def, Prog.meets_ret]
      intro _ hashed _
      exact ⟨harmless_saveUser _ _ _, harmless_insertAuditLog _, trivial⟩

lemma refresh_meets {refreshToken : String} :
    (refresh app refreshToken).Meets harmlessly (fun _ _ => True) H := by
  simp only [refresh, Prog.meets_ask_bind, Prog.meets_ofExcept_bind, Prog.meets_orRaise_bind,
    Prog.meets_raiseIf_bind, Prog.pure_def, Prog.meets_ret]
  intros
  trivial

lemma receiveWebhook_meets {request : WebhookRequest} :
    (receiveWebhook app env request).Meets harmlessly (fun _ _ => True) H := by
  simp only [receiveWebhook, handleWebhook, Prog.bind_assoc, Prog.meets_ofExcept_bind,
    meets_getProvider_bind, Prog.meets_ask_bind]
  intro ownerId _ d adapter _ verified _ d' found _
  cases found with
  | some event => trivial
  | none =>
    simp only [Prog.bind_assoc, Prog.meets_modify_bind, meets_flush_bind, Prog.pure_def,
      Prog.ret_bind, Prog.meets_ret]
    exact ⟨harmless_insertWebhookEvent _, fun d'' _ => ⟨harmless_insertAuditLog _, trivial⟩⟩

/-- A route without credentials has nothing to do with money. -/
lemma OpenCall.prog_meets (call : OpenCall) :
    (call.prog app env).Meets harmlessly (fun _ _ => True) H := by
  cases call with
  | register => exact Prog.meets_bind.2 register_meets
  | login => exact Prog.meets_bind.2 (Prog.meets_bind.2 authenticate_meets)
  | refresh => exact Prog.meets_bind.2 refresh_meets
  | receiveWebhook => exact Prog.meets_bind.2 receiveWebhook_meets
  | invalid => trivial

/-- Neither has a route on behalf of a user that does not move money. -/
lemma UserCall.handler_meets {call : UserCall} (hmoney : call.movesMoney = false)
    {idempotencyKey : Option String} :
    (call.handler app env user idempotencyKey).Meets harmlessly (fun _ _ => True) H := by
  cases call with
  | post | capturePayment | cancelPayment => cases hmoney
  | me | listProviders | invalid => trivial
  | createApiKey name =>
    simp only [handler, PaymentGateway.createApiKey, Prog.bind_assoc, Prog.meets_modify_bind,
      meets_flush_bind, meets_record_bind, Prog.pure_def, Prog.ret_bind, Prog.meets_ret]
    exact ⟨harmless_insertApiKey _, fun d _ => ⟨harmless_insertAuditLog _, trivial⟩⟩
  | listApiKeys => exact fun d => trivial
  | revokeApiKey keyId =>
    simp only [handler, PaymentGateway.revokeApiKey, Prog.bind_assoc, Prog.meets_ask_bind,
      Prog.meets_ofExcept_bind, Prog.meets_orRaise_bind, Prog.meets_raiseIf_bind,
      Prog.meets_modify_bind, meets_record_bind, Prog.pure_def, Prog.meets_ret]
    intros
    exact ⟨harmless_saveApiKey _ _ _, harmless_insertAuditLog _, trivial⟩
  | listPayments status limit offset =>
    simp only [handler, PaymentGateway.listPayments, Prog.bind_assoc, Prog.meets_ask_bind,
      Prog.pure_def, Prog.ret_bind, Prog.meets_ofExcept_bind, Prog.meets_ret]
    intros
    trivial
  | getPayment paymentId =>
    simp only [handler, PaymentGateway.getPayment, meets_requirePayment_bind,
      Prog.meets_ofExcept_bind, Prog.pure_def, Prog.meets_ret]
    intros
    trivial
  | paymentStats => exact fun d d' => trivial

/-- **What a request keeps to.** -/
lemma HttpCall.prog_meets (app : App) (request : HttpCall) :
    (request.prog app).Meets (accessRules app request)
      (fun H _ => MayBeAnswered app request H) .nil := by
  obtain ⟨env, _ | ⟨headers, call⟩⟩ := request
  · refine (OpenCall.prog_meets _).mono (fun _ _ _ h => h.elim) (fun _ f h => Or.inl h) ?_
    exact fun _ _ _ => trivial
  · rw [HttpCall.prog, Prog.meets_bind]
    refine (dependency_meets call).mono (fun _ _ _ h => h.elim) (fun _ f h => Or.inl h) ?_
    rintro K user ⟨hsigned, hrole⟩
    have hanswer (L : History Tables GatewayOp Exn) :
        MayBeAnswered app ⟨env, .user headers call⟩ (.nil ++ K ++ L) :=
      ⟨user, hsigned.append L, hrole⟩
    cases hmoney : call.movesMoney with
    | true =>
      have hmay (L : History Tables GatewayOp Exn) :
          MayMoveMoney app ⟨env, .user headers call⟩ (.nil ++ K ++ L) :=
        ⟨headers, call, user, rfl, hmoney, hsigned.append L, call.ne_viewer hmoney hrole⟩
      exact Prog.meets_of_allowed (fun L _ _ => hmay L) (fun L f => Or.inr (hmay L))
        fun L _ => hanswer L
    | false =>
      exact (UserCall.handler_meets hmoney).mono (fun _ _ _ h => h.elim) (fun _ f h => Or.inl h)
        fun L _ _ => hanswer L

end Handlers

/-! ## All interleavings -/

section Interleavings

variable {ι W C : Type} [DecidableEq ι] (app : App) (handle : C → Handler GatewayOp Exn W)
  (requests : ι → HttpCall)

/-- Money has moved from one state to the next only by a request that may move it. -/
def MovedByPermission (s s' : ApiSystem ι W C) : Prop :=
  (s'.store.payments = s.store.payments ∧ s'.store.refunds = s.store.refunds ∧
      s'.store.idempotencyKeys = s.store.idempotencyKeys ∧
      s'.store.providerConfigs = s.store.providerConfigs) ∨
    ∃ i, MayMoveMoney app (requests i) (s'.session i).history

lemma harmless_view {fs : List (Tables → Tables)} (h : ∀ f ∈ fs, Harmless f) :
    Harmless (view fs) := by
  induction fs with
  | nil => exact fun t => ⟨rfl, rfl, rfl, rfl⟩
  | cons f fs ih =>
    intro t
    obtain ⟨h1, h2, h3, h4⟩ := h f List.mem_cons_self t
    obtain ⟨h1', h2', h3', h4'⟩ := ih (fun g hg => h g (List.mem_cons_of_mem f hg)) (f t)
    exact ⟨h1'.trans h1, h2'.trans h2, h3'.trans h3, h4'.trans h4⟩

/-- **Authorization under concurrency.**  In every state of every interleaving, no session has
called a provider or staged a change of money, and none has an answer, without the credentials
of an active user with a role that the route is meant for; and every step that changes the
published payments, refunds or records is taken by a request that may move money. -/
theorem authorization (t : Tables) (w : W) (moves : List (Move ι C)) :
    Always (System.step (serviceHost app handle))
        (fun s => ∀ i, Authorized app (requests i) (s.session i))
        (apiStart app requests t w) moves ∧
      EachStep (System.step (serviceHost app handle)) (MovedByPermission app requests)
        (apiStart app requests t w) moves := by
  have hstable (i : ι) := accessRules_stable app (requests i)
  have hmeets (i : ι) := (requests i).prog_meets app
  constructor
  · have hhonours : Always (System.step (serviceHost app handle)) (fun s => ∀ i,
        (s.session i).Honours (accessRules app (requests i))
          fun H _ => MayBeAnswered app (requests i) H) (apiStart app requests t w) moves :=
      System.always_honours hstable hmeets t w moves
    refine hhonours.mono fun s hs i => ⟨?_, (hs i).writes, fun _ => (hs i).returned⟩
    intro hcalls
    obtain ⟨c, hc⟩ := List.exists_mem_of_ne_nil _ hcalls
    exact (hs i).calls c hc
  · have hall : Obeys (System.step (serviceHost app handle)) (fun _ _ => True)
        (apiStart app requests t w) moves := obeys_of_forall fun _ _ => trivial
    have hstart : ∀ i, ((apiStart app requests t w : ApiSystem ι W C).session i).Honours
        (accessRules app (requests i)) (fun H _ => MayBeAnswered app (requests i) H) :=
      fun i => Session.honours_fresh (hmeets i)
    have hkeep (s : ApiSystem ι W C) (m : Move ι C)
        (hs : ∀ i, (s.session i).Honours (accessRules app (requests i))
          fun H _ => MayBeAnswered app (requests i) H) :=
      System.honours_step (h := serviceHost app handle) hstable hs m
    refine eachStep_of_obeys (fun s m hs _ => hkeep s m hs) ?_ hstart hall
    intro s m hs _
    rcases System.store_step (h := serviceHost app handle) (s := s) (m := m) with
      ⟨hstore, -, -⟩ | ⟨a, -, hstore, hsession⟩
    · rw [MovedByPermission, hstore]
      exact Or.inl ⟨rfl, rfl, rfl, rfl⟩
    · by_cases hharmless : ∀ f ∈ (s.session m.session).history.writes, Harmless f
      · rw [MovedByPermission, hstore]
        exact Or.inl (harmless_view hharmless s.store)
      · obtain ⟨f, hf, hnot⟩ : ∃ f ∈ (s.session m.session).history.writes, ¬ Harmless f := by
          simpa using hharmless
        refine Or.inr ⟨m.session, ?_⟩
        rw [hsession]
        exact ((hs m.session).writes f hf).resolve_left hnot

end Interleavings

end PaymentGateway
