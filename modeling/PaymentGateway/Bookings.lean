/-
# What a request books

A request that commits has gone through its program, and what it has staged by then is
published in one step.  `HttpCall.Books` says for every route what that can be, and on which
grounds: the rows that are inserted, the rows that are saved and the row of the audit log, in
the order in which they were staged.

It is proved once (`HttpCall.prog_books`); what the API does to its tables, whoever else is at
work on them, is read off it afterwards.
-/
import PaymentGateway.Authorization

namespace PaymentGateway

open Transact

/-! ## Signing in -/

/-- What is staged before the handler runs: at most the use of an API key. -/
inductive SignInStages (env : Ambient) : List (Tables → Tables) → Prop
  | nothing : SignInStages env []
  | used {key : ApiKey} : SignInStages env [fun t => t.saveApiKey env.now key (withUse env key)]

/-- One key, whenever it was last used: the two versions differ in the stamps of their use at
most. -/
structure ApiKey.SameKey (a b : ApiKey) : Prop where
  id : a.id = b.id
  userId : a.userId = b.userId
  name : a.name = b.name
  hashedKey : a.hashedKey = b.hashedKey
  displayPrefix : a.displayPrefix = b.displayPrefix
  isActive : a.isActive = b.isActive
  createdAt : a.createdAt = b.createdAt

lemma ApiKey.sameKey_refl (a : ApiKey) : a.SameKey a := ⟨rfl, rfl, rfl, rfl, rfl, rfl, rfl⟩

lemma ApiKey.sameKey_saved_withUse (env : Ambient) (key row : ApiKey) :
    (row.saved env.now key (withUse env key)).SameKey row := by
  refine ⟨by simp, by simp, ?_, by simp, ?_, by simp, ?_⟩
  all_goals
    rw [saved]
    split <;> rfl

section SigningIn

variable {app : App} {env : Ambient} {headers : Headers} {gs : List (Tables → Tables)}

lemma SignInStages.view_payments (h : SignInStages env gs) (t : Tables) :
    (view gs t).payments = t.payments := by
  cases h <;> rfl

lemma SignInStages.view_getForOwner (h : SignInStages env gs) (t : Tables)
    (paymentId ownerId : Uuid) :
    (view gs t).getForOwner paymentId ownerId = t.getForOwner paymentId ownerId := by
  rw [Tables.getForOwner, Tables.getForOwner, h.view_payments]

lemma SignInStages.view_idempotencyKeys (h : SignInStages env gs) (t : Tables) :
    (view gs t).idempotencyKeys = t.idempotencyKeys := by
  cases h <;> rfl

/-- Apart from the stamp, the keys are the published ones. -/
lemma SignInStages.exists_apiKey (h : SignInStages env gs) {t : Tables} {row : ApiKey}
    (hrow : row ∈ (view gs t).apiKeys) : ∃ row₀ ∈ t.apiKeys, row.SameKey row₀ := by
  cases h with
  | nothing => exact ⟨row, hrow, row.sameKey_refl⟩
  | used =>
    obtain ⟨row₀, hmem, ⟨-, rfl⟩ | ⟨-, rfl⟩⟩ := exists_of_mem_updateAt hrow
    · exact ⟨row₀, hmem, ApiKey.sameKey_saved_withUse env _ row₀⟩
    · exact ⟨row, hmem, row.sameKey_refl⟩

lemma dependency_path {call : UserCall} {K : History Tables GatewayOp Exn} {r : Except Exn User}
    (hK : (call.dependency app env headers).Path [] K r) : SignInStages env K.writes := by
  have hstamps {H : History Tables GatewayOp Exn} (h : Stamps app env headers [] H) :
      SignInStages env H.writes := by
    cases h with
    | nothing writes => exact writes ▸ .nothing
    | used given read found writes => exact writes ▸ .used
  refine hstamps ?_
  rw [UserCall.dependency] at hK
  cases hscope : call.scope with
  | none =>
    rw [hscope] at hK
    exact (getCurrentUser_path hK).2
  | some scope =>
    rw [hscope] at hK
    exact (requireScope_path hK).2

lemma dependency_stages (call : UserCall) :
    (call.dependency app env headers).Meets .any (fun H _ => SignInStages env H.writes) .nil :=
  Prog.meets_of_path fun _ _ hK => dependency_path hK

end SigningIn

/-! ## What is booked -/

section Books

variable (app : App) (env : Ambient) (user : User) (key : Option String)

/-- The record of the response, where the request has a key. -/
def recording (post : Post) (response : ResponseBody) : List (Tables → Tables) :=
  if given key = true then
    [storing app env user.id post.endpoint (key.getD "") post.body 201 response]
  else []

/-- What a route without credentials has staged when it returns, and what it returns, given what
it has read. -/
inductive OpenCall.Books (H : History Tables GatewayOp Exn) : OpenCall → ApiAnswer → Prop
  | registered {email password fullName hashed d} (read : d ∈ H.reads)
      (free : d.emailExists (app.lower (app.strip (app.lower email))) = false)
      (hash : hashPassword app env password = .ok hashed)
      (writes : H.writes =
        [fun t => t.insertUser (newUser env (app.strip (app.lower email)) hashed fullName),
          fun t => t.insertAuditLog
            (auditEntry env .userRegistered env.userId "user" env.userId.str)]) :
      Books H (.register email password fullName)
        (.user (.ofUser (newUser env (app.strip (app.lower email)) hashed fullName)))
  | loggedIn {email password user hashed d} (read : d ∈ H.reads)
      (found : d.getByEmail (loginEmail app email) = .ok (some user))
      (verified : app.verifyPassword password user.hashedPassword = true)
      (active : user.isActive = true) (unlocked : user.failedLoginAttempts < maxFailedLogins)
      (hash : upgradedHash app env user password = .ok hashed)
      (writes : H.writes = [fun t => t.saveUser env.now user (withLogin user hashed),
        fun t => t.insertAuditLog (auditEntry env .userLogin user.id "user" user.id.str)]) :
      Books H (.login email password) (.tokens (issueTokens app (withLogin user hashed)))
  | refreshed {refreshToken subject id user d} (read : d ∈ H.reads)
      (token : app.decode refreshToken "refresh" = .ok subject)
      (named : app.parseUuid subject = .ok id) (found : d.getUser id = some user)
      (active : user.isActive = true) (writes : H.writes = []) :
      Books H (.refresh refreshToken) (.tokens (issueTokens app user))
  | duplicate {request event d} (read : d ∈ H.reads) (mem : event ∈ d.webhookEvents)
      (writes : H.writes = []) :
      Books H (.receiveWebhook request) (.ack (.of (event, true)))
  | received {request verified} (writes : H.writes =
        [fun t => t.insertWebhookEvent (newWebhookEvent env request.provider verified),
          fun t => t.insertAuditLog (webhookAuditEntry env request.provider verified)]) :
      Books H (.receiveWebhook request)
        (.ack (.of (newWebhookEvent env request.provider verified, false)))
  | refused {errors} (writes : H.writes = []) : Books H (.invalid errors) (.invalid errors)

/-- What the handler of a route has staged when it returns, and what it returns, after the user
was found out. -/
inductive UserCall.Books (K : History Tables GatewayOp Exn) : UserCall → ApiAnswer → Prop
  | me (writes : K.writes = []) : Books K .me (.user (.ofUser user))
  /-- The keys are those of the user, up to the stamp of the one that was presented. -/
  | keysListed {keys : List ApiKey} {d} (read : d ∈ K.reads)
      (own : ∀ row ∈ keys, row.userId = user.id ∧ ∃ row₀ ∈ d.apiKeys, row.SameKey row₀)
      (writes : K.writes = []) : Books K .listApiKeys (.apiKeys (keys.map .ofApiKey))
  | listed {status limit offset total d} {payments : List Payment} {responses} (read : d ∈ K.reads)
      (found : payments = d.pageOfPayments user.id status limit.1 offset)
      (responded : payments.mapM paymentToResponse = .ok responses) (writes : K.writes = []) :
      Books K (.listPayments status limit offset) (.page responses ⟨total, limit.1, offset⟩)
  | shown {paymentId d} {payment : Payment} {response} (read : d ∈ K.reads)
      (found : d.getForOwner paymentId user.id = .ok (some payment))
      (responded : paymentToResponse payment = .ok response) (writes : K.writes = []) :
      Books K (.getPayment paymentId) (.payment response)
  | providersListed (writes : K.writes = []) :
      Books K .listProviders (.providers PaymentGateway.listProviders)
  | counted {stats d} (read : d ∈ K.reads) (total : stats.totalPayments = d.payments.length)
      (writes : K.writes = []) : Books K .paymentStats (.stats stats)
  | refused {route errors} (writes : K.writes = []) :
      Books K (.invalid route errors) (.invalid errors)
  /-- The response was stored before. -/
  | replayed {post : Post} {row : IdempotencyKey} {d} (read : d ∈ K.reads)
      (found : d.getIdempotencyKey user.id post.endpoint (key.getD "") = .ok (some row))
      (same : row.requestHash = hashBody app post.body) (writes : K.writes = []) :
      Books K (.post post) (.stored ⟨row.responseStatus, row.responseBody⟩)
  | keyCreated {name} (writes : K.writes =
        [fun t => t.insertApiKey (newApiKey env user name (generatedApiKey app env)),
          fun t => t.insertAuditLog
            (auditEntry env .apiKeyCreated user.id "api_key" env.apiKeyId.str)]) :
      Books K (.createApiKey name)
        (.apiKeyCreated ⟨.ofApiKey (newApiKey env user name (generatedApiKey app env)),
          (generatedApiKey app env).fullKey⟩)
  | keyRevoked {keyId d} {row₀ row : ApiKey} (read : d ∈ K.reads) (mem : row₀ ∈ d.apiKeys)
      (same : row.SameKey row₀) (named : app.parseUuid keyId = .ok row.id)
      (owner : row.userId = user.id)
      (writes : K.writes = [fun t => t.saveApiKey env.now row (withRevocation env row),
        fun t => t.insertAuditLog (auditEntry env .apiKeyRevoked user.id "api_key" keyId)]) :
      Books K (.revokeApiKey keyId) .noContent
  | created {payload} {charge : ProviderCharge} {response : PaymentResponse}
      (status : canTransition .requiresConfirmation charge.status = true)
      (responded : paymentToResponse
        (withCharge (newPayment env user (payload.args key)) charge).1 = .ok response)
      (writes : K.writes =
        [fun t => t.insertPayment (newPayment env user (payload.args key)),
          fun t => t.savePayment env.now (newPayment env user (payload.args key))
            (withCharge (newPayment env user (payload.args key)) charge).1,
          fun t => t.insertAuditLog (auditEntry env
            (withCharge (newPayment env user (payload.args key)) charge).2 user.id "payment"
            env.paymentId.str)] ++
          recording app env user key (.payment payload) (.payment response)) :
      Books K (.post (.payment payload)) (.stored ⟨201, .payment response⟩)
  | refunded {paymentId payload d} {payment : Payment} {result : ProviderRefund}
      {response : RefundResponse} (read : d ∈ K.reads)
      (found : d.getForOwner paymentId user.id = .ok (some payment))
      (status : payment.status ∈ refundableStates)
      (amount : (refundAmount payment (payload.amountMinor.map Subtype.val)).isPositive)
      (responded : refundToResponse (newRefund env payment (payload.amountMinor.map Subtype.val)
        (payload.reason.map Subtype.val) result) = .ok response)
      (writes : K.writes =
        [fun t => t.insertRefund (newRefund env payment (payload.amountMinor.map Subtype.val)
            (payload.reason.map Subtype.val) result),
          fun t => t.savePayment env.now payment
            (withRefund payment (payload.amountMinor.map Subtype.val)),
          fun t => t.insertAuditLog
            (auditEntry env .refundCreated user.id "refund" env.refundId.str)] ++
          recording app env user key (.refund paymentId payload) (.refund response)) :
      Books K (.post (.refund paymentId payload)) (.stored ⟨201, .refund response⟩)
  | captured {paymentId payload amount d} {payment : Payment} {charge : ProviderCharge}
      {response : PaymentResponse} (read : d ∈ K.reads)
      (found : d.getForOwner paymentId user.id = .ok (some payment))
      (status : payment.status = .authorized)
      (responded : paymentToResponse (withCapture payment amount charge) = .ok response)
      (writes : K.writes =
        [fun t => t.savePayment env.now payment (withCapture payment amount charge),
          fun t => t.insertAuditLog
            (auditEntry env .paymentCaptured user.id "payment" payment.id.str)]) :
      Books K (.capturePayment paymentId payload) (.payment response)
  | canceled {paymentId d} {payment : Payment} {response : PaymentResponse} (read : d ∈ K.reads)
      (found : d.getForOwner paymentId user.id = .ok (some payment))
      (status : canTransition payment.status .canceled = true)
      (responded : paymentToResponse (withCancel payment) = .ok response)
      (writes : K.writes = [fun t => t.savePayment env.now payment (withCancel payment),
        fun t => t.insertAuditLog
          (auditEntry env .paymentCanceled user.id "payment" payment.id.str)]) :
      Books K (.cancelPayment paymentId) (.payment response)

end Books

/-- What a request has staged when it returns: the handler's changes, behind the stamp of an API
key where the request came with one. -/
inductive HttpCall.Books (app : App) (H : History Tables GatewayOp Exn) :
    HttpCall → ApiAnswer → Prop
  | open {env call answer} (books : call.Books app env H answer) :
      Books app H ⟨env, .open call⟩ answer
  | user {env headers call answer user} {L K : History Tables GatewayOp Exn}
      (signedIn : SignedIn app headers H user) (role : user.role ∈ call.roles)
      (stages : SignInStages env L.writes)
      (books : call.Books app env user headers.idempotencyKey K answer) (history : H = L ++ K) :
      Books app H ⟨env, .user headers call⟩ answer

/-! ## Every route -/

section Open

variable {app : App} {env : Ambient}

lemma register_books {email password : String} {fullName : Option String} :
    (register app env email password fullName).Meets .any (fun H user =>
      (OpenCall.register email password fullName).Books app env H (.user (.ofUser user))) .nil := by
  simp only [register, Prog.meets_ask_bind, Prog.meets_raiseIf_bind, Prog.meets_ofExcept_bind,
    Prog.meets_modify_bind, meets_flush_bind, meets_record_bind, Prog.pure_def, Prog.meets_ret]
  intro d hfree hashed hhash
  refine ⟨trivial, fun d' _ => ⟨trivial, ?_⟩⟩
  exact .registered (d := d) (by simp) (by simpa using hfree) hhash rfl

lemma login_books {email password : String} :
    (login app env email password).Meets .any (fun H pair =>
      (OpenCall.login email password).Books app env H (.tokens pair)) .nil := by
  refine Prog.meets_bind.2 (Prog.meets_of_path fun K user hK => ?_)
  rw [Prog.pure_def, Prog.meets_ret, History.nil_append]
  cases authenticate_path hK with
  | done found verified active unlocked hash =>
    exact .loggedIn (by simp) found verified active unlocked hash rfl

lemma refresh_books {refreshToken : String} :
    (refresh app refreshToken).Meets .any (fun H pair =>
      (OpenCall.refresh refreshToken).Books app env H (.tokens pair)) .nil := by
  simp only [refresh, Prog.meets_ask_bind, Prog.meets_ofExcept_bind, Prog.meets_orRaise_bind,
    Prog.meets_raiseIf_bind, Prog.pure_def, Prog.meets_ret]
  intro subject htoken id hid d user hfound hactive
  exact .refreshed (d := d) (by simp) htoken hid (by simpa using hfound) (by simpa using hactive)
    rfl

lemma receiveWebhook_books {request : WebhookRequest} :
    (receiveWebhook app env request).Meets .any (fun H ack =>
      (OpenCall.receiveWebhook request).Books app env H (.ack ack)) .nil := by
  refine Prog.meets_of_path fun K ack hK => ?_
  rw [History.nil_append]
  cases receiveWebhook_path hK with
  | duplicate owner resolved verify found =>
    rw [Tables.getByEvent, scalarOneOrNone_eq_some] at found
    exact .duplicate (by simp) (mem_of_filter_eq_singleton found).1 rfl
  | stored => exact .received rfl

lemma OpenCall.prog_books (call : OpenCall) :
    (call.prog app env).Meets .any (fun H a => call.Books app env H a) .nil := by
  cases call with
  | register => exact Prog.meets_bind.2 register_books
  | login => exact Prog.meets_bind.2 login_books
  | refresh => exact Prog.meets_bind.2 refresh_books
  | receiveWebhook => exact Prog.meets_bind.2 receiveWebhook_books
  | invalid => exact .refused rfl

end Open

section User

variable {app : App} {env : Ambient} {user : User} {key : Option String}
  {gs : List (Tables → Tables)} {K : History Tables GatewayOp Exn}

/-- An operation under a key: it was replayed, or it ran and its response was recorded. -/
lemma handler_path (hgs : SignInStages env gs) {post : Post} {stored : StoredResponse}
    (h : (post.handler app env user key).Path gs K (.ok stored)) :
    K.calls = [] ∧ K.writes = [] ∧
        (UserCall.post post).Books app env user key K (.stored stored) ∨
      ∃ b L, stored = ⟨201, b⟩ ∧ (post.operation app env user key).Path gs L (.ok b) ∧
        (∀ d ∈ L.reads, d ∈ K.reads) ∧ K.calls = L.calls ∧
          K.writes = L.writes ++ recording app env user key post b := by
  rw [Post.handler_eq] at h
  by_cases hkey : given key = true
  · cases idempotently_path hkey h with
    | replayed found same =>
      left
      rw [Tables.getIdempotencyKey, hgs.view_idempotencyKeys] at found
      exact ⟨rfl, rfl, .replayed (by simp) found same rfl⟩
    | stored unused ran =>
      refine Or.inr ⟨_, _, rfl, ran, ?_, by simp, ?_⟩
      · intro d hd
        simp [hd]
      · simp [recording, hkey]
  · rw [idempotently, if_neg hkey, Prog.path_bind] at h
    obtain ⟨e, -, hno⟩ | ⟨b, L, M, rfl, hran, hM⟩ := h
    · cases hno
    · obtain ⟨rfl, hstored⟩ := hM
      exact Or.inr ⟨b, L, Except.ok.inj hstored, hran, by simp, by simp, by simp [recording, hkey]⟩

lemma post_books (hgs : SignInStages env gs) {post : Post} {stored : StoredResponse}
    (h : (post.handler app env user key).Path gs K (.ok stored)) :
    (UserCall.post post).Books app env user key K (.stored stored) := by
  obtain ⟨-, -, hreplayed⟩ | ⟨b, L, rfl, hran, hreads, -, hwrites⟩ := handler_path hgs h
  · exact hreplayed
  cases post with
  | payment payload =>
    obtain ⟨x, hx, hok⟩ := Prog.path_convert.1 hran
    cases createPayment_path hx with
    | @done _ _ _ charge amount flushed resolved status =>
      cases hresponse : paymentToResponse
          (withCharge (newPayment env user (payload.args key)) charge).1 with
      | error e =>
        simp only [Except.bind, hresponse] at hok
        cases hok
      | ok response =>
        simp only [Except.bind, hresponse] at hok
        cases hok
        exact .created status hresponse hwrites
    | _ => cases hok
  | refund paymentId payload =>
    obtain ⟨x, hx, hok⟩ := Prog.path_convert.1 hran
    cases createRefund_path hx with
    | @done _ _ _ _ payment result found status amount =>
      rw [hgs.view_getForOwner] at found
      cases hresponse : refundToResponse (newRefund env payment
          (payload.amountMinor.map Subtype.val) (payload.reason.map Subtype.val) result) with
      | error e =>
        simp only [Except.bind, hresponse] at hok
        cases hok
      | ok response =>
        simp only [Except.bind, hresponse] at hok
        cases hok
        exact .refunded (hreads _ (by simp)) found status amount hresponse hwrites
    | _ => cases hok

lemma capture_books (hgs : SignInStages env gs) {paymentId : Uuid}
    {payload : CapturePaymentRequest} {response : PaymentResponse}
    (h : (capturePaymentEndpoint app env user paymentId payload).Path gs K (.ok response)) :
    (UserCall.capturePayment paymentId payload).Books app env user key K (.payment response) := by
  rw [capturePaymentEndpoint, getPayment, path_requirePayment_bind] at h
  obtain ⟨d, L, rfl, ⟨e, -, -, hno⟩ | ⟨-, -, hno⟩ | ⟨p, hp, h⟩⟩ := h
  · cases hno
  · cases hno
  rw [Prog.path_bind] at h
  obtain ⟨e, -, hno⟩ | ⟨updated, M, N, rfl, hcapture, hresponse⟩ := h
  · cases hno
  obtain ⟨rfl, hresponded⟩ := Prog.path_ofExcept.1 hresponse
  rw [History.append_nil]
  cases capturePayment_path hcapture with
  | done found status =>
    rw [hgs.view_getForOwner] at found
    exact .captured (by simp) found status hresponded.symm rfl

lemma cancel_books (hgs : SignInStages env gs) {paymentId : Uuid} {response : PaymentResponse}
    (h : (cancelPaymentEndpoint app env user paymentId).Path gs K (.ok response)) :
    (UserCall.cancelPayment paymentId).Books app env user key K (.payment response) := by
  rw [cancelPaymentEndpoint, Prog.path_bind] at h
  obtain ⟨e, -, hno⟩ | ⟨updated, M, N, rfl, hcancel, hresponse⟩ := h
  · cases hno
  obtain ⟨rfl, hresponded⟩ := Prog.path_ofExcept.1 hresponse
  rw [History.append_nil]
  cases cancelPayment_path hcancel with
  | done found status =>
    rw [hgs.view_getForOwner] at found
    exact .canceled (by simp) found status hresponded.symm rfl

/-- **What a handler books.** -/
lemma UserCall.handler_books (hgs : SignInStages env gs) {call : UserCall} {answer : ApiAnswer}
    (h : (call.handler app env user key).Path gs K (.ok answer)) :
    call.Books app env user key K answer := by
  cases call with
  | me =>
    obtain ⟨rfl, hanswer⟩ := h
    cases hanswer
    exact .me rfl
  | listProviders =>
    obtain ⟨rfl, hanswer⟩ := h
    cases hanswer
    exact .providersListed rfl
  | invalid route errors =>
    obtain ⟨rfl, hanswer⟩ := h
    cases hanswer
    exact .refused rfl
  | createApiKey name =>
    rw [handler, Prog.path_bind] at h
    obtain ⟨e, -, hno⟩ | ⟨issued, L, M, rfl, hcreate, rfl, hanswer⟩ := h
    · cases hno
    cases createApiKey_path hcreate with
    | done =>
      cases hanswer
      exact .keyCreated rfl
  | listApiKeys =>
    obtain ⟨d, L, rfl, rfl, hanswer⟩ := h
    cases hanswer
    refine .keysListed (d := d) (by simp) (fun row hrow => ?_) rfl
    refine ⟨Tables.userId_of_mem_listApiKeysForOwner hrow, hgs.exists_apiKey ?_⟩
    have hmem : row ∈ (view gs d).listApiKeysForOwner user.id := hrow
    rw [Tables.listApiKeysForOwner, List.mem_insertionSort] at hmem
    exact List.mem_of_mem_filter hmem
  | revokeApiKey keyId =>
    rw [handler, Prog.path_bind] at h
    obtain ⟨e, -, hno⟩ | ⟨u, L, M, rfl, hrevoke, rfl, hanswer⟩ := h
    · cases hno
    cases revokeApiKey_path hrevoke with
    | done named found owner =>
      cases hanswer
      rw [Tables.getApiKey] at found
      have hid := List.find?_some found
      simp only [decide_eq_true_eq] at hid
      obtain ⟨row₀, hmem, hsame⟩ := hgs.exists_apiKey (List.mem_of_find?_eq_some found)
      exact .keyRevoked (by simp) hmem hsame (hid ▸ named) owner rfl
  | post post =>
    rw [handler, Prog.path_bind] at h
    obtain ⟨e, -, hno⟩ | ⟨stored, L, M, rfl, hpost, rfl, hanswer⟩ := h
    · cases hno
    cases hanswer
    rw [History.append_nil]
    exact post_books hgs hpost
  | listPayments status limit offset =>
    simp only [handler, PaymentGateway.listPayments, Prog.bind_assoc, Prog.path_ask_bind,
      Prog.pure_def, Prog.ret_bind, Prog.path_ofExcept_bind, Prog.path_ret] at h
    obtain ⟨d, L, rfl, d', M, rfl, ⟨e, -, -, hno⟩ | ⟨responses, hresponses, rfl, hanswer⟩⟩ := h
    · cases hno
    · cases hanswer
      rw [Tables.pageOfPayments, Tables.paymentsOf, hgs.view_payments] at hresponses
      exact .listed (d := d') (by simp) rfl hresponses rfl
  | getPayment paymentId =>
    simp only [handler, PaymentGateway.getPayment, path_requirePayment_bind,
      Prog.path_ofExcept_bind, Prog.pure_def, Prog.path_ret] at h
    obtain ⟨d, L, rfl, ⟨e, -, -, hno⟩ | ⟨-, -, hno⟩ | ⟨p, hp, h⟩⟩ := h
    · cases hno
    · cases hno
    obtain ⟨e, -, -, hno⟩ | ⟨response, hresponse, rfl, hanswer⟩ := h
    · cases hno
    · cases hanswer
      rw [hgs.view_getForOwner] at hp
      exact .shown (d := d) (by simp) hp hresponse rfl
  | capturePayment paymentId payload =>
    rw [handler, Prog.path_bind] at h
    obtain ⟨e, -, hno⟩ | ⟨response, L, M, rfl, hcapture, rfl, hanswer⟩ := h
    · cases hno
    cases hanswer
    rw [History.append_nil]
    exact capture_books hgs hcapture
  | cancelPayment paymentId =>
    rw [handler, Prog.path_bind] at h
    obtain ⟨e, -, hno⟩ | ⟨response, L, M, rfl, hcancel, rfl, hanswer⟩ := h
    · cases hno
    cases hanswer
    rw [History.append_nil]
    exact cancel_books hgs hcancel
  | paymentStats =>
    obtain ⟨d, L, rfl, d', M, rfl, rfl, hanswer⟩ := h
    cases hanswer
    refine .counted (d := d) (by simp) ?_ rfl
    rw [sum_groupByStatus, hgs.view_payments]

end User

/-- **What a request books.** -/
lemma HttpCall.prog_books (app : App) (request : HttpCall) :
    (request.prog app).Meets .any (fun H answer => request.Books app H answer) .nil := by
  obtain ⟨env, call | ⟨headers, call⟩⟩ := request
  · exact (OpenCall.prog_books call).mono (fun _ _ _ h => h) (fun _ _ h => h)
      fun H answer h => .open h
  · rw [HttpCall.prog, Prog.meets_bind]
    refine ((dependency_stages call).and (dependency_meets call)).mono (fun _ _ _ h => h)
      (fun _ _ h => h) ?_
    rintro L user ⟨hstages, hsigned, hrole⟩
    refine Prog.meets_of_path fun K answer hK => ?_
    exact .user (hsigned.append K) hrole hstages (UserCall.handler_books hstages hK) rfl

end PaymentGateway
