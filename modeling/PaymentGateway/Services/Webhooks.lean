/-
# The webhook engine

`app/services/webhooks.py` and the endpoint over it (`app/api/v1/webhooks.py`): find the
adapter that holds the signing secret of the account, verify the delivery, answer with the
stored event if there is one with this provider and id, and store the event otherwise.

The endpoint is not authenticated.  The account is named by the `X-UPGI-Account` header; the
secret decides whether the delivery is accepted.
-/
import PaymentGateway.Services.Base

namespace PaymentGateway

open Transact

/-- `POST /webhooks/{provider}`; the names of the headers are in lower case. -/
structure WebhookRequest where
  provider : ProviderName
  accountId : Option String
  body : Bytes
  headers : List (String × String)

/-- `WebhookAck`: the acknowledgement of a delivery, which also a duplicate gets. -/
structure WebhookAck where
  received : Bool
  duplicate : Bool
  eventId : String
  eventType : String
deriving DecidableEq, Repr

section Methods

variable (app : App) (env : Ambient)

/-- The row of a new event, which is stored as processed. -/
@[simps]
def newWebhookEvent (provider : ProviderName) (verified : ProviderWebhook) : WebhookEvent where
  id := env.webhookEventId
  provider := provider
  eventId := verified.eventId
  eventType := verified.eventType
  status := .processed
  payload := verified.payload
  attempts := 1
  lastError := none
  createdAt := env.now
  updatedAt := env.now

/-- The row of the audit log about an event.  It has no actor, since nobody is signed in. -/
def webhookAuditEntry (provider : ProviderName) (verified : ProviderWebhook) : AuditLog where
  id := env.auditId
  actorId := none
  action := .webhookReceived
  resourceType := some "webhook"
  resourceId := some verified.eventId
  correlationId := if env.correlationId = "" then none else some env.correlationId
  context := [("provider", .str provider.value), ("type", .str verified.eventType)]
  createdAt := env.now
  updatedAt := env.now

/-- `adapter.verify_webhook(body, headers)` -/
def verifyWebhook (adapter : Adapter) (request : WebhookRequest) : Except Exn ProviderWebhook :=
  adapter.verifyWebhook app.hmac app.loads app.repr request.body request.headers env.now

/-- `WebhookService.handle`: the delivery is verified, looked up by its event, and stored and
audited if it is new. -/
def handleWebhook (adapter : Adapter) (request : WebhookRequest) :
    ServiceProg (WebhookEvent × Bool) := do
  let verified ← Prog.ofExcept (verifyWebhook app env adapter request)
  let found ← Prog.ofExcept
    (← Prog.ask fun t => t.getByEvent request.provider verified.eventId)
  match found with
  | some existing => return (existing, true)
  | none => do
      let event := newWebhookEvent env request.provider verified
      Prog.modify fun t => t.insertWebhookEvent event
      flush app
      Prog.modify fun t => t.insertAuditLog (webhookAuditEntry env request.provider verified)
      return (event, false)

/-- `uuid.UUID(account_id) if account_id else uuid.uuid4()`: without an account, an id that
nobody has. -/
def webhookOwner (request : WebhookRequest) : Except Exn Uuid :=
  if given request.accountId then app.parseUuid (request.accountId.getD "") else .ok env.guestId

/-- The acknowledgement of an event, and whether it was there already. -/
def WebhookAck.of (answer : WebhookEvent × Bool) : WebhookAck :=
  ⟨true, answer.2, answer.1.eventId, answer.1.eventType⟩

/-- `POST /webhooks/{provider}`: the account that the header names is parsed, its adapter is
built and the delivery is handed to it.  Without the header, a made-up account is looked up,
which has no configuration. -/
def receiveWebhook (request : WebhookRequest) : ServiceProg WebhookAck := do
  let ownerId ← Prog.ofExcept (webhookOwner app env request)
  let adapter ← getProvider app ownerId request.provider
  return .of (← handleWebhook app env adapter request)

end Methods

/-- A delivery, and what its processing draws from its surroundings. -/
structure WebhookDelivery where
  env : Ambient
  request : WebhookRequest

/-- The program of the delivery. -/
def WebhookDelivery.prog (app : App) (d : WebhookDelivery) : ServiceProg WebhookAck :=
  receiveWebhook app d.env d.request

section

variable (app : App)

/-- What verification ends with; of the tables it reads the configurations only. -/
def WebhookDelivery.verified (d : WebhookDelivery) (t : Tables) : Except Exn ProviderWebhook := do
  let ownerId ← webhookOwner app d.env d.request
  let adapter ← resolveProvider app ownerId d.request.provider t
  verifyWebhook app d.env adapter d.request

/-- The row of the event of the delivery. -/
def WebhookDelivery.event (d : WebhookDelivery) (verified : ProviderWebhook) : WebhookEvent :=
  newWebhookEvent d.env d.request.provider verified

/-- The tables with the event and its row of the audit log. -/
def WebhookDelivery.book (d : WebhookDelivery) (verified : ProviderWebhook) (t : Tables) : Tables :=
  (t.insertWebhookEvent (d.event verified)).insertAuditLog
    (webhookAuditEntry d.env d.request.provider verified)

end

/-! ## What a delivery can do -/

/-- What a delivery is verified with. -/
lemma verified_eq {app : App} {d : WebhookDelivery} {t : Tables} {ownerId : Uuid}
    {adapter : Adapter} (howner : webhookOwner app d.env d.request = .ok ownerId)
    (hadapter : resolveProvider app ownerId d.request.provider t = .ok adapter) :
    d.verified app t = verifyWebhook app d.env adapter d.request := by
  rw [WebhookDelivery.verified, howner]
  show (resolveProvider app ownerId d.request.provider t >>= _) = _
  rw [hadapter]
  rfl

/-- The execution of a delivery. -/
lemma run_receiveWebhook (app : App) (d : WebhookDelivery) (t : Tables) {W : Type}
    (handle : Handler GatewayOp Exn W) (w : W) : (d.prog app).run handle t w =
    match d.verified app t with
    | .error e => ⟨.error e, t, w, []⟩
    | .ok verified =>
        match t.getByEvent d.request.provider verified.eventId with
        | .error e => ⟨.error e, t, w, []⟩
        | .ok (some event) => ⟨.ok (.of (event, true)), t, w, []⟩
        | .ok none =>
            if app.accepts (t.insertWebhookEvent (d.event verified)) = false then
              ⟨.error .integrityError, t.insertWebhookEvent (d.event verified), w, []⟩
            else ⟨.ok (.of (d.event verified, false)), d.book verified t, w, []⟩ := by
  rw [WebhookDelivery.prog, receiveWebhook]
  cases howner : webhookOwner app d.env d.request with
  | error e =>
    have hverified : d.verified app t = .error e := by
      rw [WebhookDelivery.verified, howner]
      rfl
    rw [hverified]
    rfl
  | ok ownerId =>
    simp only [Prog.ofExcept_ok, Prog.ret_bind, run_getProvider_bind]
    cases hadapter : resolveProvider app ownerId d.request.provider t with
    | error e =>
      have hverified : d.verified app t = .error e := by
        rw [WebhookDelivery.verified, howner]
        show (resolveProvider app ownerId d.request.provider t >>= _) = _
        rw [hadapter]
        rfl
      rw [hverified]
      rfl
    | ok adapter =>
      rw [verified_eq howner hadapter]
      simp only [Prog.ofExcept_ok, Prog.ret_bind, handleWebhook, Prog.bind_assoc]
      cases verifyWebhook app d.env adapter d.request with
      | error e => rfl
      | ok verified =>
        simp only [Prog.ofExcept_ok, Prog.ret_bind, Prog.run_ask_bind]
        -- the lookup fails, finds nothing, or finds the event of an earlier delivery
        rcases t.getByEvent d.request.provider verified.eventId with e | _ | event
        · rfl
        · simp only [Prog.ofExcept_ok, Prog.ret_bind, Prog.bind_assoc, Prog.run_modify_bind,
            run_flush_bind, Prog.pure_def]
          -- the unique constraint decides at the flush
          by_cases hflush : app.accepts
              (t.insertWebhookEvent (newWebhookEvent d.env d.request.provider verified)) = false
          · have hflush' : app.accepts (t.insertWebhookEvent (d.event verified)) = false := hflush
            rw [if_pos hflush, if_pos hflush']
            rfl
          · have hflush' : ¬ app.accepts (t.insertWebhookEvent (d.event verified)) = false := hflush
            rw [if_neg hflush, if_neg hflush']
            rfl
        · rfl

/-- Everything that a delivery can do. -/
inductive ReceivesWebhook (app : App) (env : Ambient) (request : WebhookRequest)
    (gs : List (Tables → Tables)) : History Tables GatewayOp Exn → Except Exn WebhookAck → Prop
  /-- The header names no account. -/
  | unaddressed {e} (owner : webhookOwner app env request = .error e) :
      ReceivesWebhook app env request gs .nil (.error e)
  /-- The account has no adapter. -/
  | unresolved {d ownerId e} (owner : webhookOwner app env request = .ok ownerId)
      (resolved : resolveProvider app ownerId request.provider (view gs d) = .error e) :
      ReceivesWebhook app env request gs (.ofRead d) (.error e)
  /-- `verify_webhook` raised. -/
  | rejected {d ownerId adapter e} (owner : webhookOwner app env request = .ok ownerId)
      (resolved : resolveProvider app ownerId request.provider (view gs d) = .ok adapter)
      (verified : verifyWebhook app env adapter request = .error e) :
      ReceivesWebhook app env request gs (.ofRead d) (.error e)
  /-- The lookup raised. -/
  | ambiguous {d d' ownerId adapter verified e}
      (owner : webhookOwner app env request = .ok ownerId)
      (resolved : resolveProvider app ownerId request.provider (view gs d) = .ok adapter)
      (verify : verifyWebhook app env adapter request = .ok verified)
      (found : (view gs d').getByEvent request.provider verified.eventId = .error e) :
      ReceivesWebhook app env request gs (.ofRead d ++ .ofRead d') (.error e)
  | duplicate {d d' ownerId adapter verified event}
      (owner : webhookOwner app env request = .ok ownerId)
      (resolved : resolveProvider app ownerId request.provider (view gs d) = .ok adapter)
      (verify : verifyWebhook app env adapter request = .ok verified)
      (found : (view gs d').getByEvent request.provider verified.eventId = .ok (some event)) :
      ReceivesWebhook app env request gs (.ofRead d ++ .ofRead d') (.ok (.of (event, true)))
  /-- The database refused the event. -/
  | refused {d d' d'' ownerId adapter verified}
      (owner : webhookOwner app env request = .ok ownerId)
      (resolved : resolveProvider app ownerId request.provider (view gs d) = .ok adapter)
      (verify : verifyWebhook app env adapter request = .ok verified)
      (found : (view gs d').getByEvent request.provider verified.eventId = .ok none) :
      ReceivesWebhook app env request gs
        (.ofRead d ++ (.ofRead d' ++ (.ofWrite (fun t =>
          t.insertWebhookEvent (newWebhookEvent env request.provider verified)) ++ .ofRead d'')))
        (.error .integrityError)
  | stored {d d' d'' ownerId adapter verified}
      (owner : webhookOwner app env request = .ok ownerId)
      (resolved : resolveProvider app ownerId request.provider (view gs d) = .ok adapter)
      (verify : verifyWebhook app env adapter request = .ok verified)
      (found : (view gs d').getByEvent request.provider verified.eventId = .ok none) :
      ReceivesWebhook app env request gs
        (.ofRead d ++ (.ofRead d' ++ (.ofWrite (fun t =>
          t.insertWebhookEvent (newWebhookEvent env request.provider verified)) ++ (.ofRead d'' ++
          .ofWrite (fun t =>
            t.insertAuditLog (webhookAuditEntry env request.provider verified))))))
        (.ok (.of (newWebhookEvent env request.provider verified, false)))

lemma receiveWebhook_path {app : App} {env : Ambient} {request : WebhookRequest}
    {gs : List (Tables → Tables)} {H : History Tables GatewayOp Exn} {r : Except Exn WebhookAck}
    (h : (receiveWebhook app env request).Path gs H r) :
    ReceivesWebhook app env request gs H r := by
  simp only [receiveWebhook, handleWebhook, Prog.bind_assoc, Prog.path_ofExcept_bind,
    path_getProvider_bind, Prog.path_ask_bind] at h
  rcases h with ⟨e, howner, rfl, rfl⟩ | ⟨ownerId, howner, d, K, rfl, h⟩
  · exact .unaddressed howner
  rcases h with ⟨e, hres, rfl, rfl⟩ | ⟨adapter, hres, ⟨e, hver, rfl, rfl⟩ | ⟨verified, hver, h⟩⟩
  · rw [History.append_nil]
    exact .unresolved howner hres
  · rw [History.append_nil]
    exact .rejected howner hres hver
  obtain ⟨d', K, rfl, ⟨e, hfound, rfl, rfl⟩ | ⟨found, hfound, h⟩⟩ := h
  · rw [History.append_nil]
    exact .ambiguous howner hres hver hfound
  rcases found with _ | event
  · simp only [Prog.bind_assoc, Prog.path_modify_bind, path_flush_bind, Prog.pure_def,
      Prog.ret_bind, Prog.path_ret] at h
    obtain ⟨K, rfl, d'', K, rfl, ⟨-, rfl, rfl⟩ | ⟨-, K, rfl, rfl, rfl⟩⟩ := h
    · rw [History.append_nil]
      exact .refused howner hres hver hfound
    · rw [History.append_nil]
      exact .stored howner hres hver hfound
  · obtain ⟨rfl, rfl⟩ := h
    rw [History.append_nil]
    exact .duplicate howner hres hver hfound

/-! ## Two accounts with webhooks -/

/-- The body of an event with the id `evt_1`. -/
def demoEvent (eventType : String) : String :=
  "\x7b\"id\":\"evt_1\",\"type\":\"" ++ eventType ++ "\"\x7d"

/-- Two accounts, each with its own secret for the mock provider. -/
def webhookTables : Tables :=
  { Tables.empty with
    providerConfigs := [⟨.ofNat 2, .ofNat 1, .mock, "whsec_a", [], true, true, 0, 0⟩,
      ⟨.ofNat 3, .ofNat 9, .mock, "whsec_b", [], true, true, 0, 0⟩] }

/-- What HMAC-SHA256, the JSON parser and the UUID parser do on the deliveries below. -/
def webhookApp : App :=
  { demoApp with
    hmac := fun key message =>
      if key = utf8 "whsec_a" ∧ message = utf8 ("1." ++ demoEvent "payment.failed") then
        "b2b7322ea6a6443d9a39dae3eff7e8c6a36d720457faa88f9a2442c15213dc8c"
      else if key = utf8 "whsec_b" ∧ message = utf8 ("2." ++ demoEvent "payment.captured") then
        "a5444f9a8ddc211ed9b3c2346028eca53a9aa610449be0c07a9c98befe07f12d"
      else if key = utf8 "whsec_b" ∧ message = utf8 ("3." ++ demoEvent "payment.captured") then
        "da841a7c6ddaf258af550f6296132b778f4ad29ee002dda3d466cc166bf7926a"
      else ""
    loads := fun body =>
      if body = utf8 (demoEvent "payment.failed") then
        .ok (.obj [("id", "evt_1"), ("type", "payment.failed")])
      else if body = utf8 (demoEvent "payment.captured") then
        .ok (.obj [("id", "evt_1"), ("type", "payment.captured")])
      else .error (.python .valueError)
    parseUuid := fun text =>
      if text = (Uuid.ofNat 1).str then .ok (.ofNat 1)
      else if text = (Uuid.ofNat 9).str then .ok (.ofNat 9)
      else .error (.python .valueError) }

/-- The `n`-th delivery, signed at the time `n`. -/
def demoDelivery (n : ℕ) (account : Uuid) (eventType signature : String) : WebhookDelivery where
  env := demoEnv n
  request := ⟨.mock, some account.str, utf8 (demoEvent eventType),
    [("x-upgi-signature", "t=" ++ toString n ++ ",v1=" ++ signature)]⟩

end PaymentGateway
