/-
# What a user can reach

Every operation is run on behalf of a user: the methods of the payment and refund services,
the two endpoints that honour an `Idempotency-Key`, and the API keys (`OwnerCall`).  In every
reachable state such an operation leaves the rows of every other user as they are and returns
none of them, and when it names a row of somebody else, then it does what it does when there
is no such row (`owner_isolation`).

The gateway manager's reaction is part of the call, so the circuit breaker, which all users
share, is held fixed.
-/
import PaymentGateway.Api
import PaymentGateway.Lib.Runs

namespace PaymentGateway

open Transact

/-! ## Operations on behalf of a user -/

/-- What a signed-in user can ask for: the calls of the service, the queries, the two endpoints
with an `Idempotency-Key` and the management of API keys. -/
inductive OwnerCall where
  | service (call : ServiceCall)
  | getPayment (paymentId : Uuid)
  | listPayments (status : Option PaymentStatus) (limit offset : ℕ)
  | post (idempotencyKey : Option String) (request : Post)
  | createApiKey (name : String)
  | listApiKeys
  | revokeApiKey (keyId : String)

/-- What such a call returns to the user. -/
inductive OwnerResult where
  | service (result : ServiceResult)
  | payment (p : Payment)
  | payments (items : List Payment) (total : ℕ)
  | response (response : StoredResponse)
  | issued (key : IssuedApiKey)
  | apiKeys (keys : List ApiKey)
  | revoked
deriving DecidableEq

/-- The program of the call, run on behalf of `owner`. -/
def OwnerCall.prog (app : App) (env : Ambient) (owner : User) :
    OwnerCall → ServiceProg OwnerResult
  | .service call => do return .service (← call.prog app env owner)
  | .getPayment paymentId => do return .payment (← PaymentGateway.getPayment owner paymentId)
  | .listPayments status limit offset => do
      let page ← PaymentGateway.listPayments owner status limit offset
      return .payments page.1 page.2
  | .post idempotencyKey request => do
      return .response (← request.handler app env owner idempotencyKey)
  | .createApiKey name => do return .issued (← PaymentGateway.createApiKey app env owner name)
  | .listApiKeys => do return .apiKeys (← PaymentGateway.listApiKeys owner)
  | .revokeApiKey keyId => do
      let _ ← PaymentGateway.revokeApiKey app env owner keyId
      return .revoked

/-- An operation with the user it is run for, what it draws from its surroundings, and the
reaction of the gateway manager. -/
structure OwnerInput where
  env : Ambient
  owner : User
  call : OwnerCall
  reaction : Reaction

section Model

variable (app : App)

/-- The operation in a unit of work of its own, with its own answers of the provider. -/
def OwnerInput.process (c : OwnerInput) (t : Tables) :
    Outcome Tables Unit GatewayOp Exn OwnerResult :=
  (c.call.prog app c.env c.owner).atomically c.reaction.handler t () app.accepts .integrityError

/-- The tables after the call was processed. -/
def OwnerInput.step (t : Tables) (c : OwnerInput) : Tables := (c.process app t).store

end Model

/-! ## Whose row it is -/

section Ownership

variable (a : Uuid) (t : Tables)

/-- There is a payment with this id, and it is the user's. -/
def OwnsPayment (paymentId : Uuid) : Prop :=
  ∃ p ∈ t.payments, p.id = paymentId ∧ p.ownerId = a

/-- A response describes a payment of the user, or a refund of one. -/
def OwnsBody : ResponseBody → Prop
  | .payment response => OwnsPayment a t response.id
  | .refund response => OwnsPayment a t response.paymentId

/-- What is returned is the user's, or is about a payment of the user's. -/
def OwnsResult : OwnerResult → Prop
  | .service (.payment p) => p.ownerId = a
  | .service (.refund r) => OwnsPayment a t r.paymentId
  | .payment p => p.ownerId = a
  | .payments items _ => ∀ p ∈ items, p.ownerId = a
  | .response response => OwnsBody a t response.body
  | .issued key => key.apiKey.userId = a
  | .apiKeys keys => ∀ k ∈ keys, k.userId = a
  | .revoked => True

/-- From `t` to `t'` only rows of the user `a` were changed, and only such rows were added. -/
structure OnlyOwn (t t' : Tables) : Prop where
  payments : (t'.payments.filter fun p => p.ownerId ≠ a) = t.payments.filter fun p => p.ownerId ≠ a
  refunds : ∃ new, t'.refunds = t.refunds ++ new ∧ ∀ r ∈ new, OwnsPayment a t' r.paymentId
  idempotencyKeys : (t'.idempotencyKeys.filter fun r => r.ownerId ≠ a) =
    t.idempotencyKeys.filter fun r => r.ownerId ≠ a
  apiKeys : (t'.apiKeys.filter fun k => k.userId ≠ a) = t.apiKeys.filter fun k => k.userId ≠ a

end Ownership

/-- Every record describes a payment of its owner, or a refund of one. -/
def ResponsesOwned (t : Tables) : Prop :=
  ∀ r ∈ t.idempotencyKeys, OwnsBody r.ownerId t r.responseBody

/-! ## What an operation that returned has changed -/

/-- Besides, no payment changes its owner, and every new record describes the user's own. -/
structure Keeps (a : Uuid) (t t' : Tables) : Prop extends OnlyOwn a t t' where
  owners : ∀ b paymentId, OwnsPayment b t paymentId → OwnsPayment b t' paymentId
  records : ∀ r ∈ t'.idempotencyKeys, r ∈ t.idempotencyKeys ∨
    r.ownerId = a ∧ OwnsBody a t' r.responseBody

section Changes

variable {a : Uuid} {t t' : Tables}

lemma Keeps.refl (a : Uuid) (t : Tables) : Keeps a t t where
  payments := rfl
  refunds := ⟨[], by simp, by simp⟩
  idempotencyKeys := rfl
  apiKeys := rfl
  owners _ _ h := h
  records _ hr := Or.inl hr

/-- A new payment of the user. -/
lemma keeps_insert {p : Payment} (howner : p.ownerId = a)
    (hpayments : t'.payments = t.payments ++ [p]) (hrefunds : t'.refunds = t.refunds)
    (hrecords : t'.idempotencyKeys = t.idempotencyKeys) (hkeys : t'.apiKeys = t.apiKeys) :
    Keeps a t t' where
  payments := by simp [hpayments, howner]
  refunds := ⟨[], by simp [hrefunds], by simp⟩
  idempotencyKeys := by rw [hrecords]
  apiKeys := by rw [hkeys]
  owners := by
    rintro b paymentId ⟨q, hq, hid, hb⟩
    exact ⟨q, hpayments ▸ List.mem_append_left _ hq, hid, hb⟩
  records r hr := Or.inl (hrecords ▸ hr)

/-- An `UPDATE` of a payment keeps the ids and the owners. -/
lemma ownsPayment_savePayment {b paymentId : Uuid} {now : Timestamp} {old new : Payment}
    (hpayments : t'.payments = (t.savePayment now old new).payments)
    (h : OwnsPayment b t paymentId) : OwnsPayment b t' paymentId := by
  obtain ⟨q, hq, hid, hb⟩ := h
  have hmem : (if q.id = old.id then q.saved now old new else q) ∈ t'.payments := by
    rw [hpayments]
    exact List.mem_map_of_mem hq
  refine ⟨_, hmem, ?_, ?_⟩
  · split <;> simp [hid]
  · split <;> simp [hb]

/-- An `UPDATE` of a payment of the user, with refunds of that payment. -/
lemma keeps_save (hids : (t.payments.map Payment.id).Nodup) {now : Timestamp}
    {old new : Payment} (hold : old ∈ t.payments) (howner : old.ownerId = a)
    (hpayments : t'.payments = (t.savePayment now old new).payments)
    (hrefunds : ∃ refunds, t'.refunds = t.refunds ++ refunds ∧
      ∀ r ∈ refunds, r.paymentId = old.id)
    (hrecords : t'.idempotencyKeys = t.idempotencyKeys) (hkeys : t'.apiKeys = t.apiKeys) :
    Keeps a t t' where
  payments := by
    rw [hpayments]
    apply filter_updateAt
    intro p hp hid
    obtain rfl := eq_of_key_eq hids hp hold hid
    simp [howner]
  refunds := by
    obtain ⟨refunds, heq, hof⟩ := hrefunds
    refine ⟨refunds, heq, fun r hr => ?_⟩
    rw [hof r hr]
    exact ownsPayment_savePayment hpayments ⟨old, hold, rfl, howner⟩
  idempotencyKeys := by rw [hrecords]
  apiKeys := by rw [hkeys]
  owners _ _ h := ownsPayment_savePayment hpayments h
  records r hr := Or.inl (hrecords ▸ hr)

/-- Changes of API keys of the user only. -/
lemma keeps_apiKeys (hpayments : t'.payments = t.payments) (hrefunds : t'.refunds = t.refunds)
    (hrecords : t'.idempotencyKeys = t.idempotencyKeys)
    (hkeys : (t'.apiKeys.filter fun k => k.userId ≠ a) = t.apiKeys.filter fun k => k.userId ≠ a) :
    Keeps a t t' where
  payments := by rw [hpayments]
  refunds := ⟨[], by simp [hrefunds], by simp⟩
  idempotencyKeys := by rw [hrecords]
  apiKeys := hkeys
  owners := by
    rintro b paymentId ⟨q, hq, hid, hb⟩
    exact ⟨q, hpayments ▸ hq, hid, hb⟩
  records r hr := Or.inl (hrecords ▸ hr)

/-- A record of a response that describes the user's own. -/
lemma Keeps.storing (h : Keeps a t t') (app : App) (env : Ambient) (endpoint key : String)
    (body : List (String × Json)) (status : ℕ) {response : ResponseBody}
    (hresponse : OwnsBody a t' response) :
    Keeps a t (storing app env a endpoint key body status response t') where
  payments := h.payments
  refunds := h.refunds
  idempotencyKeys := by
    rw [← h.idempotencyKeys]
    simp [PaymentGateway.storing, newIdempotencyKey]
  apiKeys := h.apiKeys
  owners := h.owners
  records r hr := by
    rcases List.mem_append.1 hr with hr | hr
    · exact h.records r hr
    · rw [List.mem_singleton.1 hr]
      exact Or.inr ⟨rfl, hresponse⟩

end Changes

section Operations

variable {app : App} {env : Ambient} {owner : User} {t : Tables}
  {H : History Tables GatewayOp Exn}

/-- The tables that a created payment leaves. -/
lemma createPayment_keeps {args : CreatePaymentArgs} {p : Payment}
    (h : CreatesPayment app env owner args [] H (.ok p))
    (hids : ((view H.writes t).payments.map Payment.id).Nodup) :
    Keeps owner.id t (view H.writes t) ∧ p.ownerId = owner.id ∧
      OwnsPayment owner.id (view H.writes t) p.id := by
  obtain ⟨charge, rfl, hstore⟩ : ∃ charge, p = (withCharge (newPayment env owner args) charge).1 ∧
      view H.writes t = afterCreate env owner t args charge := by
    cases h with
    | @done _ _ _ charge => exact ⟨charge, rfl, rfl⟩
  rw [hstore] at hids ⊢
  have hinsert : (afterCreate env owner t args charge).payments.map Payment.id =
      (t.insertPayment (newPayment env owner args)).payments.map Payment.id :=
    map_key_updateAt fun q => by simp
  have hpayments := payments_afterCreate env owner args charge
    (ne_paymentId_of_nodup (hinsert ▸ hids))
  refine ⟨keeps_insert (by simp) hpayments rfl rfl rfl, by simp, ?_⟩
  exact ⟨_, hpayments ▸ List.mem_append_right _ List.mem_cons_self, by simp, by simp⟩

variable (hids : (t.payments.map Payment.id).Nodup) (hreads : ∀ d ∈ H.reads, d = t)
include hids hreads

lemma capturePayment_keeps {paymentId : Uuid} {amount : Option Money} {p : Payment}
    (h : CapturesPayment app env owner paymentId amount [] H (.ok p)) :
    Keeps owner.id t (view H.writes t) ∧ p.ownerId = owner.id := by
  cases h with
  | @done d₁ d₂ adapter payment charge found =>
    obtain rfl : d₁ = t := hreads d₁ (by simp)
    obtain ⟨hmem, -, howner⟩ := Tables.mem_of_getForOwner found
    exact ⟨keeps_save hids hmem howner rfl ⟨[], by simp, by simp⟩ rfl rfl, howner⟩

lemma cancelPayment_keeps {paymentId : Uuid} {p : Payment}
    (h : CancelsPayment app env owner paymentId [] H (.ok p)) :
    Keeps owner.id t (view H.writes t) ∧ p.ownerId = owner.id := by
  cases h with
  | @done d₁ d₂ adapter payment charge found =>
    obtain rfl : d₁ = t := hreads d₁ (by simp)
    obtain ⟨hmem, -, howner⟩ := Tables.mem_of_getForOwner found
    exact ⟨keeps_save hids hmem howner rfl ⟨[], by simp, by simp⟩ rfl rfl, howner⟩

lemma createRefund_keeps {paymentId : Uuid} {amountMinor : Option ℤ} {reason : Option String}
    {r : Refund} (h : CreatesRefund app env owner paymentId amountMinor reason [] H (.ok r)) :
    Keeps owner.id t (view H.writes t) ∧ OwnsPayment owner.id (view H.writes t) r.paymentId := by
  cases h with
  | @done d₁ d₂ d₃ adapter payment result found =>
    obtain rfl : d₁ = t := hreads d₁ (by simp)
    obtain ⟨hmem, -, howner⟩ := Tables.mem_of_getForOwner found
    refine ⟨keeps_save hids hmem howner rfl ⟨[newRefund env payment amountMinor reason result],
      rfl, by simp [newRefund]⟩ rfl rfl, ?_⟩
    exact ownsPayment_savePayment rfl ⟨payment, hmem, rfl, howner⟩

/-- A method of the services that returns. -/
lemma service_keeps {call : ServiceCall} {r : ServiceResult}
    (hids' : ((view H.writes t).payments.map Payment.id).Nodup)
    (h : (call.prog app env owner).Path [] H (.ok r)) :
    Keeps owner.id t (view H.writes t) ∧ OwnsResult owner.id (view H.writes t) (.service r) := by
  rcases call with args | ⟨paymentId, amount⟩ | paymentId | ⟨paymentId, minor, reason⟩ <;>
    rw [ServiceCall.prog, Prog.path_map] at h <;> obtain ⟨e | x, hx, hr⟩ := h <;> cases hr
  · obtain ⟨hkeeps, howner, -⟩ := createPayment_keeps (createPayment_path hx) hids'
    exact ⟨hkeeps, howner⟩
  · exact capturePayment_keeps hids hreads (capturePayment_path hx)
  · exact cancelPayment_keeps hids hreads (cancelPayment_path hx)
  · exact createRefund_keeps hids hreads (createRefund_path hx)

/-- The operation of an endpoint that returns. -/
lemma operation_keeps {key : Option String} {request : Post} {b : ResponseBody}
    (hids' : ((view H.writes t).payments.map Payment.id).Nodup)
    (h : (request.operation app env owner key).Path [] H (.ok b)) :
    Keeps owner.id t (view H.writes t) ∧ OwnsBody owner.id (view H.writes t) b := by
  rcases request with payload | ⟨paymentId, payload⟩
  · obtain ⟨e | x, hx, hok⟩ := Prog.path_convert.1 h
    · cases hok
    obtain ⟨hkeeps, -, howns⟩ := createPayment_keeps (createPayment_path hx) hids'
    rcases hresponse : paymentToResponse x with e | response
    · simp [Except.bind, hresponse, Except.map] at hok
    · obtain rfl : b = .payment response := by simpa [Except.bind, hresponse, Except.map] using hok
      refine ⟨hkeeps, ?_⟩
      rw [OwnsBody, paymentToResponse_id hresponse]
      exact howns
  · obtain ⟨e | x, hx, hok⟩ := Prog.path_convert.1 h
    · cases hok
    obtain ⟨hkeeps, howns⟩ := createRefund_keeps hids hreads (createRefund_path hx)
    rcases hresponse : refundToResponse x with e | response
    · simp [Except.bind, hresponse, Except.map] at hok
    · obtain rfl : b = .refund response := by simpa [Except.bind, hresponse, Except.map] using hok
      refine ⟨hkeeps, ?_⟩
      rw [OwnsBody, refundToResponse_paymentId hresponse]
      exact howns

/-- An endpoint that returns: the record it replays, or what it has just done. -/
lemma handler_keeps (hown : ResponsesOwned t) {key : Option String} {request : Post}
    {r : StoredResponse} (hids' : ((view H.writes t).payments.map Payment.id).Nodup)
    (h : (request.handler app env owner key).Path [] H (.ok r)) :
    Keeps owner.id t (view H.writes t) ∧ OwnsBody owner.id (view H.writes t) r.body := by
  rw [Post.handler_eq] at h
  by_cases hkey : given key = true
  · cases idempotently_path hkey h with
    | @replayed d row found =>
      obtain rfl : d = t := hreads d (by simp)
      obtain ⟨hmem, howner⟩ := Tables.mem_of_getIdempotencyKey found
      exact ⟨.refl _ _, howner ▸ hown row hmem⟩
    | @stored d K d' b unused ran =>
      obtain ⟨hkeeps, howns⟩ := operation_keeps hids (fun x hx => hreads x (by simp [hx]))
        (by simpa [storing] using hids') ran
      simp only [History.writes_append, History.writes_ofRead, History.writes_ofWrite,
        List.nil_append, List.append_nil, view_append, view_cons, view_nil]
      exact ⟨hkeeps.storing app env _ _ _ 201 howns, howns⟩
  · rw [idempotently, if_neg hkey, Prog.path_map] at h
    obtain ⟨e | b, hran, hr⟩ := h
    · cases hr
    · cases hr
      exact operation_keeps hids hreads hids' hran

end Operations

section ApiKeys

variable {app : App} {env : Ambient} {owner : User} {t : Tables}
  {H : History Tables GatewayOp Exn}

lemma createApiKey_keeps {name : String} {key : IssuedApiKey}
    (h : (createApiKey app env owner name).Path [] H (.ok key)) :
    Keeps owner.id t (view H.writes t) ∧ key.apiKey.userId = owner.id := by
  cases createApiKey_path h with
  | done => exact ⟨keeps_apiKeys rfl rfl rfl (by simp), rfl⟩

lemma revokeApiKey_keeps (hids : (t.apiKeys.map ApiKey.id).Nodup)
    (hreads : ∀ d ∈ H.reads, d = t) {keyId : String} {u : Unit}
    (h : (revokeApiKey app env owner keyId).Path [] H (.ok u)) :
    Keeps owner.id t (view H.writes t) := by
  cases revokeApiKey_path h with
  | @done d id key named found howner =>
    obtain rfl : d = t := hreads d (by simp)
    obtain ⟨hmem, -⟩ := (Tables.getApiKey_eq_some hids).1 found
    refine keeps_apiKeys rfl rfl rfl (filter_updateAt fun k hk hid => ?_)
    obtain rfl := eq_of_key_eq hids hk hmem hid
    simp [howner]

end ApiKeys

/-- **Every operation that returns** changes and returns rows of its user only. -/
lemma OwnerCall.keeps {app : App} {env : Ambient} {owner : User} {t : Tables}
    {H : History Tables GatewayOp Exn} (hunique : t.Unique) (hown : ResponsesOwned t)
    (hreads : ∀ d ∈ H.reads, d = t) (hunique' : (view H.writes t).Unique) {call : OwnerCall}
    {r : OwnerResult} (h : (call.prog app env owner).Path [] H (.ok r)) :
    Keeps owner.id t (view H.writes t) ∧ OwnsResult owner.id (view H.writes t) r := by
  cases call with
  | service call =>
    obtain ⟨e | x, hx, hr⟩ := Prog.path_map.1 h <;> cases hr
    exact service_keeps hunique.paymentId hreads hunique'.paymentId hx
  | post key request =>
    obtain ⟨e | x, hx, hr⟩ := Prog.path_map.1 h <;> cases hr
    exact handler_keeps hunique.paymentId hreads hown hunique'.paymentId hx
  | createApiKey name =>
    obtain ⟨e | x, hx, hr⟩ := Prog.path_map.1 h <;> cases hr
    exact createApiKey_keeps hx
  | revokeApiKey keyId =>
    obtain ⟨e | x, hx, hr⟩ := Prog.path_map.1 h <;> cases hr
    exact ⟨revokeApiKey_keeps hunique.apiKeyId hreads hx, trivial⟩
  | getPayment paymentId =>
    rw [OwnerCall.prog, PaymentGateway.getPayment, path_requirePayment_bind] at h
    obtain ⟨d, K, rfl, ⟨e, -, -, hr⟩ | ⟨-, -, hr⟩ | ⟨p, hfound, rfl, hr⟩⟩ := h <;> cases hr
    exact ⟨.refl _ _, (Tables.mem_of_getForOwner hfound).2.2⟩
  | listPayments status limit offset =>
    obtain ⟨d, K, rfl, d', L, rfl, rfl, hr⟩ := h
    cases hr
    -- a list writes nothing, and the query is filtered by the owner
    refine ⟨.refl _ _, fun p hp => ?_⟩
    exact Tables.ownerId_of_mem_pageOfPayments hp
  | listApiKeys =>
    obtain ⟨d, K, rfl, rfl, hr⟩ := h
    cases hr
    refine ⟨.refl _ _, fun k hk => ?_⟩
    exact Tables.userId_of_mem_listApiKeysForOwner hk

/-! ## Naming a row of somebody else -/

/-- The row that an operation names. -/
inductive Target where
  | payment (id : Uuid)
  | apiKey (id : Uuid)

/-- The row that the call names by its id, where it names one.  The id of an API key comes as a
text, which may not be a UUID. -/
def OwnerCall.target (app : App) : OwnerCall → Option Target
  | .service (.capturePayment paymentId _) => some (.payment paymentId)
  | .service (.cancelPayment paymentId) => some (.payment paymentId)
  | .service (.createRefund paymentId _ _) => some (.payment paymentId)
  | .getPayment paymentId => some (.payment paymentId)
  | .post _ (.refund paymentId _) => some (.payment paymentId)
  | .revokeApiKey keyId => (app.parseUuid keyId).toOption.map .apiKey
  | _ => none

namespace Target

/-- There is such a row, and it belongs to another user than `a`. -/
def Foreign (a : Uuid) (t : Tables) : Target → Prop
  | .payment id => ∃ p ∈ t.payments, p.id = id ∧ p.ownerId ≠ a
  | .apiKey id => ∃ k ∈ t.apiKeys, k.id = id ∧ k.userId ≠ a

/-- There is no row with this id, whoever it might belong to. -/
def Missing (t : Tables) : Target → Prop
  | .payment id => ∀ p ∈ t.payments, p.id ≠ id
  | .apiKey id => ∀ k ∈ t.apiKeys, k.id ≠ id

/-- The lookup that the operation starts with finds no row of the user `a`. -/
def NotOwn (a : Uuid) (t : Tables) : Target → Prop
  | .payment id => t.getForOwner id a = .ok none
  | .apiKey id => ∀ k, t.getApiKey id = some k → k.userId ≠ a

/-- The exception that is raised then, which is the same for a row that is missing and for one
that is another user's. -/
def refusal : Target → Exn
  | .payment _ => .notFoundError "payment not found" []
  | .apiKey _ => .notFoundError "API key not found" []

variable {a : Uuid} {t : Tables} {target : Target}

lemma notOwn_of_foreign (hunique : t.Unique) (h : target.Foreign a t) : target.NotOwn a t := by
  cases target with
  | payment id =>
    obtain ⟨p, hp, rfl, hforeign⟩ := h
    refine scalarOneOrNone_eq_none.2 (List.filter_eq_nil_iff.2 fun q hq hown => ?_)
    obtain ⟨hid, howner⟩ := of_decide_eq_true hown
    rw [eq_of_key_eq hunique.paymentId hq hp hid] at howner
    exact hforeign howner
  | apiKey id =>
    obtain ⟨k, hk, rfl, hforeign⟩ := h
    intro k' hfound
    obtain ⟨hk', hid⟩ := (Tables.getApiKey_eq_some hunique.apiKeyId).1 hfound
    rw [eq_of_key_eq hunique.apiKeyId hk' hk hid]
    exact hforeign

lemma notOwn_of_missing (h : target.Missing t) : target.NotOwn a t := by
  cases target with
  | payment id =>
    refine scalarOneOrNone_eq_none.2 (List.filter_eq_nil_iff.2 fun q hq hown => ?_)
    exact h q hq (of_decide_eq_true hown).1
  | apiKey id =>
    intro k hfound
    have hmem := List.mem_of_find?_eq_some hfound
    exact absurd (by simpa using List.find?_some hfound) (h k hmem)

end Target

section Blind

variable {app : App} {env : Ambient} {owner : User} {handle : Handler GatewayOp Exn Unit}
  {t t' : Tables}

/-- What a user has stored under idempotency keys is the same in both. -/
def SameRecords (a : Uuid) (t t' : Tables) : Prop :=
  (t.idempotencyKeys.filter fun r => r.ownerId = a) =
    t'.idempotencyKeys.filter fun r => r.ownerId = a

lemma SameRecords.getIdempotencyKey {a : Uuid} (h : SameRecords a t t') (endpoint key : String) :
    t.getIdempotencyKey a endpoint key = t'.getIdempotencyKey a endpoint key := by
  have hsplit : ∀ u : Tables, u.getIdempotencyKey a endpoint key = scalarOneOrNone
      ((u.idempotencyKeys.filter fun r => r.ownerId = a).filter fun r =>
        r.endpoint = endpoint ∧ r.key = key) := by
    intro u
    rw [List.filter_filter]
    rw [Tables.getIdempotencyKey]
    congr 2
    funext r
    by_cases hr : r.ownerId = a <;> simp [hr]
  rw [hsplit, hsplit, h]

/-- A method of the services that names a payment the user does not have. -/
lemma run_service_of_notOwn {call : ServiceCall} {tgt : Target}
    (htarget : (OwnerCall.service call).target app = some tgt) (h : tgt.NotOwn owner.id t) :
    (call.prog app env owner).run handle t () = ⟨.error tgt.refusal, t, (), []⟩ := by
  cases call with
  | createPayment args => cases htarget
  | capturePayment paymentId amount =>
    cases htarget
    exact Prog.run_bind_of_error _ _ _ _ (run_requirePayment_bind_of_none h)
  | cancelPayment paymentId =>
    cases htarget
    exact Prog.run_bind_of_error _ _ _ _ (run_requirePayment_bind_of_none h)
  | createRefund paymentId minor reason =>
    cases htarget
    exact Prog.run_bind_of_error _ _ _ _ (run_requirePayment_bind_of_none h)

variable (env handle) in
/-- An operation that names a row that is not the user's does the same in both. -/
lemma OwnerCall.run_of_notOwn {call : OwnerCall} {tgt : Target}
    (hrecords : SameRecords owner.id t t') (htarget : call.target app = some tgt)
    (h : tgt.NotOwn owner.id t) (h' : tgt.NotOwn owner.id t') :
    ∃ r, (call.prog app env owner).run handle t () = ⟨r, t, (), []⟩ ∧
      (call.prog app env owner).run handle t' () = ⟨r, t', (), []⟩ := by
  cases call with
  | service call =>
    exact ⟨_, Prog.run_bind_of_error _ _ _ _ (run_service_of_notOwn htarget h),
      Prog.run_bind_of_error _ _ _ _ (run_service_of_notOwn htarget h')⟩
  | getPayment paymentId =>
    cases htarget
    exact ⟨_, run_requirePayment_bind_of_none h, run_requirePayment_bind_of_none h'⟩
  | revokeApiKey keyId =>
    rcases hid : app.parseUuid keyId with e | id
    · simp [OwnerCall.target, hid, Except.toOption] at htarget
    · obtain rfl : Target.apiKey id = tgt := by
        simpa [OwnerCall.target, hid, Except.toOption] using htarget
      exact ⟨_, Prog.run_bind_of_error _ _ _ _ (run_revokeApiKey_of_not_own hid h),
        Prog.run_bind_of_error _ _ _ _ (run_revokeApiKey_of_not_own hid h')⟩
  | post key request =>
    -- a new payment names no target; a refund names its payment
    rcases request with payload | ⟨paymentId, payload⟩
    · cases htarget
    cases htarget
    obtain ⟨r, hr, hr'⟩ : ∃ r,
        (createRefundEndpoint app env owner key paymentId payload).run handle t () =
          ⟨r, t, (), []⟩ ∧
        (createRefundEndpoint app env owner key paymentId payload).run handle t' () =
          ⟨r, t', (), []⟩ := run_idempotently_of_refused
      (hrecords.getIdempotencyKey "create_refund" (key.getD ""))
      (Prog.run_bind_of_error _ _ _ _ (run_requirePayment_bind_of_none h))
      (Prog.run_bind_of_error _ _ _ _ (run_requirePayment_bind_of_none h'))
    refine ⟨r.map .response, ?_, ?_⟩
    · rw [OwnerCall.prog, Post.handler, Prog.run_bind, hr]
      cases r <;> rfl
    · rw [OwnerCall.prog, Post.handler, Prog.run_bind, hr']
      cases r <;> rfl
  | listPayments status limit offset => cases htarget
  | createApiKey name => cases htarget
  | listApiKeys => cases htarget

end Blind

/-! ## What holds in every reachable state -/

/-- The database has accepted the rows, and every record is its owner's own. -/
structure OwnedState (app : App) (t : Tables) : Prop where
  accepted : app.accepts t = true
  responses : ResponsesOwned t

/-- What holds in the state `t` of an operation of any user, on any id. -/
structure Isolated (app : App) (t : Tables) : Prop where
  /-- Rows of other users are as they were. -/
  onlyOwn : ∀ c : OwnerInput, OnlyOwn c.owner.id t (c.process app t).store
  /-- Rows of other users are not returned. -/
  own : ∀ (c : OwnerInput) r, (c.process app t).answer = .ok r →
    OwnsResult c.owner.id (c.process app t).store r
  /-- A row of another user is as good as none: the answer is the same, nothing is changed,
  and the provider is not called. -/
  blind : ∀ (c : OwnerInput) t' tgt, app.accepts t' = true → SameRecords c.owner.id t t' →
    c.call.target app = some tgt → tgt.Foreign c.owner.id t → tgt.Missing t' →
    ∃ r, c.process app t = ⟨r, t, (), []⟩ ∧ c.process app t' = ⟨r, t', (), []⟩

section Steps

variable {app : App} {t t' : Tables}

lemma OwnsBody.mono {a b : Uuid} (h : Keeps a t t') {body : ResponseBody}
    (hbody : OwnsBody b t body) : OwnsBody b t' body := by
  cases body with
  | payment response => exact h.owners b _ hbody
  | refund response => exact h.owners b _ hbody

/-- One operation. -/
lemma OwnerInput.keeps (hunique : ∀ t, app.accepts t = true → t.Unique) (h : OwnedState app t)
    (c : OwnerInput) :
    app.accepts (c.process app t).store = true ∧
      Keeps c.owner.id t (c.process app t).store ∧
      ∀ r, (c.process app t).answer = .ok r → OwnsResult c.owner.id (c.process app t).store r := by
  obtain ⟨H, r, hpath, hreads, -, ⟨a, rfl, hacc, hans, hstore⟩ | ⟨e, hans, hstore, -⟩⟩ :=
    Prog.path_atomically c.reaction.handler app.accepts .integrityError
      (c.call.prog app c.env c.owner) t ()
  · obtain ⟨hkeeps, howns⟩ := OwnerCall.keeps (hunique t h.accepted) h.responses hreads
      (hunique _ hacc) hpath
    rw [OwnerInput.process, hstore, hans]
    refine ⟨hacc, hkeeps, fun r hr => ?_⟩
    cases hr
    exact howns
  · rw [OwnerInput.process, hstore, hans]
    exact ⟨h.accepted, .refl _ _, fun r hr => by cases hr⟩

lemma OwnedState.step (hunique : ∀ t, app.accepts t = true → t.Unique) (h : OwnedState app t)
    (c : OwnerInput) : OwnedState app (c.step app t) := by
  obtain ⟨hacc, hkeeps, -⟩ := c.keeps hunique h
  refine ⟨hacc, fun r hr => ?_⟩
  rcases hkeeps.records r hr with hr | ⟨howner, hbody⟩
  · exact (h.responses r hr).mono hkeeps
  · exact howner ▸ hbody

lemma OwnedState.isolated (hunique : ∀ t, app.accepts t = true → t.Unique)
    (h : OwnedState app t) : Isolated app t where
  onlyOwn c := (c.keeps hunique h).2.1.toOnlyOwn
  own c := (c.keeps hunique h).2.2
  blind c t' tgt hacc hrecords htarget hforeign hmissing := by
    obtain ⟨r, hr, hr'⟩ := OwnerCall.run_of_notOwn c.env c.reaction.handler hrecords htarget
      (Target.notOwn_of_foreign (hunique t h.accepted) hforeign)
      (Target.notOwn_of_missing hmissing)
    exact ⟨r, Prog.atomically_of_run_eq hr h.accepted, Prog.atomically_of_run_eq hr' hacc⟩

end Steps

/-- **Isolation of the users.**  In every state of every run of operations, whoever they are
run for, an operation changes and returns rows of its own user only, and an operation that
names a payment or an API key of somebody else does what it does when there is none. -/
theorem owner_isolation {app : App} (hunique : ∀ t, app.accepts t = true → t.Unique)
    {t : Tables} (haccepted : app.accepts t = true) (hnone : t.idempotencyKeys = [])
    (calls : List OwnerInput) :
    Always (fun t c => OwnerInput.step app t c) (Isolated app) t calls := by
  have hstart : OwnedState app t := ⟨haccepted, by simp [ResponsesOwned, hnone]⟩
  have hinv := always_of_step (fun t c (h : OwnedState app t) => h.step hunique c) hstart calls
  exact hinv.mono fun t h => h.isolated hunique

/-! ## A payment that somebody else wants to cancel -/

/-- A merchant who has nothing to do with the payment. -/
def otherUser : User := { demoUser with id := .ofNat 9, email := "other@example.com" }

/-- The payment of the first request, and what another user tries with it. -/
def intrusion : List OwnerInput :=
  [⟨demoEnv 1, demoUser, .post (some "order-1") (.payment (demoPayload .mock)),
      mockReaction "mock_pay_1"⟩,
    ⟨demoEnv 2, otherUser, .service (.cancelPayment (demoEnv 1).paymentId),
      mockReaction "mock_pay_2"⟩]

/-- The two users, and nothing else. -/
def intrusionStart : Tables := { Tables.empty with users := [demoUser, otherUser] }

theorem owner_isolation_demo :
    Always (fun t c => OwnerInput.step demoApp t c) (Isolated demoApp) intrusionStart intrusion :=
  owner_isolation demoApp_unique (by decide) rfl _

example : ((run (fun t c => OwnerInput.step demoApp t c) intrusionStart intrusion).payments.map
    Payment.status) = [.captured] := by decide +kernel

end PaymentGateway
