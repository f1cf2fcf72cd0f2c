/-
# What committed requests have answered stays true

An answer speaks of the tables as they were when its request was booked, and other requests go
on.  What it says of the rows that a client knows by now is nevertheless so at any time after the
request has committed (`answers_last`): a payment that was shown is there, with the same amount for
the same owner; a secret that was issued belongs to a key of the user; an acknowledged event is
stored.  How far a payment has got is the exception, and is left out.

From FastAPI 0.118 on the answer is sent before the commit; until then nothing is said of it here,
and if the database refuses the commit, it was an answer of a request that never was.

A response that is stored under an idempotency key is answered again much later, on the grounds
of nothing but its row.  That the stored responses are true of their owners is the invariant of
the tables (`TrueRecords`).
-/
import PaymentGateway.Evolution

namespace PaymentGateway

open Transact

/-! ## What an answer says -/

/-- What the response says of a payment, apart from how far it has got. -/
structure PaymentResponse.Tells (r : PaymentResponse) (p : Payment) : Prop where
  id : r.id = p.id
  provider : r.provider = p.provider
  amount : moneyOut p.amount p.currency = .ok r.amount
  captureMethod : r.captureMethod = p.captureMethod
  methodType : r.methodType = p.methodType
  description : r.description = p.description
  customerReference : r.customerReference = p.customerReference
  metadata : r.metadata = p.paymentMetadata
  createdAt : r.createdAt = p.createdAt

/-- What the response says of an API key, apart from the time of its use.  A key that is shown as
dead is dead. -/
structure ApiKeyResponse.Tells (r : ApiKeyResponse) (k : ApiKey) : Prop where
  id : r.id = k.id
  name : r.name = k.name
  displayPrefix : r.displayPrefix = k.displayPrefix
  createdAt : r.createdAt = k.createdAt
  inactive : r.isActive = false → k.isActive = false

section Meaning

variable (app : App) (t : Tables) (userId : Uuid)

/-- The payment of the response is there, is the user's, and is as the response tells. -/
def HasPayment (r : PaymentResponse) : Prop :=
  ∃ p ∈ t.payments, p.ownerId = userId ∧ r.Tells p

/-- The refund of the response is there, of a payment of the user and in its currency. -/
def HasRefund (r : RefundResponse) : Prop :=
  ∃ f ∈ t.refunds, refundToResponse f = .ok r ∧
    ∃ p ∈ t.payments, p.id = f.paymentId ∧ p.ownerId = userId ∧ p.currency = f.currency

/-- The response of one of the two endpoints: the payment or the refund that it shows is there,
with what it says about it. -/
def ResponseBody.Holds : ResponseBody → Prop
  | .payment r => HasPayment t userId r
  | .refund r => HasRefund t userId r

/-- What the answer says to the user is so in these tables, apart from what is bound to change:
how far a payment has got, and when a key was last used. -/
def ApiAnswer.Holds : ApiAnswer → Prop
  | .user r => ∃ u ∈ t.users, u.id = userId ∧ UserResponse.ofUser u = r
  | .tokens pair => ∃ u ∈ t.users, u.id = userId ∧ u.isActive = true ∧ issueTokens app u = pair
  | .apiKeyCreated r => ∃ k ∈ t.apiKeys, k.userId = userId ∧
      r.toApiKeyResponse.Tells k ∧ k.hashedKey = app.sha256 r.apiKey
  | .apiKeys rs => ∀ r ∈ rs, ∃ k ∈ t.apiKeys, k.userId = userId ∧ r.Tells k
  | .stored r => r.body.Holds t userId
  | .payment r => HasPayment t userId r
  | .page rs info => rs.length ≤ info.limit ∧ ∀ r ∈ rs, HasPayment t userId r
  | .ack a => ∃ e ∈ t.webhookEvents, e.eventId = a.eventId ∧ e.eventType = a.eventType
  | .stats s => s.totalPayments ≤ t.payments.length
  | .noContent | .providers _ | .invalid _ => True

/-- The credentials are those of the user, as the tables have them. -/
inductive Identifies (headers : Headers) : Prop where
  | apiKey {key : ApiKey} (presented : given headers.apiKey = true) (mem : key ∈ t.apiKeys)
      (hash : key.hashedKey = app.sha256 (headers.apiKey.getD "")) (owner : key.userId = userId)
  | bearer {subject : String} (absent : given headers.apiKey = false)
      (token : app.decode (partitionSpace (headers.authorization.getD "")).2 "access" =
        .ok subject) (named : app.parseUuid subject = .ok userId)

/-- Every stored response is true of the owner of its record, so that it can be sent again at any
time. -/
def TrueRecords : Prop := ∀ row ∈ t.idempotencyKeys, row.responseBody.Holds t row.ownerId

end Meaning

/-- What the answer to this request says is so, and it says it to the user whose credentials were
given with the request; an answer of a route without credentials speaks of some user. -/
def AnswerHolds (app : App) (request : HttpCall) (answer : ApiAnswer) (t : Tables) : Prop :=
  match request.call with
  | .open _ => ∃ userId, answer.Holds app t userId
  | .user headers _ => ∃ user ∈ t.users, Identifies app t user.id headers ∧
      answer.Holds app t user.id

/-! ## It stays so -/

section Lasting

variable {app : App} {t t' : Tables} {userId : Uuid}

/-- Two versions of a payment are told of alike. -/
lemma PaymentResponse.tells_iff {r : PaymentResponse} {p q : Payment} (h : p.Later q) :
    r.Tells p ↔ r.Tells q := by
  constructor
  · intro hr
    exact ⟨hr.id.trans h.id.symm, hr.provider.trans h.provider.symm,
      by rw [h.amount, h.currency, hr.amount], hr.captureMethod.trans h.captureMethod.symm,
      hr.methodType.trans h.methodType.symm, hr.description.trans h.description.symm,
      hr.customerReference.trans h.customerReference.symm,
      hr.metadata.trans h.paymentMetadata.symm, hr.createdAt.trans h.createdAt.symm⟩
  · intro hr
    exact ⟨hr.id.trans h.id, hr.provider.trans h.provider,
      by rw [← h.amount, ← h.currency, hr.amount], hr.captureMethod.trans h.captureMethod,
      hr.methodType.trans h.methodType, hr.description.trans h.description,
      hr.customerReference.trans h.customerReference, hr.metadata.trans h.paymentMetadata,
      hr.createdAt.trans h.createdAt⟩

lemma ApiKeyResponse.Tells.later {r : ApiKeyResponse} {k l : ApiKey} (hr : r.Tells k)
    (h : k.Later l) : r.Tells l where
  id := hr.id.trans h.id.symm
  name := hr.name.trans h.name.symm
  displayPrefix := hr.displayPrefix.trans h.displayPrefix.symm
  createdAt := hr.createdAt.trans h.createdAt.symm
  inactive hdead := h.inactive (hr.inactive hdead)

lemma UserResponse.ofUser_later {u v : User} (h : u.Later v) : ofUser v = ofUser u := by
  rw [ofUser, ofUser, h.id, h.email, h.fullName, h.role, h.isActive, h.createdAt]

lemma issueTokens_later (app : App) {u v : User} (h : u.Later v) :
    issueTokens app v = issueTokens app u := by
  rw [issueTokens, issueTokens, h.id, h.role]

variable (ht : Evolves t t')
include ht

lemma HasPayment.lasts {r : PaymentResponse} (h : HasPayment t userId r) :
    HasPayment t' userId r := by
  obtain ⟨p, hp, howner, hr⟩ := h
  obtain ⟨q, hq, hlater⟩ := ht.payments.exists_of_mem hp
  exact ⟨q, hq, hlater.ownerId.trans howner, (PaymentResponse.tells_iff hlater).1 hr⟩

lemma HasRefund.lasts {r : RefundResponse} (h : HasRefund t userId r) : HasRefund t' userId r := by
  obtain ⟨f, hf, hr, p, hp, hid, howner, hcurrency⟩ := h
  obtain ⟨q, hq, hlater⟩ := ht.payments.exists_of_mem hp
  exact ⟨f, ht.refunds.subset hf, hr, q, hq, hlater.id.trans hid, hlater.ownerId.trans howner,
    hlater.currency.trans hcurrency⟩

lemma ResponseBody.Holds.lasts {b : ResponseBody} (h : b.Holds t userId) : b.Holds t' userId := by
  cases b with
  | payment => exact HasPayment.lasts ht h
  | refund => exact HasRefund.lasts ht h

/-- **What an answer says stays so.** -/
lemma ApiAnswer.Holds.lasts {answer : ApiAnswer} (h : answer.Holds app t userId) :
    answer.Holds app t' userId := by
  cases answer with
  | user r =>
    obtain ⟨u, hu, hid, hr⟩ := h
    obtain ⟨v, hv, hlater⟩ := ht.users.exists_of_mem hu
    exact ⟨v, hv, hlater.id.trans hid, (UserResponse.ofUser_later hlater).trans hr⟩
  | tokens pair =>
    obtain ⟨u, hu, hid, hactive, hpair⟩ := h
    obtain ⟨v, hv, hlater⟩ := ht.users.exists_of_mem hu
    exact ⟨v, hv, hlater.id.trans hid, hlater.isActive.trans hactive,
      (issueTokens_later app hlater).trans hpair⟩
  | apiKeyCreated r =>
    obtain ⟨k, hk, howner, htells, hhash⟩ := h
    obtain ⟨l, hl, hlater⟩ := ht.apiKeys.exists_of_mem hk
    exact ⟨l, hl, hlater.userId.trans howner, htells.later hlater, hlater.hashedKey.trans hhash⟩
  | apiKeys rs =>
    intro r hr
    obtain ⟨k, hk, howner, htells⟩ := h r hr
    obtain ⟨l, hl, hlater⟩ := ht.apiKeys.exists_of_mem hk
    exact ⟨l, hl, hlater.userId.trans howner, htells.later hlater⟩
  | stored r => exact ResponseBody.Holds.lasts ht h
  | payment r => exact HasPayment.lasts ht h
  | page rs info => exact ⟨h.1, fun r hr => HasPayment.lasts ht (h.2 r hr)⟩
  | ack a =>
    obtain ⟨e, he, hsays⟩ := h
    exact ⟨e, ht.webhookEvents.subset he, hsays⟩
  | stats stats =>
    obtain ⟨old, new, hpayments, hold, -⟩ := ht.payments
    refine le_trans h ?_
    rw [hpayments, hold.length_eq, List.length_append]
    omega
  | noContent | providers | invalid => trivial

lemma Identifies.lasts {headers : Headers} (h : Identifies app t userId headers) :
    Identifies app t' userId headers := by
  cases h with
  | apiKey presented mem hash owner =>
    obtain ⟨l, hl, hlater⟩ := ht.apiKeys.exists_of_mem mem
    exact .apiKey presented hl (hlater.hashedKey.trans hash) (hlater.userId.trans owner)
  | bearer absent token named => exact .bearer absent token named

lemma AnswerHolds.lasts {request : HttpCall} {answer : ApiAnswer}
    (h : AnswerHolds app request answer t) : AnswerHolds app request answer t' := by
  obtain ⟨env, call | ⟨headers, call⟩⟩ := request
  · obtain ⟨userId, hholds⟩ := h
    exact ⟨userId, hholds.lasts ht⟩
  · obtain ⟨u, hu, hidentifies, hholds⟩ := h
    obtain ⟨v, hv, hlater⟩ := ht.users.exists_of_mem hu
    refine ⟨v, hv, ?_⟩
    rw [hlater.id]
    exact ⟨hidentifies.lasts ht, hholds.lasts ht⟩

end Lasting

/-! ## It is so when the request is booked -/

lemma paymentToResponse_tells {p : Payment} {r : PaymentResponse}
    (h : paymentToResponse p = .ok r) : r.Tells p := by
  cases hamount : moneyOut p.amount p.currency with
  | error e =>
    simp only [paymentToResponse, hamount, bind, Except.bind] at h
    cases h
  | ok amount =>
    simp only [paymentToResponse, hamount, bind, Except.bind] at h
    split at h
    · cases h
    split at h
    · cases h
    -- only a string or nothing is taken for the reason of a failure
    split at h
    · cases h
      exact ⟨rfl, rfl, hamount, rfl, rfl, rfl, rfl, rfl, rfl⟩
    · cases h
      exact ⟨rfl, rfl, hamount, rfl, rfl, rfl, rfl, rfl, rfl⟩
    · cases h

/-- The responses of a page are those for the payments, one by one. -/
lemma forall₂_responses {payments : List Payment} {responses : List PaymentResponse}
    (h : payments.mapM paymentToResponse = .ok responses) :
    List.Forall₂ (fun p r => paymentToResponse p = .ok r) payments responses := by
  induction payments generalizing responses with
  | nil =>
    cases h
    exact .nil
  | cons p payments ih =>
    rw [List.mapM_cons] at h
    cases hp : paymentToResponse p with
    | error e => simp [hp, bind, Except.bind] at h
    | ok first =>
      cases hrest : payments.mapM paymentToResponse with
      | error e => simp [hp, hrest, bind, Except.bind] at h
      | ok rest =>
        simp only [hp, hrest, bind, Except.bind, pure, Except.pure, Except.ok.injEq] at h
        rw [← h]
        exact .cons hp (ih hrest)

section Booked

variable {app : App} {env : Ambient} {user : User} {key : Option String} {t : Tables}
  {H K : History Tables GatewayOp Exn} {answer : ApiAnswer}

lemma mem_of_getUser {id : Uuid} {u : User} (h : t.getUser id = some u) :
    u ∈ t.users ∧ u.id = id :=
  ⟨List.mem_of_find?_eq_some h, by simpa using List.find?_some h⟩

lemma Payment.later_withCharge (p : Payment) (charge : ProviderCharge) :
    p.Later (withCharge p charge).1 := by
  rw [withCharge]
  split <;> exact ⟨rfl, rfl, rfl, rfl, rfl, rfl, rfl, rfl, rfl, rfl, rfl⟩

lemma Payment.later_withCapture (p : Payment) (amount : Option Money) (charge : ProviderCharge) :
    p.Later (withCapture p amount charge) := ⟨rfl, rfl, rfl, rfl, rfl, rfl, rfl, rfl, rfl, rfl, rfl⟩

lemma Payment.later_withCancel (p : Payment) : p.Later (withCancel p) :=
  ⟨rfl, rfl, rfl, rfl, rfl, rfl, rfl, rfl, rfl, rfl, rfl⟩

/-- The response for a row, when a later version of the row is there. -/
lemma hasPayment_of_response {d : Tables} (hd : Evolves d t) {p p' : Payment} (hp : p ∈ d.payments)
    (hlater : p.Later p') {r : PaymentResponse} (hr : paymentToResponse p' = .ok r) :
    HasPayment t p.ownerId r :=
  HasPayment.lasts hd ⟨p, hp, rfl,
    (PaymentResponse.tells_iff hlater).2 (paymentToResponse_tells hr)⟩

/-- What is inserted first is there when all is done. -/
lemma evolves_of_cons {f : Tables → Tables} {fs : List (Tables → Tables)}
    (h : ∀ g ∈ f :: fs, Evolving g) (t : Tables) : Evolves (f t) (view (f :: fs) t) :=
  evolving_view (fun g hg => h g (List.mem_cons_of_mem f hg)) (f t)

lemma OpenCall.Books.holds {call : OpenCall} (h : call.Books app env H answer)
    (hreads : ∀ d ∈ H.reads, Evolves d t) :
    ∃ userId, answer.Holds app (view H.writes t) userId := by
  have hview := evolving_view h.evolving t
  cases h with
  | registered read free hash writes =>
    rw [writes]
    exact ⟨env.userId, _, List.mem_append_right _ List.mem_cons_self, rfl, rfl⟩
  | @loggedIn _ _ u hashed d read found verified active unlocked hash writes =>
    have hu : (ApiAnswer.tokens (issueTokens app (withLogin u hashed))).Holds app d u.id :=
      ⟨u, Tables.mem_of_getByEmail found, rfl, active, rfl⟩
    exact ⟨u.id, hu.lasts ((hreads d read).trans hview)⟩
  | @refreshed _ _ _ u d read token named found active writes =>
    have hu : (ApiAnswer.tokens (issueTokens app u)).Holds app d u.id :=
      ⟨u, (mem_of_getUser found).1, rfl, active, rfl⟩
    exact ⟨u.id, hu.lasts ((hreads d read).trans hview)⟩
  | @duplicate _ event d read mem writes =>
    exact ⟨env.userId, event, ((hreads d read).trans hview).webhookEvents.subset mem, rfl, rfl⟩
  | refused writes => exact ⟨env.userId, trivial⟩
  | received writes =>
    rw [writes]
    exact ⟨env.userId, _, List.mem_append_right _ List.mem_cons_self, rfl, rfl⟩

/-- **What a handler answers is so.** -/
lemma UserCall.Books.holds {call : UserCall} (h : call.Books app env user key K answer)
    (huser : ∃ u ∈ t.users, user.Later u)
    (hreads : ∀ d ∈ K.reads, TrueRecords d ∧ Evolves d t) :
    answer.Holds app (view K.writes t) user.id := by
  have hevolving := h.evolving
  have hview := evolving_view hevolving t
  cases h with
  | me writes =>
    obtain ⟨u, hu, hlater⟩ := huser
    rw [writes]
    exact ⟨u, hu, hlater.id, UserResponse.ofUser_later hlater⟩
  | @keysListed keys d read own writes =>
    intro r hr
    obtain ⟨row, hrow, rfl⟩ := List.mem_map.1 hr
    obtain ⟨howner, row₀, hrow₀, hsame⟩ := own row hrow
    obtain ⟨l, hl, hlater⟩ := ((hreads d read).2.trans hview).apiKeys.exists_of_mem hrow₀
    refine ⟨l, hl, by rw [hlater.userId, ← hsame.userId, howner], ?_⟩
    have htells : (ApiKeyResponse.ofApiKey row).Tells row₀ :=
      ⟨hsame.id, hsame.name, hsame.displayPrefix, hsame.createdAt,
        fun hdead => hsame.isActive.symm.trans hdead⟩
    exact htells.later hlater
  | @listed status limit offset total d payments responses read found responded writes =>
    have hresponses := forall₂_responses responded
    constructor
    · rw [← hresponses.length_eq, found, Tables.pageOfPayments]
      exact List.length_take_le _ _
    · intro r hr
      obtain ⟨p, hp, hresponse⟩ := exists_of_forall₂ hresponses hr
      rw [found] at hp
      have hmem := List.mem_of_mem_drop (List.mem_of_mem_take hp)
      rw [List.mem_insertionSort] at hmem
      rw [← Tables.ownerId_of_mem_pageOfPayments hp]
      exact hasPayment_of_response ((hreads d read).2.trans hview) (List.mem_of_mem_filter hmem)
        p.later_refl hresponse
  | @shown _ d payment _ read found responded writes =>
    obtain ⟨hmem, -, howner⟩ := Tables.mem_of_getForOwner found
    rw [← howner]
    exact hasPayment_of_response ((hreads d read).2.trans hview) hmem payment.later_refl responded
  | providersListed writes | refused writes => trivial
  | @counted stats d read total writes =>
    have hstats : (ApiAnswer.stats stats).Holds app d user.id := total.le
    exact hstats.lasts ((hreads d read).2.trans hview)
  | @replayed post row d read found same writes =>
    obtain ⟨hmem, howner⟩ := Tables.mem_of_getIdempotencyKey found
    rw [← howner]
    exact ((hreads d read).1 row hmem).lasts ((hreads d read).2.trans hview)
  | keyCreated writes =>
    rw [writes]
    exact ⟨_, List.mem_append_right _ List.mem_cons_self, rfl,
      ⟨rfl, rfl, rfl, rfl, fun h => h⟩, rfl⟩
  | keyRevoked read mem same named owner writes => trivial
  | @created payload charge response status responded writes =>
    have hmem : newPayment env user (payload.args key) ∈
        (t.insertPayment (newPayment env user (payload.args key))).payments :=
      List.mem_append_right _ List.mem_cons_self
    rw [writes, List.cons_append] at hevolving ⊢
    exact hasPayment_of_response (evolves_of_cons hevolving t) hmem (Payment.later_withCharge _ _)
      responded
  | @refunded paymentId payload d payment result response read found status amount responded writes =>
    obtain ⟨hmem, -, howner⟩ := Tables.mem_of_getForOwner found
    obtain ⟨q, hq, hlater⟩ := ((hreads d read).2.trans hview).payments.exists_of_mem hmem
    rw [writes, List.cons_append] at hevolving
    have hinserted := evolves_of_cons hevolving t
    rw [writes, List.cons_append] at hq ⊢
    exact ⟨_, hinserted.refunds.subset (List.mem_append_right _ List.mem_cons_self), responded, q,
      hq, hlater.id, hlater.ownerId.trans howner, hlater.currency⟩
  | @captured _ _ _ d payment _ _ read found status responded writes =>
    obtain ⟨hmem, -, howner⟩ := Tables.mem_of_getForOwner found
    rw [← howner]
    exact hasPayment_of_response ((hreads d read).2.trans hview) hmem
      (Payment.later_withCapture _ _ _) responded
  | @canceled _ d payment _ read found status responded writes =>
    obtain ⟨hmem, -, howner⟩ := Tables.mem_of_getForOwner found
    rw [← howner]
    exact hasPayment_of_response ((hreads d read).2.trans hview) hmem
      (Payment.later_withCancel _) responded

/-- The records of a handler: the old ones, and that of its answer. -/
lemma UserCall.Books.records {call : UserCall} (h : call.Books app env user key K answer) :
    ∀ row ∈ (view K.writes t).idempotencyKeys, row ∈ t.idempotencyKeys ∨
      row.ownerId = user.id ∧ answer = .stored ⟨201, row.responseBody⟩ := by
  have hrecording {post : Post} {response : ResponseBody} {t' : Tables} {row : IdempotencyKey}
      (hrow : row ∈ (view (recording app env user key post response) t').idempotencyKeys)
      (ht' : t'.idempotencyKeys = t.idempotencyKeys) : row ∈ t.idempotencyKeys ∨
        row.ownerId = user.id ∧
          ApiAnswer.stored ⟨201, response⟩ = .stored ⟨201, row.responseBody⟩ := by
    rw [recording] at hrow
    split at hrow
    · rcases List.mem_append.1 hrow with hold | hnew
      · exact Or.inl (ht' ▸ hold)
      · rw [List.mem_singleton.1 hnew]
        exact Or.inr ⟨rfl, rfl⟩
    · exact Or.inl (ht' ▸ hrow)
  intro row hrow
  cases h with
  | created status responded writes =>
    rw [writes, view_append] at hrow
    exact hrecording hrow rfl
  | refunded read found status amount responded writes =>
    rw [writes, view_append] at hrow
    exact hrecording hrow rfl
  | _ =>
    rename_i writes
    rw [writes] at hrow
    exact Or.inl hrow

lemma OpenCall.Books.records {call : OpenCall} (h : call.Books app env H answer) :
    (view H.writes t).idempotencyKeys = t.idempotencyKeys := by
  cases h with
  | _ =>
    rename_i writes
    rw [writes]
    rfl

/-- Who is signed in is there, under the credentials that were given. -/
lemma SignedIn.identifies {headers : Headers} (h : SignedIn app headers H user)
    (hreads : ∀ d ∈ H.reads, Evolves d t) :
    Identifies app t user.id headers ∧ ∃ u ∈ t.users, user.Later u := by
  cases h with
  | @apiKey d d' k presented read found live later owner active =>
    rw [Tables.getByHash, scalarOneOrNone_eq_some] at found
    obtain ⟨hmem, hhash⟩ := mem_of_filter_eq_singleton found
    obtain ⟨huser, hid⟩ := mem_of_getUser owner
    have hidentifies : Identifies app d user.id headers :=
      .apiKey presented hmem (of_decide_eq_true hhash) hid.symm
    exact ⟨hidentifies.lasts (hreads d read), (hreads d' later).users.exists_of_mem huser⟩
  | @bearer d subject id absent token named read found active =>
    obtain ⟨huser, rfl⟩ := mem_of_getUser found
    exact ⟨.bearer absent token named, (hreads d read).users.exists_of_mem huser⟩

end Booked

/-! ## All interleavings -/

section Interleavings

variable {app : App} {request : HttpCall} {H : History Tables GatewayOp Exn} {answer : ApiAnswer}
  {t : Tables}

/-- What the handler sees of the tables, and what it may rely on. -/
lemma answer_holds_of_books {env : Ambient} {headers : Headers} {call : UserCall} {user : User}
    {L K : History Tables GatewayOp Exn} (signedIn : SignedIn app headers (L ++ K) user)
    (stages : SignInStages env L.writes)
    (books : call.Books app env user headers.idempotencyKey K answer)
    (hreads : ∀ d ∈ (L ++ K).reads, TrueRecords d ∧ Evolves d t) :
    answer.Holds app (view (L ++ K).writes t) user.id := by
  have hstages := evolving_view (evolving_signIn stages) t
  have huser := (signedIn.identifies fun d hd => (hreads d hd).2.trans hstages).2
  rw [History.writes_append, view_append]
  refine books.holds huser fun d hd => ?_
  have hd := hreads d (by simp [hd])
  exact ⟨hd.1, hd.2.trans hstages⟩

/-- **An answer holds when its request is booked.** -/
lemma HttpCall.Books.holds (h : request.Books app H answer)
    (hreads : ∀ d ∈ H.reads, TrueRecords d ∧ Evolves d t) :
    AnswerHolds app request answer (view H.writes t) := by
  have hview := h.evolving t
  cases h with
  | «open» books => exact books.holds fun d hd => (hreads d hd).2
  | @user _ _ _ _ u L K signedIn role stages books history =>
    subst history
    obtain ⟨hidentifies, v, hv, hlater⟩ :=
      signedIn.identifies fun d hd => (hreads d hd).2.trans hview
    have hholds := answer_holds_of_books signedIn stages books hreads
    refine ⟨v, hv, ?_⟩
    rw [hlater.id]
    exact ⟨hidentifies, hholds⟩

/-- **Only true responses are stored.** -/
lemma bookingsKeep_trueRecords : BookingsKeep app TrueRecords := by
  intro request H answer t h ht hreads _ row hrow
  have hview := h.evolving t
  cases h with
  | «open» books =>
    rw [books.records] at hrow
    exact (ht row hrow).lasts hview
  | @user _ _ _ _ u L K signedIn role stages books history =>
    subst history
    have hholds := answer_holds_of_books signedIn stages books hreads
    rw [History.writes_append, view_append] at hrow
    rcases books.records row hrow with hold | ⟨howner, rfl⟩
    · rw [stages.view_idempotencyKeys] at hold
      exact (ht row hold).lasts hview
    · rw [howner]
      exact hholds

variable {ι W C : Type} [DecidableEq ι]

/-- **What was answered stays true.**  In every state of every interleaving, whatever the requests
that have committed were answered is so, and was said to the user whose credentials were given. -/
theorem answers_last (app : App) (handle : C → Handler GatewayOp Exn W) (requests : ι → HttpCall)
    {t : Tables} (ht : TrueRecords t) (w : W) (moves : List (Move ι C)) :
    Always (System.step (serviceHost app handle))
      (Answered fun i answer t => AnswerHolds app (requests i) answer t)
      (apiStart app requests t w) moves := by
  have halways : Always (System.step (serviceHost app handle)) (fun s =>
      ApiSound app requests TrueRecords s ∧
        Answered (fun i answer t => AnswerHolds app (requests i) answer t) s)
      (apiStart app requests t w) moves :=
    answered_run bookingsKeep_trueRecords ht w (fun _ _ _ _ ht h => h.lasts ht)
      (fun _ _ _ _ hbooks _ hreads => hbooks.holds hreads) moves
  exact halways.mono fun _ hs => hs.2

end Interleavings

/-- A merchant pays, and asks for the payment. -/
def payAndShow (pays : Bool) : HttpCall where
  env := demoEnv 1
  call := .user ⟨some "upgi_sk_1", none, some "order-1"⟩
    (if pays then .post (.payment (demoPayload .mock)) else .getPayment (demoEnv 1).paymentId)

/-- The payment is shown after it was made. -/
theorem answers_last_demo :
    Always (System.step (serviceHost demoApp (mockHandler "")))
      (Answered fun i answer t => AnswerHolds demoApp (payAndShow i) answer t)
      (apiStart demoApp payAndShow apiKeyTables ())
      (List.replicate 12 ⟨true, ()⟩ ++ List.replicate 6 ⟨false, ()⟩) :=
  answers_last demoApp (mockHandler "") payAndShow (fun _ h => by cases h) () _

end PaymentGateway
