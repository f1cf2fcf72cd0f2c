/-
# How the tables evolve

Between any two states of the system the tables are related by `Evolves`, whatever the requests
are and however their steps interleave: no row is ever deleted, the columns that identify a row
stay as they are, what records the past is append-only, and an API key that is dead stays dead.

The relation is reflexive and transitive, and every row that a request books keeps it; so it
may serve as the relation between a store that a session has read and the present one
(`System.Sound`), which is how the modules after this one use it.
-/
import PaymentGateway.Bookings
import PaymentGateway.Lib.Growth

namespace PaymentGateway

open Transact

/-! ## Rows -/

/-- Two versions of one user; the hash of the password and the failed logins may differ. -/
structure User.Later (a b : User) : Prop where
  id : b.id = a.id
  email : b.email = a.email
  fullName : b.fullName = a.fullName
  role : b.role = a.role
  isActive : b.isActive = a.isActive
  createdAt : b.createdAt = a.createdAt

/-- Two versions of one API key: what it is stays, and what is dead stays dead. -/
structure ApiKey.Later (a b : ApiKey) : Prop where
  id : b.id = a.id
  userId : b.userId = a.userId
  name : b.name = a.name
  hashedKey : b.hashedKey = a.hashedKey
  displayPrefix : b.displayPrefix = a.displayPrefix
  createdAt : b.createdAt = a.createdAt
  inactive : a.isActive = false → b.isActive = false
  revoked : a.revokedAt.isSome → b.revokedAt.isSome

/-- Two versions of one payment: what was asked for stays as it is. -/
structure Payment.Later (a b : Payment) : Prop where
  id : b.id = a.id
  ownerId : b.ownerId = a.ownerId
  provider : b.provider = a.provider
  amount : b.amount = a.amount
  currency : b.currency = a.currency
  captureMethod : b.captureMethod = a.captureMethod
  methodType : b.methodType = a.methodType
  description : b.description = a.description
  customerReference : b.customerReference = a.customerReference
  paymentMetadata : b.paymentMetadata = a.paymentMetadata
  createdAt : b.createdAt = a.createdAt

lemma User.later_refl (a : User) : a.Later a := ⟨rfl, rfl, rfl, rfl, rfl, rfl⟩

lemma User.Later.trans {a b c : User} (h : a.Later b) (h' : b.Later c) : a.Later c where
  id := h'.id.trans h.id
  email := h'.email.trans h.email
  fullName := h'.fullName.trans h.fullName
  role := h'.role.trans h.role
  isActive := h'.isActive.trans h.isActive
  createdAt := h'.createdAt.trans h.createdAt

lemma User.later_saved (row : User) (now : Timestamp) (old new : User) :
    row.Later (row.saved now old new) := by
  rw [saved]
  split
  · exact row.later_refl
  · exact ⟨rfl, rfl, rfl, rfl, rfl, rfl⟩

lemma ApiKey.later_refl (a : ApiKey) : a.Later a :=
  ⟨rfl, rfl, rfl, rfl, rfl, rfl, fun h => h, fun h => h⟩

lemma ApiKey.Later.trans {a b c : ApiKey} (h : a.Later b) (h' : b.Later c) : a.Later c where
  id := h'.id.trans h.id
  userId := h'.userId.trans h.userId
  name := h'.name.trans h.name
  hashedKey := h'.hashedKey.trans h.hashedKey
  displayPrefix := h'.displayPrefix.trans h.displayPrefix
  createdAt := h'.createdAt.trans h.createdAt
  inactive := fun ha => h'.inactive (h.inactive ha)
  revoked := fun ha => h'.revoked (h.revoked ha)

/-- A property that the new value has, or that was there before and is not written, stays. -/
lemma changed_keeps {α : Type} [DecidableEq α] {P : α → Prop} {old new current : α}
    (h : new = old ∨ P new) (hcurrent : P current) : P (changed old new current) := by
  rw [changed]
  split
  · exact hcurrent
  · rename_i hne
    exact h.resolve_left hne

/-- Saving a key can only end its life. -/
lemma ApiKey.later_saved (row : ApiKey) (now : Timestamp) {old new : ApiKey}
    (hactive : new.isActive = old.isActive ∨ new.isActive = false)
    (hrevoked : new.revokedAt = old.revokedAt ∨ new.revokedAt.isSome) :
    row.Later (row.saved now old new) := by
  have hinactive (hdead : row.isActive = false) : (row.saved now old new).isActive = false := by
    rw [saved_isActive]
    exact changed_keeps (P := fun active => active = false) hactive hdead
  have hkept (hdead : row.revokedAt.isSome) : (row.saved now old new).revokedAt.isSome := by
    rw [saved_revokedAt]
    exact changed_keeps (P := fun revoked => Option.isSome revoked) hrevoked hdead
  refine ⟨saved_id .., saved_userId .., ?_, saved_hashedKey .., ?_, ?_, hinactive, hkept⟩
  all_goals
    rw [saved]
    split <;> rfl

lemma Payment.later_refl (a : Payment) : a.Later a :=
  ⟨rfl, rfl, rfl, rfl, rfl, rfl, rfl, rfl, rfl, rfl, rfl⟩

lemma Payment.Later.trans {a b c : Payment} (h : a.Later b) (h' : b.Later c) : a.Later c where
  id := h'.id.trans h.id
  ownerId := h'.ownerId.trans h.ownerId
  provider := h'.provider.trans h.provider
  amount := h'.amount.trans h.amount
  currency := h'.currency.trans h.currency
  captureMethod := h'.captureMethod.trans h.captureMethod
  methodType := h'.methodType.trans h.methodType
  description := h'.description.trans h.description
  customerReference := h'.customerReference.trans h.customerReference
  paymentMetadata := h'.paymentMetadata.trans h.paymentMetadata
  createdAt := h'.createdAt.trans h.createdAt

lemma Payment.later_saved (row : Payment) (now : Timestamp) (old new : Payment) :
    row.Later (row.saved now old new) := by
  rw [saved]
  split
  · exact row.later_refl
  · exact ⟨rfl, rfl, rfl, rfl, rfl, rfl, rfl, rfl, rfl, rfl, rfl⟩

/-! ## Tables -/

/-- What may have become of the tables `t`. -/
structure Evolves (t t' : Tables) : Prop where
  users : Grows User.Later (fun u => u.role = .merchant ∧ u.isActive = true) t.users t'.users
  apiKeys : Grows ApiKey.Later (fun _ => True) t.apiKeys t'.apiKeys
  payments : Grows Payment.Later (fun _ => True) t.payments t'.payments
  providerConfigs : t'.providerConfigs = t.providerConfigs
  refunds : t.refunds <+: t'.refunds
  idempotencyKeys : t.idempotencyKeys <+: t'.idempotencyKeys
  webhookEvents : t.webhookEvents <+: t'.webhookEvents
  auditLogs : t.auditLogs <+: t'.auditLogs

lemma evolves_refl (t : Tables) : Evolves t t where
  users := .refl User.later_refl _
  apiKeys := .refl ApiKey.later_refl _
  payments := .refl Payment.later_refl _
  providerConfigs := rfl
  refunds := List.prefix_rfl
  idempotencyKeys := List.prefix_rfl
  webhookEvents := List.prefix_rfl
  auditLogs := List.prefix_rfl

lemma Evolves.trans {t t' t'' : Tables} (h : Evolves t t') (h' : Evolves t' t'') :
    Evolves t t'' where
  users := h.users.trans (fun _ _ _ => User.Later.trans)
    (fun _ _ hnew hlater => ⟨hlater.role.trans hnew.1, hlater.isActive.trans hnew.2⟩) h'.users
  apiKeys := h.apiKeys.trans (fun _ _ _ => ApiKey.Later.trans) (fun _ _ _ _ => trivial) h'.apiKeys
  payments :=
    h.payments.trans (fun _ _ _ => Payment.Later.trans) (fun _ _ _ _ => trivial) h'.payments
  providerConfigs := h'.providerConfigs.trans h.providerConfigs
  refunds := h.refunds.trans h'.refunds
  idempotencyKeys := h.idempotencyKeys.trans h'.idempotencyKeys
  webhookEvents := h.webhookEvents.trans h'.webhookEvents
  auditLogs := h.auditLogs.trans h'.auditLogs

/-- The change lets any tables evolve, so that it can be made at any moment of a run. -/
def Evolving (f : Tables → Tables) : Prop := ∀ t, Evolves t (f t)

lemma evolving_view {fs : List (Tables → Tables)} (h : ∀ f ∈ fs, Evolving f) :
    Evolving (view fs) := by
  induction fs with
  | nil => exact evolves_refl
  | cons f fs ih =>
    intro t
    rw [view_cons]
    exact (h f List.mem_cons_self t).trans (ih (fun g hg => h g (List.mem_cons_of_mem f hg)) (f t))

section Statements

variable {now : Timestamp}

lemma evolving_insertUser {user : User} (hrole : user.role = .merchant)
    (hactive : user.isActive = true) : Evolving fun t => t.insertUser user := fun t =>
  { evolves_refl t with
    users := grows_append User.later_refl (by simpa using ⟨hrole, hactive⟩) }

lemma evolving_saveUser {old new : User} : Evolving fun t => t.saveUser now old new := fun t =>
  { evolves_refl t with
    users := grows_updateAt User.later_refl fun a => a.later_saved now old new }

lemma evolving_insertApiKey {key : ApiKey} : Evolving fun t => t.insertApiKey key := fun t =>
  { evolves_refl t with
    apiKeys := grows_append ApiKey.later_refl fun _ _ => trivial }

lemma evolving_saveApiKey {old new : ApiKey}
    (hactive : new.isActive = old.isActive ∨ new.isActive = false)
    (hrevoked : new.revokedAt = old.revokedAt ∨ new.revokedAt.isSome) :
    Evolving fun t => t.saveApiKey now old new := fun t =>
  { evolves_refl t with
    apiKeys := grows_updateAt ApiKey.later_refl fun a => a.later_saved now hactive hrevoked }

lemma evolving_insertPayment {payment : Payment} : Evolving fun t => t.insertPayment payment :=
  fun t =>
    { evolves_refl t with
      payments := grows_append Payment.later_refl fun _ _ => trivial }

lemma evolving_savePayment {old new : Payment} : Evolving fun t => t.savePayment now old new :=
  fun t =>
    { evolves_refl t with
      payments := grows_updateAt Payment.later_refl fun a => a.later_saved now old new }

lemma evolving_insertRefund {refund : Refund} : Evolving fun t => t.insertRefund refund := fun t =>
  { evolves_refl t with refunds := List.prefix_append _ _ }

lemma evolving_insertIdempotencyKey {row : IdempotencyKey} :
    Evolving fun t => t.insertIdempotencyKey row := fun t =>
  { evolves_refl t with idempotencyKeys := List.prefix_append _ _ }

lemma evolving_insertWebhookEvent {event : WebhookEvent} :
    Evolving fun t => t.insertWebhookEvent event := fun t =>
  { evolves_refl t with webhookEvents := List.prefix_append _ _ }

lemma evolving_insertAuditLog {entry : AuditLog} : Evolving fun t => t.insertAuditLog entry :=
  fun t => { evolves_refl t with auditLogs := List.prefix_append _ _ }

end Statements

/-! ## Requests -/

section Requests

variable {app : App} {env : Ambient} {user : User} {key : Option String}
  {H : History Tables GatewayOp Exn} {answer : ApiAnswer}

lemma evolving_signIn {gs : List (Tables → Tables)} (h : SignInStages env gs) :
    ∀ f ∈ gs, Evolving f := by
  cases h with
  | nothing => simp
  | used => exact List.forall_mem_singleton.2 (evolving_saveApiKey (Or.inl rfl) (Or.inl rfl))

lemma OpenCall.Books.evolving {call : OpenCall} (h : call.Books app env H answer) :
    ∀ f ∈ H.writes, Evolving f := by
  cases h with
  | registered read free hash writes =>
    rw [writes]
    exact List.forall_mem_cons.2
      ⟨evolving_insertUser rfl rfl, List.forall_mem_singleton.2 evolving_insertAuditLog⟩
  | loggedIn read found verified active unlocked hash writes =>
    rw [writes]
    exact List.forall_mem_cons.2
      ⟨evolving_saveUser, List.forall_mem_singleton.2 evolving_insertAuditLog⟩
  | refreshed read token named found active writes => simp [writes]
  | duplicate read mem writes => simp [writes]
  | refused writes => simp [writes]
  | received writes =>
    rw [writes]
    exact List.forall_mem_cons.2
      ⟨evolving_insertWebhookEvent, List.forall_mem_singleton.2 evolving_insertAuditLog⟩

lemma evolving_recording {post : Post} {response : ResponseBody} :
    ∀ f ∈ recording app env user key post response, Evolving f := by
  rw [recording]
  split
  · exact List.forall_mem_singleton.2 evolving_insertIdempotencyKey
  · simp

lemma UserCall.Books.evolving {call : UserCall} (h : call.Books app env user key H answer) :
    ∀ f ∈ H.writes, Evolving f := by
  cases h with
  | me writes | keysListed read own writes | listed read found responded writes
  | shown read found responded writes | providersListed writes | counted read total writes
  | refused writes | replayed read found same writes => simp [writes]
  | keyCreated writes =>
    rw [writes]
    exact List.forall_mem_cons.2
      ⟨evolving_insertApiKey, List.forall_mem_singleton.2 evolving_insertAuditLog⟩
  | keyRevoked read mem same named owner writes =>
    rw [writes]
    exact List.forall_mem_cons.2 ⟨evolving_saveApiKey (Or.inr rfl) (Or.inr rfl),
      List.forall_mem_singleton.2 evolving_insertAuditLog⟩
  | created status responded writes =>
    rw [writes]
    exact List.forall_mem_append.2
      ⟨List.forall_mem_cons.2 ⟨evolving_insertPayment, List.forall_mem_cons.2
        ⟨evolving_savePayment, List.forall_mem_singleton.2 evolving_insertAuditLog⟩⟩,
        evolving_recording⟩
  | refunded read found status amount responded writes =>
    rw [writes]
    exact List.forall_mem_append.2
      ⟨List.forall_mem_cons.2 ⟨evolving_insertRefund, List.forall_mem_cons.2
        ⟨evolving_savePayment, List.forall_mem_singleton.2 evolving_insertAuditLog⟩⟩,
        evolving_recording⟩
  | captured read found status responded writes =>
    rw [writes]
    exact List.forall_mem_cons.2
      ⟨evolving_savePayment, List.forall_mem_singleton.2 evolving_insertAuditLog⟩
  | canceled read found status responded writes =>
    rw [writes]
    exact List.forall_mem_cons.2
      ⟨evolving_savePayment, List.forall_mem_singleton.2 evolving_insertAuditLog⟩

/-- **What a request books lets the tables evolve.** -/
lemma HttpCall.Books.evolving {request : HttpCall} (h : request.Books app H answer) :
    Evolving (view H.writes) := by
  refine evolving_view ?_
  cases h with
  | «open» books => exact books.evolving
  | user signedIn role stages books history =>
    subst history
    exact List.forall_mem_append.2 ⟨evolving_signIn stages, books.evolving⟩

end Requests

/-! ## All interleavings -/

section Interleavings

variable {ι W C : Type} {app : App} {handle : C → Handler GatewayOp Exn W}
  {requests : ι → HttpCall} {I : Tables → Prop} {s : ApiSystem ι W C} {m : Move ι C}

/-- What holds at any time: the tables satisfy `I`, every session has read tables that have
evolved to the present ones, and it books what its request books, on the grounds that the access
rules ask for. -/
structure ApiSound (app : App) (requests : ι → HttpCall) (I : Tables → Prop)
    (s : ApiSystem ι W C) : Prop where
  sound : s.Sound I Evolves fun i => (requests i).prog app
  access : ∀ i, (s.session i).Honours (accessRules app (requests i)) fun H answer =>
    MayBeAnswered app (requests i) H ∧ (requests i).Books app H answer

lemma apiSound_start {t : Tables} {w : W} (ht : I t) :
    ApiSound app requests I (apiStart app requests t w : ApiSystem ι W C) where
  sound := System.sound_start ht
  access i := Session.honours_fresh (((requests i).prog_meets app).and ((requests i).prog_books app))

/-- What a session is about to publish. -/
lemma ApiSound.books_of_publishes [DecidableEq ι] (hs : ApiSound app requests I s)
    {answer : ApiAnswer} (ha : System.Publishes (serviceHost app handle) s m answer) :
    (requests m.session).Books app (s.session m.session).history answer :=
  ((hs.access m.session).running _ ha.1).2

/-- Publishing keeps `I`, whatever is booked on the grounds of earlier tables. -/
def BookingsKeep (app : App) (I : Tables → Prop) : Prop :=
  ∀ ⦃request : HttpCall⦄ ⦃H : History Tables GatewayOp Exn⦄ ⦃answer : ApiAnswer⦄ ⦃t : Tables⦄,
    request.Books app H answer → I t → (∀ d ∈ H.reads, I d ∧ Evolves d t) →
      app.accepts (view H.writes t) = true → I (view H.writes t)

/-- What the database makes sure of. -/
lemma bookingsKeep_of_accepts (hI : ∀ t, app.accepts t = true → I t) : BookingsKeep app I :=
  fun _ _ _ _ _ _ _ haccepts => hI _ haccepts

lemma apiSound_step [DecidableEq ι] (hI : BookingsKeep app I) (hs : ApiSound app requests I s) :
    ApiSound app requests I (System.step (serviceHost app handle) s m) where
  sound := System.sound_step (fun t _ => evolves_refl t) (fun _ _ _ => Evolves.trans) hs.sound
    fun _ ha => ⟨hI (hs.books_of_publishes ha) hs.sound.store (hs.sound.reads _) ha.2,
      (hs.books_of_publishes ha).evolving _⟩
  access := System.honours_step (fun i => accessRules_stable app (requests i)) hs.access m

/-- The tables evolve with every step. -/
lemma evolves_step [DecidableEq ι] (hs : ApiSound app requests I s) :
    Evolves s.store (System.step (serviceHost app handle) s m).store := by
  rcases System.store_step (h := serviceHost app handle) (s := s) (m := m) with
    ⟨hstore, -, -⟩ | ⟨answer, ha, hstore, -⟩
  · rw [hstore]
    exact evolves_refl _
  · rw [hstore]
    exact (hs.books_of_publishes ha).evolving _

lemma apiSound_run [DecidableEq ι] (hI : BookingsKeep app I) {t : Tables} (ht : I t)
    (w : W) (moves : List (Move ι C)) :
    ApiSound app requests I
      (run (System.step (serviceHost app handle)) (apiStart app requests t w) moves) := by
  have halways : Always (System.step (serviceHost app handle)) (ApiSound app requests I)
      (apiStart app requests t w) moves :=
    always_of_step (fun s m hs => apiSound_step hI hs) (apiSound_start ht) moves
  exact halways.last

lemma evolves_run [DecidableEq ι] (hI : BookingsKeep app I) (hs : ApiSound app requests I s)
    (moves : List (Move ι C)) :
    Evolves s.store (run (System.step (serviceHost app handle)) s moves).store :=
  run_of_obeys (R := fun s s' : ApiSystem ι W C => Evolves s.store s'.store)
    (fun s => evolves_refl s.store) (fun _ _ _ => Evolves.trans)
    (fun _ _ hs _ => apiSound_step hI hs) (fun _ _ hs _ => evolves_step hs) hs
    (obeys_of_forall fun _ _ => trivial)

/-- Whatever the sessions that have committed have returned, the present tables bear it out, in
the sense of `P`. -/
def Answered (P : ι → ApiAnswer → Tables → Prop) (s : ApiSystem ι W C) : Prop :=
  ∀ i answer, (s.session i).Committed answer → P i answer s.store

/-- **Rule for answers.**  What an answer says, if it is so once its request is booked and stays
so while the tables evolve, is so at any time after the request was committed. -/
lemma answered_run [DecidableEq ι] {P : ι → ApiAnswer → Tables → Prop} (hI : BookingsKeep app I)
    {t : Tables} (ht : I t) (w : W)
    (stable : ∀ i answer t t', Evolves t t' → P i answer t → P i answer t')
    (booked : ∀ i H answer t, (requests i).Books app H answer → I t →
      (∀ d ∈ H.reads, I d ∧ Evolves d t) → P i answer (view H.writes t))
    (moves : List (Move ι C)) :
    Always (System.step (serviceHost app handle))
      (fun s => ApiSound app requests I s ∧ Answered P s) (apiStart app requests t w) moves := by
  refine always_of_step ?_ ⟨apiSound_start ht, fun i answer hanswer => by cases hanswer⟩ moves
  rintro s m ⟨hs, hanswered⟩
  refine ⟨apiSound_step hI hs, fun i answer hanswer => ?_⟩
  rcases System.committed_step hanswer with hbefore | ⟨rfl, ha⟩
  · exact stable i answer _ _ (evolves_step hs) (hanswered i answer hbefore)
  · rw [(System.step_of_publishes ha).1]
    exact booked _ _ answer _ (hs.books_of_publishes ha) hs.sound.store (hs.sound.reads _)

/-- **Nothing is lost and nothing is rewritten.**  Whatever the requests are and however their
steps interleave, between any two states of a run the tables only evolve. -/
theorem tables_evolve [DecidableEq ι] (app : App) (handle : C → Handler GatewayOp Exn W)
    (requests : ι → HttpCall) (t : Tables) (w : W) (moves later : List (Move ι C)) :
    Evolves
      (run (System.step (serviceHost app handle)) (apiStart app requests t w) moves).store
      (run (System.step (serviceHost app handle)) (apiStart app requests t w)
        (moves ++ later)).store := by
  have hI : BookingsKeep app fun _ => True := bookingsKeep_of_accepts fun _ _ => trivial
  rw [run_append]
  exact evolves_run hI (apiSound_run hI trivial w moves) later

end Interleavings

end PaymentGateway
