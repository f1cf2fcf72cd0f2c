/-
# The books and the providers

What the gateway manager has been asked for and what stands in the tables are two accounts of the
same money.  They are compared here request by request, for every interleaving: a request calls
`GatewayManager.execute` at most once, and what a request that has committed has booked is what it
has asked for and been told.  The refunds are the old ones followed by one for each of the committed
requests that called for a refund, in their order, and so are the payments, as far as they tell of
the charge that they were created by (`books_reconciled`).

A call is one of the manager, which may try the provider several times for it; what these attempts
may have moved there is the subject of `Retries.lean`.  A request that is rolled back books nothing,
also if its call has taken effect.

A refund is asked for on the grounds of a row that was read a while ago.  It is a refund of the
payment that is there now, since provider, reference and currency of a payment never change.
-/
import PaymentGateway.Evolution
import PaymentGateway.Lib.Journal

namespace PaymentGateway

open Transact

/-! ## The statement -/

/-- What a payment tells of its charge: whose it is, with which provider, under which reference
and of how much. -/
structure ChargeRecord where
  paymentId : Uuid
  ownerId : Uuid
  provider : ProviderName
  providerReference : Option String
  amount : Money
deriving DecidableEq, Repr

/-- The part of the row that its charge has decided, and that no later operation changes. -/
def Payment.chargeRecord (p : Payment) : ChargeRecord :=
  ⟨p.id, p.ownerId, p.provider, p.providerReference, ⟨p.amount, p.currency⟩⟩

/-- The charges that the payments tell of, in the order of their rows. -/
def Tables.chargeRecords (t : Tables) : List ChargeRecord := t.payments.map Payment.chargeRecord

/-- The manager calls of a handler that has returned, and the rows that stand for them. -/
inductive UserCall.Reconciles (env : Ambient) (user : User) (key : Option String)
    (K : History Tables GatewayOp Exn) : UserCall → List ChargeRecord → List Refund → Prop
  /-- The manager was not called: the route has nothing to do with money, or the answer is an
  old one. -/
  | nothing {call} (calls : K.calls = []) : Reconciles env user key K call [] []
  | charged {payload adapter} {charge : ProviderCharge}
      (calls : K.calls = [⟨(payload.args key).op adapter, .ok charge⟩]) :
      Reconciles env user key K (.post (.payment payload))
        [⟨env.paymentId, user.id, payload.provider, some charge.reference,
          ⟨payload.amountMinor.1, payload.currency⟩⟩] []
  | refunded {paymentId payload d adapter} {payment : Payment} {result : ProviderRefund}
      (read : d ∈ K.reads) (found : d.getForOwner paymentId user.id = .ok (some payment))
      (calls : K.calls = [⟨refundOp payment (payload.amountMinor.map Subtype.val)
        (payload.reason.map Subtype.val) adapter, .ok result⟩]) :
      Reconciles env user key K (.post (.refund paymentId payload)) []
        [newRefund env payment (payload.amountMinor.map Subtype.val)
          (payload.reason.map Subtype.val) result]
  /-- A capture and a cancellation are of a payment that has its row already. -/
  | captured {paymentId payload d adapter amount} {payment : Payment} {charge : ProviderCharge}
      (read : d ∈ K.reads) (found : d.getForOwner paymentId user.id = .ok (some payment))
      (calls : K.calls = [⟨captureOp payment amount adapter, .ok charge⟩]) :
      Reconciles env user key K (.capturePayment paymentId payload) [] []
  | canceled {paymentId d adapter} {payment : Payment} {charge : ProviderCharge}
      (read : d ∈ K.reads) (found : d.getForOwner paymentId user.id = .ok (some payment))
      (calls : K.calls = [⟨cancelOp payment adapter, .ok charge⟩]) :
      Reconciles env user key K (.cancelPayment paymentId) [] []

/-- The manager calls of a request whose program has returned, and the rows that stand for
them. -/
inductive HttpCall.Reconciles (app : App) (H : History Tables GatewayOp Exn) :
    HttpCall → List ChargeRecord → List Refund → Prop
  | open {env call} (calls : H.calls = []) : Reconciles app H ⟨env, .open call⟩ [] []
  | user {env headers call user charges refunds} {L K : History Tables GatewayOp Exn}
      (signedIn : SignedIn app headers H user) (calls : L.calls = [])
      (reconciles : call.Reconciles env user headers.idempotencyKey K charges refunds)
      (history : H = L ++ K) : Reconciles app H ⟨env, .user headers call⟩ charges refunds

/-- The refund is what the one manager call has asked of the provider of the payment, and what it
was told. -/
def RefundAsked (t : Tables) (calls : List (Call GatewayOp Exn)) (refund : Refund) : Prop :=
  ∃ p ∈ t.payments, ∃ adapter result reason, p.id = refund.paymentId ∧
    p.currency = refund.currency ∧ refund.providerReference = some result.reference ∧
      calls = [⟨.execute p.provider adapter (.refund (p.providerReference.getD "")
        ⟨refund.amount, refund.currency⟩ reason), .ok result⟩]

/-- The tables are in agreement with what the manager was asked for: every new charge and every new
refund is that of one committed request and of its one call. -/
structure Reconciled {ι W C : Type} (app : App) (requests : ι → HttpCall) (t : Tables)
    (charges : List (ι × List ChargeRecord)) (refunds : List (ι × List Refund))
    (s : ApiSystem ι W C) : Prop where
  /-- No request calls the manager twice, however it ends. -/
  once : ∀ i, (s.session i).history.calls.length ≤ 1
  charged : Journal Tables.chargeRecords
    (fun i H _ rows => ∃ others, (requests i).Reconciles app H rows others) t charges s
  refunded : Journal Tables.refunds
    (fun i H _ rows => ∃ others, (requests i).Reconciles app H others rows) t refunds s
  /-- Also as the payments are now. -/
  asked : ∀ e ∈ refunds, ∀ refund ∈ e.2,
    RefundAsked s.store (s.session e.1).history.calls refund

/-! ## What is written -/

/-- On tables that the database accepts, the changes book these rows. -/
def BooksRows (gs : List (Tables → Tables)) (charges : List ChargeRecord)
    (refunds : List Refund) : Prop :=
  ∀ t, (view gs t).Unique → (view gs t).chargeRecords = t.chargeRecords ++ charges ∧
    (view gs t).refunds = t.refunds ++ refunds

section Rows

variable {t : Tables} {env : Ambient} {gs : List (Tables → Tables)}

lemma changed_self {α : Type} [DecidableEq α] (a current : α) : changed a a current = current :=
  if_pos rfl

/-- Saving a payment with the reference that it had. -/
lemma chargeRecords_savePayment {now : Timestamp} {old new : Payment}
    (h : new.providerReference = old.providerReference) :
    (t.savePayment now old new).chargeRecords = t.chargeRecords := by
  refine map_updateAt fun p => ?_
  obtain ⟨hid, howner, hprovider, hamount, hcurrency, -⟩ := p.later_saved now old new
  rw [Payment.chargeRecord, hid, howner, hprovider, hamount, hcurrency,
    Payment.saved_providerReference, h, changed_self]
  rfl

/-- A payment that is inserted and then saved with its charge. -/
lemma chargeRecords_charged {now : Timestamp} {p : Payment} {charge : ProviderCharge}
    (hnew : p.id ∉ t.payments.map Payment.id) (hreference : p.providerReference = none) :
    ((t.insertPayment p).savePayment now p (withCharge p charge).1).chargeRecords =
      t.chargeRecords ++ [{ p.chargeRecord with providerReference := some charge.reference }] := by
  have hold : updateAt Payment.id p.id (fun q => q.saved now p (withCharge p charge).1)
      t.payments = t.payments :=
    updateAt_of_forall_ne fun q hq hid => hnew (hid ▸ List.mem_map_of_mem hq)
  have hsaved : (p.saved now p (withCharge p charge).1).chargeRecord =
      { p.chargeRecord with providerReference := some charge.reference } := by
    obtain ⟨hid, howner, hprovider, hamount, hcurrency, -⟩ :=
      p.later_saved now p (withCharge p charge).1
    rw [Payment.chargeRecord, hid, howner, hprovider, hamount, hcurrency,
      Payment.saved_providerReference, withCharge_providerReference, hreference]
    rfl
  rw [Tables.chargeRecords, Tables.savePayment_payments, Tables.insertPayment_payments,
    updateAt_append, hold, List.map_append, Tables.chargeRecords]
  simp [updateAt, hsaved]

/-- The id of a payment that was inserted is new, if the database accepts it. -/
lemma not_mem_of_nodup_saved {now : Timestamp} {p q : Payment}
    (h : (((t.insertPayment p).savePayment now p q).payments.map Payment.id).Nodup) :
    p.id ∉ t.payments.map Payment.id := by
  rw [Tables.savePayment_payments, map_updateAt (fun _ => Payment.saved_id ..),
    Tables.insertPayment_payments, List.map_append, List.nodup_append] at h
  intro hmem
  exact h.2.2 _ hmem _ (by simp) rfl

lemma booksRows_of_harmless (h : ∀ f ∈ gs, Harmless f) : BooksRows gs [] [] := by
  intro t _
  obtain ⟨hpayments, hrefunds, -, -⟩ := harmless_view h t
  rw [Tables.chargeRecords, hpayments, hrefunds]
  simp [Tables.chargeRecords]

/-- The changes of the dependency come first, and leave these tables alone. -/
lemma BooksRows.signIn {fs : List (Tables → Tables)} (h : SignInStages env fs)
    {charges : List ChargeRecord} {refunds : List Refund} (hgs : BooksRows gs charges refunds) :
    BooksRows (fs ++ gs) charges refunds := by
  intro t ht
  rw [view_append] at ht ⊢
  have hsame : (view fs t).chargeRecords = t.chargeRecords ∧ (view fs t).refunds = t.refunds := by
    cases h <;> exact ⟨rfl, rfl⟩
  rw [← hsame.1, ← hsame.2]
  exact hgs _ ht

/-- The record of the response is in another table. -/
lemma view_recording {app : App} {user : User} {key : Option String} {post : Post}
    {response : ResponseBody} :
    (view (recording app env user key post response) t).payments = t.payments ∧
      (view (recording app env user key post response) t).refunds = t.refunds := by
  rw [recording]
  split <;> exact ⟨rfl, rfl⟩

end Rows

/-! ## Every route -/

section Routes

variable {app : App} {env : Ambient} {user : User} {key : Option String}
  {gs : List (Tables → Tables)} {K : History Tables GatewayOp Exn}

/-- A program that has nothing to do with money, on any of its paths. -/
lemma harmless_of_path {α : Type} {p : ServiceProg α} {H : History Tables GatewayOp Exn}
    {post : History Tables GatewayOp Exn → α → Prop} (h : p.Meets harmlessly post H)
    {r : Except Exn α} (hK : p.Path H.writes K r) :
    K.calls = [] ∧ ∀ f ∈ K.writes, Harmless f := by
  obtain ⟨-, hcalls, hwrites⟩ := h.of_path hK
  refine ⟨List.eq_nil_iff_forall_not_mem.2 fun c hc => ?_, fun f hf => ?_⟩
  · obtain ⟨L, hno⟩ := hcalls c hc
    exact hno
  · obtain ⟨L, hharmless⟩ := hwrites f hf
    exact hharmless

/-! ### At most one call -/

lemma post_calls {post : Post} {r : Except Exn StoredResponse}
    (h : (post.handler app env user key).Path gs K r) : K.calls.length ≤ 1 := by
  rw [Post.handler_eq] at h
  by_cases hkey : given key = true
  · cases idempotently_path hkey h with
    | refused
    | replayed => simp
    | raised unused ran
    | rejected unused ran
    | stored unused ran => simpa using (operation_calls ran).1
  · rw [idempotently, if_neg hkey] at h
    obtain ⟨x, hx, -⟩ := Prog.path_map.1 h
    exact (operation_calls hx).1

lemma capture_calls {paymentId : Uuid} {payload : CapturePaymentRequest}
    {r : Except Exn PaymentResponse}
    (h : (capturePaymentEndpoint app env user paymentId payload).Path gs K r) :
    K.calls.length ≤ 1 := by
  rw [capturePaymentEndpoint, getPayment, path_requirePayment_bind] at h
  obtain ⟨d, L, rfl, ⟨e, -, rfl, -⟩ | ⟨-, rfl, -⟩ | ⟨p, -, h⟩⟩ := h
  · simp
  · simp
  obtain ⟨x, hx, -⟩ := Prog.path_bind_ofExcept.1 h
  cases capturePayment_path hx with
  | refused calls
  | unanswered calls => simp [calls]
  | done => simp

lemma cancel_calls {paymentId : Uuid} {r : Except Exn PaymentResponse}
    (h : (cancelPaymentEndpoint app env user paymentId).Path gs K r) : K.calls.length ≤ 1 := by
  obtain ⟨x, hx, -⟩ := Prog.path_bind_ofExcept.1 h
  cases cancelPayment_path hx with
  | refused calls
  | unanswered calls => simp [calls]
  | done => simp

lemma UserCall.handler_calls {call : UserCall} {r : Except Exn ApiAnswer}
    (h : (call.handler app env user key).Path gs K r) : K.calls.length ≤ 1 := by
  cases hmoney : call.movesMoney with
  | false =>
    rw [(harmless_of_path (H := ⟨[], [], gs⟩) (UserCall.handler_meets hmoney) h).1]
    exact Nat.zero_le 1
  | true =>
    cases call with
    | post post =>
      obtain ⟨x, hx, -⟩ := Prog.path_map.1 h
      exact post_calls hx
    | capturePayment paymentId payload =>
      obtain ⟨x, hx, -⟩ := Prog.path_map.1 h
      exact capture_calls hx
    | cancelPayment paymentId =>
      obtain ⟨x, hx, -⟩ := Prog.path_map.1 h
      exact cancel_calls hx
    | _ => cases hmoney

/-- **One call at most**, however the request ends. -/
lemma HttpCall.calls_length {request : HttpCall} {r : Except Exn ApiAnswer}
    (h : (request.prog app).Path [] K r) : K.calls.length ≤ 1 := by
  obtain ⟨env, call | ⟨headers, call⟩⟩ := request
  · rw [(harmless_of_path (H := .nil) (OpenCall.prog_meets call) h).1]
    exact Nat.zero_le 1
  · rw [HttpCall.prog, Prog.path_bind] at h
    obtain ⟨e, hL, -⟩ | ⟨user, L, M, rfl, hL, hM⟩ := h
    · rw [(harmless_of_path (H := .nil) (dependency_meets call) hL).1]
      exact Nat.zero_le 1
    · rw [History.calls_append, (harmless_of_path (H := .nil) (dependency_meets call) hL).1]
      exact UserCall.handler_calls hM

/-! ### What is booked of it -/

/-- What a handler that has returned is to be reconciled with, it has booked. -/
def UserCall.Settles (env : Ambient) (user : User) (key : Option String)
    (K : History Tables GatewayOp Exn) (call : UserCall) : Prop :=
  ∃ charges refunds, call.Reconciles env user key K charges refunds ∧
    BooksRows K.writes charges refunds

lemma post_settles (hgs : SignInStages env gs) {post : Post} {stored : StoredResponse}
    (h : (post.handler app env user key).Path gs K (.ok stored)) :
    (UserCall.post post).Settles env user key K := by
  obtain ⟨hcalls, hwrites, -⟩ | ⟨b, L, rfl, hran, hreads, hcalls, hwrites⟩ := handler_path hgs h
  · refine ⟨[], [], .nothing hcalls, ?_⟩
    rw [hwrites]
    exact booksRows_of_harmless (by simp)
  cases post with
  | payment payload =>
    obtain ⟨x, hx, hok⟩ := Prog.path_convert.1 hran
    cases createPayment_path hx with
    | @done _ _ adapter charge amount flushed resolved status =>
      refine ⟨_, _, .charged hcalls, fun t ht => ?_⟩
      rw [hwrites, view_append] at ht ⊢
      have hids := ht.paymentId
      rw [view_recording.1] at hids
      rw [Tables.chargeRecords, view_recording.1, view_recording.2]
      exact ⟨chargeRecords_charged (not_mem_of_nodup_saved hids) rfl, (List.append_nil _).symm⟩
    | _ => cases hok
  | refund paymentId payload =>
    obtain ⟨x, hx, hok⟩ := Prog.path_convert.1 hran
    cases createRefund_path hx with
    | @done _ _ _ adapter payment result found status =>
      rw [hgs.view_getForOwner] at found
      refine ⟨_, _, .refunded (hreads _ (by simp)) found hcalls, fun t ht => ?_⟩
      rw [hwrites, view_append, Tables.chargeRecords, view_recording.1, view_recording.2]
      refine ⟨?_, rfl⟩
      rw [List.append_nil]
      exact chargeRecords_savePayment (t := t.insertRefund _) rfl
    | _ => cases hok

lemma capture_settles (hgs : SignInStages env gs) {paymentId : Uuid}
    {payload : CapturePaymentRequest} {response : PaymentResponse}
    (h : (capturePaymentEndpoint app env user paymentId payload).Path gs K (.ok response)) :
    (UserCall.capturePayment paymentId payload).Settles env user key K := by
  rw [capturePaymentEndpoint, getPayment, path_requirePayment_bind] at h
  obtain ⟨d, L, rfl, ⟨e, -, -, hno⟩ | ⟨-, -, hno⟩ | ⟨p, hp, h⟩⟩ := h
  · cases hno
  · cases hno
  obtain ⟨x, hx, hok⟩ := Prog.path_bind_ofExcept.1 h
  cases capturePayment_path hx with
  | @done _ _ adapter payment charge found =>
    rw [hgs.view_getForOwner] at found
    refine ⟨[], [], .captured (by simp) found rfl, fun t ht => ?_⟩
    rw [List.append_nil]
    exact ⟨chargeRecords_savePayment rfl, (List.append_nil _).symm⟩
  | _ => cases hok

lemma cancel_settles (hgs : SignInStages env gs) {paymentId : Uuid} {response : PaymentResponse}
    (h : (cancelPaymentEndpoint app env user paymentId).Path gs K (.ok response)) :
    (UserCall.cancelPayment paymentId).Settles env user key K := by
  rw [cancelPaymentEndpoint] at h
  obtain ⟨x, hx, hok⟩ := Prog.path_bind_ofExcept.1 h
  cases cancelPayment_path hx with
  | @done _ _ adapter payment charge found =>
    rw [hgs.view_getForOwner] at found
    refine ⟨[], [], .canceled (by simp) found rfl, fun t ht => ?_⟩
    rw [List.append_nil]
    exact ⟨chargeRecords_savePayment rfl, (List.append_nil _).symm⟩
  | _ => cases hok

/-- **What a handler settles.** -/
lemma UserCall.handler_settles (hgs : SignInStages env gs) {call : UserCall} {answer : ApiAnswer}
    (h : (call.handler app env user key).Path gs K (.ok answer)) :
    call.Settles env user key K := by
  cases hmoney : call.movesMoney with
  | false =>
    obtain ⟨hcalls, hharmless⟩ :=
      harmless_of_path (H := ⟨[], [], gs⟩) (UserCall.handler_meets hmoney) h
    exact ⟨[], [], .nothing hcalls, booksRows_of_harmless hharmless⟩
  | true =>
    cases call with
    | post post =>
      obtain ⟨x, hx, hok⟩ := Prog.path_map.1 h
      cases x with
      | error e => cases hok
      | ok stored => exact post_settles hgs hx
    | capturePayment paymentId payload =>
      obtain ⟨x, hx, hok⟩ := Prog.path_map.1 h
      cases x with
      | error e => cases hok
      | ok response => exact capture_settles hgs hx
    | cancelPayment paymentId =>
      obtain ⟨x, hx, hok⟩ := Prog.path_map.1 h
      cases x with
      | error e => cases hok
      | ok response => exact cancel_settles hgs hx
    | _ => cases hmoney

/-- **What a request is to be reconciled with, it has booked.** -/
lemma HttpCall.settles {request : HttpCall} {answer : ApiAnswer}
    (h : (request.prog app).Path [] K (.ok answer)) : ∃ charges refunds,
      request.Reconciles app K charges refunds ∧ BooksRows K.writes charges refunds := by
  obtain ⟨env, call | ⟨headers, call⟩⟩ := request
  · obtain ⟨hcalls, hharmless⟩ := harmless_of_path (H := .nil) (OpenCall.prog_meets call) h
    exact ⟨[], [], .open hcalls, booksRows_of_harmless hharmless⟩
  · rw [HttpCall.prog, Prog.path_bind] at h
    obtain ⟨e, -, hno⟩ | ⟨user, L, M, rfl, hL, hM⟩ := h
    · cases hno
    obtain ⟨hsigned, -⟩ := ((dependency_meets call).of_path (H := .nil) hL).1 user rfl
    obtain ⟨charges, refunds, hreconciles, hbooks⟩ :=
      UserCall.handler_settles (dependency_path hL) hM
    have hcalls := (harmless_of_path (H := .nil) (dependency_meets call) hL).1
    exact ⟨charges, refunds, .user (hsigned.append M) hcalls hreconciles rfl,
      hbooks.signIn (dependency_path hL)⟩

end Routes

/-! ## All interleavings -/

section Interleavings

variable {ι W C : Type} {app : App} {handle : C → Handler GatewayOp Exn W}
  {requests : ι → HttpCall} {s : ApiSystem ι W C} {m : Move ι C} {t : Tables}
  {charges : List (ι × List ChargeRecord)} {refunds : List (ι × List Refund)}

/-- A refund of a payment that was read a while ago. -/
lemma HttpCall.Reconciles.asked {request : HttpCall} {H : History Tables GatewayOp Exn}
    {records : List ChargeRecord} {rows : List Refund}
    (h : request.Reconciles app H records rows)
    (hreads : ∀ d ∈ H.reads, d.chargeRecords <+: t.chargeRecords) :
    ∀ refund ∈ rows, RefundAsked t H.calls refund := by
  intro refund hrefund
  cases h with
  | «open» => cases hrefund
  | @user _ _ _ user _ _ L K signedIn calls reconciles history =>
    subst history
    cases reconciles with
    | @refunded paymentId payload d adapter payment result read found ran =>
      obtain rfl := List.mem_singleton.1 hrefund
      have hmem := (Tables.mem_of_getForOwner found).1
      have hrecord : payment.chargeRecord ∈ t.chargeRecords :=
        (hreads d (by simp [read])).subset (List.mem_map_of_mem hmem)
      obtain ⟨p, hp, hsame⟩ := List.mem_map.1 hrecord
      simp only [Payment.chargeRecord, ChargeRecord.mk.injEq, Money.mk.injEq] at hsame
      obtain ⟨hid, -, hprovider, hreference, -, hcurrency⟩ := hsame
      refine ⟨p, hp, adapter, result, payload.reason.map Subtype.val, hid, hcurrency, rfl, ?_⟩
      rw [History.calls_append, calls, List.nil_append, ran, hprovider, hreference]
      rfl
    | _ => cases hrefund

/-- Every session has read charges that are there still. -/
def ChargesKept (app : App) (requests : ι → HttpCall) (s : ApiSystem ι W C) : Prop :=
  s.Sound Tables.Unique (fun d t => d.chargeRecords <+: t.chargeRecords)
    fun i => (requests i).prog app

/-- The two journals are all that is to be shown. -/
lemma ChargesKept.reconciled (hs : ChargesKept app requests s)
    (hcharges : Journal Tables.chargeRecords
      (fun i H _ rows => ∃ others, (requests i).Reconciles app H rows others) t charges s)
    (hrefunds : Journal Tables.refunds
      (fun i H _ rows => ∃ others, (requests i).Reconciles app H others rows) t refunds s) :
    Reconciled app requests t charges refunds s where
  once i := by
    obtain ⟨K, r, hpath⟩ := (hs.follows i).exists_path s.store .integrityError
    have hlength := HttpCall.calls_length hpath
    rw [History.calls_append, List.length_append] at hlength
    omega
  charged := hcharges
  refunded := hrefunds
  asked e he := by
    obtain ⟨a, -, others, hreconciles⟩ := hrefunds.appended e he
    exact hreconciles.asked fun d hd => (hs.reads _ d hd).2

/-- What a publication books. -/
lemma ChargesKept.settles (hs : ChargesKept app requests s)
    (hunique : ∀ t, app.accepts t = true → t.Unique) {a : ApiAnswer}
    (ha : System.Publishes (serviceHost app handle) s m a) : ∃ charges refunds,
      (requests m.session).Reconciles app (s.session m.session).history charges refunds ∧
        (view (s.session m.session).history.writes s.store).chargeRecords =
          s.store.chargeRecords ++ charges ∧
        (view (s.session m.session).history.writes s.store).refunds =
          s.store.refunds ++ refunds := by
  obtain ⟨charges, refunds, hreconciles, hbooks⟩ := HttpCall.settles (hs.path_of_publishes ha)
  exact ⟨charges, refunds, hreconciles, hbooks s.store (hunique _ ha.2)⟩

variable [DecidableEq ι]

lemma chargesKept_step (hunique : ∀ t, app.accepts t = true → t.Unique)
    (hs : ChargesKept app requests s) :
    ChargesKept app requests (System.step (serviceHost app handle) s m) := by
  refine System.sound_step (fun _ _ => List.prefix_refl _)
    (fun _ _ _ hab hbc => hab.trans hbc) hs fun a ha => ⟨hunique _ ha.2, ?_⟩
  obtain ⟨charges, refunds, -, hcharges, -⟩ := hs.settles hunique ha
  rw [hcharges]
  exact List.prefix_append _ _

/-- **The books agree with the providers.**  Whatever the requests are and however their steps
interleave, the payments and the refunds are the old ones and those that the committed requests
have asked of the gateway manager, each of them by one call. -/
theorem books_reconciled (hunique : ∀ t, app.accepts t = true → t.Unique) (ht : t.Unique)
    (handle : C → Handler GatewayOp Exn W) (requests : ι → HttpCall) (w : W)
    (moves : List (Move ι C)) : ∃ charges refunds,
      Reconciled app requests t charges refunds
        (run (System.step (serviceHost app handle)) (apiStart app requests t w) moves) := by
  have halways : Always (System.step (serviceHost app handle)) (fun s =>
      ChargesKept app requests s ∧
        (∃ charges, Journal Tables.chargeRecords
          (fun i H _ rows => ∃ others, (requests i).Reconciles app H rows others) t charges s) ∧
        ∃ refunds, Journal Tables.refunds
          (fun i H _ rows => ∃ others, (requests i).Reconciles app H others rows) t refunds s)
      (apiStart app requests t w) moves := by
    refine always_of_step ?_
      ⟨System.sound_start ht, ⟨[], journal_start⟩, [], journal_start⟩ moves
    rintro s m ⟨hs, ⟨charges, hcharges⟩, refunds, hrefunds⟩
    refine ⟨chargesKept_step hunique hs, ?_, ?_⟩
    · refine hcharges.step fun a ha => ?_
      obtain ⟨new, others, hreconciles, hnew, -⟩ := hs.settles hunique ha
      exact ⟨new, hnew, others, hreconciles⟩
    · refine hrefunds.step fun a ha => ?_
      obtain ⟨others, new, hreconciles, -, hnew⟩ := hs.settles hunique ha
      exact ⟨new, hnew, others, hreconciles⟩
  obtain ⟨hkept, ⟨charges, hcharges⟩, refunds, hrefunds⟩ := halways.last
  exact ⟨charges, refunds, hkept.reconciled hcharges hrefunds⟩

end Interleavings

/-- A merchant takes a payment and refunds an older one. -/
def chargeAndRefund (pays : Bool) : HttpCall where
  env := demoEnv (if pays then 2 else 3)
  call := .user ⟨some "upgi_sk_1", none, none⟩
    (.post (if pays then .payment (demoPayload .mock) else .refund demoPayment.id ⟨none, none⟩))

/-- The payment comes first, and then the refund. -/
theorem books_reconciled_demo : ∃ charges refunds,
    Reconciled demoApp chargeAndRefund { apiKeyTables with payments := [demoPayment] } charges refunds
      (run (System.step (serviceHost demoApp (mockHandler "")))
        (apiStart demoApp chargeAndRefund { apiKeyTables with payments := [demoPayment] } ())
        (List.replicate 14 ⟨true, ()⟩ ++ List.replicate 14 ⟨false, ()⟩)) :=
  books_reconciled demoApp_unique (by decide) (mockHandler "") chargeAndRefund () _

end PaymentGateway
