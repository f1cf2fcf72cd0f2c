/-
# Concurrent captures, cancellations and refunds of one payment

Any number of `capture_payment`, `cancel_payment` and `create_refund` requests on one
payment, each in its own session.  Every method checks the status of the row that it read,
calls the provider, and then writes the new status over whatever is committed by then.

The committed statuses follow the state machine as long as every session publishes while its
own check would still pass on the committed row (`lifecycle_of_stillPermitted`).  Nothing in
the code ensures that: in `lifecycle_race` a payment is canceled after it was captured.
-/
import Mathlib.Data.Fintype.Basic
import PaymentGateway.Orderly

namespace PaymentGateway

open Transact

/-! ## Requests on one payment -/

/-- What a request does with the payment: one of the three methods that change an existing one.
-/
inductive PaymentAction where
  | capture (amount : Option Money)
  | cancel
  | refund (amountMinor : Option ℤ) (reason : Option String)

namespace PaymentAction

/-- The call of the service that the action makes on this payment. -/
def call (paymentId : Uuid) : PaymentAction → ServiceCall
  | .capture amount => .capturePayment paymentId amount
  | .cancel => .cancelPayment paymentId
  | .refund amountMinor reason => .createRefund paymentId amountMinor reason

/-- The statuses that pass the check at the top of the method, which is made on the row that the
session has read. -/
def Permits : PaymentAction → PaymentStatus → Prop
  | .capture _, s => s = .authorized
  | .cancel, s => canTransition s .canceled = true
  | .refund _ _, s => s ∈ refundableStates

instance (a : PaymentAction) (s : PaymentStatus) : Decidable (a.Permits s) :=
  match a with
  | .capture _ => inferInstanceAs (Decidable (s = .authorized))
  | .cancel => inferInstanceAs (Decidable (canTransition s .canceled = true))
  | .refund _ _ => inferInstanceAs (Decidable (s ∈ refundableStates))

/-- The statuses that the method may write, once the check has passed. -/
def targets : PaymentAction → List PaymentStatus
  | .capture _ => [.captured]
  | .cancel => [.canceled]
  | .refund _ _ => [.partiallyRefunded, .refunded]

/-- The check of a method is about the transition it makes. -/
lemma canTransition_of_permits {a : PaymentAction} {s s' : PaymentStatus} (hs : a.Permits s)
    (hs' : s' ∈ a.targets) : canTransition s s' = true := by
  cases a with
  | capture amount =>
    obtain rfl : s = .authorized := hs
    simp only [targets, List.mem_cons, List.not_mem_nil, or_false] at hs'
    rw [hs']
    rfl
  | cancel =>
    simp only [targets, List.mem_cons, List.not_mem_nil, or_false] at hs'
    rw [hs']
    exact hs
  | refund amountMinor reason =>
    simp only [Permits, refundableStates, List.mem_cons, List.not_mem_nil, or_false] at hs
    simp only [targets, List.mem_cons, List.not_mem_nil, or_false] at hs'
    rcases hs with rfl | rfl <;> rcases hs' with rfl | rfl <;> rfl

end PaymentAction

namespace PaymentAction

/-- Only a cancellation writes a status in which nothing was captured. -/
lemma cancel_of_target {a : PaymentAction} {s : PaymentStatus} (hs : s ∈ a.targets)
    (hun : s ∈ uncapturedStates) : a = .cancel ∧ s = .canceled := by
  cases a with
  | capture amount =>
    obtain rfl : s = .captured := by simpa [targets] using hs
    exact absurd hun (by decide)
  | cancel => exact ⟨rfl, by simpa [targets] using hs⟩
  | refund amountMinor reason =>
    simp only [targets, List.mem_cons, List.not_mem_nil, or_false] at hs
    rcases hs with rfl | rfl <;> exact absurd hun (by decide)

/-- Only a refund may leave the status as it is, and it passes no uncaptured payment. -/
lemma not_uncaptured_of_kept {a : PaymentAction} {s s' : PaymentStatus} (hs : a.Permits s)
    (hkept : s ∈ a.targets) (hs' : a.Permits s') : s' ∉ uncapturedStates := by
  cases a with
  | capture amount =>
    obtain rfl : s = .authorized := hs
    simp [targets] at hkept
  | cancel =>
    obtain rfl : s = .canceled := by simpa [targets] using hkept
    have hno : canTransition .canceled .canceled = false := rfl
    exact absurd hs (by simp [Permits, hno])
  | refund amountMinor reason =>
    simp only [Permits, refundableStates, List.mem_cons, List.not_mem_nil, or_false] at hs'
    rcases hs' with rfl | rfl <;> decide

end PaymentAction

/-- One request of the set. -/
structure PaymentRequest where
  env : Ambient
  owner : User
  action : PaymentAction

/-- The program of the request: its action, on the payment that all requests are about. -/
def PaymentRequest.prog (app : App) (paymentId : Uuid) (r : PaymentRequest) :
    ServiceProg ServiceResult :=
  (r.action.call paymentId).prog app r.env r.owner

/-- A change of the payment's status is a transition of the state machine. -/
def LegalChange (paymentId : Uuid) (t t' : Tables) : Prop :=
  ∀ p ∈ t.payments, p.id = paymentId → ∀ p' ∈ t'.payments, p'.id = paymentId →
    p'.status ≠ p.status → canTransition p.status p'.status = true

/-- The payment is not canceled while it has captured funds, which could then neither be refunded
nor captured. -/
def NoCanceledFunds (paymentId : Uuid) (t : Tables) : Prop :=
  ∀ p ∈ t.payments, p.id = paymentId → ¬ (p.status = .canceled ∧ 0 < p.amountCaptured)

lemma Orderly.noCanceledFunds {t : Tables} (h : Orderly t) (paymentId : Uuid) :
    NoCanceledFunds paymentId t := by
  rintro p hp - ⟨hs, hpos⟩
  have hle := h.row p hp (by simp [uncapturedStates, hs])
  omega

section Model

variable {ι W C : Type} [DecidableEq ι]

/-- If the move publishes a request, the request's check would pass on the committed row. -/
def StillPermitted (app : App) (handle : C → Handler GatewayOp Exn W) (paymentId : Uuid)
    (requests : ι → PaymentRequest) (s : System ι Tables W C GatewayOp Exn ServiceResult)
    (m : Move ι C) : Prop :=
  ∀ a, System.Publishes (serviceHost app handle) s m a →
    ∀ p ∈ s.store.payments, p.id = paymentId → (requests m.session).action.Permits p.status

end Model

/-! ## What one request publishes -/

section Publication

variable {app : App} {paymentId : Uuid} {r : PaymentRequest} {H : History Tables GatewayOp Exn}
  {a : ServiceResult}

/-- How a request changes the payment that it read: from a status that it permits to one of its
targets. -/
structure Edits (action : PaymentAction) (payment updated : Payment) : Prop where
  permitted : action.Permits payment.status
  target : updated.status ∈ action.targets
  funds : updated.status = .canceled → updated.amountCaptured = payment.amountCaptured

/-- **What a request that returns has done**: it staged an update of the payment's row, and
of no other payment. -/
lemma edits_of_path (h : (r.prog app paymentId).Path [] H (.ok a)) :
    ∃ payment updated, payment.id = paymentId ∧ Edits r.action payment updated ∧
      ∀ t : Tables, (view H.writes t).payments = updateAt Payment.id paymentId
        (fun p => p.saved r.env.now payment updated) t.payments := by
  rw [PaymentRequest.prog] at h
  -- a path that answers is the one that goes through to the end
  rcases haction : r.action with amount | _ | ⟨amountMinor, reason⟩ <;>
    rw [haction, PaymentAction.call, ServiceCall.prog, Prog.path_map] at h <;>
    obtain ⟨x | x, hx, hr⟩ := h <;> try cases hr
  · cases capturePayment_path hx with
    | @done d₁ d₂ adapter payment charge found status currency bound resolved =>
      obtain ⟨-, hid, -⟩ := Tables.mem_of_getForOwner found
      refine ⟨payment, withCapture payment amount charge, hid, ⟨status, by simp [withCapture,
        PaymentAction.targets], fun hs => by cases hs⟩, fun t => ?_⟩
      rw [← hid]
      rfl
  · cases cancelPayment_path hx with
    | @done d₁ d₂ adapter payment charge found status resolved =>
      obtain ⟨-, hid, -⟩ := Tables.mem_of_getForOwner found
      refine ⟨payment, withCancel payment, hid, ⟨status, by simp [withCancel,
        PaymentAction.targets], fun _ => rfl⟩, fun t => ?_⟩
      rw [← hid]
      rfl
  · cases createRefund_path hx with
    | @done d₁ d₂ d₃ adapter payment result found status amount bound resolved =>
      obtain ⟨-, hid, -⟩ := Tables.mem_of_getForOwner found
      refine ⟨payment, withRefund payment amountMinor, hid, ⟨status, ?_, fun _ => rfl⟩, fun t => ?_⟩
      · rw [withRefund, PaymentAction.targets]
        dsimp only
        split <;> simp
      · rw [← hid]
        rfl

variable {t : Tables}

/-- A row whose status still passes the check moves along the state machine. -/
lemma Edits.canTransition {action : PaymentAction} {payment updated row : Payment}
    (h : Edits action payment updated) (hrow : action.Permits row.status) {now : Timestamp}
    (hchange : (row.saved now payment updated).status ≠ row.status) :
    canTransition row.status (row.saved now payment updated).status = true := by
  have hstatus : (row.saved now payment updated).status = updated.status := by
    rw [Payment.saved_status, changed] at hchange ⊢
    split at hchange
    · exact absurd rfl hchange
    · rename_i hne
      rw [if_neg hne]
  rw [hstatus]
  exact PaymentAction.canTransition_of_permits hrow h.target

/-- A row whose status still passes the check has no captured funds afterwards, unless its
status says so. -/
lemma Edits.uncaptured {action : PaymentAction} {payment updated row : Payment}
    (h : Edits action payment updated) (hrow : action.Permits row.status) {now : Timestamp}
    (hzero : row.status ∈ uncapturedStates → row.amountCaptured ≤ 0)
    (hs : (row.saved now payment updated).status ∈ uncapturedStates) :
    (row.saved now payment updated).amountCaptured ≤ 0 := by
  rw [Payment.saved_status, changed] at hs
  split at hs
  · -- the session wrote no status: it was a refund
    rename_i hkept
    exact absurd hs (PaymentAction.not_uncaptured_of_kept h.permitted (hkept ▸ h.target) hrow)
  · obtain ⟨rfl, hcanceled⟩ := PaymentAction.cancel_of_target h.target hs
    have hbefore : row.status ∈ uncapturedStates := by
      rcases canTransition_canceled hrow with hst | hst <;> rw [hst] <;> decide
    rw [Payment.saved_amountCaptured, h.funds hcanceled, changed_same]
    exact hzero hbefore

/-- A request that publishes while its check would still pass keeps the tables in order. -/
lemma Orderly.publish (ht : Orderly t) (h : (r.prog app paymentId).Path [] H (.ok a))
    (hstill : ∀ p ∈ t.payments, p.id = paymentId → r.action.Permits p.status) :
    Orderly (view H.writes t) ∧ LegalChange paymentId t (view H.writes t) := by
  obtain ⟨payment, updated, hid, hedits, hview⟩ := edits_of_path h
  have hpayments := hview t
  rw [← hid] at hpayments
  refine ⟨ht.update hpayments fun p hp hpid => ?_, fun p hp hpid p' hp' hpid' hne => ?_⟩
  · exact hedits.uncaptured (hstill p hp (hpid.trans hid)) (ht.row p hp)
  · rw [hview] at hp'
    obtain ⟨q, hq, ⟨hqid, rfl⟩ | ⟨hqid, rfl⟩⟩ := exists_of_mem_updateAt hp'
    · obtain rfl := eq_of_key_eq ht.ids hq hp (hqid.trans hpid.symm)
      exact hedits.canTransition (hstill q hq hqid) hne
    · exact absurd hpid' hqid

end Publication

/-! ## All interleavings -/

section Interleavings

variable {ι W C : Type} [DecidableEq ι] {app : App} {handle : C → Handler GatewayOp Exn W}
  {paymentId : Uuid} {requests : ι → PaymentRequest}
  {s : System ι Tables W C GatewayOp Exn ServiceResult} {m : Move ι C}

/-- What holds in every state of a run whose sessions publish while their checks still pass. -/
def LifecycleInv (app : App) (paymentId : Uuid) (requests : ι → PaymentRequest)
    (s : System ι Tables W C GatewayOp Exn ServiceResult) : Prop :=
  s.Sound Orderly (fun _ _ => True) fun i => (requests i).prog app paymentId

/-- A step whose session may still publish keeps the invariant and changes the status along
the state machine. -/
lemma LifecycleInv.step (h : LifecycleInv app paymentId requests s)
    (hok : StillPermitted app handle paymentId requests s m) :
    LifecycleInv app paymentId requests (System.step (serviceHost app handle) s m) ∧
      LegalChange paymentId s.store (System.step (serviceHost app handle) s m).store := by
  have hpublish : ∀ a, System.Publishes (serviceHost app handle) s m a →
      Orderly (view (s.session m.session).history.writes s.store) ∧
        LegalChange paymentId s.store (view (s.session m.session).history.writes s.store) :=
    fun a ha => h.store.publish (h.path_of_publishes ha) (hok a ha)
  refine ⟨System.sound_step (fun _ _ => trivial) (fun _ _ _ _ _ => trivial) h
    fun a ha => ⟨(hpublish a ha).1, trivial⟩, ?_⟩
  rcases System.store_step (h := serviceHost app handle) (s := s) (m := m) with
    ⟨hstore, -, -⟩ | ⟨a, ha, hstore, -⟩
  · rw [hstore]
    intro p hp hid p' hp' hid' hne
    obtain rfl := eq_of_key_eq h.store.ids hp' hp (hid'.trans hid.symm)
    exact absurd rfl hne
  · rw [hstore]
    exact (hpublish a ha).2

/-- **The state machine under concurrency.**  In every interleaving of any number of captures,
cancellations and refunds of one payment whose sessions publish while their own checks would
still pass, every committed change of the status is a transition of the state machine, and
the payment is never canceled while it has captured funds. -/
theorem lifecycle_of_stillPermitted {t : Tables} (ht : Orderly t) (w : W)
    (moves : List (Move ι C))
    (hok : Obeys (System.step (serviceHost app handle))
      (StillPermitted app handle paymentId requests)
      (System.start t w fun i => (requests i).prog app paymentId) moves) :
    EachStep (System.step (serviceHost app handle))
        (fun s s' => LegalChange paymentId s.store s'.store)
        (System.start t w fun i => (requests i).prog app paymentId) moves ∧
      Always (System.step (serviceHost app handle)) (fun s => NoCanceledFunds paymentId s.store)
        (System.start t w fun i => (requests i).prog app paymentId) moves := by
  have hstart : LifecycleInv app paymentId requests
      (System.start t w fun i => (requests i).prog app paymentId :
        System ι Tables W C GatewayOp Exn ServiceResult) := System.sound_start ht
  have hkeep (s : System ι Tables W C GatewayOp Exn ServiceResult) (m : Move ι C)
      (h : LifecycleInv app paymentId requests s)
      (hm : StillPermitted app handle paymentId requests s m) := h.step hm
  constructor
  · exact eachStep_of_obeys (fun s m h hm => (hkeep s m h hm).1) (fun s m h hm => (hkeep s m h hm).2)
      hstart hok
  · exact (always_of_obeys (fun s m h hm => (hkeep s m h hm).1) hstart hok).mono
      fun s h => h.store.noCanceledFunds paymentId

end Interleavings

/-! ## A capture and a cancellation -/

/-- A payment of 1000 units that was authorized. -/
def authorizedPayment : Payment :=
  { demoPayment with status := .authorized, amountCaptured := 0, captureMethod := .manual }

/-- The first session captures the payment, the second one cancels it. -/
def captureAndCancel (i : Bool) : PaymentRequest :=
  if i then ⟨demoEnv 3, demoUser, .cancel⟩ else ⟨demoEnv 2, demoUser, .capture none⟩

/-- A capture and a cancellation of one payment, before either has read it. -/
def captureAndCancelStart : System Bool Tables Unit Unit GatewayOp Exn ServiceResult :=
  .start { Tables.empty with payments := [authorizedPayment] } () fun i =>
    (captureAndCancel i).prog demoApp (.ofNat 16)

lemma authorizedPayment_orderly :
    Orderly { Tables.empty with payments := [authorizedPayment] } :=
  ⟨by decide, by simp [authorizedPayment]⟩

/-- The theorem on the capture alone: it publishes while the payment is still authorized. -/
theorem lifecycle_of_stillPermitted_demo :
    EachStep (System.step (serviceHost demoApp (mockHandler "mock_pay_1")))
        (fun s s' => LegalChange (.ofNat 16) s.store s'.store) captureAndCancelStart
        (List.replicate 6 ⟨false, ()⟩) ∧
      Always (System.step (serviceHost demoApp (mockHandler "mock_pay_1")))
        (fun s => NoCanceledFunds (.ofNat 16) s.store) captureAndCancelStart
        (List.replicate 6 ⟨false, ()⟩) := by
  refine lifecycle_of_stillPermitted authorizedPayment_orderly () _ ?_
  refine ⟨fun _ _ => ?_, fun _ _ => ?_, fun _ _ => ?_, fun _ _ => ?_, fun _ _ => ?_, fun _ _ => ?_,
    trivial⟩ <;> decide

/-- The captured payment is canceled. -/
theorem lifecycle_race :
    ¬ (EachStep (System.step (serviceHost demoApp (mockHandler "mock_pay_1")))
        (fun s s' => LegalChange (.ofNat 16) s.store s'.store) captureAndCancelStart (race 6) ∧
      Always (System.step (serviceHost demoApp (mockHandler "mock_pay_1")))
        (fun s => NoCanceledFunds (.ofNat 16) s.store) captureAndCancelStart (race 6)) := by
  rintro ⟨-, h⟩
  have hrow : ∃ p ∈ (run (System.step (serviceHost demoApp (mockHandler "mock_pay_1")))
      captureAndCancelStart (race 6)).store.payments,
      p.id = .ofNat 16 ∧ p.status = .canceled ∧ 0 < p.amountCaptured := by decide
  obtain ⟨p, hp, hid, hbad⟩ := hrow
  exact h.last p hp hid hbad

end PaymentGateway
