/-
# Concurrent refunds of one payment

Any number of `create_refund` requests on one captured payment, each in its own session.
The method reads the payment without a lock, checks the amount against the row it read,
calls the provider, and writes back a refunded amount computed from that row.

The refunds stay within the captured amount, and none is lost from the ledger, exactly as
long as every session publishes while the committed `amount_refunded` is still the one it
read (`noOverRefund_iff`).  Nothing in the code ensures that: `noOverRefund_race` is a run of
two sessions that refund more than was captured.
-/
import Mathlib.Data.Fintype.Basic
import PaymentGateway.Services.Calls

namespace PaymentGateway

open Transact

/-- The minor units that a gateway call asks to refund, and nothing for the other operations. -/
def GatewayOp.refundUnits : {β : Type} → GatewayOp β → ℤ
  | _, .execute _ _ (.refund _ amount _) => amount.minorUnits
  | _, _ => 0

/-- The units that a call refunded: what it asked for, if it was answered. -/
def refundedBy (k : Call GatewayOp Exn) : ℤ :=
  match k.answer with
  | .ok _ => k.op.refundUnits
  | .error _ => 0

/-- One request of the set: who asks, for how much and why.  The payment is the same for all. -/
structure RefundRequest where
  env : Ambient
  owner : User
  amountMinor : Option ℤ
  reason : Option String

section Model

variable {ι W C : Type} [DecidableEq ι]

/-- The program of a request: the method of the service, in a session of its own. -/
def RefundRequest.prog (app : App) (paymentId : Uuid) (r : RefundRequest) : ServiceProg Refund :=
  createRefund app r.env r.owner paymentId r.amountMinor r.reason

/-- The units that the provider refunded for a session, if its refund was committed. -/
def executedFor (x : Session Tables C GatewayOp Exn Refund) : ℤ :=
  match x.status with
  | .committed _ => (x.history.calls.map refundedBy).sum
  | _ => 0

/-- The refunds committed for the payment, and the ones the provider executed for them, are
within the captured amount, and the ledger has them all. -/
def NoOverRefund [Fintype ι] (paymentId : Uuid)
    (s : System ι Tables W C GatewayOp Exn Refund) : Prop :=
  ∀ p ∈ s.store.payments, p.id = paymentId →
    s.store.refundedTotal paymentId ≤ p.amountCaptured ∧
      ∑ i, executedFor (s.session i) ≤ p.amountCaptured ∧
      p.amountRefunded = s.store.refundedTotal paymentId

/-- If the move publishes a refund, the committed refunded amount is still the one that the
session read. -/
def UpToDate (app : App) (handle : C → Handler GatewayOp Exn W) (paymentId : Uuid)
    (s : System ι Tables W C GatewayOp Exn Refund) (m : Move ι C) : Prop :=
  ∀ a, System.Publishes (serviceHost app handle) s m a →
    ∀ d, (s.session m.session).history.reads.head? = some d →
      ∀ q ∈ d.payments, q.id = paymentId →
        ∀ p ∈ s.store.payments, p.id = paymentId → q.amountRefunded = p.amountRefunded

end Model

/-! ## What one request publishes -/

/-- The books of a payment of which `captured` units were captured are in order. -/
structure Books (paymentId : Uuid) (captured : ℤ) (t : Tables) : Prop where
  ids : (t.payments.map Payment.id).Nodup
  row : ∃ p ∈ t.payments, p.id = paymentId ∧ p.amountCaptured = captured ∧
    p.amountRefunded = t.refundedTotal paymentId
  bound : t.refundedTotal paymentId ≤ captured

lemma CapturedPayment.books {paymentId : Uuid} {t : Tables} (h : CapturedPayment paymentId t) :
    ∃ captured, Books paymentId captured t := by
  obtain ⟨p, hp, hid, -, hcap, href⟩ := h.row
  have htotal : t.refundedTotal paymentId = 0 := by simp [Tables.refundedTotal, h.refunds]
  exact ⟨p.amountCaptured, h.ids, ⟨p, hp, hid, rfl, by rw [href, htotal]⟩, by rw [htotal]; exact hcap⟩

section Publication

variable {app : App} {paymentId : Uuid} {r : RefundRequest} {H : History Tables GatewayOp Exn}
  {a : Refund}

/-- **What a request that returns has done**: it read a row of the payment, had the provider
refund a positive amount within the balance of that row, and staged a refund of this amount
and a refunded amount computed from that row. -/
lemma refund_of_path (h : (r.prog app paymentId).Path [] H (.ok a)) :
    ∃ d payment amount, H.reads.head? = some d ∧ payment ∈ d.payments ∧
      payment.id = paymentId ∧ 0 < amount ∧ amount ≤ payment.amountRefundable ∧
      (H.calls.map refundedBy).sum = amount ∧
      ∀ t : Tables, (view H.writes t).refundedTotal paymentId = t.refundedTotal paymentId + amount ∧
        (view H.writes t).payments = updateAt Payment.id paymentId
          (fun p => p.saved r.env.now payment (withRefund payment r.amountMinor)) t.payments ∧
        (withRefund payment r.amountMinor).amountRefunded = payment.amountRefunded + amount := by
  cases createRefund_path h with
  | @done d₁ d₂ d₃ adapter payment result found status amount bound resolved =>
    obtain ⟨hmem, hid, -⟩ := Tables.mem_of_getForOwner found
    refine ⟨d₁, payment, (refundAmount payment r.amountMinor).minorUnits, rfl, hmem, hid, amount,
      bound, ?_, fun t => ⟨?_, ?_, rfl⟩⟩
    · simp [refundedBy, refundOp, GatewayOp.refundUnits]
    · have hrefund : (newRefund r.env payment r.amountMinor r.reason result).paymentId =
          paymentId := hid
      have htotal := Tables.refundedTotal_insertRefund (t := t)
        (newRefund r.env payment r.amountMinor r.reason result) paymentId
      rw [if_pos hrefund] at htotal
      exact htotal
    · rw [← hid]
      rfl

variable {captured : ℤ} {t : Tables}

/-- A request that publishes on the refunded amount it read keeps the books in order. -/
lemma Books.publish (ht : Books paymentId captured t)
    (h : (r.prog app paymentId).Path [] H (.ok a))
    (hread : ∀ d ∈ H.reads, Books paymentId captured d)
    (hfresh : ∀ d, H.reads.head? = some d → ∀ q ∈ d.payments, q.id = paymentId →
      ∀ p ∈ t.payments, p.id = paymentId → q.amountRefunded = p.amountRefunded) :
    Books paymentId captured (view H.writes t) := by
  obtain ⟨d, payment, amount, hhead, hpay, hid, hpos, hle, -, hview⟩ := refund_of_path h
  obtain ⟨htotal, hpayments, hafter⟩ := hview t
  obtain ⟨p, hp, hpid, hcap, href⟩ := ht.row
  -- the row that was read has the captured amount of the payment
  obtain ⟨q, hq, hqid, hqcap, -⟩ := (hread d (List.mem_of_head? hhead)).row
  obtain rfl := eq_of_key_eq (hread d (List.mem_of_head? hhead)).ids hpay hq (hid.trans hqid.symm)
  have hsame := hfresh d hhead payment hpay hid p hp hpid
  have hbound := ht.bound
  refine ⟨?_, ⟨p.saved r.env.now payment (withRefund payment r.amountMinor), ?_, ?_, ?_, ?_⟩, ?_⟩
  · rw [hpayments, map_key_updateAt (fun q => by simp)]
    exact ht.ids
  · rw [hpayments, ← hpid]
    exact (mem_updateAt ht.ids hp).2 (Or.inl rfl)
  · simpa using hpid
  · rw [Payment.saved_amountCaptured]
    exact (changed_same _ _).trans hcap
  · rw [Payment.saved_amountRefunded, hafter, changed, if_neg (by omega), hsame, href, htotal]
  · rw [htotal]
    rw [Payment.amountRefundable] at hle
    omega

end Publication

/-! ## All interleavings -/

section Interleavings

variable {ι W C : Type} [DecidableEq ι] [Fintype ι] {app : App}
  {handle : C → Handler GatewayOp Exn W} {paymentId : Uuid} {requests : ι → RefundRequest}

/-- The invariant of the runs whose sessions publish on what they read. -/
structure RefundsInv (app : App) (paymentId : Uuid) (captured : ℤ) (requests : ι → RefundRequest)
    (s : System ι Tables W C GatewayOp Exn Refund) : Prop where
  sound : s.Sound (Books paymentId captured) (fun _ _ => True)
    fun i => (requests i).prog app paymentId
  executed : ∑ i, executedFor (s.session i) = s.store.refundedTotal paymentId

variable {captured : ℤ} {s : System ι Tables W C GatewayOp Exn Refund} {m : Move ι C}

omit [DecidableEq ι] in
lemma RefundsInv.noOverRefund (h : RefundsInv app paymentId captured requests s) :
    NoOverRefund paymentId s := by
  intro q hq hqid
  obtain ⟨p, hp, hid, hcap, href⟩ := h.sound.store.row
  obtain rfl := eq_of_key_eq h.sound.store.ids hq hp (hqid.trans hid.symm)
  have hbound := h.sound.store.bound
  rw [h.executed, hcap]
  exact ⟨hbound, hbound, href⟩

omit [Fintype ι] [DecidableEq ι] in
lemma executedFor_of_not_committed {x : Session Tables C GatewayOp Exn Refund}
    (hx : ∀ a, ¬ x.Committed a) : executedFor x = 0 := by
  rw [executedFor]
  split
  · rename_i a ha
    exact absurd ha (hx a)
  · rfl

omit [Fintype ι] [DecidableEq ι] in
lemma executedFor_of_publishes {a : Refund} (ha : System.Publishes (serviceHost app handle) s m a) :
    executedFor (s.session m.session) = 0 := by
  refine executedFor_of_not_committed fun b hb => ?_
  rw [Session.Committed, show (s.session m.session).status = _ from ha.1] at hb
  cases hb

omit [Fintype ι] in
/-- A move that publishes nothing adds nothing to what was executed for committed refunds. -/
lemma executedFor_step
    (hsame : ∀ a, ((System.step (serviceHost app handle) s m).session m.session).Committed a →
      (System.step (serviceHost app handle) s m).session m.session = s.session m.session) :
    executedFor ((System.step (serviceHost app handle) s m).session m.session) =
      executedFor (s.session m.session) := by
  by_cases hafter : ∃ a, ((System.step (serviceHost app handle) s m).session m.session).Committed a
  · obtain ⟨a, ha⟩ := hafter
    rw [hsame a ha]
  · have hbefore : ∀ a, ¬ (s.session m.session).Committed a := fun a ha =>
      hafter ⟨a, by rw [System.step_session_of_committed ha]; exact ha⟩
    rw [executedFor_of_not_committed (not_exists.1 hafter), executedFor_of_not_committed hbefore]

/-- A step that publishes on what was read, or publishes nothing, keeps the invariant. -/
lemma RefundsInv.step (h : RefundsInv app paymentId captured requests s)
    (hok : UpToDate app handle paymentId s m) :
    RefundsInv app paymentId captured requests (System.step (serviceHost app handle) s m) := by
  have hpublish : ∀ a, System.Publishes (serviceHost app handle) s m a →
      Books paymentId captured (view (s.session m.session).history.writes s.store) := fun a ha =>
    h.sound.store.publish (h.sound.path_of_publishes ha) (fun d hd => (h.sound.reads _ d hd).1)
      (hok a ha)
  refine ⟨System.sound_step (fun _ _ => trivial) (fun _ _ _ _ _ => trivial) h.sound
    fun a ha => ⟨hpublish a ha, trivial⟩, ?_⟩
  have hsum := System.sum_step (serviceHost app handle) s m executedFor
  rcases System.store_step (h := serviceHost app handle) (s := s) (m := m) with
    ⟨hstore, -, hsame⟩ | ⟨a, ha, hstore, hsession⟩
  · rw [executedFor_step hsame] at hsum
    rw [hstore, ← h.executed]
    exact add_right_cancel hsum
  · obtain ⟨d, payment, amount, -, -, -, -, -, hexec, hview⟩ :=
      refund_of_path (h.sound.path_of_publishes ha)
    have hnew : executedFor ((System.step (serviceHost app handle) s m).session m.session) =
        amount := by
      rw [hsession]
      exact hexec
    rw [hstore, (hview s.store).1, ← h.executed]
    rw [executedFor_of_publishes ha, hnew] at hsum
    omega

/-- A session that publishes on an outdated refunded amount loses a refund from the ledger. -/
lemma RefundsInv.not_noOverRefund (h : RefundsInv app paymentId captured requests s)
    (hno : ¬ UpToDate app handle paymentId s m) :
    ¬ NoOverRefund paymentId (System.step (serviceHost app handle) s m) := by
  simp only [UpToDate, not_forall] at hno
  obtain ⟨a, ha, d, hd, q, hq, hqid, p, hp, hpid, hne⟩ := hno
  obtain ⟨d', payment, amount, hhead, hpay, hid, hpos, -, -, hview⟩ :=
    refund_of_path (h.sound.path_of_publishes ha)
  obtain ⟨htotal, hpayments, hafter⟩ := hview s.store
  obtain rfl : d' = d := Option.some_inj.1 (hhead.symm.trans hd)
  have hbooks := (h.sound.reads _ d' (List.mem_of_head? hd)).1
  obtain rfl := eq_of_key_eq hbooks.ids hpay hq (hid.trans hqid.symm)
  have hstore := (System.step_of_publishes ha).1
  -- the row after the publication
  have hmem : p.saved (requests m.session).env.now payment
      (withRefund payment (requests m.session).amountMinor) ∈
        (System.step (serviceHost app handle) s m).store.payments := by
    rw [hstore, hpayments, ← hpid]
    exact (mem_updateAt h.sound.store.ids hp).2 (Or.inl rfl)
  intro hgood
  obtain ⟨-, -, hledger⟩ := hgood _ hmem (by simpa using hpid)
  obtain ⟨-, -, hbefore⟩ := h.noOverRefund p hp hpid
  rw [hstore, htotal, Payment.saved_amountRefunded, hafter, changed, if_neg (by omega)] at hledger
  omega

/-- **Over-refunds under concurrency.**  In every interleaving of any number of refund requests
on a captured payment, the committed refunds stay within the captured amount and in the
ledger exactly as long as every session publishes on the refunded amount that it read. -/
theorem noOverRefund_iff {t : Tables} (ht : CapturedPayment paymentId t) (w : W)
    (moves : List (Move ι C)) :
    Always (System.step (serviceHost app handle)) (NoOverRefund paymentId)
        (System.start t w fun i => (requests i).prog app paymentId) moves ↔
      Obeys (System.step (serviceHost app handle)) (UpToDate app handle paymentId)
        (System.start t w fun i => (requests i).prog app paymentId) moves := by
  obtain ⟨captured, hbooks⟩ := ht.books
  have hstart : RefundsInv app paymentId captured requests
      (System.start t w fun i => (requests i).prog app paymentId :
        System ι Tables W C GatewayOp Exn Refund) :=
    ⟨System.sound_start hbooks,
      by simp [System.start, Session.fresh, executedFor, Tables.refundedTotal, ht.refunds]⟩
  exact always_iff_obeys (fun s h => h.noOverRefund) (fun s m h hok => h.step hok)
    (fun s m h hno => h.not_noOverRefund hno) hstart moves

end Interleavings

/-! ## Two refunds of 800 out of 1000 -/

/-- Two requests of the payment's owner, each for 800 of the 1000 that were captured. -/
def demoRefunds (i : Bool) : RefundRequest :=
  ⟨demoEnv (if i then 3 else 2), demoUser, some 800, none⟩

/-- The two refunds of one payment, before either has read it. -/
def demoStart : System Bool Tables Unit Unit GatewayOp Exn Refund :=
  .start { Tables.empty with payments := [demoPayment] } () fun i =>
    (demoRefunds i).prog demoApp (.ofNat 16)

/-- The theorem on the two refunds. -/
theorem noOverRefund_iff_demo :
    Always (System.step (serviceHost demoApp (mockHandler "mock_ref_1")))
        (NoOverRefund (.ofNat 16)) demoStart (race 7) ↔
      Obeys (System.step (serviceHost demoApp (mockHandler "mock_ref_1")))
        (UpToDate demoApp (mockHandler "mock_ref_1") (.ofNat 16)) demoStart (race 7) :=
  noOverRefund_iff demoPayment_captured () (race 7)

/-- Both refunds are committed: 1600 units of 1000, of which the ledger has 800. -/
theorem noOverRefund_race :
    ¬ Always (System.step (serviceHost demoApp (mockHandler "mock_ref_1")))
        (NoOverRefund (.ofNat 16)) demoStart (race 7) := by
  intro h
  have hrow : ∃ p ∈ (run (System.step (serviceHost demoApp (mockHandler "mock_ref_1")))
      demoStart (race 7)).store.payments, p.id = .ofNat 16 ∧ p.amountCaptured = 1000 := by decide
  have htotal : (run (System.step (serviceHost demoApp (mockHandler "mock_ref_1")))
      demoStart (race 7)).store.refundedTotal (.ofNat 16) = 1600 := by decide
  obtain ⟨p, hp, hid, hcap⟩ := hrow
  obtain ⟨hle, -, -⟩ := h.last p hp hid
  rw [htotal, hcap] at hle
  exact absurd hle (by decide)

end PaymentGateway
