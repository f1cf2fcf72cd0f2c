/-
# Refunded amounts

Two refunds of one payment that are under way at the same time both start from the amount that
they have read, and the later one overwrites what the earlier one has added.  What is lost is a
whole refund: in every interleaving, the refunded amount of a payment is the sum of some of its
refunds on record.  So it is never negative and never more than their total, and a payment that is
shown as refunded has a refund (`refunded_amounts_covered`).

The sum is carried from the row that a request has read to the row that it saves; in between the
table of the refunds has only grown.
-/
import PaymentGateway.Evolution
import Mathlib.Algebra.Order.BigOperators.Group.List

namespace PaymentGateway

open Transact

/-! ## The invariant -/

/-- The states of a payment that some refund has led to. -/
def refundedStates : List PaymentStatus := [.partiallyRefunded, .refunded]

/-- The refunded amount is the sum of some refunds of the payment, and of at least one if its
status says so. -/
def SumsRefunds (t : Tables) (p : Payment) : Prop :=
  ∃ l, l.Sublist (t.refundsOf p.id) ∧ p.amountRefunded = (l.map Refund.amount).sum ∧
    (p.status ∈ refundedStates → l ≠ [])

/-- The invariant of the tables: refunds are positive, and what a payment says to be refunded is
the sum of some of its refunds. -/
structure RefundsCovered (t : Tables) : Prop where
  positive : ∀ r ∈ t.refunds, 0 < r.amount
  sums : ∀ p ∈ t.payments, SumsRefunds t p

/-- What the invariant means for a payment: it never says more than its refunds sum up to. -/
structure Covered (t : Tables) (p : Payment) : Prop where
  nonneg : 0 ≤ p.amountRefunded
  le : p.amountRefunded ≤ t.refundedTotal p.id
  pos : p.status ∈ refundedStates → 0 < p.amountRefunded

section

variable {t t' : Tables} {p q : Payment}

lemma RefundsCovered.covered (h : RefundsCovered t) (hp : p ∈ t.payments) : Covered t p := by
  obtain ⟨l, hl, hsum, hstatus⟩ := h.sums p hp
  have hpos : ∀ r ∈ l, 0 < r.amount :=
    fun r hr => h.positive r (List.mem_of_mem_filter (hl.subset hr))
  have hnonneg : ∀ r ∈ t.refundsOf p.id, 0 ≤ r.amount :=
    fun r hr => (h.positive r (List.mem_of_mem_filter hr)).le
  refine ⟨?_, ?_, fun hrefunded => ?_⟩
  · rw [hsum]
    exact List.sum_nonneg (by simpa using fun r hr => (hpos r hr).le)
  · rw [hsum, Tables.refundedTotal]
    exact (hl.map Refund.amount).sum_le_sum (by simpa using hnonneg)
  · rw [hsum]
    refine List.sum_pos _ (by simpa using hpos) ?_
    simpa using hstatus hrefunded

/-- More refunds do no harm. -/
lemma SumsRefunds.mono (h : SumsRefunds t p) (hrefunds : t.refunds <+: t'.refunds)
    (hid : q.id = p.id) (hamount : q.amountRefunded = p.amountRefunded)
    (hstatus : q.status = p.status ∨ q.status ∉ refundedStates) : SumsRefunds t' q := by
  obtain ⟨l, hl, hsum, hl'⟩ := h
  refine ⟨l, ?_, hamount.trans hsum, fun hmem => ?_⟩
  · rw [hid]
    exact hl.trans (hrefunds.sublist.filter _)
  · rcases hstatus with hsame | hno
    · exact hl' (hsame ▸ hmem)
    · exact absurd hmem hno

/-- Nothing has happened to payments and refunds. -/
lemma RefundsCovered.congr (h : RefundsCovered t) (hpayments : t'.payments = t.payments)
    (hrefunds : t'.refunds = t.refunds) : RefundsCovered t' where
  positive := hrefunds ▸ h.positive
  sums p hp := (h.sums p (hpayments ▸ hp)).mono (hrefunds ▸ List.prefix_refl _) rfl rfl (Or.inl rfl)

lemma RefundsCovered.insertAuditLog (h : RefundsCovered t) {entry : AuditLog} :
    RefundsCovered (t.insertAuditLog entry) :=
  h.congr rfl rfl

/-- A payment without a refund. -/
lemma RefundsCovered.insertPayment (h : RefundsCovered t) (hamount : p.amountRefunded = 0)
    (hstatus : p.status ∉ refundedStates) : RefundsCovered (t.insertPayment p) where
  positive := h.positive
  sums := by
    refine List.forall_mem_append.2 ⟨h.sums, List.forall_mem_singleton.2 ?_⟩
    exact ⟨[], List.nil_sublist _, hamount, fun hmem => absurd hmem hstatus⟩

/-- A payment is saved whose refunded amount was not touched. -/
lemma RefundsCovered.savePayment (h : RefundsCovered t) {now : Timestamp} {old new : Payment}
    (hamount : new.amountRefunded = old.amountRefunded) (hstatus : new.status ∉ refundedStates) :
    RefundsCovered (t.savePayment now old new) where
  positive := h.positive
  sums := by
    intro p hp
    obtain ⟨q, hq, ⟨-, rfl⟩ | ⟨-, rfl⟩⟩ := exists_of_mem_updateAt hp
    · refine (h.sums q hq).mono (List.prefix_refl _) (Payment.saved_id ..) ?_ ?_
      · rw [Payment.saved_amountRefunded, hamount]
        exact if_pos rfl
      · rw [Payment.saved_status, changed]
        split
        · exact Or.inl rfl
        · exact Or.inr hstatus
    · exact h.sums p hq

/-- A payment is refunded on the grounds of an older version of it. -/
lemma RefundsCovered.refund (h : RefundsCovered t) {old : Payment} {r : Refund}
    {amountMinor : Option ℤ} (hold : SumsRefunds t old) (hpayment : r.paymentId = old.id)
    (hamount : r.amount = (refundAmount old amountMinor).minorUnits) (hpos : 0 < r.amount)
    (now : Timestamp) :
    RefundsCovered ((t.insertRefund r).savePayment now old (withRefund old amountMinor)) where
  positive := List.forall_mem_append.2 ⟨h.positive, List.forall_mem_singleton.2 hpos⟩
  sums := by
    intro p hp
    obtain ⟨q, hq, ⟨hid, rfl⟩ | ⟨-, rfl⟩⟩ := exists_of_mem_updateAt hp
    · obtain ⟨l, hl, hsum, -⟩ := hold
      refine ⟨l ++ [r], ?_, ?_, fun _ => by simp⟩
      · have hrefunds : (t.insertRefund r).refundsOf old.id = t.refundsOf old.id ++ [r] := by
          simp [Tables.refundsOf, hpayment]
        rw [Payment.saved_id, hid]
        exact hrefunds ▸ hl.append (List.Sublist.refl [r])
      · -- the amount is positive, so the column is written
        have hwritten : (withRefund old amountMinor).amountRefunded =
            old.amountRefunded + r.amount := by
          rw [hamount]
          rfl
        rw [Payment.saved_amountRefunded, hwritten, changed, if_neg (by omega), hsum]
        simp
    · exact (h.sums p hq).mono (List.prefix_append _ _) rfl rfl (Or.inl rfl)

end

/-! ## Requests -/

section Requests

variable {app : App} {env : Ambient} {user : User} {key : Option String} {t : Tables}
  {H : History Tables GatewayOp Exn} {answer : ApiAnswer}

lemma SignInStages.refundsCovered {gs : List (Tables → Tables)} (h : SignInStages env gs)
    (ht : RefundsCovered t) : RefundsCovered (view gs t) := by
  cases h with
  | nothing => exact ht
  | used => exact ht.congr rfl rfl

lemma OpenCall.Books.refundsCovered {call : OpenCall} (h : call.Books app env H answer)
    (ht : RefundsCovered t) : RefundsCovered (view H.writes t) := by
  cases h with
  | registered read free hash writes
  | loggedIn read found verified active unlocked hash writes
  | refreshed read token named found active writes
  | duplicate read mem writes
  | refused writes
  | received writes =>
    rw [writes]
    exact ht.congr rfl rfl

lemma refundsCovered_recording {post : Post} {response : ResponseBody} (ht : RefundsCovered t) :
    RefundsCovered (view (recording app env user key post response) t) := by
  rw [recording]
  split
  · exact ht.congr rfl rfl
  · exact ht

lemma not_mem_refundedStates_of_charge {status : PaymentStatus}
    (h : canTransition .requiresConfirmation status = true) : status ∉ refundedStates := by
  cases status <;> first | decide | exact absurd h (by decide)

lemma UserCall.Books.refundsCovered {call : UserCall} (h : call.Books app env user key H answer)
    (ht : RefundsCovered t)
    (hreads : ∀ d ∈ H.reads, RefundsCovered d ∧ d.refunds <+: t.refunds) :
    RefundsCovered (view H.writes t) := by
  cases h with
  | me writes
  | keysListed read own writes
  | listed read found responded writes
  | shown read found responded writes
  | providersListed writes
  | counted read total writes
  | refused writes
  | replayed read found same writes
  | keyCreated writes
  | keyRevoked read mem same named owner writes =>
    rw [writes]
    exact ht.congr rfl rfl
  | @created payload charge response status responded writes =>
    have hinserted : RefundsCovered (t.insertPayment (newPayment env user (payload.args key))) :=
      ht.insertPayment rfl (show PaymentStatus.requiresConfirmation ∉ refundedStates by decide)
    have hstatus := not_mem_refundedStates_of_charge status
    rw [← withCharge_status (newPayment env user (payload.args key)) charge] at hstatus
    rw [writes, view_append]
    exact refundsCovered_recording
      (hinserted.savePayment (withCharge_amountRefunded ..) hstatus).insertAuditLog
  | @refunded paymentId payload d payment result response read found status amount responded
      writes =>
    obtain ⟨hcovered, hgrown⟩ := hreads d read
    have hold : SumsRefunds t payment :=
      (hcovered.sums payment (Tables.mem_of_getForOwner found).1).mono hgrown rfl rfl (Or.inl rfl)
    have hrefunded := ht.refund hold (r := newRefund env payment
      (payload.amountMinor.map Subtype.val) (payload.reason.map Subtype.val) result) rfl rfl amount
    rw [writes, view_append]
    exact refundsCovered_recording (hrefunded env.now).insertAuditLog
  | @captured _ _ amount _ payment charge _ read found status responded writes =>
    have hamount : (withCapture payment amount charge).amountRefunded = payment.amountRefunded :=
      rfl
    rw [writes]
    exact (ht.savePayment hamount (by simp [withCapture, refundedStates])).insertAuditLog
  | @canceled _ _ payment _ read found status responded writes =>
    have hamount : (withCancel payment).amountRefunded = payment.amountRefunded := rfl
    rw [writes]
    exact (ht.savePayment hamount (by simp [withCancel, refundedStates])).insertAuditLog

/-- **Whatever a request books, the refunded amounts are covered.** -/
lemma bookingsKeep_refundsCovered : BookingsKeep app RefundsCovered := by
  intro request H answer t h ht hreads _
  cases h with
  | «open» books => exact books.refundsCovered ht
  | @user env headers call _ user L K signedIn role stages books history =>
    subst history
    rw [History.writes_append, view_append]
    refine books.refundsCovered (stages.refundsCovered ht) fun d hd => ?_
    obtain ⟨hcovered, hevolves⟩ := hreads d (by simp [hd])
    exact ⟨hcovered, (hevolves.trans (evolving_view (evolving_signIn stages) t)).refunds⟩

end Requests

/-! ## All interleavings -/

/-- **No refund is made up.**  Whatever the requests are and however their steps interleave, the
refunded amount of every payment is covered by the refunds on record. -/
theorem refunded_amounts_covered {ι W C : Type} [DecidableEq ι] (app : App)
    (handle : C → Handler GatewayOp Exn W) (requests : ι → HttpCall) {t : Tables}
    (ht : RefundsCovered t) (w : W) (moves : List (Move ι C)) :
    Always (System.step (serviceHost app handle))
      (fun s => RefundsCovered s.store ∧ ∀ p ∈ s.store.payments, Covered s.store p)
      (apiStart app requests t w) moves := by
  have halways : Always (System.step (serviceHost app handle)) (ApiSound app requests RefundsCovered)
      (apiStart app requests t w) moves :=
    always_of_step (fun _ _ hs => apiSound_step bookingsKeep_refundsCovered hs)
      (apiSound_start ht) moves
  exact halways.mono fun _ hs => ⟨hs.sound.store, fun _ hp => hs.sound.store.covered hp⟩

/-- Two refunds of one payment. -/
def twoRefunds (first : Bool) : HttpCall where
  env := demoEnv (if first then 2 else 3)
  call := .user ⟨some "upgi_sk_1", none, none⟩
    (.post (.refund demoPayment.id ⟨some ⟨400, by decide⟩, none⟩))

/-- The merchant's API key, and a payment of which 1000 were captured. -/
def capturedTables : Tables := { apiKeyTables with payments := [demoPayment] }

/-- The moves of the two requests, in turn. -/
def alternating : List (Move Bool Unit) := (List.replicate 12 [⟨true, ()⟩, ⟨false, ()⟩]).flatten

theorem refunded_amounts_covered_demo :
    Always (System.step (serviceHost demoApp (mockHandler "")))
      (fun s => RefundsCovered s.store ∧ ∀ p ∈ s.store.payments, Covered s.store p)
      (apiStart demoApp twoRefunds capturedTables ()) alternating := by
  refine refunded_amounts_covered demoApp (mockHandler "") twoRefunds ⟨?_, ?_⟩ () _
  · simp [capturedTables, apiKeyTables, Tables.empty]
  · intro p hp
    rw [List.mem_singleton.1 hp]
    exact ⟨[], List.nil_sublist _, rfl, by decide⟩

/-- One of the refunds is lost from the amount, and both are on record. -/
example :
    (run (System.step (serviceHost demoApp (mockHandler "")))
      (apiStart demoApp twoRefunds capturedTables ()) alternating).store.payments.map
        (fun p => (p.amountRefunded, p.status)) = [(400, .partiallyRefunded)] ∧
    (run (System.step (serviceHost demoApp (mockHandler "")))
      (apiStart demoApp twoRefunds capturedTables ()) alternating).store.refundedTotal
        demoPayment.id = 800 := by
  decide +kernel

end PaymentGateway
