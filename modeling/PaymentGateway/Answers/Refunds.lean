/-
# Refunds and what the provider reports of them

A sequence of `create_refund` calls on a captured payment.  The method books every refund that
the provider answers with, as succeeded if the reported status is `succeeded` and as pending
otherwise; `RefundStatus.FAILED` is never written.  So the refunded amount is the sum of the
refunds that were reported as succeeded or pending, and the rows tell apart what was reported,
exactly as long as nothing else is reported, and no other amount than the one that was asked for
(`booksAsReported_iff`).  In `booksAsReported_failed` a failed refund closes the payment, and so
does one that was made of one unit only: the amount that the provider reports is read nowhere.

The runs carry what the provider reported besides the tables (`RefundBook`).
-/
import Mathlib.Data.List.Forall2
import PaymentGateway.Services.Calls

namespace PaymentGateway

open Transact

/-! ## Runs of refunds -/

/-- A call of `create_refund` on a payment that is fixed: who makes it, what it asks for, and
what the provider makes of it. -/
structure RefundCall where
  env : Ambient
  owner : User
  amountMinor : Option ℤ
  reason : Option String
  reaction : Reaction

/-- The call as an input of the service: a refund of this payment, with its own surroundings, its
user and what the provider makes of it. -/
def RefundCall.input (paymentId : Uuid) (c : RefundCall) : CallInput :=
  ⟨c.env, c.owner, .createRefund paymentId c.amountMinor c.reason, c.reaction⟩

/-- A refund that the provider answered with: the amount it was asked for, and the amount and the
status that it reported. -/
structure ReportedRefund where
  requested : ℤ
  amount : ℤ
  status : String
deriving DecidableEq, Repr

/-- The refund that a gateway call was answered with, if the call asked for a refund and was
answered at all. -/
def reportedRefund : Call GatewayOp Exn → Option ReportedRefund
  | ⟨.execute _ _ (.refund _ amount _), .ok result⟩ =>
      some ⟨amount.minorUnits, result.amount, result.status⟩
  | _ => none

/-- The tables, and the refunds that the provider has reported so far, in the order of the calls.
-/
structure RefundBook where
  tables : Tables
  reported : List ReportedRefund

/-- A call is processed, and what the provider has reported in it is added to the list. -/
def RefundBook.step (app : App) (paymentId : Uuid) (s : RefundBook) (c : RefundCall) :
    RefundBook :=
  let o := process app (c.input paymentId) s.tables
  ⟨o.store, s.reported ++ o.calls.filterMap reportedRefund⟩

/-! ## What is promised -/

/-- The statuses of a refund that moves the money, or will, as Stripe documents them. -/
def acceptedStatuses : List String := ["succeeded", "pending"]

/-- The statuses of a refund that moves nothing, as Stripe documents them. -/
def rejectedStatuses : List String := ["failed", "canceled"]

/-- The status of a row says what was reported; of a status that Stripe does not document,
nothing is asked. -/
structure StoredAs (reported : String) (stored : RefundStatus) : Prop where
  succeeded : reported = "succeeded" → stored = .succeeded
  pending : reported = "pending" → stored = .pending
  failed : reported ∈ rejectedStatuses → stored = .failed

/-- The refunded amount is the sum of the amounts of the refunds that were reported as succeeded or
pending, and every reported refund has a row with its status. -/
structure BooksAsReported (paymentId : Uuid) (s : RefundBook) : Prop where
  amount : ∀ p ∈ s.tables.payments, p.id = paymentId → p.amountRefunded =
    ((s.reported.filter fun e => e.status ∈ acceptedStatuses).map ReportedRefund.amount).sum
  rows : List.Forall₂ (fun e r => StoredAs e.status r.status) s.reported
    (s.tables.refundsOf paymentId)

/-- A refund that was reported as failed or canceled leaves the payment as it was. -/
def KeepsRejected (paymentId : Uuid) (s s' : RefundBook) : Prop :=
  ∀ e, s'.reported = s.reported ++ [e] → e.status ∈ rejectedStatuses →
    ∀ p ∈ s.tables.payments, p.id = paymentId → ∀ p' ∈ s'.tables.payments, p'.id = paymentId →
      p'.amountRefunded = p.amountRefunded ∧ p'.status = p.status ∧
        p'.amountRefundable = p.amountRefundable

/-- Every refund that the provider answers the call with is reported as succeeded or pending and
with the amount that was asked for, and the database keeps it. -/
def AcceptedOnly (app : App) (paymentId : Uuid) (s : RefundBook) (c : RefundCall) : Prop :=
  ∀ e ∈ (process app (c.input paymentId) s.tables).calls.filterMap reportedRefund,
    (e.status ∈ acceptedStatuses ∧ e.amount = e.requested) ∧
      Returned (process app (c.input paymentId) s.tables).answer

/-! ## One call -/

section Steps

variable {app : App} {paymentId : Uuid} {s : RefundBook} {c : RefundCall} {t : Tables}

/-- What a call can do: nothing that the provider answered, something that the database
refused, or a refund that is booked. -/
inductive RefundStep (app : App) (paymentId : Uuid) (s : RefundBook) (c : RefundCall) : Prop where
  | unanswered (step : s.step app paymentId c = s)
      (reported : (process app (c.input paymentId) s.tables).calls.filterMap reportedRefund = [])
  | rejected (e : ReportedRefund)
      (step : s.step app paymentId c = ⟨s.tables, s.reported ++ [e]⟩)
      (reported : (process app (c.input paymentId) s.tables).calls.filterMap reportedRefund = [e])
      (answer : ¬ Returned (process app (c.input paymentId) s.tables).answer)
  | booked (payment : Payment) (result : ProviderRefund) (e : ReportedRefund)
      (found : payment ∈ s.tables.payments) (id : payment.id = paymentId)
      (requested : e.requested = (refundAmount payment c.amountMinor).minorUnits)
      (pos : 0 < e.requested)
      (status : e.status = result.status)
      (step : s.step app paymentId c =
        ⟨afterRefund c.env c.owner s.tables payment c.amountMinor c.reason result,
          s.reported ++ [e]⟩)
      (reported : (process app (c.input paymentId) s.tables).calls.filterMap reportedRefund = [e])
      (answer : Returned (process app (c.input paymentId) s.tables).answer)

lemma refundStep (app : App) (paymentId : Uuid) (s : RefundBook) (c : RefundCall) :
    RefundStep app paymentId s c := by
  have hset := settled app (c.input paymentId) s.tables
  have hstep : s.step app paymentId c = ⟨(process app (c.input paymentId) s.tables).store,
      s.reported ++ (process app (c.input paymentId) s.tables).calls.filterMap reportedRefund⟩ := rfl
  generalize hcalls : (process app (c.input paymentId) s.tables).calls = calls at hset hstep
  generalize hanswer : (process app (c.input paymentId) s.tables).answer = answer at hset
  generalize (process app (c.input paymentId) s.tables).store = t' at hset hstep
  cases hset with
  | refused => exact .unanswered (by simpa using hstep) (by simp [hcalls])
  | @unanswered β op e =>
    have hnone : reportedRefund ⟨op, .error e⟩ = none := by simp [reportedRefund]
    exact .unanswered (by simpa [hnone] using hstep) (by simp [hcalls, hnone])
  | illegal call => cases call
  | @rejected β op b e d refused =>
    have hno : ¬ Returned (process app (c.input paymentId) s.tables).answer := by
      simp [hanswer, Returned]
    rcases hreported : reportedRefund ⟨op, .ok b⟩ with _ | r
    · exact .unanswered (by simpa [hreported] using hstep) (by simp [hcalls, hreported])
    · exact .rejected r (by simpa [hreported] using hstep) (by simp [hcalls, hreported]) hno
  | created call => cases call
  | captured call => cases call
  | canceled call => cases call
  | @refunded _ _ _ adapter payment result call found status amount bound reacts accepted =>
    cases call
    obtain ⟨hmem, hid, -⟩ := Tables.mem_of_getForOwner found
    exact .booked payment result
      ⟨(refundAmount payment c.amountMinor).minorUnits, result.amount, result.status⟩
      hmem hid rfl amount rfl hstep (by rw [hcalls]; rfl) ⟨_, hanswer⟩

/-- The refunds of a payment, one booked refund later. -/
lemma refundsOf_afterRefund (env : Ambient) (owner : User) {payment : Payment}
    (amountMinor : Option ℤ) (reason : Option String) (result : ProviderRefund)
    (hid : payment.id = paymentId) :
    (afterRefund env owner t payment amountMinor reason result).refundsOf paymentId =
      t.refundsOf paymentId ++ [newRefund env payment amountMinor reason result] := by
  simp [afterRefund, Tables.refundsOf, newRefund, hid]

/-- The invariant of the runs in which nothing is reported but what was asked for. -/
structure RefundBook.Inv (paymentId : Uuid) (s : RefundBook) : Prop where
  ids : (s.tables.payments.map Payment.id).Nodup
  booked : BooksAsReported paymentId s

/-- The row of the payment after a booked refund. -/
lemma amountRefunded_afterRefund {payment : Payment} {amountMinor : Option ℤ}
    {reason : Option String} {result : ProviderRefund} {env : Ambient} {owner : User}
    (hids : (t.payments.map Payment.id).Nodup) (hp : payment ∈ t.payments) {p : Payment}
    (hmem : p ∈ (afterRefund env owner t payment amountMinor reason result).payments)
    (hid : p.id = payment.id) : p.amountRefunded =
      payment.amountRefunded + (refundAmount payment amountMinor).minorUnits := by
  rcases (mem_updateAt hids hp).1 hmem with rfl | ⟨-, hne⟩
  · rw [Payment.saved_amountRefunded, changed_loaded]
    rfl
  · exact absurd hid hne

lemma RefundBook.Inv.step (h : s.Inv paymentId) (hok : AcceptedOnly app paymentId s c) :
    (s.step app paymentId c).Inv paymentId := by
  cases refundStep app paymentId s c with
  | unanswered step => rwa [step]
  | rejected e step reported answer =>
    exact absurd (hok e (by simp [reported])).2 answer
  | booked payment result e found id requested pos status step reported answer =>
    obtain ⟨haccepted, hamount⟩ := (hok e (by simp [reported])).1
    rw [step]
    refine ⟨?_, ⟨fun p hp hid => ?_, ?_⟩⟩
    · show ((updateAt Payment.id payment.id _ s.tables.payments).map Payment.id).Nodup
      rw [map_key_updateAt (fun q => by simp)]
      exact h.ids
    · rw [amountRefunded_afterRefund h.ids found hp (hid.trans id.symm), ← requested, ← hamount,
        h.booked.amount payment found id]
      simp [haccepted]
    · rw [refundsOf_afterRefund _ _ _ _ _ id]
      refine List.rel_append h.booked.rows (.cons ?_ .nil)
      simp only [acceptedStatuses, List.mem_cons, List.not_mem_nil, or_false] at haccepted
      constructor
      · intro hs
        simp [newRefund, ← status, hs]
      · intro hs
        simp [newRefund, ← status, hs]
      · intro hs
        rcases haccepted with ha | ha <;> rw [ha] at hs <;> exact absurd hs (by decide)

/-- A refund that was answered otherwise, or that the database refused, breaks the promise. -/
lemma RefundBook.Inv.not_booksAsReported (h : s.Inv paymentId)
    (hno : ¬ AcceptedOnly app paymentId s c) :
    ¬ BooksAsReported paymentId (s.step app paymentId c) := by
  intro hbooks
  cases refundStep app paymentId s c with
  | unanswered step reported => exact hno fun e he => by simp [reported] at he
  | rejected e step reported answer =>
    -- there is no row for the refund
    rw [step] at hbooks
    have hlength := hbooks.rows.length_eq
    have hbefore := h.booked.rows.length_eq
    rw [List.length_append] at hlength
    simp only [List.length_singleton] at hlength
    omega
  | booked payment result e found id requested pos status step reported answer =>
    have hreported : ¬ (e.status ∈ acceptedStatuses ∧ e.amount = e.requested) := by
      intro haccepted
      refine hno fun e' he' => ?_
      rw [reported, List.mem_singleton] at he'
      exact he' ▸ ⟨haccepted, answer⟩
    rw [step] at hbooks
    have hmem : payment.saved c.env.now payment (withRefund payment c.amountMinor) ∈
        (afterRefund c.env c.owner s.tables payment c.amountMinor c.reason result).payments :=
      mem_updateAt_self found _
    have hafter := hbooks.amount _ hmem (by simpa using id)
    rw [amountRefunded_afterRefund h.ids found hmem (by simp), ← requested,
      h.booked.amount payment found id, List.filter_append, List.map_append, List.sum_append] at hafter
    -- the requested amount was booked, and the reported one was to be
    by_cases hstatus : e.status ∈ acceptedStatuses
    · refine hreported ⟨hstatus, ?_⟩
      simpa [hstatus, eq_comm] using hafter
    · simp [hstatus] at hafter
      omega

/-- A call that is answered with what it asks for reports no failure. -/
lemma keepsRejected_of_acceptedOnly (hok : AcceptedOnly app paymentId s c) :
    KeepsRejected paymentId s (s.step app paymentId c) := by
  intro e he hrejected
  have hreported : (process app (c.input paymentId) s.tables).calls.filterMap reportedRefund = [e] :=
    List.append_cancel_left he
  have haccepted := (hok e (by simp [hreported])).1.1
  simp only [acceptedStatuses, rejectedStatuses, List.mem_cons, List.not_mem_nil, or_false] at *
  rcases haccepted with ha | ha <;> rw [ha] at hrejected <;> exact absurd hrejected (by decide)

end Steps

/-! ## Whole runs -/

/-- **Only refunds that the provider did not reject count.**  In every sequence of refunds of a
captured payment, the refunded amount and the rows are after every call as the provider
reported, and a failed or canceled refund leaves the payment as it was, exactly if every
refund that the provider answers with is reported as succeeded or pending, with the amount that
was asked for, and is kept by the database. -/
theorem booksAsReported_iff {app : App} {paymentId : Uuid} {t : Tables}
    (ht : CapturedPayment paymentId t) (calls : List RefundCall) :
    Always (RefundBook.step app paymentId) (BooksAsReported paymentId) ⟨t, []⟩ calls ∧
        EachStep (RefundBook.step app paymentId) (KeepsRejected paymentId) ⟨t, []⟩ calls ↔
      Obeys (RefundBook.step app paymentId) (AcceptedOnly app paymentId) ⟨t, []⟩ calls := by
  obtain ⟨p, hp, hid, -, -, hnone⟩ := ht.row
  have hstart : (⟨t, []⟩ : RefundBook).Inv paymentId := by
    refine ⟨ht.ids, ⟨fun q hq hqid => ?_, by simp [ht.refunds]⟩⟩
    obtain rfl := eq_of_key_eq ht.ids hq hp (hqid.trans hid.symm)
    exact hnone
  have hkeep : ∀ s c, s.Inv paymentId → AcceptedOnly app paymentId s c →
      (s.step app paymentId c).Inv paymentId := fun s c h hok => h.step hok
  have hbreak : ∀ s c, s.Inv paymentId → ¬ AcceptedOnly app paymentId s c →
      ¬ BooksAsReported paymentId (s.step app paymentId c) :=
    fun s c h hno => h.not_booksAsReported hno
  have hiff := always_iff_obeys (fun (s : RefundBook) (h : s.Inv paymentId) => h.booked) hkeep
    hbreak hstart calls
  refine ⟨fun h => hiff.1 h.1, fun h => ⟨hiff.2 h, ?_⟩⟩
  exact h.mono fun s c hok => keepsRejected_of_acceptedOnly hok

/-! ## A refund that Stripe reports as failed -/

/-- The captured payment of 1000 units, at Stripe. -/
def stripeCaptured : Tables :=
  { stripeTables with
    payments := [{ demoPayment with provider := .stripe, providerReference := some "pi_1" }] }

/-- A refund of the whole payment that Stripe answers with the given status and amount. -/
def stripeRefund (status : String) (amount : ℤ) : RefundCall where
  env := demoEnv 2
  owner := demoUser
  amountMinor := none
  reason := none
  reaction := stripeReaction (fun _ => "")
    ⟨200, some (.obj [("id", "re_1"), ("status", status), ("amount", .int amount)])⟩

lemma stripeCaptured_captured : CapturedPayment (.ofNat 16) stripeCaptured :=
  ⟨by decide, ⟨_, List.mem_singleton_self _, rfl, rfl, by decide, rfl⟩, rfl⟩

/-- The theorem on a refund that Stripe has made. -/
theorem booksAsReported_iff_demo :
    Always (RefundBook.step demoApp (.ofNat 16)) (BooksAsReported (.ofNat 16))
          ⟨stripeCaptured, []⟩ [stripeRefund "succeeded" 1000] ∧
        EachStep (RefundBook.step demoApp (.ofNat 16)) (KeepsRejected (.ofNat 16))
          ⟨stripeCaptured, []⟩ [stripeRefund "succeeded" 1000] ↔
      Obeys (RefundBook.step demoApp (.ofNat 16)) (AcceptedOnly demoApp (.ofNat 16))
        ⟨stripeCaptured, []⟩ [stripeRefund "succeeded" 1000] :=
  booksAsReported_iff stripeCaptured_captured _

/-- A refund that books the whole payment although another amount was reported as refunded. -/
lemma not_booksAsReported {c : RefundCall} {amount : ℤ} (hother : amount ≠ 1000)
    (hreported : (((run (RefundBook.step demoApp (.ofNat 16)) ⟨stripeCaptured, []⟩
      [c]).reported.filter fun e => e.status ∈ acceptedStatuses).map ReportedRefund.amount).sum =
        amount)
    (hbooked : ∃ p ∈ (run (RefundBook.step demoApp (.ofNat 16)) ⟨stripeCaptured, []⟩
      [c]).tables.payments, p.id = .ofNat 16 ∧ p.amountRefunded = 1000) :
    ¬ Always (RefundBook.step demoApp (.ofNat 16)) (BooksAsReported (.ofNat 16))
      ⟨stripeCaptured, []⟩ [c] := by
  intro hbooks
  obtain ⟨p, hp, hid, hrefunded⟩ := hbooked
  have hamount := hbooks.last.amount p hp hid
  rw [hreported, hrefunded] at hamount
  exact hother hamount.symm

/-- The refund failed, or was made of one unit, and the payment is refunded in full. -/
theorem booksAsReported_failed :
    ¬ (Always (RefundBook.step demoApp (.ofNat 16)) (BooksAsReported (.ofNat 16))
          ⟨stripeCaptured, []⟩ [stripeRefund "failed" 1000] ∧
        EachStep (RefundBook.step demoApp (.ofNat 16)) (KeepsRejected (.ofNat 16))
          ⟨stripeCaptured, []⟩ [stripeRefund "failed" 1000]) ∧
      ¬ (Always (RefundBook.step demoApp (.ofNat 16)) (BooksAsReported (.ofNat 16))
          ⟨stripeCaptured, []⟩ [stripeRefund "succeeded" 1] ∧
        EachStep (RefundBook.step demoApp (.ofNat 16)) (KeepsRejected (.ofNat 16))
          ⟨stripeCaptured, []⟩ [stripeRefund "succeeded" 1]) := by
  constructor
  · rintro ⟨hbooks, -⟩
    exact not_booksAsReported (by decide : (0 : ℤ) ≠ 1000) (by decide) (by decide) hbooks
  · rintro ⟨hbooks, -⟩
    exact not_booksAsReported (by decide : (1 : ℤ) ≠ 1000) (by decide) (by decide) hbooks

end PaymentGateway
