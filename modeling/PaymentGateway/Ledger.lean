/-
# The ledger invariant

The amounts, the refund rows and the status of every committed payment agree, after any
sequence of service calls, as long as a provider never reports to have captured more than it
was asked for.

`LedgerRow` is what is promised of one payment, `Ledger` the invariant that carries it
through the calls: it adds that payments are told apart by their ids and that every refund
belongs to a payment.  `Ledger.settled` is the step lemma, by cases on what a call can do, and
`ledger_invariant` the result over whole runs; it also says that a payment in a terminal
status stays as it is.
-/
import PaymentGateway.Services.Calls

namespace PaymentGateway

open Transact

/-- What holds of a committed payment: what was refunded is the sum of its refunds and within
what was captured, that is within the amount, and the status fits both. -/
structure LedgerRow (t : Tables) (p : Payment) : Prop where
  refunded_nonneg : 0 ≤ p.amountRefunded
  refunded_le : p.amountRefunded ≤ p.amountCaptured
  captured_le : p.amountCaptured ≤ p.amount
  refunds : p.amountRefunded = t.refundedTotal p.id
  uncaptured : p.status ∈ [.requiresConfirmation, .authorized, .failed, .canceled] →
    p.amountCaptured = 0 ∧ p.amountRefunded = 0
  captured : p.status = .captured → p.amountRefunded = 0
  partiallyRefunded : p.status = .partiallyRefunded →
    0 < p.amountRefunded ∧ p.amountRefunded < p.amountCaptured
  refunded : p.status = .refunded →
    p.amountRefunded = p.amountCaptured ∧ 0 < p.amountCaptured

/-- The invariant of the tables: every payment satisfies its part, and every refund has its
payment. -/
structure Ledger (t : Tables) : Prop where
  ids : (t.payments.map Payment.id).Nodup
  row : ∀ p ∈ t.payments, LedgerRow t p
  amount : ∀ p ∈ t.payments, 0 < p.amount
  owned : ∀ r ∈ t.refunds, ∃ p ∈ t.payments, p.id = r.paymentId

/-- A payment in a terminal status is the same in `t'`, and so are its refunds. -/
def KeepsTerminal (t t' : Tables) : Prop :=
  ∀ p ∈ t.payments, p.status ∈ terminalStates → ∃ p' ∈ t'.payments,
    p'.id = p.id ∧ p'.status = p.status ∧ p'.amount = p.amount ∧
      p'.amountCaptured = p.amountCaptured ∧ p'.amountRefunded = p.amountRefunded ∧
      t'.refundsOf p.id = t.refundsOf p.id

lemma KeepsTerminal.refl (t : Tables) : KeepsTerminal t t :=
  fun p hp _ => ⟨p, hp, rfl, rfl, rfl, rfl, rfl, rfl⟩

lemma KeepsTerminal.trans (t t' t'' : Tables) (h : KeepsTerminal t t') (h' : KeepsTerminal t' t'') :
    KeepsTerminal t t'' := by
  intro p hp hterm
  obtain ⟨p', hp', hid, hst, ham, hcap, href, hrefs⟩ := h p hp hterm
  obtain ⟨q, hq, hid', hst', ham', hcap', href', hrefs'⟩ := h' p' hp' (hst ▸ hterm)
  rw [hid] at hrefs'
  exact ⟨q, hq, hid'.trans hid, hst'.trans hst, ham'.trans ham, hcap'.trans hcap,
    href'.trans href, hrefs'.trans hrefs⟩

/-! ## Calls that the API admits, and providers that do not over-report -/

/-- The amounts that the call was given are positive, or absent.  The schemas of the API accept
no others. -/
def ServiceCall.Admissible : ServiceCall → Prop
  | .createPayment args => args.amount.isPositive
  | .capturePayment _ amount => ∀ m, amount = some m → m.isPositive
  | .cancelPayment _ => True
  | .createRefund _ amountMinor _ => ∀ n, amountMinor = some n → 0 < n

/-- The captured amount that an adapter reports lies between zero and the amount requested,
whenever it is asked for a positive amount. -/
structure Reaction.Honest (reaction : Reaction) : Prop where
  create : ∀ provider adapter request charge, request.amount.isPositive →
    reaction _ (.execute provider adapter (.createPayment request)) = .ok charge →
      0 ≤ charge.amountCaptured ∧ charge.amountCaptured ≤ request.amount.minorUnits
  capture : ∀ provider adapter reference amount charge, amount.isPositive →
    reaction _ (.execute provider adapter (.capture reference amount)) = .ok charge →
      0 ≤ charge.amountCaptured ∧ charge.amountCaptured ≤ amount.minorUnits

/-- The mock provider reports what it was asked for, or nothing. -/
lemma mockReaction_honest (reference : String) : (mockReaction reference).Honest := by
  constructor
  · intro provider adapter request charge hpos h
    have hnonneg : 0 ≤ request.amount.minorUnits := le_of_lt hpos
    simp only [mockReaction, MockProvider.answer, MockProvider.program,
      MockProvider.createPayment, Prog.run_perform_bind] at h
    split at h
    · cases h
      exact ⟨le_refl _, hnonneg⟩
    · split at h
      · cases h
        exact ⟨le_refl _, hnonneg⟩
      · cases h
        exact ⟨hnonneg, le_refl _⟩
  · intro provider adapter reference amount charge hpos h
    cases h
    exact ⟨le_of_lt hpos, le_refl _⟩

/-! ## One payment changes -/

section Update

variable {t t' : Tables} {payment updated : Payment} {now : Timestamp}

/-- The invariant survives the update of one row, if the new row satisfies what is promised,
the refunds of the other payments stay, and every new refund belongs to this payment. -/
lemma Ledger.update (h : Ledger t) (hp : payment ∈ t.payments)
    (payments : t'.payments = (t.savePayment now payment updated).payments)
    (row : LedgerRow t' (payment.saved now payment updated))
    (others : ∀ id, id ≠ payment.id → t'.refundedTotal id = t.refundedTotal id)
    (refunds : ∀ r ∈ t'.refunds, r ∈ t.refunds ∨ r.paymentId = payment.id) : Ledger t' := by
  -- a row is the new one, or an old one of another payment
  have hmem : ∀ q, q ∈ t'.payments ↔ q = payment.saved now payment updated ∨
      q ∈ t.payments ∧ q.id ≠ payment.id := by
    intro q
    rw [payments]
    exact mem_updateAt h.ids hp
  refine ⟨?_, fun q hq => ?_, fun q hq => ?_, fun r hr => ?_⟩
  · rw [payments, Tables.savePayment_payments, map_key_updateAt (fun q => by simp)]
    exact h.ids
  · rcases (hmem q).1 hq with rfl | ⟨hq, hne⟩
    · exact row
    · have hold := h.row q hq
      exact { hold with refunds := by rw [others q.id hne]; exact hold.refunds }
  · rcases (hmem q).1 hq with rfl | ⟨hq, -⟩
    · simpa using h.amount payment hp
    · exact h.amount q hq
  · rcases refunds r hr with hr | hr
    · obtain ⟨q, hq, hid⟩ := h.owned r hr
      by_cases hqp : q.id = payment.id
      · exact ⟨_, (hmem _).2 (Or.inl rfl), by simp [← hid, hqp]⟩
      · exact ⟨q, (hmem q).2 (Or.inr ⟨hq, hqp⟩), hid⟩
    · exact ⟨_, (hmem _).2 (Or.inl rfl), by simp [hr]⟩

/-- An update of a payment that is not in a terminal status keeps the terminal ones. -/
lemma Ledger.update_keepsTerminal (h : Ledger t) (hp : payment ∈ t.payments)
    (hopen : payment.status ∉ terminalStates)
    (payments : t'.payments = (t.savePayment now payment updated).payments)
    (others : ∀ id, id ≠ payment.id → t'.refundsOf id = t.refundsOf id) : KeepsTerminal t t' := by
  intro q hq hterm
  have hne : q.id ≠ payment.id := by
    intro hid
    rw [eq_of_key_eq h.ids hq hp hid] at hterm
    exact hopen hterm
  refine ⟨q, ?_, rfl, rfl, rfl, rfl, rfl, others q.id hne⟩
  rw [payments]
  exact (mem_updateAt h.ids hp).2 (Or.inr ⟨hq, hne⟩)

end Update

/-! ## One lemma per call -/

section Calls

variable {env : Ambient} {owner : User} {t : Tables}

/-- The row of a payment whose charge was just booked. -/
lemma LedgerRow.create {t' : Tables} {args : CreatePaymentArgs} {charge : ProviderCharge}
    (hnone : t'.refundedTotal env.paymentId = 0) (hamount : args.amount.isPositive)
    (hcap : 0 ≤ charge.amountCaptured ∧ charge.amountCaptured ≤ args.amount.minorUnits)
    (hstatus : canTransition .requiresConfirmation charge.status = true) :
    LedgerRow t' ((newPayment env owner args).saved env.now (newPayment env owner args)
      (withCharge (newPayment env owner args) charge).1) := by
  have hpos : 0 < args.amount.minorUnits := hamount
  by_cases hc : charge.status = .captured
  · constructor <;> simp [hc, hnone, hcap]
  · constructor <;> simp [hc, hnone, hpos.le] <;> intro hs <;> rw [hs] at hstatus <;>
      exact absurd hstatus (by decide)

lemma Ledger.create (h : Ledger t) {args : CreatePaymentArgs} {charge : ProviderCharge}
    (hamount : args.amount.isPositive)
    (hcap : 0 ≤ charge.amountCaptured ∧ charge.amountCaptured ≤ args.amount.minorUnits)
    (hstatus : canTransition .requiresConfirmation charge.status = true)
    (hids : ((t.insertPayment (newPayment env owner args)).payments.map Payment.id).Nodup) :
    Ledger (afterCreate env owner t args charge) ∧
      KeepsTerminal t (afterCreate env owner t args charge) := by
  have hfresh := ne_paymentId_of_nodup hids
  have hpay := payments_afterCreate env owner args charge hfresh
  -- no refund belongs to a payment that did not exist
  have hnone : t.refundsOf env.paymentId = [] := by
    apply List.filter_eq_nil_iff.2
    intro r hr
    obtain ⟨p, hp, hid⟩ := h.owned r hr
    simpa [← hid] using hfresh p hp
  refine ⟨⟨?_, fun p hp => ?_, fun p hp => ?_, fun r hr => ?_⟩, fun p hp _ => ?_⟩
  · rw [hpay]
    simpa using hids
  · rw [hpay, List.mem_append, List.mem_singleton] at hp
    rcases hp with hp | rfl
    · have hold := h.row p hp
      exact { hold with refunds := hold.refunds }
    · refine .create ?_ hamount hcap hstatus
      show ((t.refundsOf env.paymentId).map Refund.amount).sum = 0
      rw [hnone]
      rfl
  · rw [hpay, List.mem_append, List.mem_singleton] at hp
    rcases hp with hp | rfl
    · exact h.amount p hp
    · simpa [Money.isPositive] using hamount
  · obtain ⟨p, hp, hid⟩ := h.owned r hr
    exact ⟨p, by rw [hpay]; exact List.mem_append_left _ hp, hid⟩
  · exact ⟨p, by rw [hpay]; exact List.mem_append_left _ hp, rfl, rfl, rfl, rfl, rfl, rfl⟩

/-- A capture asks for the amount given or for the whole payment. -/
lemma Ledger.captureAmount_pos (h : Ledger t) {payment : Payment} {amount : Option Money}
    (hp : payment ∈ t.payments) (hpos : ∀ m, amount = some m → m.isPositive) :
    (captureAmount payment amount).isPositive := by
  cases amount with
  | none => exact h.amount payment hp
  | some m => exact hpos m rfl

lemma Ledger.capture (h : Ledger t) {payment : Payment} {amount : Option Money}
    {charge : ProviderCharge} (hp : payment ∈ t.payments) (hstatus : payment.status = .authorized)
    (hpos : (captureAmount payment amount).isPositive)
    (hbound : (captureAmount payment amount).minorUnits ≤ payment.amount)
    (hcap : 0 ≤ charge.amountCaptured ∧
      charge.amountCaptured ≤ (captureAmount payment amount).minorUnits) :
    Ledger (afterCapture env owner t payment amount charge) ∧
      KeepsTerminal t (afterCapture env owner t payment amount charge) := by
  have hrow := h.row payment hp
  have hzero := hrow.uncaptured (by simp [hstatus])
  have hasked : 0 < (captureAmount payment amount).minorUnits := hpos
  -- whichever amount is booked, it is positive and at most the payment's
  have hbooked : 0 < (withCapture payment amount charge).amountCaptured ∧
      (withCapture payment amount charge).amountCaptured ≤ payment.amount := by
    rw [withCapture]
    dsimp only
    split <;> omega
  refine ⟨h.update hp rfl ?_ (fun _ _ => rfl) fun r hr => Or.inl hr,
    h.update_keepsTerminal hp (by simp [hstatus, terminalStates]) rfl fun _ _ => rfl⟩
  constructor <;> simp only [Payment.saved_id, Payment.saved_amount, Payment.saved_amountCaptured,
    Payment.saved_amountRefunded, Payment.saved_status, changed_loaded]
  · exact hrow.refunded_nonneg
  · show payment.amountRefunded ≤ _
    omega
  · exact hbooked.2
  · exact hrow.refunds
  · intro hs
    exact absurd hs (by simp [withCapture])
  · exact fun _ => hzero.2
  · intro hs
    cases hs
  · intro hs
    cases hs

lemma Ledger.cancel (h : Ledger t) {payment : Payment} (hp : payment ∈ t.payments)
    (hstatus : canTransition payment.status .canceled = true) :
    Ledger (afterCancel env owner t payment) ∧
      KeepsTerminal t (afterCancel env owner t payment) := by
  have hrow := h.row payment hp
  have hopen := canTransition_canceled hstatus
  have hzero := hrow.uncaptured (by rcases hopen with hs | hs <;> simp [hs])
  refine ⟨h.update hp rfl ?_ (fun _ _ => rfl) fun r hr => Or.inl hr,
    h.update_keepsTerminal hp ?_ rfl fun _ _ => rfl⟩
  · constructor <;> simp only [Payment.saved_id, Payment.saved_amount,
      Payment.saved_amountCaptured, Payment.saved_amountRefunded, Payment.saved_status,
      changed_loaded, withCancel]
    · exact hrow.refunded_nonneg
    · exact hrow.refunded_le
    · exact hrow.captured_le
    · exact hrow.refunds
    · exact fun _ => hzero
    · intro hs
      cases hs
    · intro hs
      cases hs
    · intro hs
      cases hs
  · rcases hopen with hs | hs <;> simp [hs, terminalStates]

/-- The total of the refunds of a payment grows by the amount of the refund. -/
lemma refundedTotal_afterRefund {payment : Payment} {amountMinor : Option ℤ}
    {reason : Option String} {result : ProviderRefund} (id : Uuid) :
    (afterRefund env owner t payment amountMinor reason result).refundedTotal id =
      t.refundedTotal id +
        if payment.id = id then (refundAmount payment amountMinor).minorUnits else 0 :=
  Tables.refundedTotal_insertRefund (newRefund env payment amountMinor reason result) id

lemma Ledger.refund (h : Ledger t) {payment : Payment} {amountMinor : Option ℤ}
    {reason : Option String} {result : ProviderRefund} (hp : payment ∈ t.payments)
    (hstatus : payment.status ∈ refundableStates)
    (hpos : (refundAmount payment amountMinor).isPositive)
    (hbound : (refundAmount payment amountMinor).minorUnits ≤ payment.amountRefundable) :
    Ledger (afterRefund env owner t payment amountMinor reason result) ∧
      KeepsTerminal t (afterRefund env owner t payment amountMinor reason result) := by
  have hrow := h.row payment hp
  have hpos : 0 < (refundAmount payment amountMinor).minorUnits := hpos
  -- the bound that the service checks is what is left of the captured amount
  have hroom : payment.amountRefunded + (refundAmount payment amountMinor).minorUnits ≤
      payment.amountCaptured := by
    have := hrow.refunded_le
    rw [Payment.amountRefundable] at hbound
    omega
  have hrefunded : (withRefund payment amountMinor).amountRefunded =
      payment.amountRefunded + (refundAmount payment amountMinor).minorUnits := rfl
  have hafter : (withRefund payment amountMinor).status =
      if payment.amountCaptured ≤ (withRefund payment amountMinor).amountRefunded then .refunded
      else .partiallyRefunded := rfl
  have hopen : payment.status ∉ terminalStates := by
    simp only [refundableStates, List.mem_cons, List.not_mem_nil, or_false] at hstatus
    rcases hstatus with hs | hs <;> simp [hs, terminalStates]
  refine ⟨h.update hp rfl ?_ (fun id hid => ?_) fun r hr => ?_,
    h.update_keepsTerminal hp hopen rfl fun id hid => ?_⟩
  · -- the new row; the clauses about the status follow the choice that `withRefund` makes
    constructor <;> simp only [Payment.saved_id, Payment.saved_amount,
      Payment.saved_amountCaptured, Payment.saved_amountRefunded, Payment.saved_status,
      changed_loaded]
    · have := hrow.refunded_nonneg
      omega
    · exact hroom
    · exact hrow.captured_le
    · rw [refundedTotal_afterRefund, if_pos rfl, ← hrow.refunds, hrefunded]
    · intro hs
      rw [hafter] at hs
      split at hs <;> simp at hs
    · intro hs
      rw [hafter] at hs
      split at hs <;> simp at hs
    · intro hs
      rw [hafter] at hs
      split at hs
      · cases hs
      · have := hrow.refunded_nonneg
        exact ⟨by omega, by show _ < payment.amountCaptured; omega⟩
    · intro hs
      rw [hafter] at hs
      split at hs
      · have := hrow.refunded_nonneg
        exact ⟨by show _ = payment.amountCaptured; omega,
          by show 0 < payment.amountCaptured; omega⟩
      · cases hs
  · rw [refundedTotal_afterRefund, if_neg (Ne.symm hid), add_zero]
  · rcases List.mem_append.1 hr with hr | hr
    · exact Or.inl hr
    · rw [List.mem_singleton.1 hr]
      exact Or.inr rfl
  · simp [afterRefund, Tables.refundsOf, newRefund, Ne.symm hid]

end Calls

/-! ## Whole runs -/

section Runs

variable {app : App} {t : Tables} {c : CallInput}

/-- **Step lemma.**  A call keeps the invariant and the payments in a terminal status. -/
lemma Ledger.step (hdb : ∀ t, app.accepts t = true → t.Unique) (h : Ledger t)
    (hadm : c.call.Admissible) (hhonest : c.reaction.Honest) :
    Ledger (PaymentGateway.step app t c) ∧ KeepsTerminal t (PaymentGateway.step app t c) := by
  have hset := settled app c t
  rw [PaymentGateway.step]
  generalize (process app c t).calls = calls at hset
  generalize (process app c t).answer = answer at hset
  generalize (process app c t).store = t' at hset ⊢
  cases hset with
  | refused => exact ⟨h, .refl t⟩
  | unanswered => exact ⟨h, .refl t⟩
  | illegal => exact ⟨h, .refl t⟩
  | rejected => exact ⟨h, .refl t⟩
  | created call amount resolved reacts status fresh accepted =>
    exact h.create amount (hhonest.create _ _ _ _ amount reacts) status (hdb _ fresh).paymentId
  | captured call found status currency bound reacts accepted =>
    rw [call] at hadm
    have hp := (Tables.mem_of_getForOwner found).1
    have hpos := h.captureAmount_pos hp hadm
    exact h.capture hp status hpos bound (hhonest.capture _ _ _ _ _ hpos reacts)
  | canceled call found status reacts accepted =>
    exact h.cancel (Tables.mem_of_getForOwner found).1 status
  | refunded call found status amount bound reacts accepted =>
    exact h.refund (Tables.mem_of_getForOwner found).1 status amount bound

lemma ledger_of_empty (hpay : t.payments = []) (href : t.refunds = []) : Ledger t :=
  ⟨by simp [hpay], by simp [hpay], by simp [hpay], by simp [href]⟩

/-- **The ledger invariant over whole runs.**  From tables without payments, every committed
payment satisfies `LedgerRow` after every call of a sequence, and once its status is terminal
no later call changes its status or amounts or adds a refund to it. -/
theorem ledger_invariant (hdb : ∀ t, app.accepts t = true → t.Unique)
    (hpay : t.payments = []) (href : t.refunds = []) (calls : List CallInput)
    (hcalls : ∀ c ∈ calls, c.call.Admissible ∧ c.reaction.Honest) :
    Always (PaymentGateway.step app) (fun t => ∀ p ∈ t.payments, LedgerRow t p) t calls ∧
      ∀ before later, calls = before ++ later →
        KeepsTerminal (run (PaymentGateway.step app) t before)
          (run (PaymentGateway.step app) t calls) := by
  have keep : ∀ t c, Ledger t → c.call.Admissible ∧ c.reaction.Honest →
      Ledger (PaymentGateway.step app t c) := fun t c h hc => (h.step hdb hc.1 hc.2).1
  refine ⟨(always_of_obeys keep (ledger_of_empty hpay href)
    (obeys_of_forall hcalls)).mono fun t h => h.row, ?_⟩
  rintro before later rfl
  rw [run_append]
  have hbefore : Ledger (run (PaymentGateway.step app) t before) :=
    (always_of_obeys keep (ledger_of_empty hpay href)
      (obeys_of_forall fun c hc => hcalls c (List.mem_append_left _ hc))).last
  exact run_of_obeys .refl .trans keep (fun t c h hc => (h.step hdb hc.1 hc.2).2) hbefore
    (obeys_of_forall fun c hc => hcalls c (List.mem_append_right _ hc))

/-- The theorem on a payment that is authorized, captured and refunded in part. -/
theorem ledger_invariant_demo :
    let args : CreatePaymentArgs :=
      ⟨.mock, ⟨1000, .usd⟩, .manual, .card, none, none, none, none, none⟩
    let calls : List CallInput :=
      [⟨demoEnv 1, demoUser, .createPayment args, mockReaction "mock_pay_1"⟩,
       ⟨demoEnv 2, demoUser, .capturePayment (.ofNat 16) (some ⟨800, .usd⟩), mockReaction ""⟩,
       ⟨demoEnv 3, demoUser, .createRefund (.ofNat 16) (some 300) none, mockReaction "mock_ref_1"⟩]
    Always (PaymentGateway.step demoApp) (fun t => ∀ p ∈ t.payments, LedgerRow t p) .empty calls ∧
      ∀ before later, calls = before ++ later →
        KeepsTerminal (run (PaymentGateway.step demoApp) .empty before)
          (run (PaymentGateway.step demoApp) .empty calls) := by
  refine ledger_invariant demoApp_unique rfl rfl _ fun c hc => ?_
  simp only [List.mem_cons, List.not_mem_nil, or_false] at hc
  rcases hc with rfl | rfl | rfl <;> refine ⟨?_, mockReaction_honest _⟩ <;>
    simp [ServiceCall.Admissible, Money.isPositive]

end Runs

end PaymentGateway
