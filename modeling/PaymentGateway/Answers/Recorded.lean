/-
# What the provider accepted and what is recorded of it

A service method calls the provider in the middle of its unit of work, and what follows may
still raise and roll everything back.  When database writes succeed, the only such check is
the one that `create_payment` makes of the status in the provider's answer: the operation is
recorded exactly if the state machine has a transition from `requires_confirmation` to that
status (`recorded_iff`).

Stripe answers with `processing`, `requires_confirmation` or `requires_action` for a payment
that it accepted and has not settled; the adapter maps these to `requires_confirmation`
itself, to which there is no transition (`StripeProvider.canTransition_toCharge`).  Such a
payment is rolled back, and `recorded_processing` is one.
-/
import PaymentGateway.Services.Calls

namespace PaymentGateway

open Transact

/-- The reference under which the provider knows what it did for a call: the one it answered
with, or for a capture and a cancellation the one it was addressed with. -/
def effectReference : Call GatewayOp Exn → Option String
  | ⟨.execute _ _ (.createPayment _), .ok charge⟩ => some charge.reference
  | ⟨.execute _ _ (.capture reference _), .ok _⟩ => some reference
  | ⟨.execute _ _ (.cancel reference), .ok _⟩ => some reference
  | ⟨.execute _ _ (.refund _ _ _), .ok result⟩ => some result.reference
  | ⟨_, .error _⟩ => none

/-- The row that a service method returned is in the tables, and carries the reference that the
provider has answered with. -/
def Carries (t : Tables) (reference : String) : ServiceResult → Prop
  | .payment p => ∃ row ∈ t.payments, row.id = p.id ∧ row.providerReference = some reference
  | .refund r => ∃ row ∈ t.refunds, row.id = r.id ∧ row.providerReference = some reference

section Model

variable (app : App) (c : CallInput) (t : Tables)

/-- Whatever the provider did for the call is committed, under the provider's reference. -/
def Recorded : Prop :=
  ∀ k ∈ (process app c t).calls, ∀ reference, effectReference k = some reference →
    ∃ a, (process app c t).answer = .ok a ∧ Carries (process app c t).store reference a

/-- If the call creates a payment, the state machine has a transition to the status that the
provider answers with. -/
def Bookable : Prop :=
  ∀ args, c.call = .createPayment args → args.amount.isPositive →
    ∀ adapter, resolveProvider app c.owner.id args.provider t = .ok adapter →
      ∀ charge, c.reaction _ (args.op adapter) = .ok charge →
        canTransition .requiresConfirmation charge.status = true

end Model

/-- Every payment has a reference of its provider, so that a later operation can name it there.
-/
def Referenced (t : Tables) : Prop := ∀ p ∈ t.payments, p.providerReference.isSome

section Steps

variable {app : App} {c : CallInput} {t : Tables}

/-- An update that leaves the reference alone, or sets one, keeps the payments referenced. -/
lemma Referenced.savePayment (h : Referenced t) {now : Timestamp} {old new : Payment}
    (hnew : new.providerReference = old.providerReference ∨ new.providerReference.isSome) :
    Referenced (t.savePayment now old new) := by
  intro p hp
  obtain ⟨q, hq, ⟨-, rfl⟩ | ⟨-, rfl⟩⟩ := exists_of_mem_updateAt hp
  · rw [Payment.saved_providerReference, changed]
    rcases hnew with hsame | hsome
    · rw [if_pos hsame]
      exact h q hq
    · split
      · exact h q hq
      · exact hsome
  · exact h p hq

/-- A new payment has its reference once its charge is booked. -/
lemma Referenced.create (h : Referenced t) {args : CreatePaymentArgs} {charge : ProviderCharge} :
    Referenced (afterCreate c.env c.owner t args charge) := by
  intro p hp
  obtain ⟨q, hq, ⟨-, rfl⟩ | ⟨hne, rfl⟩⟩ := exists_of_mem_updateAt hp
  · simp [changed]
  · rcases List.mem_append.1 hq with hq | hq
    · exact h p hq
    · exact absurd (List.mem_singleton.1 hq ▸ rfl) hne

/-- **Step lemma.**  No call leaves a payment without a reference. -/
lemma Referenced.step (h : Referenced t) : Referenced (PaymentGateway.step app t c) := by
  have hset := settled app c t
  rw [PaymentGateway.step]
  generalize (process app c t).calls = calls at hset
  generalize (process app c t).answer = answer at hset
  generalize (process app c t).store = t' at hset ⊢
  cases hset with
  | refused => exact h
  | unanswered => exact h
  | illegal => exact h
  | rejected => exact h
  | created => exact h.create
  | captured => exact h.savePayment (Or.inl rfl)
  | canceled => exact h.savePayment (Or.inl rfl)
  | @refunded paymentId amountMinor reason adapter payment result =>
    exact Referenced.savePayment (t := t.insertRefund
      (newRefund c.env payment amountMinor reason result)) h (Or.inl rfl)

/-- A payment that was found has a reference, and the provider is addressed with it. -/
lemma Referenced.getD (h : Referenced t) {paymentId ownerId : Uuid} {payment : Payment}
    (found : t.getForOwner paymentId ownerId = .ok (some payment)) :
    payment.providerReference = some (payment.providerReference.getD "") := by
  have hp := h payment (Tables.mem_of_getForOwner found).1
  obtain ⟨reference, href⟩ := Option.isSome_iff_exists.1 hp
  simp [href]

/-- A call whose charge cannot be booked is rolled back after the provider was called. -/
lemma process_of_not_bookable (hwrites : ∀ t, app.accepts t = true) {args : CreatePaymentArgs}
    {adapter : Adapter} {charge : ProviderCharge} (call : c.call = .createPayment args)
    (amount : args.amount.isPositive)
    (resolved : resolveProvider app c.owner.id args.provider t = .ok adapter)
    (reacts : c.reaction _ (args.op adapter) = .ok charge)
    (status : canTransition .requiresConfirmation charge.status = false) :
    (process app c t).calls = [⟨args.op adapter, .ok charge⟩] ∧
      ∃ e, (process app c t).answer = .error e := by
  obtain ⟨e, hillegal⟩ : ∃ e, assertTransition .requiresConfirmation charge.status = .error e := by
    simp [assertTransition, status]
  have hresolved : resolveProvider app c.owner.id args.provider
      (t.insertPayment (newPayment c.env c.owner args)) = .ok adapter := resolved
  have hrun : (createPayment app c.env c.owner args).run c.reaction.handler t () =
      ⟨.error e, t.insertPayment (newPayment c.env c.owner args), (),
        [⟨args.op adapter, .ok charge⟩]⟩ := by
    rw [createPayment, Prog.run_raiseIf_bind, if_neg (not_not.2 amount)]
    dsimp only
    rw [Prog.run_modify_bind, run_flush_bind, if_neg (by simp [hwrites]), run_getProvider_bind,
      hresolved, Prog.ofExcept_ok, Prog.ret_bind, Prog.run_perform_bind]
    simp [Reaction.handler, reacts, hillegal]
  have hprog : ((c.call.prog app c.env c.owner).run c.reaction.handler t ()) =
      ⟨.error e, t.insertPayment (newPayment c.env c.owner args), (),
        [⟨args.op adapter, .ok charge⟩]⟩ := by
    rw [call, ServiceCall.prog, Prog.run_bind, hrun]
    rfl
  exact ⟨by rw [process, Prog.atomically_calls, hprog], e, by rw [process, Prog.atomically, hprog]⟩

/-- A call records what the provider did if the charge can be booked. -/
lemma Referenced.recorded (hwrites : ∀ t, app.accepts t = true) (h : Referenced t)
    (hok : Bookable app c t) : Recorded app c t := by
  have hset := settled app c t
  rw [Recorded]
  generalize (process app c t).calls = calls at hset ⊢
  generalize (process app c t).answer = answer at hset ⊢
  generalize (process app c t).store = t' at hset ⊢
  -- one case for each way a call settles; the four that booked something keep its reference
  cases hset with
  | refused => simp
  | unanswered =>
    intro k hk reference href
    rw [List.mem_singleton.1 hk] at href
    simp [effectReference] at href
  | illegal call amount resolved reacts status =>
    have hyes := hok _ call amount _ resolved _ reacts
    rw [status] at hyes
    cases hyes
  | rejected refused =>
    rw [hwrites] at refused
    cases refused
  | @created args adapter charge call amount resolved reacts status fresh accepted =>
    intro k hk reference href
    obtain rfl := List.mem_singleton.1 hk
    obtain rfl : charge.reference = reference := Option.some_inj.1 href
    refine ⟨_, rfl, _, mem_updateAt_self (List.mem_append_right _ (List.mem_singleton_self _)) _,
      by simp, ?_⟩
    rw [Payment.saved_providerReference, withCharge_providerReference]
    exact changed_loaded _ _
  | @captured paymentId amount adapter payment charge call found status currency bound reacts =>
    intro k hk reference href
    obtain rfl := List.mem_singleton.1 hk
    obtain rfl : payment.providerReference.getD "" = reference := Option.some_inj.1 href
    refine ⟨_, rfl, _, mem_updateAt_self (Tables.mem_of_getForOwner found).1 _, by simp
      [withCapture], ?_⟩
    rw [Payment.saved_providerReference]
    exact (changed_same _ _).trans (h.getD found)
  | @canceled paymentId adapter payment charge call found status reacts =>
    intro k hk reference href
    obtain rfl := List.mem_singleton.1 hk
    obtain rfl : payment.providerReference.getD "" = reference := Option.some_inj.1 href
    refine ⟨_, rfl, _, mem_updateAt_self (Tables.mem_of_getForOwner found).1 _, by simp
      [withCancel], ?_⟩
    rw [Payment.saved_providerReference]
    exact (changed_same _ _).trans (h.getD found)
  | @refunded paymentId amountMinor reason adapter payment result call found =>
    intro k hk reference href
    obtain rfl := List.mem_singleton.1 hk
    obtain rfl : result.reference = reference := Option.some_inj.1 href
    exact ⟨_, rfl, newRefund c.env payment amountMinor reason result,
      List.mem_append_right _ (List.mem_singleton_self _), rfl, rfl⟩

/-- **Step lemma.**  A call records what the provider did exactly if its charge is bookable. -/
lemma Referenced.recorded_of_call (hwrites : ∀ t, app.accepts t = true) (h : Referenced t) :
    Recorded app c t ↔ Bookable app c t := by
  refine ⟨fun hrec args call amount adapter resolved charge reacts => ?_, h.recorded hwrites⟩
  by_contra hno
  obtain ⟨hcalls, e, herror⟩ := process_of_not_bookable hwrites call amount resolved reacts
    (by simpa using hno)
  have hk : (⟨args.op adapter, .ok charge⟩ : Call GatewayOp Exn) ∈ (process app c t).calls := by
    simp [hcalls]
  obtain ⟨a, hok, -⟩ := hrec _ hk charge.reference rfl
  rw [herror] at hok
  cases hok

/-- **No provider effect without a local record.**  When database writes succeed, then in every
state that calls lead to, whatever the provider did for the next call is committed under its
reference, exactly if that call does not create a payment to whose answered status there is no
transition. -/
theorem recorded_iff (hwrites : ∀ t, app.accepts t = true) (hpay : t.payments = [])
    (calls : List CallInput) (c : CallInput) :
    Recorded app c (run (PaymentGateway.step app) t calls) ↔
      Bookable app c (run (PaymentGateway.step app) t calls) := by
  have hstart : Referenced t := by simp [Referenced, hpay]
  have hreached : Referenced (run (PaymentGateway.step app) t calls) :=
    (always_of_step (fun t c (h : Referenced t) => h.step) hstart calls).last
  exact hreached.recorded_of_call hwrites

end Steps

/-! ## Stripe's answers -/

namespace StripeProvider

/-- The statuses of a PaymentIntent that Stripe has accepted and not settled. -/
def unsettled : List Json := ["processing", "requires_confirmation", "requires_action"]

lemma canTransition_statusOf {v : Json} {status : PaymentStatus} (h : statusOf v = .ok status) :
    canTransition .requiresConfirmation status = true ↔ v ∉ unsettled := by
  cases v with
  | str s =>
    obtain rfl : (statusMap s).getD .failed = status := Except.ok.inj h
    unfold statusMap unsettled
    split <;> simp_all [canTransition, allowed]
  | arr xs => cases h
  | obj fields => cases h
  | _ =>
    obtain rfl : PaymentStatus.failed = status := Except.ok.inj h
    simp [unsettled, canTransition, allowed]

/-- The charge of a PaymentIntent can be booked unless the intent is unsettled. -/
lemma canTransition_toCharge {repr : Json → String} {fields : List (String × Json)}
    {charge : ProviderCharge} (h : toCharge repr (.obj fields) = .ok charge) :
    canTransition .requiresConfirmation charge.status = true ↔
      (Json.lookup fields "status").getD (.str "") ∉ unsettled := by
  refine canTransition_statusOf ?_
  simp only [toCharge, Json.asDict, bind, Except.bind] at h
  split at h
  · cases h
  · rename_i status hstatus
    -- what follows the status does not change it
    repeat' split at h
    all_goals cases h
    all_goals exact hstatus

end StripeProvider

/-! ## A payment that Stripe is processing -/

/-- The demonstration application with a database that accepts everything. -/
def sureApp : App := { demoApp with accepts := fun _ => true }

/-- A payment of 1000 units by card at Stripe, which is captured at once or only authorized. -/
def stripeArgs (captureMethod : CaptureMethod) : CreatePaymentArgs :=
  ⟨.stripe, ⟨1000, .usd⟩, captureMethod, .card, some "pm_card_visa", none, none, none, none⟩

/-- A call that Stripe answers with a PaymentIntent of the given status. -/
def stripeCall (n : ℕ) (call : ServiceCall) (status : String) : CallInput where
  env := demoEnv n
  owner := demoUser
  call := call
  reaction := stripeReaction (fun _ => "")
    ⟨200, some (.obj [("id", "pi_1"), ("status", status), ("amount_received", .int 0)])⟩

/-- A payment by Stripe with automatic capture, which the provider answers with the given status.
-/
def stripePayment (status : String) : CallInput :=
  stripeCall 1 (.createPayment (stripeArgs .automatic)) status

/-- The theorem on a payment that Stripe has processed. -/
theorem recorded_iff_demo :
    Recorded sureApp (stripePayment "succeeded") (run (step sureApp) stripeTables []) ↔
      Bookable sureApp (stripePayment "succeeded") (run (step sureApp) stripeTables []) :=
  recorded_iff (fun _ => rfl) rfl [] _

/-- Stripe accepts the payment and is processing it; the gateway has no record of it. -/
theorem recorded_processing :
    ¬ Recorded sureApp (stripePayment "processing") (run (step sureApp) stripeTables []) := by
  intro h
  have hcalls : (process sureApp (stripePayment "processing") stripeTables).calls.map
      effectReference = [some "pi_1"] := by decide
  have herror : ∃ e, (process sureApp (stripePayment "processing") stripeTables).answer = .error e :=
    ⟨_, rfl⟩
  obtain ⟨k, hk, href⟩ : ∃ k ∈ (process sureApp (stripePayment "processing") stripeTables).calls,
      effectReference k = some "pi_1" := by
    rw [← List.mem_map, hcalls]
    exact List.mem_singleton_self _
  obtain ⟨a, hok, -⟩ := h k hk "pi_1" href
  obtain ⟨e, he⟩ := herror
  rw [show (process sureApp (stripePayment "processing")
    (run (step sureApp) stripeTables [])).answer = .error e from he] at hok
  cases hok

end PaymentGateway
