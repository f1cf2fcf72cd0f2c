/-
# The audit trail

Every call that changes a payment or refunds it adds one row to the audit log.  The history
of the committed changes is read off the tables before and after each call
(`committedChanges`): a payment that is new or has another status, or a refund.

`create_payment` has a branch for a captured charge, one for an authorized charge, and takes
every other charge for a failed one.  The state machine also lets a canceled charge through,
so a payment that the provider has canceled at once is audited as failed.  The log matches
the history exactly if no such payment is booked (`auditTrail_iff`); in
`auditTrail_canceledCharge` Stripe answers with a canceled payment.
-/
import PaymentGateway.Answers.Recorded
import PaymentGateway.Lib.Runs
import PaymentGateway.Services.Calls

namespace PaymentGateway

open Transact

/-! ## Changes -/

/-- A change that the trail is about: a payment that is new or has another status, or a new
refund. -/
inductive Change where
  | payment (id : Uuid) (status : PaymentStatus)
  | refund (id paymentId : Uuid)
deriving DecidableEq, Repr

section Changes

variable (t t' : Tables)

/-- The refunds that were added, since rows are only appended. -/
def newRefunds : List Refund := t'.refunds.drop t.refunds.length

/-- The payments that were added or got another status, other than by a refund. -/
def changedPayments : List Payment :=
  t'.payments.filter fun p => (∀ q ∈ t.payments, q.id = p.id → q.status ≠ p.status) ∧
    ∀ r ∈ newRefunds t t', r.paymentId ≠ p.id

/-- The changes that lie between the two tables: first the payments that are new or have a new
status, without those whose refund is listed, and then the new refunds. -/
def committedChanges : List Change :=
  (changedPayments t t').map (fun p => .payment p.id p.status) ++
    (newRefunds t t').map fun r => .refund r.id r.paymentId

end Changes

/-- The action that names the outcome of a payment.  A payment that still awaits confirmation has
no outcome. -/
def outcomeAction : PaymentStatus → Option AuditAction
  | .authorized => some .paymentAuthorized
  | .captured => some .paymentCaptured
  | .canceled => some .paymentCanceled
  | .failed => some .paymentFailed
  | _ => none

/-- The row of the audit log is about the change and names its outcome. -/
def AuditsChange (row : AuditLog) : Change → Prop
  | .payment id status => row.resourceType = some "payment" ∧ row.resourceId = some id.str ∧
      outcomeAction status = some row.action
  | .refund id _ => row.resourceType = some "refund" ∧ row.resourceId = some id.str ∧
      row.action = .refundCreated

/-- The change that a successful call reports to its caller: the status of a payment, or a
refund. -/
def ServiceResult.change : ServiceResult → Change
  | .payment p => .payment p.id p.status
  | .refund r => .refund r.id r.paymentId

/-! ## Runs -/

/-- The tables, and the history of the changes that were committed to them. -/
structure TrailState where
  tables : Tables
  history : List Change

section Model

variable (app : App)

/-- A call is processed, and what it has changed is added to the history. -/
def TrailState.step (s : TrailState) (c : CallInput) : TrailState where
  tables := (process app c s.tables).store
  history := s.history ++ committedChanges s.tables (process app c s.tables).store

/-- The rows that were added to the log of `t` record the changes, one by one and in order. -/
def TrailMatches (t : Tables) (s : TrailState) : Prop :=
  ∃ rows, s.tables.auditLogs = t.auditLogs ++ rows ∧ List.Forall₂ AuditsChange rows s.history

/-- A call that returns adds one row, which names what it returns; one that raises adds
nothing. -/
def Audited (s : TrailState) (c : CallInput) : Prop :=
  match (process app c s.tables).answer with
  | .ok result => ∃ row, (process app c s.tables).store.auditLogs =
      s.tables.auditLogs ++ [row] ∧ AuditsChange row result.change
  | .error _ => (process app c s.tables).store = s.tables

/-- The provider answers a new payment with a canceled charge, and the database takes the
rows. -/
def CanceledAtOnce (s : TrailState) (c : CallInput) : Prop :=
  ∃ args adapter charge, c.call = .createPayment args ∧ args.amount.isPositive ∧
    app.accepts (s.tables.insertPayment (newPayment c.env c.owner args)) = true ∧
    resolveProvider app c.owner.id args.provider s.tables = .ok adapter ∧
    c.reaction _ (args.op adapter) = .ok charge ∧ charge.status = .canceled ∧
    app.accepts (afterCreate c.env c.owner s.tables args charge) = true

end Model

/-! ## The change that a booked call commits -/

section Booked

variable {env : Ambient} {owner : User} {t t' : Tables}

lemma newRefunds_of_eq (h : t'.refunds = t.refunds) : newRefunds t t' = [] := by
  simp [newRefunds, h]

/-- A payment that is as it was is not among the changed ones. -/
lemma not_changed_of_mem {p : Payment} (hp : p ∈ t.payments) :
    ¬ ∀ q ∈ t.payments, q.id = p.id → q.status ≠ p.status := fun h => h p hp rfl rfl

lemma committedChanges_create (args : CreatePaymentArgs) (charge : ProviderCharge)
    (hids : ((t.insertPayment (newPayment env owner args)).payments.map Payment.id).Nodup) :
    committedChanges t (afterCreate env owner t args charge) =
      [.payment env.paymentId charge.status] := by
  have hfresh := ne_paymentId_of_nodup hids
  have hrefunds : newRefunds t (afterCreate env owner t args charge) = [] := newRefunds_of_eq rfl
  have hold : t.payments.filter (fun p =>
      decide ((∀ q ∈ t.payments, q.id = p.id → q.status ≠ p.status) ∧
        ∀ r ∈ ([] : List Refund), r.paymentId ≠ p.id)) = [] := by
    rw [List.filter_eq_nil_iff]
    intro p hp hchanged
    exact not_changed_of_mem hp (of_decide_eq_true hchanged).1
  rw [committedChanges, changedPayments, hrefunds, payments_afterCreate env owner args charge hfresh,
    List.filter_append, hold, List.filter_cons_of_pos]
  · simp
  · -- no payment had the new id before
    refine decide_eq_true ⟨fun q hq hsame => ?_, by simp⟩
    exact absurd (by simpa using hsame) (hfresh q hq)

/-- An `UPDATE` that changes the status of one payment. -/
lemma changedPayments_save (hids : (t.payments.map Payment.id).Nodup) {now : Timestamp}
    {old new : Payment} (hold : old ∈ t.payments) (hstatus : old.status ≠ new.status)
    (hpayments : t'.payments = (t.savePayment now old new).payments)
    (hrefunds : t'.refunds = t.refunds) :
    changedPayments t t' = [old.saved now old new] := by
  have hids' : (t'.payments.map Payment.id).Nodup := by
    rw [hpayments, Tables.savePayment_payments, map_key_updateAt fun p => by simp]
    exact hids
  have hmem : old.saved now old new ∈ t'.payments := hpayments ▸ mem_updateAt_self hold _
  rw [← filter_key_eq hids' hmem, changedPayments, newRefunds_of_eq hrefunds]
  apply List.filter_congr
  intro p hp
  rw [hpayments] at hp
  rcases (mem_updateAt hids hold).1 hp with rfl | ⟨hp, hne⟩
  · have hchanged : ∀ q ∈ t.payments, q.id = old.id → q.status ≠ new.status := by
      intro q hq hid
      rwa [eq_of_key_eq hids hq hold hid]
    simpa using hchanged
  · have hsame := not_changed_of_mem hp
    simp only [Payment.saved_id]
    rw [decide_eq_false hne, decide_eq_false]
    exact fun h => hsame h.1

/-- An `UPDATE` of the payment that is refunded is no change of its own. -/
lemma changedPayments_refund (hids : (t.payments.map Payment.id).Nodup) {now : Timestamp}
    {old new : Payment} (hold : old ∈ t.payments) {r : Refund} (hr : r.paymentId = old.id)
    (hpayments : t'.payments = (t.savePayment now old new).payments)
    (hrefunds : newRefunds t t' = [r]) : changedPayments t t' = [] := by
  rw [changedPayments, hrefunds, List.filter_eq_nil_iff]
  intro p hp hchanged
  obtain ⟨hstatus, hother⟩ := of_decide_eq_true hchanged
  rw [hpayments] at hp
  rcases (mem_updateAt hids hold).1 hp with rfl | ⟨hp, -⟩
  · exact hother r List.mem_cons_self (by simpa using hr)
  · exact not_changed_of_mem hp hstatus

lemma committedChanges_save (hids : (t.payments.map Payment.id).Nodup) (now : Timestamp)
    (old new : Payment) (hold : old ∈ t.payments) (hstatus : old.status ≠ new.status)
    (hpayments : t'.payments = (t.savePayment now old new).payments)
    (hrefunds : t'.refunds = t.refunds) :
    committedChanges t t' = [.payment old.id new.status] := by
  rw [committedChanges, changedPayments_save hids hold hstatus hpayments hrefunds,
    newRefunds_of_eq hrefunds]
  simp

lemma committedChanges_refund (hids : (t.payments.map Payment.id).Nodup) {payment : Payment}
    (hold : payment ∈ t.payments) (amountMinor : Option ℤ) (reason : Option String)
    (result : ProviderRefund) :
    committedChanges t (afterRefund env owner t payment amountMinor reason result) =
      [.refund env.refundId payment.id] := by
  have hnew : newRefunds t (afterRefund env owner t payment amountMinor reason result) =
      [newRefund env payment amountMinor reason result] := by
    simp [newRefunds, afterRefund]
  have hpayments : (afterRefund env owner t payment amountMinor reason result).payments =
      (t.savePayment env.now payment (withRefund payment amountMinor)).payments := rfl
  rw [committedChanges, changedPayments_refund hids hold rfl hpayments hnew, hnew]
  rfl

end Booked

/-! ## One call -/

section Steps

variable {app : App} {s : TrailState} {c : CallInput} {t : Tables}

/-- The branches of `create_payment` name the outcome, but for a canceled charge. -/
lemma outcomeAction_withCharge {payment : Payment} {charge : ProviderCharge}
    (hstatus : canTransition .requiresConfirmation charge.status = true)
    (hnot : charge.status ≠ .canceled) :
    outcomeAction charge.status = some (withCharge payment charge).2 := by
  rw [withCharge]
  cases hcharge : charge.status with
  | authorized | captured | failed => rfl
  | canceled => exact absurd hcharge hnot
  | requiresConfirmation | partiallyRefunded | refunded =>
    rw [hcharge] at hstatus
    exact absurd hstatus (by decide)

/-- **What a call does to the log and to the history**: nothing, or it adds a row and a change
that the row records, unless a canceled charge is booked. -/
lemma trail_settled (hunique : ∀ t, app.accepts t = true → t.Unique)
    (hids : (s.tables.payments.map Payment.id).Nodup) (hok : ¬ CanceledAtOnce app s c) :
    (process app c s.tables).store = s.tables ∧ ¬ Returned (process app c s.tables).answer ∨
      ∃ result row, (process app c s.tables).answer = .ok result ∧
        (process app c s.tables).store.auditLogs = s.tables.auditLogs ++ [row] ∧
        committedChanges s.tables (process app c s.tables).store = [result.change] ∧
        AuditsChange row result.change := by
  have hset := settled app c s.tables
  generalize (process app c s.tables).calls = calls at hset
  generalize (process app c s.tables).answer = answer at hset ⊢
  generalize (process app c s.tables).store = store at hset ⊢
  cases hset with
  | refused | unanswered | illegal | rejected =>
    exact Or.inl ⟨rfl, fun ⟨result, h⟩ => by cases h⟩
  | @created args adapter charge call amount resolved reacts status fresh accepted =>
    -- only a payment that is canceled at once has no action of its own
    have hnot : charge.status ≠ .canceled := fun hcanceled =>
      hok ⟨args, adapter, charge, call, amount, fresh, resolved, reacts, hcanceled, accepted⟩
    refine Or.inr ⟨_, _, rfl, rfl, ?_, ?_⟩
    · rw [committedChanges_create args charge (hunique _ fresh).paymentId]
      simp [ServiceResult.change]
    · rw [ServiceResult.change]
      refine ⟨rfl, by simp [auditEntry], ?_⟩
      rw [withCharge_status]
      exact outcomeAction_withCharge status hnot
  | @captured paymentId amount adapter payment charge call found status =>
    obtain ⟨hmem, -, -⟩ := Tables.mem_of_getForOwner found
    refine Or.inr ⟨_, _, rfl, rfl, ?_, rfl, rfl, rfl⟩
    refine committedChanges_save hids c.env.now payment (withCapture payment amount charge) hmem ?_
      rfl rfl
    rw [status]
    exact PaymentStatus.noConfusion
  | @canceled paymentId adapter payment charge call found status =>
    obtain ⟨hmem, -, -⟩ := Tables.mem_of_getForOwner found
    refine Or.inr ⟨_, _, rfl, rfl, ?_, rfl, rfl, rfl⟩
    refine committedChanges_save hids c.env.now payment (withCancel payment) hmem (fun hsame => ?_)
      rfl rfl
    -- a cancel of a canceled payment would be no change of its status
    rw [hsame] at status
    have hagain : canTransition .canceled .canceled = true := status
    exact absurd hagain (by decide)
  | @refunded paymentId minor reason adapter payment result call found =>
    obtain ⟨hmem, -, -⟩ := Tables.mem_of_getForOwner found
    refine Or.inr ⟨_, _, rfl, rfl, ?_, rfl, rfl, rfl⟩
    exact committedChanges_refund hids hmem minor reason result

/-- A charge that the database takes is booked. -/
lemma process_createPayment {args : CreatePaymentArgs} {adapter : Adapter}
    {charge : ProviderCharge} (call : c.call = .createPayment args)
    (amount : args.amount.isPositive)
    (fresh : app.accepts (t.insertPayment (newPayment c.env c.owner args)) = true)
    (resolved : resolveProvider app c.owner.id args.provider t = .ok adapter)
    (reacts : c.reaction _ (args.op adapter) = .ok charge)
    (status : canTransition .requiresConfirmation charge.status = true)
    (accepted : app.accepts (afterCreate c.env c.owner t args charge) = true) :
    process app c t = ⟨.ok (.payment (withCharge (newPayment c.env c.owner args) charge).1),
      afterCreate c.env c.owner t args charge, (), [⟨args.op adapter, .ok charge⟩]⟩ := by
  have hrun : (createPayment app c.env c.owner args).run c.reaction.handler t () =
      ⟨.ok (withCharge (newPayment c.env c.owner args) charge).1,
        afterCreate c.env c.owner t args charge, (), [⟨args.op adapter, .ok charge⟩]⟩ := by
    -- the new row does not touch the configurations that the adapter is made from
    have hresolved : resolveProvider app c.owner.id args.provider
        (t.insertPayment (newPayment c.env c.owner args)) = .ok adapter := resolved
    have hreacts : c.reaction.handler _ (args.op adapter) () = (.ok charge, ()) := by
      rw [← reacts]
      rfl
    rw [createPayment, Prog.run_raiseIf_bind, if_neg (not_not.2 amount), Prog.run_modify_bind,
      run_flush_bind, if_neg (by simp [fresh]), run_getProvider_bind, hresolved, Prog.ofExcept_ok,
      Prog.ret_bind, Prog.run_perform_bind, hreacts]
    have hallowed : assertTransition (newPayment c.env c.owner args).status charge.status =
        .ok () := assertTransition_ok_iff.2 status
    simp only [hallowed, Prog.ofExcept_ok, Prog.ret_bind]
    rfl
  have hprog : (c.call.prog app c.env c.owner).run c.reaction.handler t () =
      ⟨.ok (.payment (withCharge (newPayment c.env c.owner args) charge).1),
        afterCreate c.env c.owner t args charge, (), [⟨args.op adapter, .ok charge⟩]⟩ := by
    rw [call, ServiceCall.prog, Prog.run_bind, hrun]
    rfl
  rw [process, Prog.atomically, hprog]
  simp [accepted]

/-- A canceled charge is booked as a failed payment. -/
lemma CanceledAtOnce.settled (hunique : ∀ t, app.accepts t = true → t.Unique)
    (h : CanceledAtOnce app s c) : ∃ row,
      (process app c s.tables).store.auditLogs = s.tables.auditLogs ++ [row] ∧
      row.action = .paymentFailed ∧
      committedChanges s.tables (process app c s.tables).store =
        [.payment c.env.paymentId .canceled] := by
  obtain ⟨args, adapter, charge, call, amount, fresh, resolved, reacts, hcanceled, accepted⟩ := h
  have status : canTransition .requiresConfirmation charge.status = true := by
    rw [hcanceled]
    rfl
  rw [process_createPayment call amount fresh resolved reacts status accepted]
  refine ⟨_, rfl, ?_, ?_⟩
  · rw [auditEntry, withCharge, hcanceled]
  · rw [← hcanceled]
    exact committedChanges_create args charge (hunique _ fresh).paymentId

/-- The log matches the history, and the ids of the payments are distinct. -/
structure TrailInv (t : Tables) (s : TrailState) : Prop where
  ids : (s.tables.payments.map Payment.id).Nodup
  trail : TrailMatches t s

lemma TrailInv.step (hunique : ∀ t, app.accepts t = true → t.Unique) (h : TrailInv t s)
    (hok : ¬ CanceledAtOnce app s c) : TrailInv t (s.step app c) := by
  have hids : ((s.step app c).tables.payments.map Payment.id).Nodup := by
    rcases Prog.path_atomically c.reaction.handler app.accepts .integrityError
      (c.call.prog app c.env c.owner) s.tables () with
      ⟨H, r, -, -, -, ⟨a, -, hacc, -, hstore⟩ | ⟨e, -, hstore, -⟩⟩
    · have htables : (s.step app c).tables = view H.writes s.tables := hstore
      exact htables ▸ (hunique _ hacc).paymentId
    · have htables : (s.step app c).tables = s.tables := hstore
      exact htables ▸ h.ids
  refine ⟨hids, ?_⟩
  obtain ⟨rows, hlogs, hrecords⟩ := h.trail
  rcases trail_settled hunique h.ids hok with ⟨hstore, -⟩ | ⟨result, row, -, hlog, hchange, hrow⟩
  · have hnone : committedChanges s.tables s.tables = [] := by
      rw [committedChanges, changedPayments, newRefunds_of_eq rfl]
      simp only [List.map_nil, List.append_nil, List.map_eq_nil_iff, List.filter_eq_nil_iff]
      intro p hp hchanged
      exact not_changed_of_mem hp (of_decide_eq_true hchanged).1
    refine ⟨rows, ?_, ?_⟩
    · rw [TrailState.step, hstore, hlogs]
    · rw [TrailState.step, hstore, hnone, List.append_nil]
      exact hrecords
  · refine ⟨rows ++ [row], ?_, ?_⟩
    · rw [TrailState.step, hlog, hlogs, List.append_assoc]
    · rw [TrailState.step, hchange]
      exact forall₂_concat.2 ⟨hrecords, hrow⟩

/-- The row of a canceled charge does not match. -/
lemma TrailInv.not_trailMatches (hunique : ∀ t, app.accepts t = true → t.Unique)
    (h : TrailInv t s) (hcanceled : CanceledAtOnce app s c) :
    ¬ TrailMatches t (s.step app c) := by
  obtain ⟨row, hlog, haction, hchange⟩ := hcanceled.settled hunique
  obtain ⟨rows, hlogs, -⟩ := h.trail
  rintro ⟨rows', hlogs', hrecords⟩
  have hrows : rows' = rows ++ [row] := by
    rw [TrailState.step, hlog, hlogs, List.append_assoc] at hlogs'
    exact (List.append_cancel_left hlogs').symm
  rw [TrailState.step, hchange, hrows] at hrecords
  have hnamed := (forall₂_concat.1 hrecords).2.2.2
  rw [haction] at hnamed
  cases hnamed

lemma TrailInv.audited (hunique : ∀ t, app.accepts t = true → t.Unique) (h : TrailInv t s)
    (hok : ¬ CanceledAtOnce app s c) : Audited app s c := by
  rw [Audited]
  rcases trail_settled hunique h.ids hok with ⟨hstore, hno⟩ | ⟨result, row, hans, hlog, -, hrow⟩
  · split
    · rename_i result hans
      exact absurd ⟨result, hans⟩ hno
    · exact hstore
  · rw [hans]
    exact ⟨row, hlog, hrow⟩

end Steps

/-- **The audit trail.**  In every sequence of calls, the rows that are added to the audit
log record the committed changes of the payments and the refunds, one by one and in order, a
call that returns adds one row that names what it returns, and a call that raises adds none,
exactly if no call books a new payment whose charge the provider has canceled. -/
theorem auditTrail_iff {app : App} (hunique : ∀ t, app.accepts t = true → t.Unique) {t : Tables}
    (hids : (t.payments.map Payment.id).Nodup) (calls : List CallInput) :
    Always (TrailState.step app) (TrailMatches t) ⟨t, []⟩ calls ∧
        Obeys (TrailState.step app) (Audited app) ⟨t, []⟩ calls ↔
      Obeys (TrailState.step app) (fun s c => ¬ CanceledAtOnce app s c) ⟨t, []⟩ calls := by
  have hstart : TrailInv t ⟨t, []⟩ := ⟨hids, [], by simp, .nil⟩
  have hkeep : ∀ s c, TrailInv t s → ¬ CanceledAtOnce app s c →
      TrailInv t (TrailState.step app s c) := fun s c h hok => h.step hunique hok
  have hbreak : ∀ s c, TrailInv t s → ¬ ¬ CanceledAtOnce app s c →
      ¬ TrailMatches t (TrailState.step app s c) :=
    fun s c h hcanceled => h.not_trailMatches hunique (not_not.1 hcanceled)
  have hiff := always_iff_obeys (fun s (h : TrailInv t s) => h.trail) hkeep hbreak hstart calls
  refine ⟨fun h => hiff.1 h.1, fun h => ⟨hiff.2 h, ?_⟩⟩
  exact obeys_of_obeys hkeep (fun s c h hok => h.audited hunique hok) hstart h

/-! ## A payment that Stripe has canceled at once -/

/-- The theorem on a payment that Stripe has captured. -/
theorem auditTrail_iff_demo :
    Always (TrailState.step demoApp) (TrailMatches stripeTables) ⟨stripeTables, []⟩
          [stripePayment "succeeded"] ∧
        Obeys (TrailState.step demoApp) (Audited demoApp) ⟨stripeTables, []⟩
          [stripePayment "succeeded"] ↔
      Obeys (TrailState.step demoApp) (fun s c => ¬ CanceledAtOnce demoApp s c)
        ⟨stripeTables, []⟩ [stripePayment "succeeded"] :=
  auditTrail_iff demoApp_unique (by decide) _

/-- The payment is canceled, and the audit log says that it failed. -/
theorem auditTrail_canceledCharge :
    ¬ (Always (TrailState.step demoApp) (TrailMatches stripeTables) ⟨stripeTables, []⟩
          [stripePayment "canceled"] ∧
        Obeys (TrailState.step demoApp) (Audited demoApp) ⟨stripeTables, []⟩
          [stripePayment "canceled"]) := by
  rintro ⟨htrail, -⟩
  obtain ⟨rows, hlogs, hrecords⟩ := htrail.last
  have hactions : (run (TrailState.step demoApp) ⟨stripeTables, []⟩
      [stripePayment "canceled"]).tables.auditLogs.map AuditLog.action = [.paymentFailed] := by
    decide
  have hhistory : (run (TrailState.step demoApp) ⟨stripeTables, []⟩
      [stripePayment "canceled"]).history = [.payment (demoEnv 1).paymentId .canceled] := by decide
  rw [hhistory] at hrecords
  rw [hlogs] at hactions
  cases hrecords with
  | @cons row change rows changes hrow hrest =>
    cases hrest
    have hfailed : row.action = .paymentFailed := by simpa [stripeTables, Tables.empty] using hactions
    have hnamed := hrow.2.2
    rw [hfailed] at hnamed
    cases hnamed

end PaymentGateway
