/-
# Webhooks of different tenants

A delivery is verified with the secret of the account it is addressed to, but deduplicated by
its provider and its event id alone, over the events of all accounts.  Two runs are compared
that differ in the deliveries to one account `a`: the deliveries to another tenant are
answered and stored alike, and none of them is answered with an event of `a`, exactly if no
delivery to another tenant carries the provider and the id of an event that was stored for
`a` before (`webhookIsolation_iff`).  In `webhookIsolation_sameEventId` two tenants have an
event of one id, and the second one is taken for a duplicate of the first.
-/
import PaymentGateway.Lib.Runs
import PaymentGateway.Services.Auth
import PaymentGateway.Services.Webhooks

namespace PaymentGateway

open Transact

/-! ## Runs -/

/-- The events that were added, since rows are only appended. -/
def newEvents (t t' : Tables) : List WebhookEvent := t'.webhookEvents.drop t.webhookEvents.length

/-- The tables; the events that were stored for the account `a`; and for each delivery to
another tenant what it was answered and what was stored for it. -/
structure WebhookState where
  tables : Tables
  stored : List WebhookEvent
  observed : List (Except Exn WebhookAck × List WebhookEvent)

section Model

variable (app : App)

/-- The delivery in a unit of work of its own; it calls no provider. -/
def WebhookDelivery.process (d : WebhookDelivery) (t : Tables) :
    Outcome Tables Unit GatewayOp Exn WebhookAck :=
  (d.prog app).atomically noGateway t () app.accepts .integrityError

variable (a : Uuid)

/-- The delivery is addressed to the account `a`. -/
def toAccount (d : WebhookDelivery) : Bool := webhookOwner app d.env d.request = .ok a

/-- The delivery is addressed to another account, with an active configuration of its own. -/
def toOther (t : Tables) (d : WebhookDelivery) : Bool :=
  match webhookOwner app d.env d.request with
  | .ok ownerId =>
      match t.getActive ownerId d.request.provider with
      | .ok (some _) => ownerId ≠ a
      | _ => false
  | .error _ => false

/-- The run without the deliveries to the account `a`. -/
def others (deliveries : List WebhookDelivery) : List WebhookDelivery :=
  deliveries.filter fun d => !toAccount app a d

/-- The delivery is processed; of one to the account it is noted what it has stored, and of one
to another account what it was answered and has stored. -/
def WebhookState.step (s : WebhookState) (d : WebhookDelivery) : WebhookState where
  tables := (d.process app s.tables).store
  stored := if toAccount app a d then
      s.stored ++ newEvents s.tables (d.process app s.tables).store
    else s.stored
  observed := if toOther app a s.tables d then
      s.observed ++ [((d.process app s.tables).answer,
        newEvents s.tables (d.process app s.tables).store)]
    else s.observed

/-- A delivery to another tenant is not answered with an event of `a`. -/
def NotServed (s : WebhookState) (d : WebhookDelivery) : Prop :=
  toOther app a s.tables d = true → ∀ e ∈ s.stored, e.provider = d.request.provider →
    (d.process app s.tables).answer ≠ .ok (.of (e, true))

/-- A verified delivery to another tenant has not the provider and the id of an event of `a`. -/
def Unclaimed (s : WebhookState) (d : WebhookDelivery) : Prop :=
  toOther app a s.tables d = true → ∀ verified, d.verified app s.tables = .ok verified →
    ∀ e ∈ s.stored, e.key ≠ (d.request.provider, verified.eventId)

end Model

/-- The ids that the deliveries make up are new, as random ones are taken to be. -/
structure FreshIds (t : Tables) (deliveries : List WebhookDelivery) : Prop where
  events : (t.webhookEvents.map WebhookEvent.id ++
    deliveries.map fun d => d.env.webhookEventId).Nodup
  audit : (t.auditLogs.map AuditLog.id ++ deliveries.map fun d => d.env.auditId).Nodup

lemma FreshIds.tail {t : Tables} {d : WebhookDelivery} {rest : List WebhookDelivery}
    (h : FreshIds t (d :: rest)) : FreshIds t rest :=
  ⟨h.events.sublist (List.Sublist.append_left (List.sublist_cons_self _ _) _),
    h.audit.sublist (List.Sublist.append_left (List.sublist_cons_self _ _) _)⟩

/-- The database enforces its unique constraints, and whether it takes a row whose keys are new
is decided by the row alone. -/
structure ChecksRows (app : App) : Prop where
  unique : ∀ t, app.accepts t = true → t.Unique
  webhookEvent : ∀ t u e, app.accepts t = true → app.accepts u = true →
    (t.insertWebhookEvent e).Unique → (u.insertWebhookEvent e).Unique →
    app.accepts (t.insertWebhookEvent e) = app.accepts (u.insertWebhookEvent e)
  auditLog : ∀ t u e, e.actorId = none → app.accepts t = true → app.accepts u = true →
    (t.insertAuditLog e).Unique → (u.insertAuditLog e).Unique →
    app.accepts (t.insertAuditLog e) = app.accepts (u.insertAuditLog e)

/-! ## What a delivery does -/

section Deliveries

variable {app : App} {d : WebhookDelivery} {t : Tables}

/-- Everything that a delivery can do to tables with unique keys, with its answer. -/
inductive Processed (app : App) (d : WebhookDelivery) (t : Tables) :
    Outcome Tables Unit GatewayOp Exn WebhookAck → Prop
  | rejected {e} (verified : d.verified app t = .error e) : Processed app d t ⟨.error e, t, (), []⟩
  | duplicate {verified event} (verify : d.verified app t = .ok verified)
      (found : event ∈ t.webhookEvents)
      (key : event.key = (d.request.provider, verified.eventId)) :
      Processed app d t ⟨.ok (.of (event, true)), t, (), []⟩
  | refused {verified} (verify : d.verified app t = .ok verified)
      (new : ∀ e ∈ t.webhookEvents, e.key ≠ (d.request.provider, verified.eventId))
      (refused : app.accepts (t.insertWebhookEvent (d.event verified)) = true →
        app.accepts (d.book verified t) = false) :
      Processed app d t ⟨.error .integrityError, t, (), []⟩
  | stored {verified} (verify : d.verified app t = .ok verified)
      (new : ∀ e ∈ t.webhookEvents, e.key ≠ (d.request.provider, verified.eventId))
      (flushed : app.accepts (t.insertWebhookEvent (d.event verified)) = true)
      (accepted : app.accepts (d.book verified t) = true) :
      Processed app d t ⟨.ok (.of (d.event verified, false)), d.book verified t, (), []⟩

/-- With unique keys, the lookup finds the event with the key, or nothing. -/
lemma getByEvent_cases (ht : t.Unique) (provider : ProviderName) (eventId : String) :
    (∃ event ∈ t.webhookEvents, event.key = (provider, eventId) ∧
        t.getByEvent provider eventId = .ok (some event)) ∨
      (∀ e ∈ t.webhookEvents, e.key ≠ (provider, eventId)) ∧
        t.getByEvent provider eventId = .ok none := by
  by_cases h : ∃ event ∈ t.webhookEvents, event.key = (provider, eventId)
  · obtain ⟨event, hmem, hkey⟩ := h
    refine Or.inl ⟨event, hmem, hkey, scalarOneOrNone_eq_some.2 ?_⟩
    rw [← hkey]
    exact filter_key_eq ht.providerEventId hmem
  · push Not at h
    refine Or.inr ⟨h, scalarOneOrNone_eq_none.2 (List.filter_eq_nil_iff.2 fun e he => ?_)⟩
    simpa using h e he

lemma process_cases (hdb : ChecksRows app) (ht : app.accepts t = true) :
    Processed app d t (d.process app t) := by
  have hrun := run_receiveWebhook app d t noGateway ()
  rw [WebhookDelivery.process]
  cases hverified : d.verified app t with
  | error e =>
    rw [hverified] at hrun
    rw [Prog.atomically_of_run_eq hrun ht]
    exact .rejected hverified
  | ok verified =>
    rw [hverified] at hrun
    rcases getByEvent_cases (hdb.unique t ht) d.request.provider verified.eventId with
      ⟨event, hmem, hkey, hfound⟩ | ⟨hnew, hfound⟩
    · simp only [hfound] at hrun
      rw [Prog.atomically_of_run_eq hrun ht]
      exact .duplicate hverified hmem hkey
    · simp only [hfound] at hrun
      rw [Prog.atomically, hrun]
      by_cases hflush : app.accepts (t.insertWebhookEvent (d.event verified)) = true
      · by_cases hcommit : app.accepts (d.book verified t) = true
        · simpa [hflush, hcommit] using Processed.stored hverified hnew hflush hcommit
        · simpa [hflush, hcommit] using
            Processed.refused hverified hnew fun _ => Bool.not_eq_true _ ▸ hcommit
      · simpa [hflush] using Processed.refused hverified hnew fun h => absurd h hflush

/-- Verification reads the configurations only. -/
lemma verified_congr {u : Tables} (h : t.providerConfigs = u.providerConfigs) :
    d.verified app t = d.verified app u := by
  simp only [WebhookDelivery.verified, resolveProvider, Tables.getActive, h]

/-- A new event, with ids that are new. -/
lemma unique_book (ht : t.Unique) {rest : List WebhookDelivery} (hfresh : FreshIds t (d :: rest))
    {verified : ProviderWebhook}
    (hnew : ∀ e ∈ t.webhookEvents, e.key ≠ (d.request.provider, verified.eventId)) :
    (t.insertWebhookEvent (d.event verified)).Unique ∧ (d.book verified t).Unique := by
  have hid : ∀ e ∈ t.webhookEvents, e.id ≠ d.env.webhookEventId := fun e he =>
    (List.nodup_append.1 hfresh.events).2.2 _ (List.mem_map_of_mem he) _ List.mem_cons_self
  have haudit : ∀ e ∈ t.auditLogs, e.id ≠ d.env.auditId := fun e he =>
    (List.nodup_append.1 hfresh.audit).2.2 _ (List.mem_map_of_mem he) _ List.mem_cons_self
  have hevent : (t.insertWebhookEvent (d.event verified)).Unique :=
    { ht with
      webhookEventId := nodup_key_concat ht.webhookEventId hid
      providerEventId := nodup_key_concat ht.providerEventId hnew }
  exact ⟨hevent, { hevent with auditLogId := nodup_key_concat ht.auditLogId haudit }⟩

lemma newEvents_self : newEvents t t = [] := by simp [newEvents]

lemma newEvents_book (verified : ProviderWebhook) :
    newEvents t (d.book verified t) = [d.event verified] := by
  simp [newEvents, WebhookDelivery.book]

/-- A delivery keeps the configurations and the acceptance; it stores nothing, or one event
whose provider and id are new. -/
lemma process_keeps (hdb : ChecksRows app) (ht : app.accepts t = true)
    {rest : List WebhookDelivery} (hfresh : FreshIds t (d :: rest)) :
    (d.process app t).store.providerConfigs = t.providerConfigs ∧
      app.accepts (d.process app t).store = true ∧ FreshIds (d.process app t).store rest ∧
      (d.process app t).store.webhookEvents =
        t.webhookEvents ++ newEvents t (d.process app t).store ∧
      (newEvents t (d.process app t).store = [] ∨
        ∃ verified, d.verified app t = .ok verified ∧
          (∀ e ∈ t.webhookEvents, e.key ≠ (d.request.provider, verified.eventId)) ∧
          newEvents t (d.process app t).store = [d.event verified]) := by
  have hprocess := process_cases (d := d) hdb ht
  generalize d.process app t = o at hprocess ⊢
  cases hprocess with
  | rejected | duplicate | refused =>
    exact ⟨rfl, ht, hfresh.tail, by rw [newEvents_self, List.append_nil], Or.inl newEvents_self⟩
  | @stored verified verify new flushed accepted =>
    refine ⟨rfl, accepted, ⟨?_, ?_⟩, by rw [newEvents_book]; rfl,
      Or.inr ⟨verified, verify, new, newEvents_book verified⟩⟩
    · show ((t.webhookEvents ++ [d.event verified]).map WebhookEvent.id ++ _).Nodup
      rw [List.map_append, List.append_assoc]
      exact hfresh.events
    · show ((t.auditLogs ++ [_]).map AuditLog.id ++ _).Nodup
      rw [List.map_append, List.append_assoc]
      exact hfresh.audit

/-- With the same verification and the same answer to its lookup, a delivery does the same. -/
lemma process_congr (hdb : ChecksRows app) {u : Tables} (ht : app.accepts t = true)
    (hu : app.accepts u = true) {rest : List WebhookDelivery} (hfresh : FreshIds t (d :: rest))
    (hfresh' : FreshIds u (d :: rest)) (hverified : d.verified app t = d.verified app u)
    (hfound : ∀ verified, d.verified app t = .ok verified →
      t.getByEvent d.request.provider verified.eventId =
        u.getByEvent d.request.provider verified.eventId) :
    (d.process app t).answer = (d.process app u).answer ∧
      newEvents t (d.process app t).store = newEvents u (d.process app u).store := by
  have hrun := run_receiveWebhook app d t noGateway ()
  have hrun' := run_receiveWebhook app d u noGateway ()
  rw [← hverified] at hrun'
  rw [WebhookDelivery.process, WebhookDelivery.process]
  cases hv : d.verified app t with
  | error e =>
    rw [hv] at hrun hrun'
    rw [Prog.atomically_of_run_eq hrun ht, Prog.atomically_of_run_eq hrun' hu]
    exact ⟨rfl, by rw [newEvents_self, newEvents_self]⟩
  | ok verified =>
    rw [hv] at hrun hrun'
    simp only [← hfound verified hv] at hrun'
    -- the event is found in both tables, or in neither
    rcases getByEvent_cases (hdb.unique t ht) d.request.provider verified.eventId with
      ⟨event, -, -, hevent⟩ | ⟨hnew, hnone⟩
    · simp only [hevent] at hrun hrun'
      rw [Prog.atomically_of_run_eq hrun ht, Prog.atomically_of_run_eq hrun' hu]
      exact ⟨rfl, by rw [newEvents_self, newEvents_self]⟩
    · have hnew' : ∀ e ∈ u.webhookEvents, e.key ≠ (d.request.provider, verified.eventId) := by
        have hnone' := (hfound verified hv).symm.trans hnone
        rw [Tables.getByEvent, scalarOneOrNone_eq_none, List.filter_eq_nil_iff] at hnone'
        exact fun e he hkey => hnone' e he (decide_eq_true hkey)
      obtain ⟨htevent, htbook⟩ := unique_book (hdb.unique t ht) hfresh hnew
      obtain ⟨huevent, hubook⟩ := unique_book (hdb.unique u hu) hfresh' hnew'
      -- the database takes the rows on both sides, or on neither
      have hflush := hdb.webhookEvent t u _ ht hu htevent huevent
      simp only [hnone, ← hflush] at hrun hrun'
      rw [Prog.atomically, Prog.atomically, hrun, hrun']
      by_cases hacc : app.accepts (t.insertWebhookEvent (d.event verified)) = true
      · have hcommit := hdb.auditLog _ _ _ rfl hacc (hflush ▸ hacc) htbook hubook
        by_cases hbook : app.accepts (d.book verified t) = true
        · have hbook' : app.accepts (d.book verified u) = true := hcommit ▸ hbook
          simp [hacc, hbook, hbook', newEvents_book]
        · have hbook' : ¬ app.accepts (d.book verified u) = true := hcommit ▸ hbook
          simp [hacc, hbook, hbook', newEvents_self]
      · simp [hacc, newEvents_self]

/-- A delivery to `a` is not a delivery to another tenant. -/
lemma toOther_of_toAccount {a : Uuid} (h : toAccount app a d = true) : toOther app a t d = false := by
  rw [toOther, of_decide_eq_true h]
  split
  · split <;> simp_all
  · rfl

end Deliveries

/-! ## Two runs -/

section Runs

variable {app : App} {a : Uuid}

/-- The event has not the key of an event that was stored for `a`. -/
def Own (s : WebhookState) (e : WebhookEvent) : Bool := e.key ∉ s.stored.map WebhookEvent.key

/-- What a run `s` and the run `u` without the deliveries to `a` have in common, before the
deliveries `rest`. -/
structure Alike (app : App) (rest : List WebhookDelivery) (s u : WebhookState) : Prop where
  configs : s.tables.providerConfigs = u.tables.providerConfigs
  events : s.tables.webhookEvents.filter (Own s) = u.tables.webhookEvents.filter (Own s)
  observed : s.observed = u.observed
  accepted : app.accepts s.tables = true
  accepted' : app.accepts u.tables = true
  fresh : FreshIds s.tables rest
  fresh' : FreshIds u.tables rest

variable {d : WebhookDelivery} {rest : List WebhookDelivery} {s u : WebhookState}

/-- Both runs find the same event, if its key is not the key of an event of `a`. -/
lemma Alike.getByEvent_eq (h : Alike app rest s u) {provider : ProviderName} {eventId : String}
    (hkey : ∀ e ∈ s.stored, e.key ≠ (provider, eventId)) :
    s.tables.getByEvent provider eventId = u.tables.getByEvent provider eventId := by
  have howned : ∀ rows : List WebhookEvent, (rows.filter fun e => e.key = (provider, eventId)) =
      (rows.filter (Own s)).filter fun e => e.key = (provider, eventId) := by
    intro rows
    rw [List.filter_filter]
    apply List.filter_congr
    intro e _
    by_cases he : e.key = (provider, eventId)
    · have hown : Own s e = true := by
        refine decide_eq_true fun hmem => ?_
        obtain ⟨e', he', heq⟩ := List.mem_map.1 hmem
        exact hkey e' he' (heq.trans he)
      simp [he, hown]
    · simp [he]
  rw [Tables.getByEvent, Tables.getByEvent, howned, h.events, ← howned]

/-- A delivery to `a` is not seen. -/
lemma Alike.hidden (hdb : ChecksRows app) (h : Alike app (d :: rest) s u)
    (hd : toAccount app a d = true) : Alike app rest (s.step app a d) u := by
  obtain ⟨hconfigs, hacc, hfresh, hevents, hnew⟩ := process_keeps hdb h.accepted h.fresh
  refine ⟨hconfigs.trans h.configs, ?_, ?_, hacc, h.accepted', hfresh, h.fresh'.tail⟩
  · have hstored : (s.step app a d).stored =
        s.stored ++ newEvents s.tables (d.process app s.tables).store := if_pos hd
    show (d.process app s.tables).store.webhookEvents.filter _ = _
    rw [hevents]
    rcases hnew with hnone | ⟨verified, -, hkey, hone⟩
    · have hown : Own (s.step app a d) = Own s := by
        funext e
        rw [Own, Own, hstored, hnone, List.append_nil]
      rw [hown, hnone, List.append_nil]
      exact h.events
    · have hown : ∀ e, Own (s.step app a d) e =
          (Own s e && decide (e.key ≠ (d.event verified).key)) := by
        intro e
        simp [Own, hstored, hone]
      -- the event that the delivery stores is new, so the other rows are hidden as before
      have hfilter : ∀ rows : List WebhookEvent,
          (∀ e ∈ rows.filter (Own s), e.key ≠ (d.event verified).key) →
          rows.filter (Own (s.step app a d)) = rows.filter (Own s) := by
        intro rows hrows
        apply List.filter_congr
        intro e he
        rw [hown]
        cases hs : Own s e with
        | false => rfl
        | true => exact decide_eq_true (hrows e (List.mem_filter.2 ⟨he, hs⟩))
      have hmem : ∀ e ∈ s.tables.webhookEvents.filter (Own s), e.key ≠ (d.event verified).key :=
        fun e he => hkey e (List.mem_of_mem_filter he)
      have hlast : Own (s.step app a d) (d.event verified) = false := by simp [hown]
      rw [hone, List.filter_append, hfilter _ hmem, List.filter_cons_of_neg (by simp [hlast]),
        List.filter_nil, List.append_nil, h.events]
      rw [h.events] at hmem
      exact (hfilter _ hmem).symm
  · rw [WebhookState.step, toOther_of_toAccount hd]
    exact h.observed

/-- A delivery to somebody else, which both runs process. -/
lemma Alike.shown (hdb : ChecksRows app) (h : Alike app (d :: rest) s u)
    (hd : toAccount app a d = false) (hclaim : Unclaimed app a s d) :
    Alike app rest (s.step app a d) (u.step app a d) := by
  obtain ⟨hconfigs, hacc, hfresh, hevents, hnew⟩ := process_keeps hdb h.accepted h.fresh
  obtain ⟨hconfigs', hacc', hfresh', hevents', hnew'⟩ := process_keeps hdb h.accepted' h.fresh'
  have hother : toOther app a s.tables d = toOther app a u.tables d := by
    simp only [toOther, Tables.getActive, h.configs]
  have hverified : d.verified app s.tables = d.verified app u.tables := verified_congr h.configs
  have hown : Own (s.step app a d) = Own s := by
    funext e
    simp only [Own, WebhookState.step, hd]
    rfl
  -- what is stored is the same in both runs, or it has the key of an event of `a`
  have hstored : (newEvents s.tables (d.process app s.tables).store).filter (Own s) =
        (newEvents u.tables (d.process app u.tables).store).filter (Own s) ∧
      (toOther app a s.tables d = true → (d.process app s.tables).answer =
          (d.process app u.tables).answer ∧
        newEvents s.tables (d.process app s.tables).store =
          newEvents u.tables (d.process app u.tables).store) := by
    by_cases hk : ∃ verified, d.verified app s.tables = .ok verified ∧
        ∃ e ∈ s.stored, e.key = (d.request.provider, verified.eventId)
    · obtain ⟨verified, hver, e, he, hkey⟩ := hk
      refine ⟨?_, fun hto => absurd hkey (hclaim hto verified hver e he)⟩
      have hnone : ∀ {events : List WebhookEvent}, events = [] ∨ (∃ v, d.verified app s.tables =
          .ok v ∧ events = [d.event v]) → events.filter (Own s) = [] := by
        rintro events (rfl | ⟨v, hv, rfl⟩)
        · rfl
        · rw [hver] at hv
          cases hv
          have hclaimed : Own s (d.event verified) = false :=
            decide_eq_false (not_not.2 (List.mem_map.2 ⟨e, he, hkey⟩))
          rw [List.filter_cons_of_neg (by simp [hclaimed]), List.filter_nil]
      rw [hnone (hnew.imp_right fun ⟨v, hv, _, hone⟩ => ⟨v, hv, hone⟩),
        hnone (hnew'.imp_right fun ⟨v, hv, _, hone⟩ => ⟨v, hverified.trans hv, hone⟩)]
    · have hsame := process_congr hdb h.accepted h.accepted' h.fresh h.fresh' hverified
        fun verified hver => h.getByEvent_eq fun e he hkey => hk ⟨verified, hver, e, he, hkey⟩
      exact ⟨by rw [hsame.2], fun _ => hsame⟩
  refine ⟨hconfigs.trans (h.configs.trans hconfigs'.symm), ?_, ?_, hacc, hacc', hfresh, hfresh'⟩
  · show (d.process app s.tables).store.webhookEvents.filter _ =
      (d.process app u.tables).store.webhookEvents.filter _
    rw [hown, hevents, hevents', List.filter_append, List.filter_append, h.events, hstored.1]
  · rw [WebhookState.step, WebhookState.step, ← hother]
    by_cases hto : toOther app a s.tables d = true
    · simp only [hto, if_true, h.observed, (hstored.2 hto).1, (hstored.2 hto).2]
    · simp only [hto, h.observed]
      rfl

/-- The tables are accepted, and what was stored for `a` is still there. -/
structure StoredInv (app : App) (s : WebhookState) : Prop where
  accepted : app.accepts s.tables = true
  stored : ∀ e ∈ s.stored, e ∈ s.tables.webhookEvents

lemma StoredInv.step (hdb : ChecksRows app) (h : StoredInv app s) :
    StoredInv app (s.step app a d) := by
  have hprocess := process_cases (d := d) hdb h.accepted
  have hkeeps : app.accepts (d.process app s.tables).store = true ∧
      (d.process app s.tables).store.webhookEvents = s.tables.webhookEvents ++
        newEvents s.tables (d.process app s.tables).store := by
    generalize d.process app s.tables = o at hprocess ⊢
    cases hprocess with
    | rejected | duplicate | refused => exact ⟨h.accepted, by rw [newEvents_self, List.append_nil]⟩
    | stored verify new flushed accepted => exact ⟨accepted, by rw [newEvents_book]; rfl⟩
  refine ⟨hkeeps.1, fun e he => ?_⟩
  show e ∈ (d.process app s.tables).store.webhookEvents
  rw [hkeeps.2]
  rw [WebhookState.step] at he
  split at he
  · rcases List.mem_append.1 he with hold | hnew
    · exact List.mem_append_left _ (h.stored e hold)
    · exact List.mem_append_right _ hnew
  · exact List.mem_append_left _ (h.stored e he)

/-- A delivery is answered with an event of `a` exactly if it carries its provider and id. -/
lemma StoredInv.notServed_iff (hdb : ChecksRows app) (h : StoredInv app s) :
    NotServed app a s d ↔ Unclaimed app a s d := by
  have hprocess := process_cases (d := d) hdb h.accepted
  have hkeys := (hdb.unique _ h.accepted).providerEventId
  constructor
  · -- a claimed event would be found, and served as a duplicate
    intro hserved hto verified hver e he hkey
    have hprovider : e.provider = d.request.provider := congrArg Prod.fst hkey
    refine hserved hto e he hprovider ?_
    generalize d.process app s.tables = o at hprocess ⊢
    cases hprocess with
    | rejected verified' =>
      rw [hver] at verified'
      cases verified'
    | duplicate verify found key =>
      rw [hver] at verify
      cases verify
      rw [eq_of_key_eq hkeys found (h.stored e he) (key.trans hkey.symm)]
    | refused verify new | stored verify new =>
      rw [hver] at verify
      cases verify
      exact absurd hkey (new e (h.stored e he))
  · -- an event is served from the table only under its own key
    intro hclaim hto e he hprovider hanswer
    generalize d.process app s.tables = o at hprocess hanswer
    cases hprocess with
    | rejected | refused => cases hanswer
    | stored =>
      have hdup := congrArg WebhookAck.duplicate (Except.ok.inj hanswer)
      cases hdup
    | @duplicate verified event verify found key =>
      refine hclaim hto verified verify e he ?_
      have hid : event.eventId = e.eventId := congrArg WebhookAck.eventId (Except.ok.inj hanswer)
      rw [← key]
      exact Prod.ext (hprovider.trans (congrArg Prod.fst key).symm) hid.symm

/-- A run and the run without the deliveries to `a` are seen alike. -/
lemma observed_others (hdb : ChecksRows app) {t : Tables} (ht : app.accepts t = true)
    {deliveries : List WebhookDelivery} (hfresh : FreshIds t deliveries)
    (h : Obeys (WebhookState.step app a) (Unclaimed app a) ⟨t, [], []⟩ deliveries) :
    (run (WebhookState.step app a) ⟨t, [], []⟩ deliveries).observed =
      (run (WebhookState.step app a) ⟨t, [], []⟩ (others app a deliveries)).observed := by
  have hstart : Alike app deliveries ⟨t, [], []⟩ ⟨t, [], []⟩ :=
    ⟨rfl, rfl, rfl, ht, ht, hfresh, hfresh⟩
  refine (rel_of_hidden (R := Alike app) ?_ ?_ hstart h).observed
  · intro d rest s u hR _ hd
    exact hR.hidden hdb (by simpa using hd)
  · intro d rest s u hR hclaim hd
    exact hR.shown hdb (by simpa using hd) hclaim

/-- **Isolation of the tenants' webhooks.**  Two runs that differ in the deliveries to `a`
answer and store the deliveries to the other tenants alike, and answer none of them with an
event of `a`, exactly if in neither run a verified delivery to another tenant has the provider
and the id of an event that was stored for `a` before. -/
theorem webhookIsolation_iff (hdb : ChecksRows app) {t : Tables} (ht : app.accepts t = true)
    {deliveries deliveries' : List WebhookDelivery}
    (hothers : others app a deliveries = others app a deliveries')
    (hfresh : FreshIds t deliveries) (hfresh' : FreshIds t deliveries') :
    (run (WebhookState.step app a) ⟨t, [], []⟩ deliveries).observed =
        (run (WebhookState.step app a) ⟨t, [], []⟩ deliveries').observed ∧
      Obeys (WebhookState.step app a) (NotServed app a) ⟨t, [], []⟩ deliveries ∧
      Obeys (WebhookState.step app a) (NotServed app a) ⟨t, [], []⟩ deliveries' ↔
    Obeys (WebhookState.step app a) (Unclaimed app a) ⟨t, [], []⟩ deliveries ∧
      Obeys (WebhookState.step app a) (Unclaimed app a) ⟨t, [], []⟩ deliveries' := by
  have hstart : StoredInv app ⟨t, [], []⟩ := ⟨ht, fun e he => by cases he⟩
  have hkeep : ∀ {ok : WebhookState → WebhookDelivery → Prop} s d, StoredInv app s → ok s d →
      StoredInv app (s.step app a d) :=
    fun s d h _ => h.step hdb
  constructor
  · rintro ⟨-, h, h'⟩
    exact ⟨obeys_of_obeys hkeep (fun s d hs => (hs.notServed_iff hdb).1) hstart h,
      obeys_of_obeys hkeep (fun s d hs => (hs.notServed_iff hdb).1) hstart h'⟩
  · rintro ⟨h, h'⟩
    refine ⟨?_, obeys_of_obeys hkeep (fun s d hs => (hs.notServed_iff hdb).2) hstart h,
      obeys_of_obeys hkeep (fun s d hs => (hs.notServed_iff hdb).2) hstart h'⟩
    rw [observed_others hdb ht hfresh h, observed_others hdb ht hfresh' h', hothers]

end Runs

/-! ## An event id that two tenants share -/

/-- An event of the tenant 1, and an event of the tenant 9 with the same id. -/
def firstDelivery : WebhookDelivery :=
  demoDelivery 1 (.ofNat 1) "payment.failed"
    "b2b7322ea6a6443d9a39dae3eff7e8c6a36d720457faa88f9a2442c15213dc8c"

/-- A delivery of another event to another account, with its own signature. -/
def secondDelivery : WebhookDelivery :=
  demoDelivery 2 (.ofNat 9) "payment.captured"
    "a5444f9a8ddc211ed9b3c2346028eca53a9aa610449be0c07a9c98befe07f12d"

lemma webhookApp_checksRows : ChecksRows webhookApp where
  unique _ h := of_decide_eq_true h
  webhookEvent _ _ _ _ _ ht hu := (decide_eq_true ht).trans (decide_eq_true hu).symm
  auditLog _ _ _ _ _ _ ht hu := (decide_eq_true ht).trans (decide_eq_true hu).symm

lemma others_secondDelivery :
    others webhookApp (.ofNat 1) [firstDelivery, secondDelivery] =
      others webhookApp (.ofNat 1) [secondDelivery] := by
  have hfirst : toAccount webhookApp (.ofNat 1) firstDelivery = true := by decide +kernel
  rw [others, List.filter_cons_of_neg (by simp [hfirst]), others]

theorem webhookIsolation_iff_demo :
    (run (WebhookState.step webhookApp (.ofNat 1)) ⟨webhookTables, [], []⟩
          [firstDelivery, secondDelivery]).observed =
        (run (WebhookState.step webhookApp (.ofNat 1)) ⟨webhookTables, [], []⟩
          [secondDelivery]).observed ∧
      Obeys (WebhookState.step webhookApp (.ofNat 1)) (NotServed webhookApp (.ofNat 1))
        ⟨webhookTables, [], []⟩ [firstDelivery, secondDelivery] ∧
      Obeys (WebhookState.step webhookApp (.ofNat 1)) (NotServed webhookApp (.ofNat 1))
        ⟨webhookTables, [], []⟩ [secondDelivery] ↔
    Obeys (WebhookState.step webhookApp (.ofNat 1)) (Unclaimed webhookApp (.ofNat 1))
        ⟨webhookTables, [], []⟩ [firstDelivery, secondDelivery] ∧
      Obeys (WebhookState.step webhookApp (.ofNat 1)) (Unclaimed webhookApp (.ofNat 1))
        ⟨webhookTables, [], []⟩ [secondDelivery] :=
  webhookIsolation_iff webhookApp_checksRows (by decide) others_secondDelivery
    ⟨by decide +kernel, by decide +kernel⟩ ⟨by decide +kernel, by decide +kernel⟩

/-- The tenant 9 is told that its event is a duplicate, of another type than it sent; without
the event of the tenant 1 it is stored. -/
theorem webhookIsolation_sameEventId :
    others webhookApp (.ofNat 1) [firstDelivery, secondDelivery] =
        others webhookApp (.ofNat 1) [secondDelivery] ∧
      (run (WebhookState.step webhookApp (.ofNat 1)) ⟨webhookTables, [], []⟩
          [firstDelivery, secondDelivery]).observed =
        [(.ok ⟨true, true, "evt_1", "payment.failed"⟩, [])] ∧
      (run (WebhookState.step webhookApp (.ofNat 1)) ⟨webhookTables, [], []⟩
          [secondDelivery]).observed.map Prod.fst =
        [.ok ⟨true, false, "evt_1", "payment.captured"⟩] :=
  ⟨others_secondDelivery, by decide +kernel, by decide +kernel⟩

end PaymentGateway
