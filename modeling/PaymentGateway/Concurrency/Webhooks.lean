/-
# Concurrent webhook deliveries

Any number of deliveries, of any events and with any signatures, each in its own session.
A delivery looks its event up and inserts it if it finds none, so two deliveries of one event
may both be about to insert it.  The unique constraint on the provider and the event id
refuses the second one when it commits, and the row of its audit log goes with it: whatever
the interleaving, an event is stored, audited and acknowledged as new at most once
(`webhooks_once`), and a delivery that is not verified writes nothing.
-/
import PaymentGateway.Lib.Sessions
import PaymentGateway.Services.Auth
import PaymentGateway.Services.Calls
import PaymentGateway.Services.Webhooks

namespace PaymentGateway

open Transact

section Model

variable {ι : Type}

/-- The host of the deliveries: the tables.  No delivery calls anything outside. -/
abbrev webhookHost (app : App) : Host Tables Unit Unit GatewayOp Exn :=
  serviceHost app fun _ => noGateway

/-- The deliveries of webhooks, each in its own session over the shared tables.  No provider is
called, so there is no world behind them. -/
abbrev WebhookSystem (ι : Type) := System ι Tables Unit Unit GatewayOp Exn WebhookAck

/-- The system of the deliveries, none of which has been started yet. -/
def webhookStart (app : App) (deliveries : ι → WebhookDelivery) (t : Tables) : WebhookSystem ι :=
  .start t () fun i => (deliveries i).prog app

/-- The session has read its adapter, whose `verify_webhook` ends with `r`. -/
def VerifyOutcome (app : App) (d : WebhookDelivery)
    (x : Session Tables Unit GatewayOp Exn WebhookAck) (r : Except Exn ProviderWebhook) : Prop :=
  ∃ t ownerId adapter, x.history.reads.head? = some t ∧
    webhookOwner app d.env d.request = .ok ownerId ∧
    resolveProvider app ownerId d.request.provider t = .ok adapter ∧
    verifyWebhook app d.env adapter d.request = r

/-- What a `WEBHOOK_RECEIVED` row says of the event: its provider and its id. -/
def receipts (t : Tables) : List (Option Json × Option String) :=
  (t.auditLogs.filter fun e => e.action = .webhookReceived).map fun e =>
    (Json.lookup e.context "provider", e.resourceId)

/-- What the row of the audit log says about the event: the provider in its context, and the
event's id as the resource. -/
def WebhookEvent.receipt (e : WebhookEvent) : Option Json × Option String :=
  (some (.str e.provider.value), some e.eventId)

/-- Every stored event has its row in the audit log, in the same order, and there are no other
rows about webhooks. -/
def EventsAudited (t : Tables) : Prop := receipts t = t.webhookEvents.map WebhookEvent.receipt

/-- What holds at any time of the deliveries, however they are interleaved. -/
structure WebhooksOnce (app : App) (deliveries : ι → WebhookDelivery) (s : WebhookSystem ι) :
    Prop where
  /-- An event is stored once. -/
  events : (s.store.webhookEvents.map WebhookEvent.key).Nodup
  /-- It is audited once. -/
  receipts : (receipts s.store).Nodup
  /-- It is acknowledged as new once. -/
  new : ∀ i j a b, (s.session i).Committed a → (s.session j).Committed b →
    a.duplicate = false → b.duplicate = false →
    (deliveries i).request.provider = (deliveries j).request.provider → a.eventId = b.eventId →
    i = j
  /-- A duplicate is answered with the stored event. -/
  duplicates : ∀ i a, (s.session i).Committed a → a.duplicate = true →
    ∃ verified, VerifyOutcome app (deliveries i) (s.session i) (.ok verified) ∧
      ∃ event ∈ s.store.webhookEvents,
        event.key = ((deliveries i).request.provider, verified.eventId) ∧ a = .of (event, true)
  /-- A delivery that is not verified has no effect. -/
  rejected : ∀ i e, VerifyOutcome app (deliveries i) (s.session i) (.error e) →
    (s.session i).history.writes = [] ∧ ∀ a, ¬ (s.session i).Committed a

end Model

/-! ## One delivery -/

section Deliveries

variable {app : App} {d : WebhookDelivery} {x : Session Tables Unit GatewayOp Exn WebhookAck}

lemma provider_value_injective : Function.Injective ProviderName.value := by
  intro p q hpq
  cases p <;> cases q <;> first | rfl | exact absurd hpq (by decide)

/-- Events with one receipt have one key. -/
lemma key_of_receipt {e e' : WebhookEvent} (h : e.receipt = e'.receipt) : e.key = e'.key := by
  simp only [WebhookEvent.receipt, Prod.mk.injEq, Option.some.injEq, Json.str.injEq] at h
  exact Prod.ext (provider_value_injective h.1) h.2

/-- One receipt for each event. -/
lemma EventsAudited.nodup {t : Tables} (h : EventsAudited t)
    (hkeys : (t.webhookEvents.map WebhookEvent.key).Nodup) : (receipts t).Nodup := by
  rw [h]
  rw [List.nodup_map_iff_inj_on (List.Nodup.of_map _ hkeys)]
  intro e he e' he' heq
  exact eq_of_key_eq hkeys he he' (key_of_receipt heq)

/-- A session whose delivery is not verified has written nothing, and is not answered. -/
lemma rejected_of_follows (hx : x.Follows (d.prog app)) {e : Exn}
    (h : VerifyOutcome app d x (.error e)) :
    x.history.writes = [] ∧ ∀ a, ¬ x.Committed a := by
  obtain ⟨t, ownerId, adapter, hread, howner, hres, hver⟩ := h
  have hpath : ∀ {H : History Tables GatewayOp Exn} {r : Except Exn WebhookAck},
      (d.prog app).Path [] H r → H.reads.head? = some t →
      H.writes = [] ∧ ∀ a, r ≠ .ok a := by
    intro H r hp hhead
    cases receiveWebhook_path hp with
    | unaddressed owner => cases hhead
    | unresolved owner resolved => exact ⟨rfl, fun a ha => by cases ha⟩
    | rejected owner resolved verified => exact ⟨rfl, fun a ha => by cases ha⟩
    | ambiguous owner resolved verify | duplicate owner resolved verify
    | refused owner resolved verify | stored owner resolved verify =>
      -- it would have been verified by the same adapter
      obtain rfl := Option.some_inj.1 hhead
      rw [howner] at owner
      cases owner
      rw [view_nil, hres] at resolved
      cases resolved
      rw [hver] at verify
      cases verify
  constructor
  · obtain ⟨K, r, hp⟩ := hx.exists_path t .cancelled
    have hhead : (x.history ++ K).reads.head? = some t := by
      rw [History.reads_append, List.head?_append, hread]
      rfl
    exact (List.append_eq_nil_iff.1 (hpath hp hhead).1).1
  · intro a ha
    exact (hpath (hx.of_committed ha) hread).2 a rfl

/-- The events of `t` are still there in `t'`. -/
def KeepsEvents (t t' : Tables) : Prop := ∀ e ∈ t.webhookEvents, e ∈ t'.webhookEvents

/-- What a delivery that returns publishes: nothing, if its event was stored already; or the
event, with its row in the audit log. -/
lemma published_of_path {H : History Tables GatewayOp Exn} {a : WebhookAck}
    (h : (d.prog app).Path [] H (.ok a)) :
    ∃ t₁ ownerId adapter verified, H.reads.head? = some t₁ ∧
      webhookOwner app d.env d.request = .ok ownerId ∧
      resolveProvider app ownerId d.request.provider t₁ = .ok adapter ∧
      verifyWebhook app d.env adapter d.request = .ok verified ∧
      ((∃ t₂ ∈ H.reads, ∃ event ∈ t₂.webhookEvents,
          event.key = (d.request.provider, verified.eventId) ∧ H.writes = [] ∧
            a = .of (event, true)) ∨
        a = .of (newWebhookEvent d.env d.request.provider verified, false) ∧
          ∀ t, view H.writes t =
            (t.insertWebhookEvent (newWebhookEvent d.env d.request.provider verified)).insertAuditLog
              (webhookAuditEntry d.env d.request.provider verified)) := by
  cases receiveWebhook_path h with
  | @duplicate d₁ d₂ ownerId adapter verified event owner resolved verify found =>
    refine ⟨d₁, ownerId, adapter, verified, rfl, owner, resolved, verify, Or.inl ?_⟩
    obtain ⟨hmem, hkey⟩ := mem_of_filter_eq_singleton (scalarOneOrNone_eq_some.1 found)
    exact ⟨d₂, by simp, event, hmem, of_decide_eq_true hkey, rfl, rfl⟩
  | @stored d₁ d₂ d₃ ownerId adapter verified owner resolved verify found =>
    exact ⟨d₁, ownerId, adapter, verified, rfl, owner, resolved, verify, Or.inr ⟨rfl, fun t => rfl⟩⟩

end Deliveries

/-! ## Every interleaving -/

section Interleavings

variable {ι : Type} {app : App} {deliveries : ι → WebhookDelivery}

/-- What holds in every interleaving. -/
structure WebhookInv (app : App) (deliveries : ι → WebhookDelivery) (s : WebhookSystem ι) :
    Prop where
  sound : s.Sound Tables.Unique KeepsEvents fun i => (deliveries i).prog app
  audited : EventsAudited s.store
  /-- A new event is stored, and nobody else has acknowledged it as new. -/
  stored : ∀ i a, (s.session i).Committed a → a.duplicate = false →
    ∃ event ∈ s.store.webhookEvents, event.key = ((deliveries i).request.provider, a.eventId)
  once : ∀ i j a b, (s.session i).Committed a → (s.session j).Committed b →
    a.duplicate = false → b.duplicate = false →
    (deliveries i).request.provider = (deliveries j).request.provider → a.eventId = b.eventId →
    i = j
  duplicates : ∀ i a, (s.session i).Committed a → a.duplicate = true →
    ∃ verified, VerifyOutcome app (deliveries i) (s.session i) (.ok verified) ∧
      ∃ event ∈ s.store.webhookEvents,
        event.key = ((deliveries i).request.provider, verified.eventId) ∧ a = .of (event, true)

lemma WebhookInv.webhooksOnce {s : WebhookSystem ι} (h : WebhookInv app deliveries s) :
    WebhooksOnce app deliveries s where
  events := h.sound.store.providerEventId
  receipts := h.audited.nodup h.sound.store.providerEventId
  new := h.once
  duplicates := h.duplicates
  rejected i _ he := rejected_of_follows (h.sound.follows i) he

variable {s : WebhookSystem ι} {m : Move ι Unit}

/-- What a publication does: nothing, with the stored event as its answer, or it adds the event
and its receipt. -/
lemma WebhookInv.publishes (h : WebhookInv app deliveries s) {a : WebhookAck}
    (ha : System.Publishes (webhookHost app) s m a) :
    ∃ verified, VerifyOutcome app (deliveries m.session) (s.session m.session) (.ok verified) ∧
      ((view (s.session m.session).history.writes s.store = s.store ∧
          ∃ event ∈ s.store.webhookEvents,
            event.key = ((deliveries m.session).request.provider, verified.eventId) ∧
              a = .of (event, true)) ∨
        a.duplicate = false ∧ a.eventId = verified.eventId ∧
          ∃ event, event.key = ((deliveries m.session).request.provider, verified.eventId) ∧
            (view (s.session m.session).history.writes s.store).webhookEvents =
              s.store.webhookEvents ++ [event] ∧
            receipts (view (s.session m.session).history.writes s.store) =
              receipts s.store ++ [event.receipt]) := by
  obtain ⟨t₁, ownerId, adapter, verified, hread, howner, hres, hver, hend⟩ :=
    published_of_path (h.sound.path_of_publishes ha)
  refine ⟨verified, ⟨t₁, ownerId, adapter, hread, howner, hres, hver⟩, ?_⟩
  rcases hend with ⟨t₂, ht₂, event, hmem, hkey, hwrites, rfl⟩ | ⟨rfl, hview⟩
  · refine Or.inl ⟨by rw [hwrites, view_nil], event, ?_, hkey, rfl⟩
    exact (h.sound.reads _ t₂ ht₂).2 event hmem
  · refine Or.inr ⟨rfl, rfl, newWebhookEvent (deliveries m.session).env
      (deliveries m.session).request.provider verified, rfl, by rw [hview]; rfl, ?_⟩
    rw [hview, receipts, Tables.insertAuditLog_auditLogs, List.filter_append, List.map_append]
    rfl

/-- Publishing loses no event. -/
lemma WebhookInv.keepsEvents (h : WebhookInv app deliveries s) {a : WebhookAck}
    (ha : System.Publishes (webhookHost app) s m a) :
    KeepsEvents s.store (view (s.session m.session).history.writes s.store) := by
  obtain ⟨verified, -, ⟨hstore, -⟩ | ⟨-, -, event, -, hevents, -⟩⟩ := h.publishes ha
  · rw [hstore]
    exact fun e he => he
  · intro e he
    rw [hevents]
    exact List.mem_append_left _ he

/-- The event of a delivery that acknowledges it as new is new. -/
lemma WebhookInv.fresh_of_publishes (hunique : ∀ t, app.accepts t = true → t.Unique)
    (h : WebhookInv app deliveries s) {a : WebhookAck}
    (ha : System.Publishes (webhookHost app) s m a) (hnew : a.duplicate = false) :
    ∀ e ∈ s.store.webhookEvents,
      e.key ≠ ((deliveries m.session).request.provider, a.eventId) := by
  obtain ⟨verified, -, ⟨-, event, -, -, rfl⟩ | ⟨-, hid, event, hkey, hevents, -⟩⟩ := h.publishes ha
  · cases hnew
  · intro e he heq
    have hkeys := (hunique _ ha.2).providerEventId
    rw [show (view (s.session m.session).history.writes s.store).webhookEvents =
      s.store.webhookEvents ++ [event] from hevents, List.map_append, List.nodup_append] at hkeys
    refine hkeys.2.2 _ (List.mem_map_of_mem he) event.key (by simp) ?_
    rw [heq, hkey, hid]

variable [DecidableEq ι]

lemma WebhookInv.step (hunique : ∀ t, app.accepts t = true → t.Unique)
    (h : WebhookInv app deliveries s) :
    WebhookInv app deliveries (System.step (webhookHost app) s m) := by
  have hsound := System.sound_step (fun d _ e he => he)
    (fun a b c hab hbc e he => hbc e (hab e he)) h.sound
    fun a (ha : System.Publishes (webhookHost app) s m a) => ⟨hunique _ ha.2, h.keepsEvents ha⟩
  have hkeep : KeepsEvents s.store (System.step (webhookHost app) s m).store := by
    rcases System.store_step (h := webhookHost app) (s := s) (m := m) with
      ⟨hstore, -, -⟩ | ⟨a, ha, hstore, -⟩
    · rw [hstore]
      exact fun e he => he
    · rw [hstore]
      exact h.keepsEvents ha
  -- two new acknowledgements of one event, the one of them by the session that moved
  have hclash : ∀ a b, System.Publishes (webhookHost app) s m a → ∀ j,
      (s.session j).Committed b → a.duplicate = false → b.duplicate = false →
      (deliveries m.session).request.provider = (deliveries j).request.provider →
      a.eventId ≠ b.eventId := by
    intro a b ha j hb hanew hbnew hprovider heq
    obtain ⟨event, hmem, hkey⟩ := h.stored j b hb hbnew
    exact h.fresh_of_publishes hunique ha hanew event hmem (by rw [hkey, hprovider, heq])
  refine ⟨hsound, ?_, ?_, ?_, ?_⟩
  · rcases System.store_step (h := webhookHost app) (s := s) (m := m) with
      ⟨hstore, -, -⟩ | ⟨a, ha, hstore, -⟩
    · rw [hstore]
      exact h.audited
    · rw [hstore]
      obtain ⟨verified, -, ⟨hsame, -⟩ | ⟨-, -, event, -, hevents, hreceipts⟩⟩ := h.publishes ha
      · rw [hsame]
        exact h.audited
      · rw [EventsAudited, hreceipts, hevents, h.audited]
        simp
  · intro i a ha hnew
    rcases System.committed_step ha with hold | ⟨rfl, hpub⟩
    · obtain ⟨event, hmem, hkey⟩ := h.stored i a hold hnew
      exact ⟨event, hkeep event hmem, hkey⟩
    · obtain ⟨verified, -, ⟨-, event, -, -, rfl⟩ | ⟨-, hid, event, hkey, hevents, -⟩⟩ :=
        h.publishes hpub
      · cases hnew
      · refine ⟨event, ?_, by rw [hkey, hid]⟩
        rw [(System.step_of_publishes hpub).1]
        exact hevents ▸ List.mem_append_right _ List.mem_cons_self
  · intro i j a b ha hb hanew hbnew hprovider hid
    rcases System.committed_step ha with hi | ⟨rfl, hpub⟩
    · rcases System.committed_step hb with hj | ⟨rfl, hpub'⟩
      · exact h.once i j a b hi hj hanew hbnew hprovider hid
      · exact absurd hid.symm (hclash b a hpub' i hi hbnew hanew hprovider.symm)
    · rcases System.committed_step hb with hj | ⟨rfl, -⟩
      · exact absurd hid (hclash a b hpub j hj hanew hbnew hprovider)
      · rfl
  · intro i a ha hdup
    rcases System.committed_step ha with hold | ⟨rfl, hpub⟩
    · rw [System.session_step_of_committed hold]
      obtain ⟨verified, hver, event, hmem, hkey, heq⟩ := h.duplicates i a hold hdup
      exact ⟨verified, hver, event, hkeep event hmem, hkey, heq⟩
    · obtain ⟨verified, hver, ⟨-, event, hmem, hkey, rfl⟩ | ⟨hnew, -⟩⟩ := h.publishes hpub
      · refine ⟨verified, ?_, event, hkeep event hmem, hkey, rfl⟩
        rw [(System.step_of_publishes hpub).2]
        exact hver
      · rw [hnew] at hdup
        cases hdup

/-- **At most once, and rejected deliveries leave no trace.**  In every interleaving of any
number of deliveries, an event is stored, audited and acknowledged as new at most once, a
duplicate is answered with the stored event, and a delivery that is not verified writes
nothing. -/
theorem webhooks_once (hunique : ∀ t, app.accepts t = true → t.Unique) {t : Tables}
    (ht : t.Unique) (haudited : EventsAudited t) (deliveries : ι → WebhookDelivery)
    (moves : List (Move ι Unit)) :
    Always (System.step (webhookHost app)) (WebhooksOnce app deliveries)
      (webhookStart app deliveries t) moves := by
  have hstart : WebhookInv app deliveries (webhookStart app deliveries t) := by
    refine ⟨System.sound_start ht, haudited, ?_, ?_, ?_⟩
    · intro i a ha
      cases ha
    · intro i j a b ha
      cases ha
    · intro i a ha
      cases ha
  have hinv := always_of_step (fun s m (h : WebhookInv app deliveries s) => h.step (m := m) hunique)
    hstart moves
  exact hinv.mono fun s h => h.webhooksOnce

end Interleavings

/-! ## Two deliveries of one event -/

/-- The event is delivered twice at once. -/
def redelivery (second : Bool) : WebhookDelivery :=
  if second then
    demoDelivery 3 (.ofNat 9) "payment.captured"
      "da841a7c6ddaf258af550f6296132b778f4ad29ee002dda3d466cc166bf7926a"
  else
    demoDelivery 2 (.ofNat 9) "payment.captured"
      "a5444f9a8ddc211ed9b3c2346028eca53a9aa610449be0c07a9c98befe07f12d"

/-- Both look the event up; then the one runs to its end, and then the other. -/
def redeliveryMoves : List (Move Bool Unit) :=
  ([false, true, false, true] ++ List.replicate 4 false ++ List.replicate 4 true).map fun i => ⟨i, ()⟩

theorem webhooks_once_demo :
    Always (System.step (webhookHost webhookApp)) (WebhooksOnce webhookApp redelivery)
      (webhookStart webhookApp redelivery webhookTables) redeliveryMoves :=
  webhooks_once (fun _ h => of_decide_eq_true h) (by decide)
    (show EventsAudited webhookTables from rfl) redelivery redeliveryMoves

/-- The second delivery found nothing either, and is refused when it wants to commit. -/
example : (run (System.step (webhookHost webhookApp))
    (webhookStart webhookApp redelivery webhookTables) redeliveryMoves).store.webhookEvents.map
      WebhookEvent.id = [(demoEnv 2).webhookEventId] := by decide +kernel

end PaymentGateway
