/-
# The replay window of inbound webhooks

`Settings.webhook_replay_window_seconds` is read by nobody: both adapters call
`signatures.verify` without a tolerance, so that its default of 300 seconds is the window that
is enforced, whatever the settings say.  A delivery with a correct signature is treated as the
settings ask exactly if its age is within both windows or within neither, or is beyond the
configured one only and the delivery fails for another reason (`replayWindow_iff`).
-/
import PaymentGateway.Security.SignedHeaders
import PaymentGateway.Services.Auth
import PaymentGateway.Services.Webhooks

namespace PaymentGateway

open Transact

/-- The settings that webhooks are meant to obey.  Nothing of the code that receives them reads
these. -/
structure WebhookSettings where
  webhookReplayWindowSeconds : ℤ

/-! ## What an adapter verifies with -/

/-- The header that the adapter reads the signature from, in lower case. -/
def Adapter.signatureHeader (adapter : Adapter) : String :=
  match adapter.name with
  | .mock => "x-upgi-signature"
  | .stripe => "stripe-signature"

/-- The secret of the context, or the `webhook_secret` of a Stripe configuration. -/
def Adapter.signingSecret (adapter : Adapter) : Json :=
  match adapter.name with
  | .mock => .str adapter.context.secret
  | .stripe =>
      ((Json.lookup adapter.context.config "webhook_secret").getD .null).orElse
        (.str adapter.context.secret)

/-- The header of a delivery that carries its signature, or the empty text without one. -/
def WebhookDelivery.signature (d : WebhookDelivery) (adapter : Adapter) : String :=
  (headerOf d.request.headers adapter.signatureHeader).getD ""

section Model

variable (app : App) (d : WebhookDelivery)

/-- The event in a body: its id and its type, which must be there. -/
def readEvent : Except Exn ProviderWebhook := do
  let payload ← app.loads d.request.body
  let eventId ← payload.item "id"
  let eventType ← payload.item "type"
  .ok ⟨eventId.toStr app.repr, eventType.toStr app.repr, payload⟩

/-- The delivery carries a correct signature over its body and the timestamp `ts`, under the
secret of the adapter. -/
def WebhookDelivery.CorrectlySigned (adapter : Adapter) (ts : ℤ) : Prop :=
  Signatures.Timestamped (d.signature adapter) ts ∧
    ∃ text, adapter.signingSecret = .str text ∧
      app.hmac (utf8 text) (Signatures.framed ts d.request.body) ∈
        Signatures.candidates (Signatures.headerFields (d.signature adapter)) ∧
      ¬ Signatures.Stumbles (app.hmac (utf8 text) (Signatures.framed ts d.request.body))
        (Signatures.candidates (Signatures.headerFields (d.signature adapter)))

/-- The answer to the delivery, against the tables `t`. -/
def WebhookDelivery.answer (t : Tables) : Except Exn WebhookAck :=
  ((d.prog app).run noGateway t ()).answer

/-- The event of the body is known, or is accepted by the database. -/
def WebhookDelivery.Storable (t : Tables) : Prop :=
  ∃ verified, readEvent app d = .ok verified ∧
    ((∃ event, t.getByEvent d.request.provider verified.eventId = .ok (some event)) ∨
      t.getByEvent d.request.provider verified.eventId = .ok none ∧
        app.accepts (t.insertWebhookEvent (d.event verified)) = true)

end Model

/-- `isinstance(exc, ReplayDetectedError)` -/
def Exn.isReplayDetected : Exn → Bool
  | .domain e => e.cls = .replayDetectedError
  | _ => false

/-- The configured window is the one that a delivery signed at `ts` is held to. -/
structure ReplayWindowKept (settings : WebhookSettings) (app : App) (d : WebhookDelivery)
    (t : Tables) (ts : ℤ) : Prop where
  accepted : ∀ ack, d.answer app t = .ok ack →
    |d.env.now - ts| ≤ settings.webhookReplayWindowSeconds
  fresh : |d.env.now - ts| ≤ settings.webhookReplayWindowSeconds →
    ∀ e, d.answer app t = .error e → e.isReplayDetected = false

/-! ## Deliveries with a correct signature -/

section Deliveries

variable {app : App} {d : WebhookDelivery} {t : Tables} {ownerId : Uuid} {adapter : Adapter}
  {ts : ℤ}

/-- An adapter verifies the signature, and then reads the event. -/
lemma verifyWebhook_eq (adapter : Adapter) :
    verifyWebhook app d.env adapter d.request =
      (Signatures.verify app.hmac d.request.body (d.signature adapter) adapter.signingSecret
        defaultTolerance d.env.now).bind fun _ => readEvent app d := by
  obtain ⟨name, context⟩ := adapter
  cases name <;> rfl

/-- A delivery that is late by the default. -/
lemma answer_late (howner : webhookOwner app d.env d.request = .ok ownerId)
    (hadapter : resolveProvider app ownerId d.request.provider t = .ok adapter)
    (hsigned : d.CorrectlySigned app adapter ts) (hlate : defaultTolerance < |d.env.now - ts|) :
    d.answer app t = .error (Signatures.outsideTolerance defaultTolerance) := by
  have hverified : d.verified app t = .error (Signatures.outsideTolerance defaultTolerance) := by
    rw [verified_eq howner hadapter, verifyWebhook_eq, Signatures.verify_late hsigned.1 hlate]
    rfl
  rw [WebhookDelivery.answer, run_receiveWebhook, hverified]

/-- A delivery that is not. -/
lemma verified_fresh (hascii : ∀ key message, Signatures.isAsciiText (app.hmac key message) = true)
    (howner : webhookOwner app d.env d.request = .ok ownerId)
    (hadapter : resolveProvider app ownerId d.request.provider t = .ok adapter)
    (hsigned : d.CorrectlySigned app adapter ts) (hfresh : |d.env.now - ts| ≤ defaultTolerance) :
    d.verified app t = readEvent app d := by
  obtain ⟨htime, text, hsecret, hmem, hno⟩ := hsigned
  have hverify := (Signatures.verify_ok_iff hascii).2 ⟨ts, htime, hfresh, hmem, hno⟩
  rw [verified_eq howner hadapter, verifyWebhook_eq, hsecret, hverify]
  rfl

/-- It is accepted if its event can be stored. -/
lemma answer_ok_iff (hverified : d.verified app t = readEvent app d) :
    (∃ ack, d.answer app t = .ok ack) ↔ d.Storable app t := by
  rw [WebhookDelivery.answer, run_receiveWebhook, hverified, WebhookDelivery.Storable]
  cases readEvent app d with
  | error e => simp
  | ok verified =>
    cases hfound : t.getByEvent d.request.provider verified.eventId with
    | error e => simp [hfound]
    | ok found =>
      cases found with
      | some event => simp [hfound]
      | none =>
        by_cases haccepts : app.accepts (t.insertWebhookEvent (d.event verified)) = true
        · simp [hfound, haccepts]
        · simp [hfound, haccepts]

lemma not_replay_of_item {key : String} {v : Json} {e : Exn} (h : v.item key = .error e) :
    e.isReplayDetected = false := by
  cases v with
  | obj fs =>
    rw [Json.item] at h
    split at h
    · cases h
    · cases h
      rfl
  | _ =>
    cases h
    rfl

lemma not_replay_of_scalarOneOrNone {α : Type} {xs : List α} {e : Exn}
    (h : scalarOneOrNone xs = .error e) : e.isReplayDetected = false := by
  rcases xs with _ | ⟨x, _ | ⟨y, xs⟩⟩
  · cases h
  · cases h
  · cases h
    rfl

/-- Nothing behind the verification is a replay. -/
lemma answer_not_replay (hloads : ∀ body e, app.loads body = .error e → e.isReplayDetected = false)
    (hverified : d.verified app t = readEvent app d) :
    ∀ e, d.answer app t = .error e → e.isReplayDetected = false := by
  -- reading the event: the body, its id and its type
  have hread : ∀ e, readEvent app d = .error e → e.isReplayDetected = false := by
    intro e he
    rw [readEvent] at he
    cases hload : app.loads d.request.body with
    | error e' =>
      rw [hload] at he
      cases he
      exact hloads _ _ hload
    | ok payload =>
      rw [hload] at he
      cases hid : payload.item "id" with
      | error e' =>
        simp only [bind, Except.bind, hid] at he
        cases he
        exact not_replay_of_item hid
      | ok eventId =>
        cases htype : payload.item "type" with
        | error e' =>
          simp only [bind, Except.bind, hid, htype] at he
          cases he
          exact not_replay_of_item htype
        | ok eventType =>
          simp only [bind, Except.bind, hid, htype] at he
          cases he
  -- storing it: a lookup that finds two rows, or a refused flush
  intro e he
  rw [WebhookDelivery.answer, run_receiveWebhook, hverified] at he
  cases hevent : readEvent app d with
  | error e' =>
    rw [hevent] at he
    cases he
    exact hread _ hevent
  | ok verified =>
    rw [hevent] at he
    dsimp only at he
    cases hfound : t.getByEvent d.request.provider verified.eventId with
    | error e' =>
      rw [hfound] at he
      cases he
      exact not_replay_of_scalarOneOrNone hfound
    | ok found =>
      rw [hfound] at he
      cases found with
      | some event => cases he
      | none =>
        dsimp only at he
        split at he
        · cases he
          rfl
        · cases he

end Deliveries

/-- **The replay window.**  A delivery with a correct signature is held to the configured window
exactly if its age is within the default of 300 seconds whenever it is within that window, and
the other way round unless its event cannot be stored anyway. -/
theorem replayWindow_iff (settings : WebhookSettings) {app : App}
    (hascii : ∀ key message, Signatures.isAsciiText (app.hmac key message) = true)
    (hloads : ∀ body e, app.loads body = .error e → e.isReplayDetected = false)
    {d : WebhookDelivery} {t : Tables} {ownerId : Uuid} {adapter : Adapter} {ts : ℤ}
    (howner : webhookOwner app d.env d.request = .ok ownerId)
    (hadapter : resolveProvider app ownerId d.request.provider t = .ok adapter)
    (hsigned : d.CorrectlySigned app adapter ts) :
    ReplayWindowKept settings app d t ts ↔
      (|d.env.now - ts| ≤ settings.webhookReplayWindowSeconds → |d.env.now - ts| ≤ 300) ∧
        (|d.env.now - ts| ≤ 300 → d.Storable app t →
          |d.env.now - ts| ≤ settings.webhookReplayWindowSeconds) := by
  by_cases hfresh : |d.env.now - ts| ≤ defaultTolerance
  · -- the signature is fresh, so the delivery is accepted if its event can be stored
    have hverified := verified_fresh hascii howner hadapter hsigned hfresh
    have hthree : |d.env.now - ts| ≤ 300 := hfresh
    constructor
    · intro h
      refine ⟨fun _ => hthree, fun _ hstorable => ?_⟩
      obtain ⟨ack, hack⟩ := (answer_ok_iff hverified).2 hstorable
      exact h.accepted ack hack
    · rintro ⟨-, hwindow⟩
      exact ⟨fun ack hack => hwindow hthree ((answer_ok_iff hverified).1 ⟨ack, hack⟩),
        fun _ => answer_not_replay hloads hverified⟩
  · -- the signature is late, and the delivery rejected as a replay
    have hanswer := answer_late howner hadapter hsigned (not_le.1 hfresh)
    have hthree : ¬ |d.env.now - ts| ≤ 300 := hfresh
    constructor
    · intro h
      refine ⟨fun hwindow => ?_, fun hle => absurd hle hthree⟩
      cases h.fresh hwindow _ hanswer
    · rintro ⟨hwindow, -⟩
      refine ⟨fun ack hack => ?_, fun hle => absurd (hwindow hle) hthree⟩
      rw [hanswer] at hack
      cases hack

/-- The signature of `evt_1` at the time 1. -/
def agedDigest : String := "b2b7322ea6a6443d9a39dae3eff7e8c6a36d720457faa88f9a2442c15213dc8c"

/-- The delivery of `evt_1` signed at the time 1, when the clock shows `now`. -/
def agedDelivery (now : ℕ) : WebhookDelivery :=
  { demoDelivery 1 (.ofNat 1) "payment.failed" agedDigest with env := demoEnv now }

/-- The mock provider, with a secret of its own for the signatures. -/
def agedAdapter : Adapter := ⟨.mock, ⟨"whsec_a", true, [], none⟩⟩

lemma agedDelivery_correctlySigned (now : ℕ) :
    (agedDelivery now).CorrectlySigned webhookApp agedAdapter 1 := by
  have hheader : (agedDelivery now).signature agedAdapter =
      Signatures.signedHeader 1 agedDigest := by rfl
  have hdigest : webhookApp.hmac (utf8 "whsec_a")
      (Signatures.framed 1 (agedDelivery now).request.body) = agedDigest := by
    show webhookApp.hmac (utf8 "whsec_a")
      (Signatures.framed 1 (utf8 (demoEvent "payment.failed"))) = agedDigest
    decide +kernel
  obtain ⟨htime, hcandidates⟩ :=
    @Signatures.timestamped_signedHeader 1 (Nat.one_lt_pow (by decide) (by decide)) agedDigest
      (List.all_eq_true.1 (by decide))
  refine ⟨hheader ▸ htime, "whsec_a", rfl, ?_, ?_⟩
  · rw [hheader, hcandidates, hdigest]
    exact List.mem_cons_self
  · rw [hheader, hcandidates, hdigest, Signatures.stumbles_cons]
    rintro (hno | ⟨hne, -⟩)
    · revert hno
      decide
    · exact hne rfl

lemma isAsciiText_webhookApp (key message : Bytes) :
    Signatures.isAsciiText (webhookApp.hmac key message) = true := by
  rw [webhookApp]
  dsimp only
  split
  · decide
  split
  · decide
  split
  · decide
  · decide

lemma loads_webhookApp (body : Bytes) (e : Exn) (h : webhookApp.loads body = .error e) :
    e.isReplayDetected = false := by
  rw [webhookApp] at h
  dsimp only at h
  split at h
  · cases h
  split at h
  · cases h
  · cases h
    rfl

theorem replayWindow_iff_demo :
    ReplayWindowKept ⟨60⟩ webhookApp (agedDelivery 31) webhookTables 1 ↔
      (|(agedDelivery 31).env.now - 1| ≤ 60 → |(agedDelivery 31).env.now - 1| ≤ 300) ∧
        (|(agedDelivery 31).env.now - 1| ≤ 300 →
          (agedDelivery 31).Storable webhookApp webhookTables →
          |(agedDelivery 31).env.now - 1| ≤ 60) :=
  @replayWindow_iff ⟨60⟩ webhookApp isAsciiText_webhookApp loads_webhookApp (agedDelivery 31)
    webhookTables (.ofNat 1) agedAdapter 1 (by decide +kernel) (by decide +kernel)
    (agedDelivery_correctlySigned 31)

/-- A minute is configured, and a delivery of 200 seconds is accepted; ten minutes are, and one
of 500 seconds is rejected as a replay. -/
theorem replayWindow_ignored :
    (∀ now, (agedDelivery now).CorrectlySigned webhookApp agedAdapter 1) ∧
      ¬ ReplayWindowKept ⟨60⟩ webhookApp (agedDelivery 201) webhookTables 1 ∧
      ¬ ReplayWindowKept ⟨600⟩ webhookApp (agedDelivery 501) webhookTables 1 := by
  have haccepted : (agedDelivery 201).answer webhookApp webhookTables =
      .ok ⟨true, false, "evt_1", "payment.failed"⟩ := by decide +kernel
  have hrejected : (agedDelivery 501).answer webhookApp webhookTables =
      .error (Signatures.outsideTolerance 300) := by decide +kernel
  refine ⟨agedDelivery_correctlySigned, fun h => ?_, fun h => ?_⟩
  · exact absurd (h.accepted _ haccepted) (by decide)
  · cases h.fresh (by decide) _ hrejected

end PaymentGateway
