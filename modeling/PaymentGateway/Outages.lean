/-
# Outages and declines

A reaction of the provider to a request is an outage (a transport fault, a timeout, HTTP 5xx
or 429) or a decline (any other 4xx) or neither.  Retry and breaker should tell them apart: an
outage is tried again and, if it persists, counted once by the breaker; a decline is neither
tried again nor counted.

The adapter does not look at the status beyond 400, so 5xx and 429 are treated as declines
(`tellsApart_unavailable`).  `tellsApart_of_readable` says that the two are told apart in every
run without them, as long as the bodies of the declines can be read.
-/
import PaymentGateway.Lib.Runs
import PaymentGateway.Services.GatewayManager

namespace PaymentGateway

open Transact

/-- How a request ends: with a response, or with an exception of httpx. -/
abbrev HttpReaction := Except HttpxError HttpResponse

namespace HttpReaction

/-- The provider could not answer: a transport fault, a timeout, HTTP 5xx or 429. -/
def Outage : HttpReaction → Prop
  | .error .timeoutException | .error .transportError => True
  | .error .other => False
  | .ok response => response.statusCode = 429 ∨ 500 ≤ response.statusCode

/-- The provider has declined the operation: any other 4xx. -/
def Decline : HttpReaction → Prop
  | .error _ => False
  | .ok response =>
      400 ≤ response.statusCode ∧ response.statusCode < 500 ∧ response.statusCode ≠ 429

instance : DecidablePred Outage
  | .error .timeoutException | .error .transportError => isTrue trivial
  | .error .other => isFalse id
  | .ok _ => inferInstanceAs (Decidable (_ ∨ _))

/-- The reaction is not an outage that comes as a response, and if it is a decline the adapter
can read its body. -/
def Readable : HttpReaction → Prop
  | .error _ => True
  | .ok response => ¬ (response.statusCode = 429 ∨ 500 ≤ response.statusCode) ∧
      (400 ≤ response.statusCode →
        ∃ e, StripeProvider.payloadOf response = .error e ∧ e.isProviderError = true)

end HttpReaction

/-- The reaction to a request, by the number of requests sent before. -/
def Network.reaction (network : Network) (n : ℕ) : HttpReaction := network.answer n

/-- An operation of Stripe that reaches somebody, and what it meets outside. -/
structure StripeCall : Type 1 where
  context : ProviderContext
  reaches : (Adapter.mk .stripe context).reaches = true
  {β : Type}
  op : ProviderOp β
  network : Network

/-- The gateway manager, and how many calls in a row met an outage that persisted. -/
structure StripeRun where
  gateway : Gateway
  streak : ℕ

section Runs

variable (settings : GatewaySettings) (repr : Json → String) (s : StripeRun) (c : StripeCall)

namespace StripeRun

/-- The breaker of Stripe, as the calls so far have left it. -/
def breaker : Breaker := s.gateway.breakers.get .stripe

/-- The gateway manager after the call: its breakers, and what was asked outside. -/
def after : Gateway :=
  (gatewayHandler settings repr c.network _ (.execute .stripe ⟨.stripe, c.context⟩ c.op)
    s.gateway).2

/-- The reaction to the `j`-th attempt of the call, counted from the requests before it. -/
def reaction (j : ℕ) : HttpReaction := c.network.reaction (s.gateway.wire.sent + j)

/-- How many attempts the call has made: the requests that it has added. -/
def attempts : ℕ := (s.after settings repr c).wire.sent - s.gateway.wire.sent

/-- What the breaker lets the call through with, or its refusal. -/
def admission : Except Exn Breaker :=
  s.breaker.entry (breakerConfig settings .stripe) (c.network.clock s.gateway.wire.ticks)

/-- Every attempt of the call met an outage, so that the call has failed for the breaker. -/
def Persists : Prop := ∀ j < s.attempts settings repr c, (s.reaction c j).Outage

instance : Decidable (s.Persists settings repr c) :=
  inferInstanceAs (Decidable (∀ _, _))

/-- The call is executed.  If it was let through, an outage that persists adds to the streak, and
anything else ends it. -/
def step (s : StripeRun) (c : StripeCall) : StripeRun where
  gateway := s.after settings repr c
  streak :=
    if (s.admission settings c).toBool = true then
      if s.Persists settings repr c then s.streak + 1 else 0
    else s.streak

/-- The state in which nothing was executed yet, with no breaker made. -/
def start (w : Wire) : StripeRun := ⟨⟨fun _ => none, w⟩, 0⟩

/-- The call tells outages from declines, in what it tries again and in what it tells the
breaker. -/
structure TellsApart : Prop where
  /-- An outage is tried again, up to the configured number of attempts. -/
  retried : ∀ j < s.attempts settings repr c, (s.reaction c j).Outage →
    (j + 1 : ℤ) < settings.providerMaxRetries → j + 1 < s.attempts settings repr c
  /-- An outage that persists is one failure for the breaker. -/
  counted : ∀ b, s.admission settings c = .ok b → s.Persists settings repr c →
    ∃ now, (s.after settings repr c).breakers.get .stripe =
      b.onFailure (breakerConfig settings .stripe) now
  /-- A decline is not tried again, and nothing to the breaker. -/
  spared : ∀ b, s.admission settings c = .ok b →
    ∀ j < s.attempts settings repr c, (s.reaction c j).Decline →
      j + 1 = s.attempts settings repr c ∧ (s.after settings repr c).breakers.get .stripe = b

/-- As many outages in a row as the threshold says have opened the breaker. -/
def OpensAfter : Prop :=
  1 ≤ s.streak → settings.circuitBreakerFailureThreshold ≤ s.streak → s.breaker.state = .opened

/-- The adapter can read what it gets, as long as it is tried. -/
def Readable : Prop :=
  ∀ j : ℕ, (j : ℤ) < settings.providerMaxRetries → (∀ i < j, (s.reaction c i).Outage) →
    (s.reaction c j).Readable

end StripeRun

end Runs

/-! ## Attempts -/

section Attempts

variable {settings : GatewaySettings} (repr : Json → String) (network : Network)
  {context : ProviderContext} {α : Type} (op : ProviderOp α)

/-- What an attempt comes to, for the loop that retries it. -/
def attemptAnswer (context : ProviderContext) (x : HttpReaction) : Except Exn α :=
  (Except.bind (x.mapError Exn.httpx) (StripeProvider.answer repr context op)).mapError fun e =>
    if e.isTransportFault then transportError .stripe else e

variable {repr network op} (hreach : (Adapter.mk .stripe context).reaches = true)

include hreach

variable (repr network op) in
lemma exec_attempt (breakers : Breakers) (w : Wire) :
    ∃ w', w'.sent = w.sent + 1 ∧
      (guarded .stripe ((Adapter.mk .stripe context).operation repr op)).exec network.handle
        breakers w = (attemptAnswer repr op context (network.reaction w.sent), breakers, w') := by
  rw [exec_guarded, exec_operation _ _ _ hreach]
  exact ⟨⟨w.sent + 1, w.ticks, _⟩, rfl, rfl⟩

omit hreach in
/-- An outage is a transport error to the retries. -/
lemma attemptAnswer_outage {x : HttpReaction} (hread : x.Readable) (hx : x.Outage) :
    attemptAnswer repr op context x = .error (transportError .stripe) := by
  rcases x with (_ | _ | _) | response
  · rfl
  · rfl
  · exact absurd hx id
  · exact absurd hx hread.1

lemma exists_client : ∃ http, StripeProvider.client context = .ok http := by
  rcases hclient : StripeProvider.client context with e | http
  · simp [Adapter.reaches, hclient, Except.toOption] at hreach
  · exact ⟨http, rfl⟩

/-- What is no outage is not tried again. -/
lemma outage_of_retried {x : HttpReaction} {e : Exn}
    (hanswer : attemptAnswer repr op context x = .error e)
    (hretry : e.isProviderUnavailable = true) : x.Outage := by
  obtain ⟨http, hclient⟩ := exists_client hreach
  rcases x with (_ | _ | _) | response
  · trivial
  · trivial
  · cases hanswer
    cases hretry
  · exfalso
    have hraises : StripeProvider.Raises StripeProvider.Available
        (StripeProvider.answer repr context op response) :=
      StripeProvider.raises_answer hclient op response
    simp only [attemptAnswer, Except.mapError, Except.bind] at hanswer
    rcases hcase : StripeProvider.answer repr context op response with e' | a
    · obtain ⟨hno, hfault⟩ := hraises e' hcase
      simp only [hcase, hfault, Bool.false_eq_true, if_false, Except.error.injEq] at hanswer
      rw [← hanswer, hno] at hretry
      cases hretry
    · simp [hcase] at hanswer

/-- A decline is a provider error. -/
lemma attemptAnswer_decline {x : HttpReaction} (hread : x.Readable) (hx : x.Decline) :
    ∃ e, attemptAnswer repr op context x = .error e ∧ e.isProviderError = true := by
  rcases x with _ | response
  · exact absurd hx id
  obtain ⟨e, hpayload, he⟩ := hread.2 hx.1
  obtain ⟨http, hclient⟩ := exists_client hreach
  have hanswer : ∃ f : Json → Except Exn α, StripeProvider.answer repr context op =
      fun response => (StripeProvider.payloadOf response).bind f :=
    StripeProvider.answer_eq hclient op
  obtain ⟨f, hf⟩ := hanswer
  have hfault : e.isTransportFault = false := by
    rcases e with e | e | e | _ | _ | _ <;> first | rfl | cases he
  refine ⟨e, ?_, he⟩
  simp [attemptAnswer, hf, Except.mapError, Except.bind, hpayload, hfault]

omit hreach in
/-- A provider error is not tried again. -/
lemma not_isProviderUnavailable {e : Exn} (he : e.isProviderError = true) :
    e.isProviderUnavailable = false := by
  rcases e with e | e | e | _ | _ | _
  · simp only [Exn.isProviderError, decide_eq_true_eq] at he
    simp [Exn.isProviderUnavailable, he, DomainErrorClass.isProviderUnavailable]
  all_goals cases he

/-- What the attempts of an operation come to, when `remaining` of them were left, `n` were
made and the next request was number `sent`. -/
structure Tried (settings : GatewaySettings) (network : Network) (sent remaining n : ℕ)
    (r : Except Exn α) : Prop where
  made : 1 ≤ n
  retried : ∀ j < n, (network.reaction (sent + j)).Outage → j + 1 < remaining → j + 1 < n
  persists : (∀ j < n, (network.reaction (sent + j)).Outage) →
    (breakerConfig settings .stripe).counts r = true
  declined : ∀ j < n, (network.reaction (sent + j)).Decline →
    j + 1 = n ∧ ∃ e, r = .error e ∧ e.isProviderError = true

/-- The last attempt. -/
lemma Tried.last {sent remaining : ℕ} (hread : (network.reaction sent).Readable)
    (hstop : (network.reaction sent).Outage → remaining = 1) :
    Tried settings network sent remaining 1
      (attemptAnswer repr op context (network.reaction sent)) := by
  refine ⟨Nat.le_refl 1, fun j hj hout hlt => ?_, fun hall => ?_, fun j hj hdec => ?_⟩
  · obtain rfl : j = 0 := by omega
    have hone := hstop hout
    omega
  · rw [attemptAnswer_outage hread (hall 0 Nat.one_pos)]
    rfl
  · obtain rfl : j = 0 := by omega
    exact ⟨rfl, attemptAnswer_decline hreach hread hdec⟩

omit hreach in
/-- One attempt more, after an outage. -/
lemma Tried.again {sent remaining n : ℕ} {r : Except Exn α}
    (hno : ¬ (network.reaction sent).Decline)
    (h : Tried settings network (sent + 1) remaining n r) :
    Tried settings network sent (remaining + 1) (n + 1) r := by
  have hnext : ∀ j, network.reaction (sent + 1 + j) = network.reaction (sent + (j + 1)) := by
    intro j
    rw [Nat.add_assoc, Nat.add_comm 1 j]
  refine ⟨Nat.le_add_left 1 n, fun j hj hout hlt => ?_, fun hall => ?_, fun j hj hdec => ?_⟩
  · rcases j with _ | j
    · have hmade := h.made
      omega
    · have hmore := h.retried j (by omega) (hnext j ▸ hout) (by omega)
      omega
  · exact h.persists fun j hj => hnext j ▸ hall (j + 1) (by omega)
  · rcases j with _ | j
    · exact absurd hdec hno
    · obtain ⟨hlast, he⟩ := h.declined j (by omega) (hnext j ▸ hdec)
      exact ⟨by omega, he⟩

/-- The attempts end here. -/
lemma tried_once {remaining attempt : ℕ} {last : Option Exn} {breakers : Breakers} {w : Wire}
    (hread : (network.reaction w.sent).Readable)
    (hend : ∀ e, attemptAnswer repr op context (network.reaction w.sent) = .error e →
      e.isProviderUnavailable = true →
        remaining = 0 ∧ settings.providerMaxRetries ≤ attempt) :
    ∃ n r w', w'.sent = w.sent + n ∧ Tried settings network w.sent (remaining + 1) n r ∧
      (retryLoop (fun _ => .timer) (.ofMaxAttempts settings.providerMaxRetries)
        Exn.isProviderUnavailable
        (guarded .stripe ((Adapter.mk .stripe context).operation repr op)) (remaining + 1)
        attempt last).exec network.handle breakers w = (r, breakers, w') := by
  obtain ⟨w₁, hsent, hexec⟩ := exec_attempt repr network op hreach breakers w
  have hlast : Tried settings network w.sent (remaining + 1) 1
      (attemptAnswer repr op context (network.reaction w.sent)) := by
    refine Tried.last hreach hread fun hout => ?_
    rw [(hend _ (attemptAnswer_outage hread hout) rfl).1]
  refine ⟨1, _, w₁, hsent, hlast, ?_⟩
  rw [exec_retryLoop_succ, hexec]
  rcases hanswer : attemptAnswer repr op context (network.reaction w.sent) with e | a
  · dsimp only
    by_cases hretry : e.isProviderUnavailable = true
    · rw [if_neg (by simp [hretry])]
      exact if_pos (hend e hanswer hretry).2
    · rw [if_pos (by simpa using hretry)]
  · rfl

variable (settings repr network op) in
/-- **The attempts of an operation.** -/
lemma tried_retryLoop (remaining : ℕ) :
    ∀ (attempt : ℕ) (last : Option Exn) (breakers : Breakers) (w : Wire),
      settings.providerMaxRetries = attempt + remaining → attempt + remaining ≤ 1025 →
      (∀ j ≤ remaining, (∀ i < j, (network.reaction (w.sent + i)).Outage) →
        (network.reaction (w.sent + j)).Readable) →
      ∃ n r w', w'.sent = w.sent + n ∧ Tried settings network w.sent (remaining + 1) n r ∧
        (retryLoop (fun _ => .timer) (.ofMaxAttempts settings.providerMaxRetries)
          Exn.isProviderUnavailable
          (guarded .stripe ((Adapter.mk .stripe context).operation repr op)) (remaining + 1)
          attempt last).exec network.handle breakers w = (r, breakers, w') := by
  -- by induction on the attempts that are left after this one
  induction remaining with
  | zero =>
    intro attempt last breakers w hmany _ hread
    have hfirst := hread 0 (Nat.le_refl 0) fun i hi => absurd hi (Nat.not_lt_zero i)
    exact tried_once hreach hfirst fun _ _ _ => ⟨rfl, by omega⟩
  | succ remaining ih =>
    intro attempt last breakers w hmany hfew hread
    have hfirst : (network.reaction w.sent).Readable :=
      hread 0 (Nat.zero_le _) fun i hi => absurd hi (Nat.not_lt_zero i)
    by_cases hagain : ∃ e, attemptAnswer repr op context (network.reaction w.sent) = .error e ∧
        e.isProviderUnavailable = true
    · -- only an outage is retried, so the next attempt may assume one
      obtain ⟨e, hanswer, hretry⟩ := hagain
      have hout := outage_of_retried hreach hanswer hretry
      obtain ⟨w₁, hsent, hexec⟩ := exec_attempt repr network op hreach breakers w
      have hread' : ∀ j ≤ remaining,
          (∀ i < j, (network.reaction (w₁.tick.tick.sent + i)).Outage) →
            (network.reaction (w₁.tick.tick.sent + j)).Readable := by
        intro j hj hall
        have hnext : ∀ i, w₁.tick.tick.sent + i = w.sent + (i + 1) := by
          intro i
          show w₁.sent + i = _
          omega
        rw [hnext]
        refine hread (j + 1) (by omega) fun i hi => ?_
        rcases i with _ | i
        · exact hout
        · rw [← hnext]
          exact hall i (by omega)
      obtain ⟨n, r, w', hw', htried, hrest⟩ := ih (attempt + 1) (some e) breakers w₁.tick.tick
        (by omega) (by omega) hread'
      -- a decline is an answer that is not retried
      have hdecline : ¬ (network.reaction w.sent).Decline := by
        intro hdec
        have hdeclined : ∃ e', attemptAnswer repr op context (network.reaction w.sent) =
            .error e' ∧ e'.isProviderError = true := attemptAnswer_decline hreach hfirst hdec
        obtain ⟨e', hanswer', he'⟩ := hdeclined
        rw [hanswer, Except.error.injEq] at hanswer'
        rw [hanswer', not_isProviderUnavailable he'] at hretry
        cases hretry
      have hsent' : w₁.tick.tick.sent = w.sent + 1 := hsent
      rw [hsent'] at htried
      refine ⟨n + 1, r, w', by omega, htried.again hdecline, ?_⟩
      rw [exec_retryLoop_succ, hexec, hanswer]
      dsimp only
      rw [if_neg (by simp [hretry]), if_neg, RetryPolicy.ceiling_ofMaxAttempts, if_pos (by omega)]
      · exact hrest
      · show ¬ settings.providerMaxRetries ≤ attempt
        omega
    · exact tried_once hreach hfirst fun e hanswer hretry => absurd ⟨e, hanswer, hretry⟩ hagain

end Attempts

/-! ## Runs -/

section Main

variable {settings : GatewaySettings} {repr : Json → String} {s : StripeRun} {c : StripeCall}

namespace StripeRun

variable (repr) in
/-- Retries from the first attempt on. -/
lemma tried_withRetry (hfew : settings.providerMaxRetries ≤ 1025) (hread : s.Readable settings c)
    (breakers : Breakers) (w : Wire) (hw : w.sent = s.gateway.wire.sent) :
    ∃ n r w', w'.sent = w.sent + n ∧
      (settings.providerMaxRetries ≤ 0 ∧ n = 0 ∧ r = .error (.python .assertionError) ∨
        Tried settings c.network w.sent settings.providerMaxRetries.toNat n r) ∧
      (withRetry settings .stripe ((Adapter.mk .stripe c.context).operation repr c.op)).exec
        c.network.handle breakers w = (r, breakers, w') := by
  -- with no attempt at all the loop falls through to its assertion
  by_cases hnone : settings.providerMaxRetries ≤ 0
  · refine ⟨0, .error (.python .assertionError), w, rfl, Or.inl ⟨hnone, rfl, rfl⟩, ?_⟩
    have hzero : settings.providerMaxRetries.toNat = 0 := by omega
    simp [withRetry, retryAsync, RetryPolicy.ofMaxAttempts, hzero, retryLoop]
  · obtain ⟨k, hk⟩ : ∃ k : ℕ, settings.providerMaxRetries = 1 + k :=
      ⟨settings.providerMaxRetries.toNat - 1, by omega⟩
    have hmany : settings.providerMaxRetries.toNat = k + 1 := by omega
    have hreadable : ∀ j ≤ k, (∀ i < j, (c.network.reaction (w.sent + i)).Outage) →
        (c.network.reaction (w.sent + j)).Readable := by
      intro j hj hall
      rw [hw] at hall ⊢
      exact hread j (by omega) hall
    obtain ⟨n, r, w', hsent, htried, hexec⟩ := tried_retryLoop settings repr c.network c.op
      c.reaches k 1 none breakers w (by omega) (by omega) hreadable
    refine ⟨n, r, w', hsent, Or.inr (by rwa [hmany]), ?_⟩
    rw [← hexec]
    show (retryLoop _ _ _ _ settings.providerMaxRetries.toNat 1 none).exec _ _ _ = _
    rw [hmany]

variable (repr) in
/-- **What a call does**, if the adapter can read what it gets. -/
lemma after_spec (hfew : settings.providerMaxRetries ≤ 1025) (hread : s.Readable settings c) :
    (∃ e, s.admission settings c = .error e ∧ s.attempts settings repr c = 0 ∧
        (s.after settings repr c).breakers.get .stripe = s.breaker) ∨
      ∃ b n r now, s.admission settings c = .ok b ∧ s.attempts settings repr c = n ∧
        (settings.providerMaxRetries ≤ 0 ∧ n = 0 ∧ r = .error (.python .assertionError) ∨
          Tried settings c.network s.gateway.wire.sent settings.providerMaxRetries.toNat n r) ∧
        (s.after settings repr c).breakers.get .stripe =
          b.settle (breakerConfig settings .stripe) now (r : Except Exn c.β) := by
  have hexec := exec_execute c.network s.gateway.breakers s.gateway.wire settings .stripe repr
    ⟨.stripe, c.context⟩ c.op
  have hafter : s.after settings repr c = ⟨((execute settings .stripe
      ((Adapter.mk .stripe c.context).operation repr c.op)).exec c.network.handle
        s.gateway.breakers s.gateway.wire).2.1, ((execute settings .stripe
      ((Adapter.mk .stripe c.context).operation repr c.op)).exec c.network.handle
        s.gateway.breakers s.gateway.wire).2.2⟩ := rfl
  rw [attempts]
  rcases hentry : s.admission settings c with e | b
  · have hrefused : (s.gateway.breakers.get .stripe).entry (breakerConfig settings .stripe)
        (c.network.clock s.gateway.wire.ticks) = .error e := hentry
    simp only [hrefused] at hexec
    rw [hafter, hexec]
    exact Or.inl ⟨e, rfl, Nat.sub_self _, Breakers.get_set _ _ _⟩
  · have hadmitted : (s.gateway.breakers.get .stripe).entry (breakerConfig settings .stripe)
        (c.network.clock s.gateway.wire.ticks) = .ok b := hentry
    obtain ⟨n, r, w', hsent, htried, hretry⟩ := tried_withRetry repr hfew hread
      (s.gateway.breakers.set .stripe b)
      (s.gateway.wire.tickIf ((s.gateway.breakers.get .stripe).state = .opened))
      (Wire.tickIf_sent _ _)
    rw [Wire.tickIf_sent] at hsent htried
    simp only [hadmitted, hretry] at hexec
    rw [hafter, hexec]
    refine Or.inr ⟨b, n, r, _, rfl, ?_, htried, Breakers.get_set _ _ _⟩
    rw [Wire.tickIf_sent, hsent]
    omega

/-- A failure that counts opens the breaker or adds to its failures. -/
lemma settle_of_counts {config : BreakerConfig} {α : Type} {r : Except Exn α}
    (h : config.counts r = true) (b : Breaker) (now : Seconds) :
    b.settle config now r = b.onFailure config now := by
  rcases r with e | a
  · simp only [BreakerConfig.counts, decide_eq_true_eq] at h
    exact if_pos h
  · cases h

/-- **Outages and declines are told apart** in one call. -/
lemma tellsApart (hfew : settings.providerMaxRetries ≤ 1025) (hread : s.Readable settings c) :
    s.TellsApart settings repr c := by
  rcases after_spec repr hfew hread with
    ⟨e, hentry, hnone, -⟩ | ⟨b, n, r, now, hentry, hn, htried, hafter⟩
  · -- the breaker refuses the call: nothing is sent
    refine ⟨fun j hj => ?_, fun b hb => ?_, fun b hb => ?_⟩
    · omega
    · rw [hentry] at hb
      cases hb
    · rw [hentry] at hb
      cases hb
  · have hsame : ∀ b', s.admission settings c = .ok b' → b' = b := by
      intro b' hb'
      rw [hentry] at hb'
      exact (Except.ok.inj hb').symm
    rcases htried with ⟨hnone, rfl, rfl⟩ | htried
    · refine ⟨fun j hj => ?_, fun b' hb' _ => ?_, fun b' hb' j hj => ?_⟩
      · omega
      · rw [hsame b' hb']
        exact ⟨now, hafter.trans (settle_of_counts rfl b now)⟩
      · omega
    · refine ⟨fun j hj hout hlt => ?_, fun b' hb' hall => ?_, fun b' hb' j hj hdec => ?_⟩
      · rw [hn] at hj ⊢
        exact htried.retried j hj hout (by omega)
      · rw [hsame b' hb']
        refine ⟨now, hafter.trans (settle_of_counts (htried.persists fun j hj => ?_) b now)⟩
        exact hall j (by omega)
      · rw [hn] at hj ⊢
        obtain ⟨hlast, e, rfl, he⟩ := htried.declined j hj hdec
        refine ⟨hlast, ?_⟩
        rw [hafter, hsame b' hb']
        exact if_neg fun hcounts => by
          have hno := hcounts.1
          simp [breakerConfig, he] at hno

/-- The breaker has counted the calls in a row that met an outage, or is OPEN. -/
structure StreakInv (settings : GatewaySettings) (s : StripeRun) : Prop where
  nonneg : 0 ≤ s.breaker.failures
  counted : 1 ≤ s.streak → s.breaker.state = .opened ∨
    s.streak ≤ s.breaker.failures ∧ s.breaker.failures < settings.circuitBreakerFailureThreshold

lemma StreakInv.opensAfter (h : s.StreakInv settings) : s.OpensAfter settings := by
  intro hsome hmany
  rcases h.counted hsome with hopened | ⟨hle, hlt⟩
  · exact hopened
  · omega

lemma StreakInv.step (hfew : settings.providerMaxRetries ≤ 1025) (h : s.StreakInv settings)
    (hread : s.Readable settings c) : (StripeRun.step settings repr s c).StreakInv settings := by
  rcases after_spec repr hfew hread with
    ⟨e, hentry, -, hafter⟩ | ⟨b, n, r, now, hentry, hn, htried, hafter⟩
  · -- a refused call is not counted, and leaves the breaker alone
    have hstreak : (StripeRun.step settings repr s c).streak = s.streak := by
      simp [StripeRun.step, hentry, Except.toBool]
    have hbreaker : (StripeRun.step settings repr s c).breaker = s.breaker := hafter
    exact ⟨hbreaker ▸ h.nonneg, by rw [hstreak, hbreaker]; exact h.counted⟩
  have hbreaker : (StripeRun.step settings repr s c).breaker =
      b.settle (breakerConfig settings .stripe) now r := hafter
  have hnonneg : 0 ≤ b.failures := by
    rcases Breaker.entry_ok hentry with ⟨-, -, rfl⟩ | ⟨-, rfl⟩ <;> exact h.nonneg
  refine ⟨?_, fun hsome => ?_⟩
  · rw [hbreaker]
    unfold Breaker.settle Breaker.onSuccess Breaker.onFailure
    split
    · exact le_refl _
    · split
      · split <;> (dsimp only; omega)
      · exact hnonneg
  -- the row goes on, so this call too met outages only
  have hpersists : s.Persists settings repr c := by
    by_contra hno
    simp [StripeRun.step, hentry, Except.toBool, hno] at hsome
  have hstreak : (StripeRun.step settings repr s c).streak = s.streak + 1 := by
    simp [StripeRun.step, hentry, Except.toBool, hpersists]
  have hcounts : (breakerConfig settings .stripe).counts r = true := by
    rcases htried with ⟨-, -, rfl⟩ | htried
    · rfl
    · exact htried.persists fun j hj => hpersists j (by omega)
  rw [hstreak, hbreaker, settle_of_counts hcounts]
  rw [Breaker.onFailure]
  by_cases hopens : b.opensNext (breakerConfig settings .stripe) = true
  · exact Or.inl (by simp [hopens])
  · -- the breaker was closed, and stays so
    rw [if_neg hopens]
    simp only [Breaker.opensNext, decide_eq_true_eq, not_or, not_le] at hopens
    refine Or.inr ⟨?_, hopens.2⟩
    rcases Breaker.entry_ok hentry with ⟨-, -, rfl⟩ | ⟨hclosed, rfl⟩
    · exact absurd rfl hopens.1
    · dsimp only
      rcases Nat.eq_zero_or_pos s.streak with hzero | hpos
      · omega
      · rcases h.counted hpos with hopened | ⟨hle, -⟩
        · exact absurd hopened hclosed
        · omega

/-- **Outages and declines are told apart** in every run in which the adapter can read what it
gets, and as many outages in a row as the threshold says open the breaker. -/
theorem tellsApart_of_readable (settings : GatewaySettings)
    (hfew : settings.providerMaxRetries ≤ 1025) (repr : Json → String) (w : Wire)
    (cs : List StripeCall)
    (h : Obeys (step settings repr) (fun s c => s.Readable settings c) (start w) cs) :
    Obeys (step settings repr) (fun s c => s.TellsApart settings repr c) (start w) cs ∧
      Always (step settings repr) (fun s => s.OpensAfter settings) (start w) cs := by
  have hstart : (start w).StreakInv settings :=
    ⟨le_refl _, fun hsome => absurd hsome (by simp [start])⟩
  constructor
  · exact h.mono fun s c hread => tellsApart hfew hread
  · have hinv := always_of_obeys (fun s c hs hread => hs.step hfew hread) hstart h
    exact hinv.mono fun s hs => hs.opensAfter

end StripeRun

end Main

/-! ## A service that is unavailable -/

/-- A service that answers every request with HTTP 503 and an error object. -/
def unavailable : Network where
  applied _ := false
  answer _ := .ok ⟨503, some (.obj [("error", .obj [("message", "Service unavailable")])])⟩
  clock _ := 0
  jitter _ := 0
  reference _ := ""

/-- A refund of 1000 units at Stripe, under a network. -/
def refundCall (network : Network) : StripeCall where
  context := ⟨"sk_test", true, [], none⟩
  reaches := by decide
  op := .refund "pi_1" ⟨1000, .usd⟩ none
  network := network

theorem tellsApart_unavailable :
    ¬ (StripeRun.start ⟨0, 0, ⟨[], 0⟩⟩).TellsApart defaultGatewaySettings (fun _ => "")
      (refundCall unavailable) := by
  intro h
  exact absurd (h.retried 0 (by decide +kernel) (by decide +kernel) (by decide +kernel))
    (by decide +kernel)

/-- Two timeouts, and then a card that is declined. -/
def declining : Network where
  applied _ := false
  answer n :=
    if n ≤ 1 then .error .timeoutException
    else .ok ⟨402, some (.obj [("error", .obj [("message", "Your card was declined.")])])⟩
  clock _ := 0
  jitter _ := 0
  reference _ := ""

theorem tellsApart_of_readable_demo :
    Obeys (StripeRun.step defaultGatewaySettings fun _ => "")
        (fun s c => s.TellsApart defaultGatewaySettings (fun _ => "") c)
        (StripeRun.start ⟨0, 0, ⟨[], 0⟩⟩) [refundCall declining] ∧
      Always (StripeRun.step defaultGatewaySettings fun _ => "")
        (fun s => s.OpensAfter defaultGatewaySettings) (StripeRun.start ⟨0, 0, ⟨[], 0⟩⟩)
        [refundCall declining] := by
  refine StripeRun.tellsApart_of_readable defaultGatewaySettings (by decide) (fun _ => "") _ _
    ⟨fun j hj _ => ?_, trivial⟩
  have hfew : j < 3 := by simpa [defaultGatewaySettings] using hj
  rcases j with _ | _ | _ | j
  · trivial
  · trivial
  · exact ⟨by decide, fun _ => ⟨_, rfl, rfl⟩⟩
  · omega

end PaymentGateway
