/-
# The gateway manager

`GatewayManager.execute` (`app/services/gateway_manager.py`): an operation of an adapter under
retry and under the circuit breaker of its provider.  The metrics it records are left out.

`Network` is what is around the process while operations are executed.  Each request may be
carried out or not, and may be answered or not, whatever the other one is: an attempt that
looks failed may have been carried out.
-/
import Mathlib.Data.Rat.Floor
import PaymentGateway.Core.Resilience
import PaymentGateway.Providers.Effects
import PaymentGateway.Services.Base

namespace PaymentGateway

open Transact

/-- The settings that the gateway manager reads, for its retries and its breakers. -/
structure GatewaySettings where
  providerMaxRetries : ℤ
  circuitBreakerFailureThreshold : ℤ
  circuitBreakerResetSeconds : Seconds

/-- The defaults of the settings: three attempts, five failures and thirty seconds. -/
def defaultGatewaySettings : GatewaySettings := ⟨3, 5, 30⟩

/-- `_breakers`: the breakers made so far, one for each provider. -/
abbrev Breakers := ProviderName → Option Breaker

namespace Breakers

/-- The breaker of a provider; it is made when it is first asked for. -/
def get (provider : ProviderName) (breakers : Breakers) : Breaker :=
  (breakers provider).getD .fresh

/-- The breakers, with this one in the place of the provider's. -/
def set (provider : ProviderName) (b : Breaker) (breakers : Breakers) : Breakers :=
  Function.update breakers provider (some b)

variable (provider : ProviderName) (b b' : Breaker) (breakers : Breakers)

@[simp] lemma get_set : (breakers.set provider b).get provider = b := by
  simp [get, set]

@[simp] lemma set_set : (breakers.set provider b).set provider b' = breakers.set provider b' := by
  simp [set]

end Breakers

/-- What `execute` does outside the process: the requests of the adapter, and the timer. -/
inductive ManagerOp : Type → Type where
  | adapter {β : Type} (op : AdapterOp β) : ManagerOp β
  | timer {β : Type} (op : TimerOp β) : ManagerOp β

/-- A program of the gateway manager: its state are the breakers of the process. -/
abbrev ManagerProg (α : Type) := Prog Breakers ManagerOp Exn α

/-- The program of an adapter's operation, by the class of the adapter. -/
def Adapter.program (repr : Json → String) (adapter : Adapter) {β : Type} (op : ProviderOp β) :
    AdapterProg β :=
  match adapter.name with
  | .mock => MockProvider.program op
  | .stripe => StripeProvider.program repr adapter.context op

/-- The program of an adapter's operation inside `execute`, where the breakers are the state. -/
def Adapter.operation (repr : Json → String) (adapter : Adapter) {β : Type} (op : ProviderOp β) :
    ManagerProg β :=
  (adapter.program repr op).embed fun _ => .adapter

section Methods

variable {α : Type} (settings : GatewaySettings) (provider : ProviderName)

/-- The breaker of a provider.  A `ProviderError` is ignored, since the provider has answered. -/
def breakerConfig : BreakerConfig where
  failureThreshold := settings.circuitBreakerFailureThreshold
  resetTimeout := settings.circuitBreakerResetSeconds
  name := provider.value
  ignoredExceptions := Exn.isProviderError

/-- `_breaker_for`: a breaker is made when a provider is first called. -/
def breakerFor : ManagerProg Unit :=
  Prog.modify fun breakers => breakers.set provider (breakers.get provider)

/-- The `ProviderUnavailableError` that a transport fault is turned into, without the fault's own
text. -/
def transportError : Exn :=
  .providerUnavailableError "provider transport error" [("provider", .str provider.value)]

/-- `_guarded`: a transport fault of httpx becomes a `ProviderUnavailableError`. -/
def guarded (operation : ManagerProg α) : ManagerProg α := do
  match ← operation.attempt with
  | .ok a => return a
  | .error e => if e.isTransportFault then .raise (transportError provider) else .raise e

/-- `_with_retry`: only a `ProviderUnavailableError` is retried, as often as the settings allow.
-/
def withRetry (operation : ManagerProg α) : ManagerProg α :=
  retryAsync (fun _ => .timer) (.ofMaxAttempts settings.providerMaxRetries)
    Exn.isProviderUnavailable (guarded provider operation)

/-- `GatewayManager.execute`: the retries of the operation, inside one call of the provider's
breaker. -/
def execute (operation : ManagerProg α) : ManagerProg α := do
  breakerFor provider
  breakerCall (fun _ => .timer) (Breakers.get provider) (Breakers.set provider)
    (breakerConfig settings provider) (withRetry settings provider operation)

end Methods

/-! ## The network -/

/-- What happens outside.  What a request meets is indexed by the number of requests sent
before, and the rest by the number of other things asked before. -/
structure Network where
  /-- The request is carried out. -/
  applied : ℕ → Bool
  /-- How the request ends for the sender. -/
  answer : ℕ → Except HttpxError HttpResponse
  clock : ℕ → Seconds
  jitter : ℕ → Seconds
  reference : ℕ → String

/-- How many requests were sent, how often something else was asked, and what the provider has
done. -/
structure Wire where
  sent : ℕ
  ticks : ℕ
  effects : Effects
deriving DecidableEq

/-- Somebody is reached under the base URL of the client; without one, a relative path leads
nowhere. -/
def HttpClient.reaches (client : HttpClient) : Bool := given client.baseUrl

/-- A request is sent, and counted.  Without a base URL it addresses nobody and fails; otherwise
the network decides what it does and how it is answered, each on its own. -/
def Wire.post (network : Network) (request : HttpRequest) (w : Wire) :
    Except Exn HttpResponse × Wire :=
  if request.client.reaches then
    ((network.answer w.sent).mapError .httpx,
      ⟨w.sent + 1, w.ticks,
        if network.applied w.sent then w.effects.apply request.idempotencyKey else w.effects⟩)
  else (.error (.httpx .transportError), ⟨w.sent + 1, w.ticks, w.effects⟩)

/-- Something else was asked: the clock, a sleep or a random number. -/
def Wire.tick (w : Wire) : Wire := ⟨w.sent, w.ticks + 1, w.effects⟩

/-- What is outside answers: the provider a request, and the surroundings the clock, a sleep and
the random numbers. -/
def Network.handle (network : Network) : Handler ManagerOp Exn Wire
  | _, .adapter (.post request), w => w.post network request
  | _, .adapter (.newReference _), w => (.ok (network.reference w.ticks), w.tick)
  | _, .timer .monotonic, w => (.ok (network.clock w.ticks), w.tick)
  | _, .timer (.sleep _), w => (.ok (), w.tick)
  | _, .timer (.uniform low high), w =>
      (.ok (low + (high - low) * network.jitter w.ticks), w.tick)

/-- The state behind the services: the breakers of the process, and what is outside. -/
structure Gateway where
  breakers : Breakers
  wire : Wire

/-- The gateway manager, as the services call it: one call runs `execute` on the breakers of the
process. -/
def gatewayHandler (settings : GatewaySettings) (repr : Json → String) (network : Network) :
    Handler GatewayOp Exn Gateway
  | _, .execute provider adapter op, g =>
      let o := (execute settings provider (adapter.operation repr op)).exec network.handle
        g.breakers g.wire
      (o.1, ⟨o.2.1, o.2.2⟩)

/-! ## What is executed -/

/-- Requests of the adapter reach somebody: it is Stripe's, and its client has a base URL. -/
def Adapter.reaches (adapter : Adapter) : Bool :=
  match adapter.name with
  | .mock => false
  | .stripe => (StripeProvider.client adapter.context).toOption.any HttpClient.reaches

section Exec

variable {α : Type} (network : Network) (breakers : Breakers) (w : Wire)

/-- An operation of an adapter that reaches its provider is one request. -/
lemma exec_operation {repr : Json → String} {adapter : Adapter} (hreach : adapter.reaches = true)
    (op : ProviderOp α) :
    (adapter.operation repr op).exec network.handle breakers w =
      (((network.answer w.sent).mapError .httpx).bind
          (StripeProvider.answer repr adapter.context op), breakers,
        ⟨w.sent + 1, w.ticks, if network.applied w.sent then w.effects.apply (op.sentKey .stripe)
          else w.effects⟩) := by
  obtain ⟨_ | _, context⟩ := adapter
  · cases hreach
  rcases hclient : StripeProvider.client context with e | http
  · simp [Adapter.reaches, hclient, Except.toOption] at hreach
  have hhttp : http.reaches = true := by
    simpa [Adapter.reaches, hclient, Except.toOption] using hreach
  obtain ⟨request, rfl, hkey, hexec⟩ := StripeProvider.exec_program hclient
    (fun β op => network.handle β (.adapter op)) w op
  rw [Adapter.operation, Adapter.program]
  rw [Prog.exec_embed, hexec]
  simp only [Network.handle, Wire.post, hhttp, if_true, hkey]

/-- A transport fault is normalised. -/
lemma exec_guarded (provider : ProviderName) (operation : ManagerProg α) :
    (guarded provider operation).exec network.handle breakers w =
      ((operation.exec network.handle breakers w).1.mapError fun e =>
          if e.isTransportFault then transportError provider else e,
        (operation.exec network.handle breakers w).2) := by
  rw [guarded]
  rw [Prog.exec_attempt_bind]
  rcases (operation.exec network.handle breakers w).1 with e | a
  · by_cases he : e.isTransportFault = true
    · simp [he, Except.mapError]
    · simp [he, Except.mapError]
  · rfl

/-- **One attempt**, and what follows it. -/
lemma exec_retryLoop_succ (policy : RetryPolicy) (retryOn : Exn → Bool)
    (func : ManagerProg α) (remaining attempt : ℕ) (last : Option Exn) :
    (retryLoop (fun _ => .timer) policy retryOn func (remaining + 1) attempt last).exec
        network.handle breakers w =
      match func.exec network.handle breakers w with
      | (.ok a, breakers', w') => (.ok a, breakers', w')
      | (.error e, breakers', w') =>
          if retryOn e = false then (.error e, breakers', w')
          else if policy.maxAttempts ≤ attempt then (.error e, breakers', w')
          else
            match policy.ceiling attempt with
            | .error e' => (.error e', breakers', w')
            | .ok _ =>
                (retryLoop (fun _ => .timer) policy retryOn func remaining (attempt + 1)
                  (some e)).exec network.handle breakers' w'.tick.tick := by
  rw [retryLoop, Prog.exec_attempt_bind]
  rcases func.exec network.handle breakers w with ⟨e | a, breakers', w'⟩
  · dsimp only
    split
    · rfl
    split
    · rfl
    -- the delay is drawn and slept: two ticks of the clock, and nothing sent
    rcases hceiling : policy.ceiling attempt with e' | c
    · simp [RetryPolicy.delayFor, hceiling]
    · simp only [RetryPolicy.delayFor, hceiling, Prog.ofExcept_ok, Prog.ret_bind]
      rw [Prog.exec_perform_bind]
      dsimp only [Network.handle]
      rw [Prog.exec_perform_bind]
      rfl
  · rfl

/-- The wire after the clock was read, if it was. -/
def Wire.tickIf (c : Prop) [Decidable c] (w : Wire) : Wire := if c then w.tick else w

@[simp] lemma Wire.tickIf_sent (c : Prop) [Decidable c] (w : Wire) :
    (w.tickIf c).sent = w.sent := by
  rw [tickIf]
  split <;> rfl

@[simp] lemma Wire.tickIf_effects (c : Prop) [Decidable c] (w : Wire) :
    (w.tickIf c).effects = w.effects := by
  rw [tickIf]
  split <;> rfl

/-- **A call under the breaker**: it is admitted, and its end is settled. -/
lemma exec_breakerCall (provider : ProviderName) (config : BreakerConfig) (b : Breaker)
    {func : ManagerProg α}
    (hkeep : ∀ breakers w, (func.exec network.handle breakers w).2.1 = breakers) :
    (breakerCall (fun _ => .timer) (Breakers.get provider) (Breakers.set provider) config
        func).exec network.handle (breakers.set provider b) w =
      match b.entry config (network.clock w.ticks) with
      | .error e => (.error e, breakers.set provider b, w.tick)
      | .ok b' =>
          let o := func.exec network.handle (breakers.set provider b')
            (w.tickIf (b.state = .opened))
          (o.1, breakers.set provider (b'.settle config (network.clock o.2.2.ticks) o.1),
            o.2.2.tickIf (config.counts o.1 = true ∧ b'.opensNext config = true)) := by
  have hclock : ∀ w : Wire, network.handle _ (.timer .monotonic) w =
      (.ok (network.clock w.ticks), w.tick) := fun w => rfl
  refine exec_breakerCall_write hclock ?_ ?_ config b breakers w ?_
  · exact fun b breakers => breakers.get_set provider b
  · exact fun b b' breakers => breakers.set_set provider b b'
  · exact fun b' w' => hkeep _ w'

/-- Retries leave the breakers alone if the operation does. -/
lemma breakers_withRetry (settings : GatewaySettings) (provider : ProviderName)
    {operation : ManagerProg α}
    (hkeep : ∀ breakers w, (operation.exec network.handle breakers w).2.1 = breakers) :
    ((withRetry settings provider operation).exec network.handle breakers w).2.1 = breakers := by
  have hloop : ∀ (remaining attempt : ℕ) (last : Option Exn) (w : Wire),
      ((retryLoop (fun _ => .timer) (.ofMaxAttempts settings.providerMaxRetries)
        Exn.isProviderUnavailable (guarded provider operation) remaining attempt last).exec
          network.handle breakers w).2.1 = breakers := by
    -- by induction on the attempts left; the breaker is outside the retries
    intro remaining
    induction remaining with
    | zero =>
      intro attempt last w
      cases last <;> rfl
    | succ remaining ih =>
      intro attempt last w
      have hguarded : ((guarded provider operation).exec network.handle breakers w).2.1 =
          breakers := by
        rw [exec_guarded, hkeep]
      rw [exec_retryLoop_succ]
      rcases hexec : (guarded provider operation).exec network.handle breakers w with
        ⟨e | a, breakers', w'⟩ <;> rw [hexec] at hguarded
      · obtain rfl : breakers' = breakers := hguarded
        dsimp only
        split
        · rfl
        split
        · rfl
        split
        · rfl
        · exact ih _ _ _
      · exact hguarded
  exact hloop _ _ _ _

lemma breakers_operation (repr : Json → String) (adapter : Adapter) (op : ProviderOp α) :
    ((adapter.operation repr op).exec network.handle breakers w).2.1 = breakers := by
  rw [Adapter.operation, Prog.exec_embed]

/-- **An operation of an adapter**: the breaker of the provider admits it, its attempts are
made, and the breaker takes note of how they ended. -/
lemma exec_execute (settings : GatewaySettings) (provider : ProviderName) (repr : Json → String)
    (adapter : Adapter) (op : ProviderOp α) :
    (execute settings provider (adapter.operation repr op)).exec network.handle breakers w =
      let config := breakerConfig settings provider
      let b := breakers.get provider
      match b.entry config (network.clock w.ticks) with
      | .error e => (.error e, breakers.set provider b, w.tick)
      | .ok b' =>
          let o := (withRetry settings provider (adapter.operation repr op)).exec network.handle
            (breakers.set provider b') (w.tickIf (b.state = .opened))
          (o.1, breakers.set provider (b'.settle config (network.clock o.2.2.ticks) o.1),
            o.2.2.tickIf (config.counts o.1 = true ∧ b'.opensNext config = true)) := by
  rw [execute, breakerFor]
  rw [Prog.exec_modify_bind, exec_breakerCall]
  exact fun _ _ => breakers_withRetry network _ _ settings provider fun _ _ =>
    breakers_operation network _ _ repr adapter op

/-- The provider takes back nothing. -/
lemma count_le_exec (p : ManagerProg α) :
    w.effects.count ≤ (p.exec network.handle breakers w).2.2.effects.count := by
  refine p.costAtMost_free.keeps (I := fun w' : Wire => w.effects.count ≤ w'.effects.count) ?_
    breakers (Nat.le_refl _)
  intro β op w' _ hw'
  have happly : ∀ key, w'.effects.count ≤ (w'.effects.apply key).count := by
    intro key
    unfold Effects.apply
    split
    · exact Nat.le_succ _
    · split
      · exact Nat.le_refl _
      · exact Nat.le_succ _
  refine Nat.le_trans hw' ?_
  rcases op with (request | kind) | (_ | delay | ⟨low, high⟩)
  · dsimp only [Network.handle, Wire.post]
    split
    · dsimp only
      split
      · exact happly _
      · exact Nat.le_refl _
    · exact Nat.le_refl _
  all_goals exact Nat.le_refl _

end Exec

/-! ## What is sent -/

/-- The cost of a request; nothing else costs anything. -/
def ManagerOp.cost (c : HttpRequest → ℕ) : (β : Type) → ManagerOp β → ℕ
  | _, .adapter (.post request) => c request
  | _, .adapter (.newReference _) => 0
  | _, .timer _ => 0

/-- An operation costs at most as many requests as there are attempts. -/
lemma costAtMost_execute {c : HttpRequest → ℕ} {n : ℕ} {α : Type} {adapter : Adapter}
    {op : ProviderOp α}
    (hc : ∀ request : HttpRequest,
      StripeProvider.client adapter.context = .ok request.client →
        request.idempotencyKey = op.sentKey .stripe → adapter.name = .stripe → c request ≤ n)
    (settings : GatewaySettings) (provider : ProviderName) (repr : Json → String) :
    (execute settings provider (adapter.operation repr op)).CostAtMost (ManagerOp.cost c)
      (settings.providerMaxRetries.toNat * n) := by
  have hprogram : (adapter.program repr op).CostAtMost
      (fun β op => ManagerOp.cost c β (.adapter op)) n := by
    obtain ⟨name, context⟩ := adapter
    cases name with
    | mock => exact (MockProvider.costAtMost_program (fun _ => rfl) op).mono (Nat.zero_le n)
    | stripe => exact StripeProvider.costAtMost_program op fun r h1 h2 => hc r h1 h2 rfl
  have hoperation : (adapter.operation repr op).CostAtMost (ManagerOp.cost c) n :=
    hprogram.embed fun _ _ => rfl
  have hguarded : (guarded provider (adapter.operation repr op)).CostAtMost
      (ManagerOp.cost c) n := by
    rw [← Nat.add_zero n]
    refine hoperation.attempt.bind fun r => ?_
    rcases r with e | a
    · dsimp only
      split <;> trivial
    · trivial
  have hfree : ∀ (β : Type) (op : TimerOp β), ManagerOp.cost c β (.timer op) = 0 := fun _ _ => rfl
  have hretry : (withRetry settings provider (adapter.operation repr op)).CostAtMost
      (ManagerOp.cost c) (settings.providerMaxRetries.toNat * n) :=
    costAtMost_retryLoop hfree hguarded _ _ _ _ _
  exact costAtMost_breakerCall hfree hretry _ _ _

end PaymentGateway
