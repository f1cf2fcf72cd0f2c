/-
# The load on a provider during an outage

Calls of `GatewayManager.execute` for one provider that do not overlap, while every invocation
of the adapter fails.  With at most 1025 attempts in a call, the circuit opens with the
`circuit_breaker_failure_threshold`-th call, and every later call is refused or is a probe, the
probes being `circuit_breaker_reset_seconds` apart (`bounded_load_iff`).  From 1026 attempts on
the pause after attempt 1025 cannot be computed, and a call gives up there.

An invocation of the adapter is one outside call here: what the adapter does in it is left
open, and so is how long it takes.
-/
import Mathlib.Data.Rat.Floor
import Mathlib.Algebra.BigOperators.Intervals
import PaymentGateway.RetryOutcomes
import PaymentGateway.Services.GatewayManager

namespace PaymentGateway

open Transact

section Execute

variable {Op : Type → Type} {α : Type} (timer : (β : Type) → TimerOp β → Op β)
  (settings : GatewaySettings) (provider : ProviderName)

/-- `guarded`, with any outside calls in the place of the adapter's. -/
def guardedOver (operation : Prog Breakers Op Exn α) : Prog Breakers Op Exn α := do
  match ← operation.attempt with
  | .ok a => return a
  | .error e => if e.isTransportFault then .raise (transportError provider) else .raise e

/-- `GatewayManager.execute`, with any outside calls in the place of the adapter's. -/
def executeOver (operation : Prog Breakers Op Exn α) : Prog Breakers Op Exn α := do
  Prog.modify fun breakers => breakers.set provider (breakers.get provider)
  breakerCall timer (Breakers.get provider) (Breakers.set provider)
    (breakerConfig settings provider)
    (retryAsync timer (.ofMaxAttempts settings.providerMaxRetries) Exn.isProviderUnavailable
      (guardedOver provider operation))

/-- The one over the gateway manager's own outside calls is `execute`. -/
lemma execute_eq_executeOver (operation : ManagerProg α) :
    execute settings provider operation =
      executeOver (fun _ => .timer) settings provider operation := rfl

end Execute

/-! ## Calls in an outage -/

/-- What the calls so far have left. -/
structure LoadState where
  breakers : Breakers
  log : List RetryEvent

section Model

variable {α : Type} (s : Surroundings α) (settings : GatewaySettings) (provider : ProviderName)

/-- `execute(provider, operation)` from the state that the calls before have left. -/
def LoadState.execute (l : LoadState) : Except Exn α × Breakers × List RetryEvent :=
  (executeOver BreakerOp.timer settings provider (Prog.perform .invoke)).exec s.handler l.breakers
    l.log

namespace Surroundings

/-- What the first calls of a gateway manager leave, one after the other. -/
def afterCalls : ℕ → LoadState
  | 0 => ⟨fun _ => none, []⟩
  | m + 1 =>
      let o := (afterCalls m).execute s settings provider
      ⟨o.2.1, o.2.2⟩

/-- The breaker of the provider after the first calls. -/
def breakerAfter (m : ℕ) : Breaker := (s.afterCalls settings provider m).breakers.get provider

/-- The time at which a call starts: its first look at the clock, if it looks, shows it. -/
def startOf (i : ℕ) : Seconds := s.clock (s.afterCalls settings provider i).log.length

/-- How often the adapter was invoked in the first calls. -/
def invocations (m : ℕ) : ℕ := (s.afterCalls settings provider m).log.count .invoked

/-- How many of the invocations of the adapter belong to call `i`: it and its retries. -/
def invocationsOf (i : ℕ) : ℕ :=
  s.invocations settings provider (i + 1) - s.invocations settings provider i

/-- What call `i` is answered with, after the calls before it. -/
def answerOf (i : ℕ) : Except Exn α :=
  ((s.afterCalls settings provider i).execute s settings provider).1

/-- Every invocation of the adapter ends in a transport fault or a
`ProviderUnavailableError`. -/
def Outage : Prop :=
  ∀ i, ∃ e, s.outcome i = .error e ∧ (e.isTransportFault = true ∨ e.isProviderUnavailable = true)

/-- The circuit first opens in call `m`, at that time.  Until then every call is admitted. -/
structure OpensFirst (m : ℕ) (time : Seconds) : Prop where
  before : ∀ i ≤ m, (s.breakerAfter settings provider i).state ≠ .opened
  opened : (s.breakerAfter settings provider (m + 1)).state = .opened
  time : (s.breakerAfter settings provider (m + 1)).openedAt = time

/-- The invocations that belong to calls after call `m` that start within a time. -/
def loadWithin (calls m : ℕ) (time D : Seconds) : ℕ :=
  ∑ i ∈ (Finset.range calls).filter fun i =>
    m < i ∧ time ≤ s.startOf settings provider i ∧ s.startOf settings provider i ≤ time + D,
    s.invocationsOf settings provider i

/-- The bounds on the load, for a circuit that first opens in call `m`. -/
structure BoundedLoad (calls m : ℕ) (time : Seconds) : Prop where
  /-- Until then there are exactly `M * N` invocations. -/
  opening : (s.invocations settings provider (m + 1) : ℤ) =
    settings.providerMaxRetries * settings.circuitBreakerFailureThreshold
  /-- Afterwards there are at most `M` in each reset time. -/
  within : ∀ D : Seconds, 0 ≤ D → (s.loadWithin settings provider calls m time D : ℤ) ≤
    settings.providerMaxRetries * ⌊D / settings.circuitBreakerResetSeconds⌋
  /-- The other calls are refused. -/
  refused : ∀ i, m < i → i < calls →
    (s.invocationsOf settings provider i : ℤ) = settings.providerMaxRetries ∨
      s.invocationsOf settings provider i = 0 ∧
        s.answerOf settings provider i = .error (circuitOpen (breakerConfig settings provider))

end Surroundings

end Model

/-! ## One call -/

section Calls

variable {α : Type} {s : Surroundings α} {settings : GatewaySettings} {provider : ProviderName}

/-- A failed attempt, as the retries see it: a transport fault has become an unavailable
provider. -/
def guardedOutcome (provider : ProviderName) (r : Except Exn α) : Except Exn α :=
  r.mapError fun e => if e.isTransportFault then transportError provider else e

lemma Surroundings.invokes_guardedOver (s : Surroundings α) (provider : ProviderName) :
    s.Invokes (guardedOver provider (Prog.perform .invoke))
      fun i => guardedOutcome provider (s.outcome i) := by
  intro breakers log
  rw [guardedOver, Prog.exec_attempt_bind, s.invokes_perform]
  dsimp only
  generalize s.outcome (log.count .invoked) = r
  rcases r with e | a
  · by_cases he : e.isTransportFault = true
    · simp [guardedOutcome, Except.mapError, he]
    · simp [guardedOutcome, Except.mapError, he]
  · rfl

/-- In an outage an attempt fails with an error that is retried. -/
lemma Surroundings.Outage.retried (houtage : s.Outage) (provider : ProviderName) (i : ℕ) :
    Retried Exn.isProviderUnavailable (guardedOutcome provider (s.outcome i)) := by
  obtain ⟨e, he, hkind⟩ := houtage i
  rw [he]
  show (if e.isTransportFault = true then transportError provider else e).isProviderUnavailable =
    true
  by_cases htransport : e.isTransportFault = true
  · rw [if_pos htransport]
    rfl
  · rw [if_neg htransport]
    exact hkind.resolve_left htransport

/-- An exception that is retried is a failure for the breaker. -/
lemma counted_of_retried {r : Except Exn α} (h : Retried Exn.isProviderUnavailable r) :
    ∃ e, r = .error e ∧ e.isProviderError = false ∧ e.isException = true := by
  rcases r with e | a
  · refine ⟨e, rfl, ?_⟩
    cases e with
    | domain e =>
      obtain ⟨cls, message, details⟩ := e
      cases cls <;> first | exact ⟨rfl, rfl⟩ | cases h
    | _ => cases h
  · exact absurd h id

/-- **The attempts of a call** in an outage: as many as are allowed and can be paused for. -/
lemma Surroundings.Outage.exec_retryAsync (houtage : s.Outage) {n : ℤ} {k : ℕ}
    (hk : (k : ℤ) + 1 = min n 1025) (breakers : Breakers) (log : List RetryEvent) :
    ∃ e, (retryAsync BreakerOp.timer (.ofMaxAttempts n) Exn.isProviderUnavailable
        (guardedOver provider (Prog.perform .invoke))).exec s.handler breakers log =
        (.error e, breakers, log ++ attempts k) ∧
      e.isProviderError = false ∧ e.isException = true := by
  have hfunc := s.invokes_guardedOver provider
  by_cases hfew : n ≤ 1025
  · rw [min_eq_left hfew] at hk
    obtain ⟨e, he, hcounted⟩ :=
      counted_of_retried (houtage.retried provider (log.count .invoked + k))
    refine ⟨e, ?_, hcounted⟩
    rw [← he]
    exact hfunc.exec_retryAsync _ breakers log (by omega) hk.le
      (fun i _ => houtage.retried provider _) (Or.inr hk.symm)
  · rw [min_eq_right (le_of_not_ge hfew)] at hk
    obtain rfl : k = 1024 := by omega
    exact ⟨_, hfunc.exec_retryAsync_overflow _ breakers log (not_le.1 hfew)
      fun i _ => houtage.retried provider _, rfl, rfl⟩

/-- The log after the clock was read, if it was. -/
def lookedIf (c : Prop) [Decidable c] (log : List RetryEvent) : List RetryEvent :=
  if c then log ++ [.looked] else log

@[simp] lemma count_lookedIf (c : Prop) [Decidable c] (log : List RetryEvent) :
    (lookedIf c log).count .invoked = log.count .invoked := by
  rw [lookedIf]
  split
  · rw [List.count_append]
    rfl
  · rfl

lemma length_le_lookedIf (c : Prop) [Decidable c] (log : List RetryEvent) :
    log.length ≤ (lookedIf c log).length := by
  rw [lookedIf]
  split
  · rw [List.length_append]
    exact Nat.le_add_right _ _
  · exact Nat.le_refl _

section Call

variable (houtage : s.Outage) {k : ℕ} (hk : (k : ℤ) + 1 = min settings.providerMaxRetries 1025)
  (l : LoadState)

include houtage hk

variable (provider) in
/-- A call under the breaker of the provider. -/
lemma Surroundings.Outage.execute_eq :
    l.execute s settings provider =
      match (l.breakers.get provider).entry (breakerConfig settings provider)
          (s.clock l.log.length) with
      | .error e => (.error e, l.breakers.set provider (l.breakers.get provider),
          l.log ++ [.looked])
      | .ok b' =>
          let o := (retryAsync BreakerOp.timer (.ofMaxAttempts settings.providerMaxRetries)
            Exn.isProviderUnavailable (guardedOver provider (Prog.perform .invoke))).exec s.handler
            (l.breakers.set provider b')
            (lookedIf ((l.breakers.get provider).state = .opened) l.log)
          (o.1, l.breakers.set provider
              (b'.settle (breakerConfig settings provider) (s.clock o.2.2.length) o.1),
            lookedIf ((breakerConfig settings provider).counts o.1 = true ∧
              b'.opensNext (breakerConfig settings provider) = true) o.2.2) := by
  have hclock : ∀ log, s.handler _ (BreakerOp.timer _ .monotonic) log =
      (.ok (s.clock log.length), log ++ [.looked]) := fun log => rfl
  rw [LoadState.execute, executeOver, Prog.exec_modify_bind]
  refine exec_breakerCall_write hclock ?_ ?_ (breakerConfig settings provider)
    (l.breakers.get provider) l.breakers l.log ?_
  · exact fun b breakers => breakers.get_set provider b
  · exact fun b b' breakers => breakers.set_set provider b b'
  · intro b log
    obtain ⟨e, hexec, -⟩ := houtage.exec_retryAsync hk (l.breakers.set provider b) log
    rw [hexec]

/-- **A refused call.** -/
lemma Surroundings.Outage.execute_of_error {e : Exn}
    (hentry : (l.breakers.get provider).entry (breakerConfig settings provider)
      (s.clock l.log.length) = .error e) :
    l.execute s settings provider = (.error e, l.breakers.set provider (l.breakers.get provider),
      l.log ++ [.looked]) := by
  rw [houtage.execute_eq provider hk, hentry]

/-- **A call that is let through**: its attempts are made and fail. -/
lemma Surroundings.Outage.execute_of_ok {b : Breaker}
    (hentry : (l.breakers.get provider).entry (breakerConfig settings provider)
      (s.clock l.log.length) = .ok b) :
    ∃ r, l.execute s settings provider =
      let log := lookedIf ((l.breakers.get provider).state = .opened) l.log ++ attempts k
      (r, l.breakers.set provider
          (b.onFailure (breakerConfig settings provider) (s.clock log.length)),
        lookedIf (b.opensNext (breakerConfig settings provider) = true) log) := by
  have hexecute := houtage.execute_eq provider hk l
  rw [hentry] at hexecute
  dsimp only at hexecute ⊢
  rw [hexecute]
  generalize lookedIf ((l.breakers.get provider).state = .opened) l.log = log
  obtain ⟨e, hexec, hdeclined, hexc⟩ :=
    houtage.exec_retryAsync hk (l.breakers.set provider b) log
  rw [hexec]
  dsimp only
  have hcounts : (breakerConfig settings provider).counts (.error e : Except Exn α) = true :=
    decide_eq_true ⟨hdeclined, hexc⟩
  have hsettle : b.settle (breakerConfig settings provider) (s.clock (log ++ attempts k).length)
      (.error e : Except Exn α) =
        b.onFailure (breakerConfig settings provider) (s.clock (log ++ attempts k).length) :=
    if_pos ⟨hdeclined, hexc⟩
  refine ⟨.error e, ?_⟩
  rw [hsettle]
  simp only [hcounts, true_and]

end Call

end Calls

/-! ## The calls before the circuit opens -/

section Runs

variable {α : Type} {s : Surroundings α} {settings : GatewaySettings} {provider : ProviderName}
  (houtage : s.Outage) {k : ℕ} (hk : (k : ℤ) + 1 = min settings.providerMaxRetries 1025)

namespace Surroundings

include houtage hk

/-- A refused call changes nothing. -/
lemma Outage.after_of_error {m : ℕ} {e : Exn}
    (hentry : (s.breakerAfter settings provider m).entry (breakerConfig settings provider)
      (s.startOf settings provider m) = .error e) :
    s.breakerAfter settings provider (m + 1) = s.breakerAfter settings provider m ∧
      s.invocations settings provider (m + 1) = s.invocations settings provider m ∧
      s.answerOf settings provider m = .error e ∧
      (s.afterCalls settings provider m).log.length ≤
        (s.afterCalls settings provider (m + 1)).log.length := by
  have hexecute := houtage.execute_of_error hk (s.afterCalls settings provider m) hentry
  refine ⟨?_, ?_, ?_, ?_⟩
  · rw [breakerAfter, afterCalls, hexecute, Breakers.get_set, breakerAfter]
  · rw [invocations, afterCalls, hexecute, invocations, List.count_append]
    rfl
  · rw [answerOf, hexecute]
  · rw [afterCalls, hexecute, List.length_append]
    exact Nat.le_add_right _ _

/-- A call that is let through makes its attempts, and is a failure at a time after its
start. -/
lemma Outage.after_of_ok {m : ℕ} {b : Breaker}
    (hentry : (s.breakerAfter settings provider m).entry (breakerConfig settings provider)
      (s.startOf settings provider m) = .ok b) :
    s.invocations settings provider (m + 1) = s.invocations settings provider m + (k + 1) ∧
      ∃ j, (s.afterCalls settings provider m).log.length ≤ j ∧
        j ≤ (s.afterCalls settings provider (m + 1)).log.length ∧
        s.breakerAfter settings provider (m + 1) =
          b.onFailure (breakerConfig settings provider) (s.clock j) := by
  obtain ⟨r, hexecute⟩ := houtage.execute_of_ok hk (s.afterCalls settings provider m) hentry
  dsimp only at hexecute
  refine ⟨?_, _, ?_, ?_, by rw [breakerAfter, afterCalls, hexecute, Breakers.get_set]⟩
  · rw [invocations, afterCalls, hexecute, invocations, count_lookedIf, List.count_append,
      count_lookedIf, count_attempts]
  · rw [List.length_append]
    exact (length_le_lookedIf _ _).trans (Nat.le_add_right _ _)
  · rw [afterCalls, hexecute]
    exact length_le_lookedIf _ _

variable (provider) in
/-- While the threshold is not reached the circuit is closed. -/
lemma Outage.before_opening {m : ℕ} (hm : (m : ℤ) < settings.circuitBreakerFailureThreshold) :
    s.breakerAfter settings provider m = ⟨.closed, m, 0⟩ ∧
      s.invocations settings provider m = (k + 1) * m := by
  induction m with
  | zero => exact ⟨rfl, rfl⟩
  | succ m ih =>
    obtain ⟨hbreaker, hcount⟩ := ih (by push_cast at hm; omega)
    have hentry : (s.breakerAfter settings provider m).entry (breakerConfig settings provider)
        (s.startOf settings provider m) = .ok ⟨.closed, m, 0⟩ := by
      rw [hbreaker]
      rfl
    obtain ⟨hinvoked, j, -, -, hafter⟩ := houtage.after_of_ok hk hentry
    refine ⟨?_, by rw [hinvoked, hcount, Nat.mul_succ]⟩
    rw [hafter, Breaker.onFailure, if_neg]
    · push_cast
      rfl
    · rw [Breaker.opensNext, decide_eq_true_iff]
      rintro (hhalf | hreached)
      · cases hhalf
      · push_cast at hm
        exact absurd hreached (not_le.2 hm)

variable (provider) in
/-- The call that reaches the threshold opens the circuit. -/
lemma Outage.at_opening {m : ℕ} (hm : (m : ℤ) + 1 = settings.circuitBreakerFailureThreshold) :
    s.invocations settings provider (m + 1) = (k + 1) * (m + 1) ∧
      ∃ j ≤ (s.afterCalls settings provider (m + 1)).log.length,
        s.breakerAfter settings provider (m + 1) = ⟨.opened, m + 1, s.clock j⟩ := by
  obtain ⟨hbreaker, hcount⟩ := houtage.before_opening provider hk (show (m : ℤ) < _ by omega)
  have hentry : (s.breakerAfter settings provider m).entry (breakerConfig settings provider)
      (s.startOf settings provider m) = .ok ⟨.closed, m, 0⟩ := by
    rw [hbreaker]
    rfl
  obtain ⟨hinvoked, j, -, hj, hafter⟩ := houtage.after_of_ok hk hentry
  refine ⟨by rw [hinvoked, hcount, Nat.mul_succ], j, hj, ?_⟩
  rw [hafter, Breaker.onFailure, if_pos]
  exact decide_eq_true (Or.inr hm.ge)

omit houtage hk

/-! ## The probes -/

/-- What one more call adds to the load. -/
lemma loadWithin_succ (s : Surroundings α) (settings : GatewaySettings) (provider : ProviderName)
    (calls m : ℕ) (time D : Seconds) :
    s.loadWithin settings provider (calls + 1) m time D =
      s.loadWithin settings provider calls m time D +
        if m < calls ∧ time ≤ s.startOf settings provider calls ∧
          s.startOf settings provider calls ≤ time + D
        then s.invocationsOf settings provider calls else 0 := by
  rw [loadWithin, Finset.sum_filter, Finset.sum_range_succ, ← Finset.sum_filter]
  rfl

/-- The circuit has opened in call `m` and has been open between the calls since then: after
`probes` probes, which are a reset time apart. -/
structure Probed (s : Surroundings α) (settings : GatewaySettings) (provider : ProviderName)
    (k m : ℕ) (time : Seconds) (calls : ℕ) : Prop where
  opened : (s.breakerAfter settings provider calls).state = .opened
  past : (s.breakerAfter settings provider calls).openedAt ≤ s.startOf settings provider calls
  probes : ∃ p : ℕ, time + p * settings.circuitBreakerResetSeconds ≤
      (s.breakerAfter settings provider calls).openedAt ∧
    ∀ D : Seconds, 0 ≤ D → ∃ q ≤ p, s.loadWithin settings provider calls m time D = (k + 1) * q ∧
      q * settings.circuitBreakerResetSeconds ≤ D

/-- A refused call is no load. -/
lemma Probed.of_error {m calls : ℕ} {time : Seconds}
    (h : s.Probed settings provider k m time calls)
    (hbreaker : s.breakerAfter settings provider (calls + 1) =
      s.breakerAfter settings provider calls)
    (hinvoked : s.invocations settings provider (calls + 1) =
      s.invocations settings provider calls)
    (hstart : s.startOf settings provider calls ≤ s.startOf settings provider (calls + 1)) :
    s.Probed settings provider k m time (calls + 1) := by
  refine ⟨by rw [hbreaker]; exact h.opened, by rw [hbreaker]; exact h.past.trans hstart, ?_⟩
  obtain ⟨p, hp, hload⟩ := h.probes
  refine ⟨p, by rw [hbreaker]; exact hp, fun D hD => ?_⟩
  have hnone : s.invocationsOf settings provider calls = 0 := by
    rw [invocationsOf, hinvoked, Nat.sub_self]
  rw [loadWithin_succ, hnone, ite_self]
  exact hload D hD

/-- A probe comes a reset time after the circuit has opened, and opens it again. -/
lemma Probed.of_ok {m calls : ℕ} {time : Seconds}
    (hR : 0 < settings.circuitBreakerResetSeconds) (h : s.Probed settings provider k m time calls)
    (hcooled : settings.circuitBreakerResetSeconds ≤
      s.startOf settings provider calls - (s.breakerAfter settings provider calls).openedAt)
    (hinvoked : s.invocationsOf settings provider calls = k + 1)
    (hopened : (s.breakerAfter settings provider (calls + 1)).state = .opened)
    (hfrom : s.startOf settings provider calls ≤
      (s.breakerAfter settings provider (calls + 1)).openedAt)
    (hto : (s.breakerAfter settings provider (calls + 1)).openedAt ≤
      s.startOf settings provider (calls + 1)) :
    s.Probed settings provider k m time (calls + 1) := by
  obtain ⟨p, hp, hload⟩ := h.probes
  have hlater : time + ((p + 1 : ℕ) : Seconds) * settings.circuitBreakerResetSeconds ≤
      s.startOf settings provider calls := by
    push_cast
    linarith
  refine ⟨hopened, hto, p + 1, hlater.trans hfrom, fun D hD => ?_⟩
  obtain ⟨q, hq, hsum, hfits⟩ := hload D hD
  rw [loadWithin_succ, hinvoked, hsum]
  split
  · rename_i hin
    refine ⟨q + 1, Nat.succ_le_succ hq, (Nat.mul_succ _ _).symm, ?_⟩
    have hle : ((q + 1 : ℕ) : Seconds) * settings.circuitBreakerResetSeconds ≤
        ((p + 1 : ℕ) : Seconds) * settings.circuitBreakerResetSeconds :=
      mul_le_mul_of_nonneg_right (Nat.cast_le.2 (Nat.succ_le_succ hq)) hR.le
    have hend := hin.2.2
    linarith
  · exact ⟨q, hq.trans (Nat.le_succ p), rfl, hfits⟩

section Step

variable (houtage : s.Outage) (hk : (k : ℤ) + 1 = min settings.providerMaxRetries 1025)
  (hclock : Monotone s.clock) (hR : 0 < settings.circuitBreakerResetSeconds)

include houtage hk hclock hR

/-- **A call after the circuit has opened** is refused or is a probe. -/
lemma Probed.step {m calls : ℕ} {time : Seconds} (h : s.Probed settings provider k m time calls) :
    s.Probed settings provider k m time (calls + 1) ∧
      (s.invocationsOf settings provider calls = k + 1 ∨
        s.invocationsOf settings provider calls = 0 ∧
          s.answerOf settings provider calls =
            .error (circuitOpen (breakerConfig settings provider))) := by
  by_cases hcooled : (s.breakerAfter settings provider calls).cooled
      (breakerConfig settings provider) (s.startOf settings provider calls) = true
  · obtain ⟨b, hentry, hhalf⟩ : ∃ b, (s.breakerAfter settings provider calls).entry
        (breakerConfig settings provider) (s.startOf settings provider calls) = .ok b ∧
          b.state = .halfOpen := by
      rw [Breaker.entry, if_pos h.opened, if_pos hcooled]
      exact ⟨_, rfl, rfl⟩
    obtain ⟨hinvoked, j, hj, hj', hafter⟩ := houtage.after_of_ok hk hentry
    have hprobe : s.invocationsOf settings provider calls = k + 1 := by
      rw [invocationsOf, hinvoked, Nat.add_sub_cancel_left]
    -- the probe fails, and the circuit opens again
    have hopens : b.opensNext (breakerConfig settings provider) = true :=
      decide_eq_true (Or.inl hhalf)
    rw [Breaker.onFailure, if_pos hopens] at hafter
    refine ⟨h.of_ok hR (of_decide_eq_true hcooled) hprobe (by rw [hafter]) ?_ ?_, Or.inl hprobe⟩
    · rw [hafter]
      exact hclock hj
    · rw [hafter]
      exact hclock hj'
  · have hentry : (s.breakerAfter settings provider calls).entry (breakerConfig settings provider)
        (s.startOf settings provider calls) =
          .error (circuitOpen (breakerConfig settings provider)) := by
      rw [Breaker.entry, if_pos h.opened, if_neg hcooled]
    obtain ⟨hbreaker, hinvoked, hanswer, hlog⟩ := houtage.after_of_error hk hentry
    refine ⟨h.of_error hbreaker hinvoked (hclock hlog), Or.inr ⟨?_, hanswer⟩⟩
    rw [invocationsOf, hinvoked, Nat.sub_self]

/-- Every call after the circuit has opened. -/
lemma Outage.probed {m : ℕ} (hm : (m : ℤ) + 1 = settings.circuitBreakerFailureThreshold)
    {time : Seconds} (htime : (s.breakerAfter settings provider (m + 1)).openedAt = time)
    (later : ℕ) : s.Probed settings provider k m time (m + 1 + later) := by
  induction later with
  | zero =>
    obtain ⟨-, j, hj, hopened⟩ := houtage.at_opening provider hk hm
    refine ⟨by rw [Nat.add_zero, hopened], ?_, 0, ?_, fun D hD => ⟨0, Nat.le_refl 0, ?_, ?_⟩⟩
    · rw [Nat.add_zero, hopened]
      exact hclock hj
    · rw [Nat.add_zero, htime]
      simp
    · -- no call has come after call `m` yet
      refine Finset.sum_eq_zero fun i hi => absurd (Finset.mem_filter.1 hi).2.1 ?_
      have hlt := Finset.mem_range.1 (Finset.mem_filter.1 hi).1
      omega
    · simpa using hD
  | succ later ih => exact (ih.step houtage hk hclock hR).1

end Step

/-! ## The load -/

/-- The circuit first opens in the call that reaches the threshold. -/
lemma OpensFirst.threshold {m : ℕ} {time : Seconds} (houtage : s.Outage)
    (hk : (k : ℤ) + 1 = min settings.providerMaxRetries 1025)
    (hN : 1 ≤ settings.circuitBreakerFailureThreshold)
    (h : s.OpensFirst settings provider m time) :
    (m : ℤ) + 1 = settings.circuitBreakerFailureThreshold := by
  obtain ⟨n, hn⟩ : ∃ n : ℕ, (n : ℤ) + 1 = settings.circuitBreakerFailureThreshold :=
    ⟨(settings.circuitBreakerFailureThreshold - 1).toNat, by omega⟩
  obtain ⟨-, j, -, hopened⟩ := houtage.at_opening provider hk hn
  rcases Nat.lt_trichotomy m n with hlt | rfl | hgt
  · -- the circuit is closed before
    have hclosed := (houtage.before_opening provider hk
      (show ((m + 1 : ℕ) : ℤ) < _ by push_cast; omega)).1
    have hstate := h.opened
    rw [hclosed] at hstate
    cases hstate
  · exact hn
  · exact absurd (by rw [hopened]) (h.before (n + 1) hgt)

/-- The circuit does open there. -/
lemma Outage.opensFirst {m : ℕ} (houtage : s.Outage)
    (hk : (k : ℤ) + 1 = min settings.providerMaxRetries 1025)
    (hm : (m : ℤ) + 1 = settings.circuitBreakerFailureThreshold) :
    s.OpensFirst settings provider m (s.breakerAfter settings provider (m + 1)).openedAt := by
  obtain ⟨-, j, -, hopened⟩ := houtage.at_opening provider hk hm
  refine ⟨fun i hi => ?_, by rw [hopened], rfl⟩
  rw [(houtage.before_opening provider hk (show (i : ℤ) < _ by omega)).1]
  intro hc
  cases hc

end Surroundings

end Runs

section Main

variable {α : Type} {s : Surroundings α} {settings : GatewaySettings} {provider : ProviderName}

/-- **The load on a provider during an outage.**  The circuit opens after exactly `M * N`
invocations of the adapter, and the calls after it that start within `D` invoke it at most
`M * ⌊D / R⌋` times and are refused otherwise, exactly if the pauses of a call can be computed
(`M` is at most 1025) or the circuit does not get to open. -/
theorem bounded_load_iff (hclock : Monotone s.clock) (houtage : s.Outage)
    (hM : 1 ≤ settings.providerMaxRetries) (hN : 1 ≤ settings.circuitBreakerFailureThreshold)
    (hR : 0 < settings.circuitBreakerResetSeconds) (calls : ℕ) :
    (∀ m time, m < calls → s.OpensFirst settings provider m time →
        s.BoundedLoad settings provider calls m time) ↔
      settings.providerMaxRetries ≤ 1025 ∨
        (calls : ℤ) < settings.circuitBreakerFailureThreshold := by
  obtain ⟨k, hk⟩ : ∃ k : ℕ, (k : ℤ) + 1 = min settings.providerMaxRetries 1025 :=
    ⟨(min settings.providerMaxRetries 1025 - 1).toNat, by omega⟩
  constructor
  · intro h
    by_contra hbad
    obtain ⟨hmany, hopens⟩ := not_or.1 hbad
    obtain ⟨n, hn⟩ : ∃ n : ℕ, (n : ℤ) + 1 = settings.circuitBreakerFailureThreshold :=
      ⟨(settings.circuitBreakerFailureThreshold - 1).toNat, by omega⟩
    have hload := (h n _ (by omega) (houtage.opensFirst hk hn)).opening
    rw [(houtage.at_opening provider hk hn).1, ← hn] at hload
    push_cast at hload
    -- a call gives up after 1025 attempts
    have heq := mul_right_cancel₀ (by omega : (n : ℤ) + 1 ≠ 0) hload
    omega
  · intro h m time hm hfirst
    have hthreshold := hfirst.threshold houtage hk hN
    have hfew : settings.providerMaxRetries ≤ 1025 := h.resolve_right (by omega)
    rw [min_eq_left hfew] at hk
    have hprobed : ∀ i, m < i → s.Probed settings provider k m time i := by
      intro i hi
      obtain ⟨later, rfl⟩ := Nat.exists_eq_add_of_le hi
      exact houtage.probed (by rw [min_eq_left hfew]; exact hk) hclock hR hthreshold hfirst.time
        later
    refine ⟨?_, fun D hD => ?_, fun i hi _ => ?_⟩
    · rw [(houtage.at_opening provider (by rw [min_eq_left hfew]; exact hk) hthreshold).1, ← hk,
        ← hthreshold]
      push_cast
      rfl
    · obtain ⟨p, -, hload⟩ := (hprobed calls hm).probes
      obtain ⟨q, -, hsum, hfits⟩ := hload D hD
      have hq : (q : ℤ) ≤ ⌊D / settings.circuitBreakerResetSeconds⌋ := by
        rw [Int.le_floor, le_div_iff₀ hR]
        exact_mod_cast hfits
      rw [hsum, ← hk]
      push_cast
      exact mul_le_mul_of_nonneg_left hq (by omega)
    · rw [← hk]
      refine ((hprobed i hi).step houtage (by rw [min_eq_left hfew]; exact hk) hclock hR).2.imp_left
        fun hprobe => ?_
      rw [hprobe]
      push_cast
      rfl

end Main

/-- A provider that never answers, and a clock that moves on by ten seconds with everything that
happens.  The reset time passes while calls are refused, so that a later call is a probe. -/
def demoOutage : Surroundings Unit :=
  ⟨fun _ => .error (.httpx .timeoutException), fun n => 10 * n, fun _ => 0⟩

lemma demoOutage_outage : demoOutage.Outage := fun _ => ⟨_, rfl, Or.inl rfl⟩

lemma demoOutage_monotone : Monotone demoOutage.clock := by
  intro m n hmn
  have hcast : (m : Seconds) ≤ n := by exact_mod_cast hmn
  exact mul_le_mul_of_nonneg_left hcast (by norm_num)

/-- Ten calls: five until the circuit opens, then refused ones and a probe. -/
theorem bounded_load_demo :
    (∀ m time, m < 10 → demoOutage.OpensFirst defaultGatewaySettings .stripe m time →
        demoOutage.BoundedLoad defaultGatewaySettings .stripe 10 m time) ↔
      defaultGatewaySettings.providerMaxRetries ≤ 1025 ∨
        (10 : ℤ) < defaultGatewaySettings.circuitBreakerFailureThreshold :=
  bounded_load_iff demoOutage_monotone demoOutage_outage (by decide) (by decide) (by decide) 10

example : (List.range 8).map (demoOutage.invocationsOf defaultGatewaySettings .stripe) =
    [3, 3, 3, 3, 3, 0, 0, 3] := by decide +kernel

/-- With 1026 attempts allowed, the call that opens the circuit makes 1025. -/
theorem load_misses_attempts :
    ¬ ∀ m time, m < 1 → demoOutage.OpensFirst ⟨1026, 1, 30⟩ .stripe m time →
      demoOutage.BoundedLoad ⟨1026, 1, 30⟩ .stripe 1 m time := by
  intro h
  have hk : ((1024 : ℕ) : ℤ) + 1 = min 1026 1025 := by decide
  have hN : ((0 : ℕ) : ℤ) + 1 = 1 := rfl
  have hload := (h 0 _ Nat.zero_lt_one (demoOutage_outage.opensFirst hk hN)).opening
  rw [(demoOutage_outage.at_opening .stripe hk hN).1] at hload
  exact absurd hload (by decide)

end PaymentGateway
