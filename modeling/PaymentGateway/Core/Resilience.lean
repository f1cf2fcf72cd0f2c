/-
# Retry and circuit breaker

`app/core/resilience.py`.  Both wrap a function that may raise; here they wrap a program,
whose calls include those of the timer (`TimerOp`).  Times are rational numbers of seconds.

The program that is wrapped is arbitrary, and so is the place where the state of the breaker
is kept (`read` and `write`): the gateway manager keeps one breaker for each provider.
-/
import Mathlib.Algebra.Order.Ring.Rat
import PaymentGateway.Core.Errors
import PaymentGateway.Lib.Calls

namespace PaymentGateway

open Transact

/-- A time or a duration, in seconds: a rational number, in the place of the floats of the
source. -/
abbrev Seconds := ℚ

/-- What the module asks of its surroundings: the clock, a sleep and the jitter of a delay. -/
inductive TimerOp : Type → Type where
  /-- `time.monotonic()` -/
  | monotonic : TimerOp Seconds
  /-- `asyncio.sleep(delay)` -/
  | sleep (delay : Seconds) : TimerOp Unit
  /-- `random.uniform(low, high)` -/
  | uniform (low high : Seconds) : TimerOp Seconds

/-! ## Retry -/

/-- `RetryPolicy`: exponential backoff with full jitter, up to a number of attempts. -/
structure RetryPolicy where
  maxAttempts : ℤ
  baseDelay : Seconds
  maxDelay : Seconds
  multiplier : Seconds

/-- `RetryPolicy(max_attempts=…)`, with the defaults of the other fields. -/
def RetryPolicy.ofMaxAttempts (maxAttempts : ℤ) : RetryPolicy := ⟨maxAttempts, 1 / 5, 5, 2⟩

/-- `min(max_delay, base_delay * (multiplier ** (attempt - 1)))`; a power of floats that is too
large for a double is an error. -/
def RetryPolicy.ceiling (policy : RetryPolicy) (attempt : ℕ) : Except Exn Seconds :=
  if 2 ^ 1024 ≤ policy.multiplier ^ (attempt - 1) then .error (.python .overflowError)
  else .ok (min policy.maxDelay (policy.baseDelay * policy.multiplier ^ (attempt - 1)))

/-- The pauses are computable up to the 1024th; the next one overflows. -/
lemma RetryPolicy.ceiling_ofMaxAttempts (maxAttempts : ℤ) (attempt : ℕ) :
    (ofMaxAttempts maxAttempts).ceiling attempt =
      if attempt ≤ 1024 then .ok (min 5 (1 / 5 * 2 ^ (attempt - 1)))
      else .error (.python .overflowError) := by
  have hpow : (2 : Seconds) ^ 1024 ≤ 2 ^ (attempt - 1) ↔ ¬ attempt ≤ 1024 := by
    rw [pow_le_pow_iff_right₀ (by decide : (1 : Seconds) < 2)]
    omega
  rw [ceiling, ofMaxAttempts]
  dsimp only
  by_cases hle : attempt ≤ 1024
  · rw [if_neg (by rw [hpow]; simpa using hle), if_pos hle]
  · rw [if_pos (hpow.2 hle), if_neg hle]

section Retry

variable {D : Type} {Op : Type → Type} {α : Type} (timer : (β : Type) → TimerOp β → Op β)

/-- `RetryPolicy.delay_for`: a delay drawn between zero and the ceiling of this attempt, which
overflows where the attempt is too large for a float. -/
def RetryPolicy.delayFor (policy : RetryPolicy) (attempt : ℕ) : Prog D Op Exn Seconds := do
  let ceiling ← Prog.ofExcept (policy.ceiling attempt)
  Prog.perform (timer _ (.uniform 0 ceiling))

/-- The loop of `retry_async`: `remaining` attempts are left, of which the next one is number
`attempt`, and `last` is the exception of the one before. -/
def retryLoop (policy : RetryPolicy) (retryOn : Exn → Bool) (func : Prog D Op Exn α) :
    ℕ → ℕ → Option Exn → Prog D Op Exn α
  | 0, _, none => .raise (.python .assertionError)
  | 0, _, some e => .raise e
  | remaining + 1, attempt, _ => do
      match ← func.attempt with
      | .ok a => return a
      | .error e =>
          if retryOn e = false then .raise e
          else if policy.maxAttempts ≤ attempt then .raise e
          else do
            let delay ← policy.delayFor timer attempt
            Prog.perform (timer _ (.sleep delay))
            retryLoop policy retryOn func remaining (attempt + 1) (some e)

/-- `retry_async(func, policy=policy, retry_on=retry_on)`: the loop, from the first attempt on.
A policy without attempts never calls `func`. -/
def retryAsync (policy : RetryPolicy) (retryOn : Exn → Bool) (func : Prog D Op Exn α) :
    Prog D Op Exn α :=
  retryLoop timer policy retryOn func policy.maxAttempts.toNat 1 none

end Retry

/-! ## Circuit breaker -/

/-- `CircuitState`: `opened` stands for `OPEN`, since `open` is a keyword. -/
inductive CircuitState where
  | closed
  | opened
  | halfOpen
deriving DecidableEq, Repr

/-- The fields that a breaker is made with, and that never change. -/
structure BreakerConfig where
  failureThreshold : ℤ
  resetTimeout : Seconds
  name : String
  ignoredExceptions : Exn → Bool

/-- The fields of a breaker that change: its state, the failures in a row and when it was opened.
-/
structure Breaker where
  state : CircuitState
  failures : ℤ
  openedAt : Seconds
deriving DecidableEq, Repr

/-- A breaker as it is made: closed, and without failures. -/
def Breaker.fresh : Breaker := ⟨.closed, 0, 0⟩

namespace Breaker

variable (config : BreakerConfig) (b : Breaker)

/-- The cool-off of an open breaker has elapsed, and the next call is a trial. -/
def cooled (now : Seconds) : Bool := config.resetTimeout ≤ now - b.openedAt

/-- `_on_success`: the breaker is closed, whatever state it was in. -/
def onSuccess : Breaker := { b with failures := 0, state := .closed }

/-- The next failure opens the breaker: it is a trial's, or it reaches the threshold. -/
def opensNext : Bool := b.state = .halfOpen ∨ config.failureThreshold ≤ b.failures + 1

/-- `_on_failure`: one more failure, and the breaker opens if it cannot bear that.  The clock is
read only then. -/
def onFailure (now : Seconds) : Breaker :=
  if b.opensNext config then ⟨.opened, b.failures + 1, now⟩
  else { b with failures := b.failures + 1 }

/-- What `call` makes of the end of `func`: an ignored exception, or one that is not an
`Exception`, changes nothing. -/
def settle {α : Type} (now : Seconds) : Except Exn α → Breaker
  | .ok _ => b.onSuccess
  | .error e =>
      if config.ignoredExceptions e = false ∧ e.isException = true then b.onFailure config now
      else b

end Breaker

section CircuitBreaker

variable {D : Type} {Op : Type → Type} {α : Type} (timer : (β : Type) → TimerOp β → Op β)
  (read : D → Breaker) (write : Breaker → D → D) (config : BreakerConfig)

/-- The error of a call that is refused, which names the provider of the breaker. -/
def circuitOpen : Exn :=
  .of .circuitOpenError
    ("Circuit '" ++ config.name ++ "' is open; provider temporarily unavailable")
    [("provider", .str config.name)]

/-- The breaker after `_before_call`, or its refusal.  A breaker that is half open admits every
call. -/
def Breaker.entry (b : Breaker) (now : Seconds) : Except Exn Breaker :=
  if b.state = .opened then
    if b.cooled config now then .ok { b with state := .halfOpen } else .error (circuitOpen config)
  else .ok b

/-- What it takes to be admitted. -/
lemma Breaker.entry_ok {config : BreakerConfig} {b b' : Breaker} {now : Seconds}
    (h : b.entry config now = .ok b') :
    b.state = .opened ∧ b.cooled config now = true ∧ b' = { b with state := .halfOpen } ∨
      b.state ≠ .opened ∧ b' = b := by
  rw [Breaker.entry] at h
  split at h
  · rename_i hopened
    split at h
    · rename_i hcooled
      exact Or.inl ⟨hopened, hcooled, by simpa using h.symm⟩
    · cases h
  · rename_i hopened
    exact Or.inr ⟨hopened, by simpa using h.symm⟩

/-- `_before_call` -/
def beforeCall : Prog D Op Exn Unit := do
  let b ← Prog.ask read
  if b.state = .opened then do
    let now ← Prog.perform (timer _ .monotonic)
    if b.cooled config now then Prog.modify (write { b with state := .halfOpen })
    else .raise (circuitOpen config)
  else return ()

/-- The step after `func` has failed with an exception that counts. -/
def failed : Prog D Op Exn Unit := do
  let b ← Prog.ask read
  if b.opensNext config then do
    let now ← Prog.perform (timer _ .monotonic)
    Prog.modify (write (b.onFailure config now))
  else Prog.modify (write (b.onFailure config 0))

/-- `CircuitBreaker.call`: the call is let through or refused, and its end is a success or a
failure for the breaker.  An ignored exception, or one that is no `Exception`, is neither. -/
def breakerCall (func : Prog D Op Exn α) : Prog D Op Exn α := do
  beforeCall timer read write config
  match ← func.attempt with
  | .ok a => do
      Prog.modify fun d => write (read d).onSuccess d
      return a
  | .error e =>
      if config.ignoredExceptions e then .raise e
      else if e.isException then do
        failed timer read write config
        .raise e
      else .raise e

end CircuitBreaker

/-- The end of `func` is counted as a failure: it is an `Exception`, and not an ignored one. -/
def BreakerConfig.counts {α : Type} (config : BreakerConfig) (r : Except Exn α) : Bool :=
  match r with
  | .ok _ => false
  | .error e => config.ignoredExceptions e = false ∧ e.isException = true

/-! ## A call, executed -/

section Exec

variable {D W : Type} {Op : Type → Type} {α : Type} {timer : (β : Type) → TimerOp β → Op β}
  {handle : Handler Op Exn W} {now : W → Seconds} {tick : W → W}
  (hclock : ∀ w, handle _ (timer _ .monotonic) w = (.ok (now w), tick w))
  {read : D → Breaker} {write : Breaker → D → D} (hread : ∀ b d, read (write b d) = b)
  (hwrite : ∀ b b' d, write b' (write b d) = write b' d) (config : BreakerConfig) (b : Breaker)
  (d : D) (w : W)

include hclock hread hwrite

/-- `_before_call` admits the call or refuses it; the clock is read if the breaker is open. -/
lemma exec_beforeCall_write :
    (beforeCall timer read write config).exec handle (write b d) w =
      match b.entry config (now w) with
      | .error e => (.error e, write b d, tick w)
      | .ok b' => (.ok (), write b' d, if b.state = .opened then tick w else w) := by
  rw [beforeCall, Prog.exec_ask_bind, hread]
  by_cases hopened : b.state = .opened
  · rw [if_pos hopened, Prog.exec_perform_bind, hclock]
    by_cases hcooled : b.cooled config (now w) = true
    · simp [Breaker.entry, hopened, hcooled, hwrite]
    · simp [Breaker.entry, hopened, hcooled]
  · simp [Breaker.entry, hopened]

/-- `_on_failure` reads the clock if it opens the breaker. -/
lemma exec_failed_write :
    (failed timer read write config).exec handle (write b d) w =
      (.ok (), write (b.onFailure config (now w)) d,
        if b.opensNext config = true then tick w else w) := by
  rw [failed, Prog.exec_ask_bind, hread]
  by_cases hopens : b.opensNext config = true
  · rw [if_pos hopens, Prog.exec_perform_bind, hclock, if_pos hopens]
    simp [hwrite]
  · simp [hopens, Breaker.onFailure, hwrite]

/-- **A call under the breaker**: it is admitted, and its end is settled. -/
lemma exec_breakerCall_write {func : Prog D Op Exn α}
    (hkeep : ∀ b w, (func.exec handle (write b d) w).2.1 = write b d) :
    (breakerCall timer read write config func).exec handle (write b d) w =
      match b.entry config (now w) with
      | .error e => (.error e, write b d, tick w)
      | .ok b' =>
          let o := func.exec handle (write b' d) (if b.state = .opened then tick w else w)
          (o.1, write (b'.settle config (now o.2.2) o.1) d,
            if config.counts o.1 = true ∧ b'.opensNext config = true then tick o.2.2
            else o.2.2) := by
  rw [breakerCall, Prog.exec_bind, exec_beforeCall_write hclock hread hwrite]
  rcases b.entry config (now w) with e | b'
  · rfl
  dsimp only
  rw [Prog.exec_attempt_bind, hkeep]
  rcases func.exec handle (write b' d) (if b.state = .opened then tick w else w) with
    ⟨e | a, d', w'⟩
  · dsimp only
    by_cases hignored : config.ignoredExceptions e = true
    · simp [hignored, BreakerConfig.counts, Breaker.settle]
    by_cases hexc : e.isException = true
    · rw [if_neg hignored, if_pos hexc, Prog.exec_bind, exec_failed_write hclock hread hwrite]
      simp [hignored, hexc, BreakerConfig.counts, Breaker.settle]
    · simp [hignored, hexc, BreakerConfig.counts, Breaker.settle]
  · simp [BreakerConfig.counts, Breaker.settle, hread, hwrite]

end Exec

/-! ## What the wrapped program calls -/

section Rules

variable {D : Type} {Op : Type → Type} {α : Type} {timer : (β : Type) → TimerOp β → Op β}
  {cost : (β : Type) → Op β → ℕ} (hfree : ∀ β op, cost β (timer β op) = 0)
  {func : Prog D Op Exn α}

include hfree

lemma RetryPolicy.costAtMost_delayFor_bind (policy : RetryPolicy) (attempt : ℕ) {n : ℕ}
    {f : Seconds → Prog D Op Exn α} (hf : ∀ delay, (f delay).CostAtMost cost n) :
    (policy.delayFor timer attempt >>= f).CostAtMost cost n := by
  rw [delayFor]
  rw [Prog.bind_assoc]
  refine Prog.costAtMost_ofExcept_bind fun ceiling => ?_
  exact Prog.costAtMost_perform_bind hf (by rw [hfree, Nat.zero_add])

/-- Every attempt costs what the function costs. -/
lemma costAtMost_retryLoop {n : ℕ} (hfunc : func.CostAtMost cost n) (policy : RetryPolicy)
    (retryOn : Exn → Bool) (remaining attempt : ℕ) (last : Option Exn) :
    (retryLoop timer policy retryOn func remaining attempt last).CostAtMost cost
      (remaining * n) := by
  induction remaining generalizing attempt last with
  | zero => cases last <;> trivial
  | succ remaining ih =>
    rw [Nat.succ_mul, Nat.add_comm (remaining * n)]
    refine hfunc.attempt.bind fun r => ?_
    rcases r with e | a
    · dsimp only
      split
      · trivial
      split
      · trivial
      refine policy.costAtMost_delayFor_bind hfree attempt fun delay => ?_
      exact Prog.costAtMost_perform_bind (fun _ => ih _ _) (by rw [hfree, Nat.zero_add])
    · trivial

lemma costAtMost_beforeCall (read : D → Breaker) (write : Breaker → D → D)
    (config : BreakerConfig) : (beforeCall timer read write config).CostAtMost cost 0 := by
  refine Prog.costAtMost_ask_bind fun b => ?_
  split
  · refine Prog.costAtMost_perform_bind (m := 0) (fun now => ?_) (by rw [hfree])
    split <;> trivial
  · trivial

lemma costAtMost_failed (read : D → Breaker) (write : Breaker → D → D)
    (config : BreakerConfig) : (failed timer read write config).CostAtMost cost 0 := by
  refine Prog.costAtMost_ask_bind fun b => ?_
  split
  · exact Prog.costAtMost_perform_bind (m := 0) (fun now => trivial) (by rw [hfree])
  · trivial

/-- The breaker itself costs nothing. -/
lemma costAtMost_breakerCall {n : ℕ} (hfunc : func.CostAtMost cost n) (read : D → Breaker)
    (write : Breaker → D → D) (config : BreakerConfig) :
    (breakerCall timer read write config func).CostAtMost cost n := by
  rw [← Nat.zero_add n]
  refine (costAtMost_beforeCall hfree read write config).bind fun _ => ?_
  rw [← Nat.add_zero n]
  refine hfunc.attempt.bind fun r => ?_
  rcases r with e | a
  · dsimp only
    split
    · trivial
    split
    · have hraise : ∀ u : Unit, (.raise e : Prog D Op Exn α).CostAtMost cost 0 := fun _ => trivial
      exact (costAtMost_failed hfree read write config).bind hraise
    · trivial
  · trivial

end Rules

end PaymentGateway
