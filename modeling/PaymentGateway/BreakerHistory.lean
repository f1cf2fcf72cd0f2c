/-
# The circuit breaker by its history

Calls under one circuit breaker that do not overlap, at the times of a clock that does not run
backwards.  A call is rejected, without its `func` being invoked, exactly if as many failures
as the threshold have been counted since the last success and the last of them is not yet
`reset_timeout` ago; every other call ends as its `func` does (`breaker_history`).

A call is the program of `CircuitBreaker.call` (`breakerCall`), run on the breaker; the history
is what remains to be said of the calls before it, and holds neither the state of the breaker
nor its counter.
-/
import Mathlib.Tactic.Linarith
import PaymentGateway.Core.Resilience
import PaymentGateway.Lib.Runs

namespace PaymentGateway

open Transact

/-! ## Calls -/

/-- What a call asks of its surroundings: the timer, and the function that the breaker guards. -/
inductive BreakerOp (α : Type) : Type → Type where
  | monotonic : BreakerOp α Seconds
  | sleep (delay : Seconds) : BreakerOp α Unit
  | uniform (low high : Seconds) : BreakerOp α Seconds
  /-- `await func()` -/
  | invoke : BreakerOp α α

/-- The operations of the timer, among those of the breaker. -/
def BreakerOp.timer {α : Type} : (β : Type) → TimerOp β → BreakerOp α β
  | _, .monotonic => .monotonic
  | _, .sleep delay => .sleep delay
  | _, .uniform low high => .uniform low high

/-- A call: when it starts and, if `func` is invoked, when and how that ends. -/
structure Invocation (α : Type) where
  start : Seconds
  completed : Seconds
  outcome : Except Exn α

/-- How a call that was admitted has ended, for the breaker.  A refused call has no ending. -/
inductive Ending where
  | success
  /-- An exception that counts, at that time. -/
  | failure (time : Seconds)
  /-- An ignored exception, or one that is not an `Exception`. -/
  | neutral
deriving DecidableEq, Repr

/-- The failures since the last success; the latest ending comes first. -/
def failuresSince : List Ending → ℕ
  | [] => 0
  | .success :: _ => 0
  | .failure _ :: endings => failuresSince endings + 1
  | .neutral :: endings => failuresSince endings

/-- The time of the last failure, in a history whose latest ending stands first. -/
def lastFailure : List Ending → Option Seconds
  | [] => none
  | .failure time :: _ => some time
  | .success :: endings | .neutral :: endings => lastFailure endings

section Model

variable {α : Type} (config : BreakerConfig)

/-- The clock, and `func`; the world is whether `func` was invoked. -/
def Invocation.handler (c : Invocation α) : Handler (BreakerOp α) Exn Bool
  | _, .monotonic, invoked => (.ok (if invoked then c.completed else c.start), invoked)
  | _, .sleep _, invoked => (.ok (), invoked)
  | _, .uniform low _, invoked => (.ok low, invoked)
  | _, .invoke, _ => (c.outcome, true)

/-- `breaker.call(func)`; the world of the run is whether `func` was invoked. -/
def Invocation.run (c : Invocation α) (b : Breaker) : Outcome Breaker Bool (BreakerOp α) Exn α :=
  (breakerCall BreakerOp.timer id (fun b _ => b) config (Prog.perform .invoke)).run c.handler b
    false

/-- How the invocation counts for the breaker: an exception that is ignored, or that is no
`Exception`, counts neither as a success nor as a failure. -/
def Invocation.ending (c : Invocation α) : Ending :=
  match c.outcome with
  | .ok _ => .success
  | .error e =>
      if config.ignoredExceptions e = false ∧ e.isException = true then .failure c.completed
      else .neutral

/-- A breaker, what its clock has shown last, and the endings of its calls. -/
structure BreakerPast where
  breaker : Breaker
  clock : Seconds
  endings : List Ending

namespace BreakerPast

/-- A new breaker, with no calls behind it. -/
def start (clock : Seconds) : BreakerPast := ⟨.fresh, clock, []⟩

/-- A call, run from the breaker that the one before has left.  A call that was refused has no
ending, and the clock stays at its start. -/
def step (s : BreakerPast) (c : Invocation α) : BreakerPast :=
  let o := c.run config s.breaker
  { breaker := o.store
    clock := if o.world then c.completed else c.start
    endings := if o.world then c.ending config :: s.endings else s.endings }

/-- The call starts after the one before has ended, and ends after it has started. -/
def InOrder (s : BreakerPast) (c : Invocation α) : Prop :=
  s.clock ≤ c.start ∧ ((c.run config s.breaker).world = true → c.start ≤ c.completed)

instance (s : BreakerPast) (c : Invocation α) : Decidable (s.InOrder config c) :=
  inferInstanceAs (Decidable (_ ∧ (_ → _)))

/-- At the time `t`, the failures since the last success have reached the threshold, and the last
one is not `reset_timeout` ago. -/
def Cooling (s : BreakerPast) (t : Seconds) : Prop :=
  config.failureThreshold ≤ failuresSince s.endings ∧
    ∃ time, lastFailure s.endings = some time ∧ t - time < config.resetTimeout

/-- The call is refused with the error of an open circuit, and its `func` is not invoked. -/
def Rejects (s : BreakerPast) (c : Invocation α) : Prop :=
  (c.run config s.breaker).answer = .error (circuitOpen config) ∧
    (c.run config s.breaker).world = false

end BreakerPast

end Model

/-! ## One call -/

section Calls

variable {α : Type} {config : BreakerConfig}

/-- **A call**: it is refused at its start, or ends as `func` does. -/
lemma Invocation.exec_run (c : Invocation α) (b : Breaker) :
    (breakerCall BreakerOp.timer id (fun b _ => b) config (Prog.perform .invoke)).exec c.handler b
        false =
      match b.entry config c.start with
      | .error e => (.error e, b, false)
      | .ok b' => (c.outcome, b'.settle config c.completed c.outcome, true) := by
  have hinvoke : ∀ (b : Breaker) (invoked : Bool),
      (Prog.perform BreakerOp.invoke : Prog Breaker (BreakerOp α) Exn α).exec c.handler b invoked =
        (c.outcome, b, true) := by
    intro b invoked
    obtain ⟨start, completed, outcome⟩ := c
    cases outcome <;> rfl
  have hclock : ∀ invoked, c.handler _ (BreakerOp.timer _ .monotonic) invoked =
      (.ok (if invoked then c.completed else c.start), invoked) := fun invoked => rfl
  refine (exec_breakerCall_write hclock ?_ ?_ config b b false ?_).trans ?_
  · exact fun b d => rfl
  · exact fun b b' d => rfl
  · exact fun b' invoked => by rw [hinvoke]
  · have hstart : (if false = true then c.completed else c.start) = c.start :=
      if_neg Bool.false_ne_true
    rw [hstart]
    cases b.entry config c.start with
    | error e => rfl
    | ok b' =>
      dsimp only
      rw [ite_self, hinvoke, ite_self]
      rfl

/-- A refused call. -/
lemma Invocation.run_of_error {c : Invocation α} {b : Breaker} {e : Exn}
    (h : b.entry config c.start = .error e) :
    (c.run config b).answer = .error e ∧ (c.run config b).store = b ∧
      (c.run config b).world = false := by
  have hexec := @Invocation.exec_run α config c b
  rw [h] at hexec
  simpa [Prog.exec, Invocation.run] using hexec

/-- An admitted call. -/
lemma Invocation.run_of_ok {c : Invocation α} {b b' : Breaker}
    (h : b.entry config c.start = .ok b') :
    (c.run config b).answer = c.outcome ∧
      (c.run config b).store = b'.settle config c.completed c.outcome ∧
      (c.run config b).world = true := by
  have hexec := @Invocation.exec_run α config c b
  rw [h] at hexec
  simpa [Prog.exec, Invocation.run] using hexec

end Calls

/-! ## The invariant -/

/-- The fields of the breaker and the history. -/
structure BreakerPast.Inv (config : BreakerConfig) (s : BreakerPast) : Prop where
  failures : s.breaker.failures = failuresSince s.endings
  closed : s.breaker.state = .closed → failuresSince s.endings < config.failureThreshold
  reached : s.breaker.state ≠ .closed → config.failureThreshold ≤ failuresSince s.endings
  opened : s.breaker.state ≠ .closed → lastFailure s.endings = some s.breaker.openedAt
  halfOpen : s.breaker.state = .halfOpen → config.resetTimeout ≤ s.clock - s.breaker.openedAt

namespace BreakerPast

variable {α : Type} {config : BreakerConfig} {s : BreakerPast} {c : Invocation α}

lemma inv_start (hthreshold : 1 ≤ config.failureThreshold) (clock : Seconds) :
    (start clock).Inv config where
  failures := rfl
  closed _ := by
    show ((0 : ℕ) : ℤ) < config.failureThreshold
    omega
  reached h := absurd rfl h
  opened h := absurd rfl h
  halfOpen h := by cases h

/-- What refuses a call is the history. -/
lemma Inv.cooling_iff (h : s.Inv config) {t : Seconds} (ht : s.clock ≤ t) :
    s.Cooling config t ↔ s.breaker.state = .opened ∧ s.breaker.cooled config t = false := by
  have hcooled : s.breaker.cooled config t = false ↔
      t - s.breaker.openedAt < config.resetTimeout := by
    rw [Breaker.cooled, decide_eq_false_iff_not, not_le]
  rw [hcooled]
  constructor
  · rintro ⟨hreached, time, htime, hrecent⟩
    have hclosed : s.breaker.state ≠ .closed := by
      intro hclosed
      have hbelow := h.closed hclosed
      omega
    have heq : time = s.breaker.openedAt := by
      rw [h.opened hclosed] at htime
      exact (Option.some.inj htime).symm
    rw [heq] at hrecent
    refine ⟨?_, hrecent⟩
    cases hstate : s.breaker.state with
    | closed => exact absurd hstate hclosed
    | opened => rfl
    | halfOpen =>
      -- the probe was admitted after the cool-off, and the clock has not run back
      have helapsed := h.halfOpen hstate
      linarith
  · rintro ⟨hopened, hrecent⟩
    have hclosed : s.breaker.state ≠ .closed := by
      rw [hopened]
      decide
    exact ⟨h.reached hclosed, s.breaker.openedAt, h.opened hclosed, hrecent⟩

/-- The breaker of an admitted call. -/
lemma Inv.entry (h : s.Inv config) {t : Seconds} {b : Breaker} (ht : s.clock ≤ t)
    (hentry : s.breaker.entry config t = .ok b) : (BreakerPast.mk b t s.endings).Inv config := by
  obtain ⟨hopened, hcooled, rfl⟩ | ⟨hstate, rfl⟩ := Breaker.entry_ok hentry
  · have hclosed : s.breaker.state ≠ .closed := by
      rw [hopened]
      decide
    exact ⟨h.failures, (fun hc => by cases hc), fun _ => h.reached hclosed,
      fun _ => h.opened hclosed, fun _ => of_decide_eq_true hcooled⟩
  · refine ⟨h.failures, h.closed, h.reached, h.opened, fun hhalf => ?_⟩
    have helapsed := h.halfOpen hhalf
    show config.resetTimeout ≤ t - s.breaker.openedAt
    linarith

/-- A counted failure. -/
lemma Inv.onFailure (h : s.Inv config) (hopen : s.breaker.state ≠ .opened) (time : Seconds) :
    (BreakerPast.mk (s.breaker.onFailure config time) time (.failure time :: s.endings)).Inv
      config := by
  have hfailures := h.failures
  have hcount : ((failuresSince (.failure time :: s.endings) : ℕ) : ℤ) =
      s.breaker.failures + 1 := by
    rw [hfailures, failuresSince]
    push_cast
    rfl
  rw [Breaker.onFailure]
  by_cases hopens : s.breaker.opensNext config = true
  · rw [if_pos hopens]
    have hreached : config.failureThreshold ≤ s.breaker.failures + 1 := by
      rcases of_decide_eq_true hopens with hhalf | hnext
      · -- the threshold was reached before the probe
        have hbefore := h.reached (by rw [hhalf]; decide)
        omega
      · exact hnext
    refine ⟨hcount.symm, fun hc => ?_, fun _ => ?_, fun _ => rfl, fun hc => ?_⟩
    · cases hc
    · rw [hcount]
      exact hreached
    · cases hc
  · rw [if_neg hopens]
    obtain ⟨hhalf, hbelow⟩ := not_or.1 fun hor => hopens (decide_eq_true hor)
    have hclosed : s.breaker.state = .closed := by
      cases hstate : s.breaker.state with
      | closed => rfl
      | opened => exact absurd hstate hopen
      | halfOpen => exact absurd hstate hhalf
    refine ⟨hcount.symm, fun _ => ?_, fun hc => absurd hclosed hc, fun hc => absurd hclosed hc,
      fun hc => absurd hc hhalf⟩
    rw [hcount]
    omega

/-- The end of `func` is settled. -/
lemma Inv.settle (h : s.Inv config) (hopen : s.breaker.state ≠ .opened)
    (hthreshold : 1 ≤ config.failureThreshold) (ht : s.clock ≤ c.completed) :
    (BreakerPast.mk (s.breaker.settle config c.completed c.outcome) c.completed
      (c.ending config :: s.endings)).Inv config := by
  rw [Invocation.ending]
  cases c.outcome with
  | ok a =>
    have hzero : ((failuresSince (.success :: s.endings) : ℕ) : ℤ) = 0 := rfl
    refine ⟨hzero.symm, fun _ => ?_, fun hc => absurd rfl hc, fun hc => absurd rfl hc,
      fun hc => by cases hc⟩
    rw [hzero]
    omega
  | error e =>
    dsimp only [Breaker.settle]
    split
    · exact h.onFailure hopen c.completed
    · -- an exception that does not count leaves a half-open breaker half open
      refine ⟨h.failures, h.closed, h.reached, h.opened, fun hhalf => ?_⟩
      have helapsed := h.halfOpen hhalf
      show config.resetTimeout ≤ c.completed - s.breaker.openedAt
      linarith

/-- One call keeps the invariant. -/
lemma Inv.step (h : s.Inv config) (hthreshold : 1 ≤ config.failureThreshold)
    (horder : s.InOrder config c) : (s.step config c).Inv config := by
  cases hentry : s.breaker.entry config c.start with
  | error e =>
    -- a refused call changes nothing but the clock
    obtain ⟨-, hstore, hworld⟩ := Invocation.run_of_error hentry
    rw [BreakerPast.step]
    simp only [hstore, hworld, Bool.false_eq_true, if_false]
    refine ⟨h.failures, h.closed, h.reached, h.opened, fun hhalf => ?_⟩
    have helapsed := h.halfOpen hhalf
    have hclock := horder.1
    show config.resetTimeout ≤ c.start - s.breaker.openedAt
    linarith
  | ok b =>
    obtain ⟨-, hstore, hworld⟩ := Invocation.run_of_ok hentry
    rw [BreakerPast.step]
    simp only [hstore, hworld, if_true]
    have hopen : b.state ≠ .opened := by
      obtain ⟨-, -, rfl⟩ | ⟨hstate, rfl⟩ := Breaker.entry_ok hentry
      · intro hc
        cases hc
      · exact hstate
    exact (h.entry horder.1 hentry).settle hopen hthreshold (horder.2 hworld)

/-- A call is rejected by its history, or ends as `func` does. -/
lemma Inv.call (h : s.Inv config) (ht : s.clock ≤ c.start) :
    (s.Rejects config c ↔ s.Cooling config c.start) ∧
      (¬ s.Cooling config c.start → (c.run config s.breaker).world = true ∧
        (c.run config s.breaker).answer = c.outcome) := by
  rw [h.cooling_iff ht, Rejects]
  by_cases hrefused : s.breaker.state = .opened ∧ s.breaker.cooled config c.start = false
  · have hentry : s.breaker.entry config c.start = .error (circuitOpen config) := by
      rw [Breaker.entry, if_pos hrefused.1, if_neg (by simp [hrefused.2])]
    obtain ⟨hanswer, -, hworld⟩ := Invocation.run_of_error hentry
    exact ⟨iff_of_true ⟨hanswer, hworld⟩ hrefused, fun hno => absurd hrefused hno⟩
  · obtain ⟨b, hentry⟩ : ∃ b, s.breaker.entry config c.start = .ok b := by
      rw [Breaker.entry]
      split
      · rename_i hopened
        rw [if_pos (by simpa [hopened] using hrefused)]
        exact ⟨_, rfl⟩
      · exact ⟨_, rfl⟩
    obtain ⟨hanswer, -, hworld⟩ := Invocation.run_of_ok hentry
    refine ⟨iff_of_false (fun hrejected => ?_) hrefused, fun _ => ⟨hworld, hanswer⟩⟩
    rw [hworld] at hrejected
    cases hrejected.2

end BreakerPast

/-- **The circuit breaker by its history.**  Of calls that do not overlap, exactly those are
rejected for which the threshold is reached and the last failure is recent; the others end as
their `func` does. -/
theorem breaker_history {α : Type} {config : BreakerConfig}
    (hthreshold : 1 ≤ config.failureThreshold) (clock : Seconds) (calls : List (Invocation α))
    (h : Obeys (BreakerPast.step config) (BreakerPast.InOrder config) (.start clock) calls) :
    Obeys (BreakerPast.step config) (fun s c =>
      (s.Rejects config c ↔ s.Cooling config c.start) ∧
      (¬ s.Cooling config c.start → (c.run config s.breaker).world = true ∧
        (c.run config s.breaker).answer = c.outcome)) (.start clock) calls :=
  obeys_of_obeys (fun _ _ hinv horder => hinv.step hthreshold horder)
    (fun _ _ hinv horder => hinv.call horder.1) (BreakerPast.inv_start hthreshold clock) h

/-- A failure, a call while the circuit is open, and the probe that closes it. -/
def demoCalls : List (Invocation Unit) :=
  [⟨0, 1, .error (.python .valueError)⟩, ⟨5, 6, .ok ()⟩, ⟨40, 41, .ok ()⟩]

theorem breaker_history_demo :
    Obeys (BreakerPast.step ⟨1, 30, "mock", fun _ => false⟩) (fun s c =>
      (s.Rejects ⟨1, 30, "mock", fun _ => false⟩ c ↔
        s.Cooling ⟨1, 30, "mock", fun _ => false⟩ c.start) ∧
      (¬ s.Cooling ⟨1, 30, "mock", fun _ => false⟩ c.start →
        (c.run ⟨1, 30, "mock", fun _ => false⟩ s.breaker).world = true ∧
        (c.run ⟨1, 30, "mock", fun _ => false⟩ s.breaker).answer = c.outcome))
      (.start 0) demoCalls :=
  breaker_history (by decide) 0 demoCalls (by decide +kernel)

end PaymentGateway
