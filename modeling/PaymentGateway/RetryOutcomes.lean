/-
# What a retried function yields

`retry_async` over a function whose invocations end in any way.  It ends as the first
invocation that is not to be retried does, or as the last one that it is allowed, and pauses
once between two attempts, for exactly those numbers of attempts and outcomes with which it is
invoked at all and never comes to compute the pause after attempt 1025 (`retries_right_iff`).
-/
import PaymentGateway.BreakerHistory

namespace PaymentGateway

open Transact

/-- What happens around `func`, in the order in which it happens. -/
inductive RetryEvent where
  /-- The clock is read. -/
  | looked
  /-- `func` is invoked. -/
  | invoked
  /-- A pause is over. -/
  | slept
deriving DecidableEq, Repr

/-- The surroundings of a function that is retried: how its invocations end, by their number,
and what the clock and the generator show, by the number of the things that have happened. -/
structure Surroundings (α : Type) where
  outcome : ℕ → Except Exn α
  clock : ℕ → Seconds
  jitter : ℕ → Seconds

/-- The surroundings of a call: their world is the list of the things that have happened so far,
and what comes next may depend on how many they were. -/
def Surroundings.handler {α : Type} (s : Surroundings α) :
    Handler (BreakerOp α) Exn (List RetryEvent)
  | _, .monotonic, log => (.ok (s.clock log.length), log ++ [.looked])
  | _, .sleep _, log => (.ok (), log ++ [.slept])
  | _, .uniform _ _, log => (.ok (s.jitter log.length), log)
  | _, .invoke, log => (s.outcome (log.count .invoked), log ++ [.invoked])

/-- The outcome is an exception, and one that is to be retried. -/
def Retried {α : Type} (retryOn : Exn → Bool) : Except Exn α → Prop
  | .ok _ => False
  | .error e => retryOn e = true

instance {α : Type} (retryOn : Exn → Bool) (r : Except Exn α) : Decidable (Retried retryOn r) :=
  match r with
  | .ok _ => isFalse id
  | .error _ => inferInstanceAs (Decidable (_ = _))

/-- `k` attempts with a pause after each. -/
def rounds (k : ℕ) : List RetryEvent := (List.replicate k [.invoked, .slept]).flatten

/-- An attempt after `k` others, with a pause between every two. -/
def attempts (k : ℕ) : List RetryEvent := rounds k ++ [.invoked]

lemma rounds_succ (k : ℕ) : rounds (k + 1) = [.invoked, .slept] ++ rounds k := rfl

lemma length_rounds (k : ℕ) : (rounds k).length = 2 * k := by
  induction k with
  | zero => rfl
  | succ k ih =>
    rw [rounds_succ, List.length_append, ih]
    show 2 + 2 * k = 2 * (k + 1)
    omega

lemma count_rounds (k : ℕ) : (rounds k).count .invoked = k := by
  induction k with
  | zero => rfl
  | succ k ih =>
    rw [rounds_succ, List.count_append, ih]
    exact Nat.add_comm 1 k

lemma count_attempts (k : ℕ) : (attempts k).count .invoked = k + 1 := by
  rw [attempts, List.count_append, count_rounds]
  rfl

lemma attempts_injective : Function.Injective attempts := by
  intro k k' h
  have hlength := congrArg List.length h
  simp only [attempts, List.length_append, length_rounds] at hlength
  omega

/-! ## The loop -/

section Loop

variable {D α : Type} {s : Surroundings α} {retryOn : Exn → Bool}
  {func : Prog D (BreakerOp α) Exn α} {result : ℕ → Except Exn α}

/-- The program is one invocation of `func`, whose end it may translate. -/
def Surroundings.Invokes (s : Surroundings α) (func : Prog D (BreakerOp α) Exn α)
    (result : ℕ → Except Exn α) : Prop :=
  ∀ d log, func.exec s.handler d log = (result (log.count .invoked), d, log ++ [.invoked])

lemma Surroundings.invokes_perform (s : Surroundings α) :
    s.Invokes (Prog.perform .invoke : Prog D (BreakerOp α) Exn α) s.outcome := by
  intro d log
  rw [Prog.exec, Prog.perform, Prog.run_call]
  dsimp only [Surroundings.handler]
  cases s.outcome (log.count .invoked) <;> rfl

variable (hfunc : s.Invokes func result)

include hfunc

/-- An attempt that is the last, or that is not to be retried. -/
lemma Surroundings.Invokes.settled {n : ℤ} {remaining attempt : ℕ} (last : Option Exn) (d : D)
    {log : List RetryEvent}
    (hlast : ¬ Retried retryOn (result (log.count .invoked)) ∨ n ≤ attempt) :
    (retryLoop BreakerOp.timer (.ofMaxAttempts n) retryOn func (remaining + 1) attempt last).exec
      s.handler d log = (result (log.count .invoked), d, log ++ [.invoked]) := by
  rw [retryLoop, Prog.exec_attempt_bind, hfunc]
  generalize result (log.count .invoked) = r at hlast ⊢
  rcases r with e | a
  · dsimp only
    by_cases hretry : retryOn e = false
    · rw [if_pos hretry]
      rfl
    · have hmany : (RetryPolicy.ofMaxAttempts n).maxAttempts ≤ attempt :=
        hlast.resolve_left fun hno => hno (eq_true_of_ne_false hretry)
      rw [if_neg hretry, if_pos hmany]
      rfl
  · rfl

/-- An attempt that is to be retried is, unless its pause cannot be computed. -/
lemma Surroundings.Invokes.retried {n : ℤ} (remaining : ℕ) {attempt : ℕ} (last : Option Exn) (d : D)
    {log : List RetryEvent} (hretry : Retried retryOn (result (log.count .invoked)))
    (hmore : (attempt : ℤ) < n) :
    ∃ e, (retryLoop BreakerOp.timer (.ofMaxAttempts n) retryOn func (remaining + 1) attempt
        last).exec s.handler d log =
      if attempt ≤ 1024 then
        (retryLoop BreakerOp.timer (.ofMaxAttempts n) retryOn func remaining (attempt + 1)
          (some e)).exec s.handler d (log ++ [.invoked, .slept])
      else (.error (.python .overflowError), d, log ++ [.invoked]) := by
  rw [retryLoop, Prog.exec_attempt_bind, hfunc]
  have hlast : ¬ (RetryPolicy.ofMaxAttempts n).maxAttempts ≤ attempt := not_le.2 hmore
  generalize result (log.count .invoked) = r at hretry ⊢
  rcases r with e | a
  · refine ⟨e, ?_⟩
    have hagain : ¬ retryOn e = false := ne_false_of_eq_true hretry
    dsimp only
    rw [if_neg hagain, if_neg hlast, RetryPolicy.delayFor, RetryPolicy.ceiling_ofMaxAttempts]
    by_cases hle : attempt ≤ 1024
    · rw [if_pos hle, if_pos hle]
      simp only [Prog.ofExcept_ok, Prog.ret_bind, Prog.exec_perform_bind, BreakerOp.timer,
        Surroundings.handler, List.append_assoc, List.cons_append, List.nil_append]
    · rw [if_neg hle, if_neg hle]
      rfl
  · exact absurd hretry id

/-- The first `k` attempts, if they are to be retried. -/
lemma Surroundings.Invokes.exec_rounds (n : ℤ) (remaining k : ℕ) :
    ∀ (attempt : ℕ) (last : Option Exn) (d : D) (log : List RetryEvent),
      attempt + k ≤ 1025 → (attempt : ℤ) + k ≤ n →
      (∀ i < k, Retried retryOn (result (log.count .invoked + i))) →
      ∃ last', (retryLoop BreakerOp.timer (.ofMaxAttempts n) retryOn func (remaining + k) attempt
          last).exec s.handler d log =
        (retryLoop BreakerOp.timer (.ofMaxAttempts n) retryOn func remaining (attempt + k)
          last').exec s.handler d (log ++ rounds k) := by
  induction k with
  | zero =>
    intro attempt last d log _ _ _
    exact ⟨last, by rw [rounds, List.replicate_zero, List.flatten_nil,
      List.append_nil]; rfl⟩
  | succ k ih =>
    intro attempt last d log hpause hn hretried
    have hmore : (attempt : ℤ) < n := by omega
    obtain ⟨e, hfirst⟩ := hfunc.retried (remaining + k) last d
      (hretried 0 (Nat.succ_pos k)) hmore
    have hcount : (log ++ [RetryEvent.invoked, .slept]).count .invoked =
        log.count .invoked + 1 := by
      rw [List.count_append]
      rfl
    obtain ⟨last', hrest⟩ := ih (attempt + 1) (some e) d (log ++ [.invoked, .slept]) (by omega)
      (by omega) fun i hi => by
        rw [hcount, Nat.add_assoc, Nat.add_comm 1 i]
        exact hretried (i + 1) (by omega)
    refine ⟨last', ?_⟩
    rw [← Nat.add_assoc, hfirst, if_pos (by omega), hrest, rounds_succ, List.append_assoc,
      Nat.add_assoc, Nat.add_comm 1 k]

variable (retryOn) in
/-- **The loop ends** with the first attempt that is the last or is not to be retried, if the
pauses before it can be computed. -/
lemma Surroundings.Invokes.exec_retryAsync {n : ℤ} {k : ℕ} (d : D) (log : List RetryEvent)
    (hpause : k + 1 ≤ 1025) (hn : (k : ℤ) + 1 ≤ n)
    (hbefore : ∀ i < k, Retried retryOn (result (log.count .invoked + i)))
    (hend : ¬ Retried retryOn (result (log.count .invoked + k)) ∨ n = k + 1) :
    (retryAsync BreakerOp.timer (.ofMaxAttempts n) retryOn func).exec s.handler d log =
      (result (log.count .invoked + k), d, log ++ attempts k) := by
  obtain ⟨remaining, hremaining⟩ : ∃ remaining,
      (RetryPolicy.ofMaxAttempts n).maxAttempts.toNat = remaining + 1 + k :=
    ⟨n.toNat - 1 - k, by show n.toNat = _; omega⟩
  have hcount : (log ++ rounds k).count .invoked = log.count .invoked + k := by
    rw [List.count_append, count_rounds]
  rw [retryAsync, hremaining]
  obtain ⟨last, hrounds⟩ := hfunc.exec_rounds n (remaining + 1) k 1 none d log (by omega) (by omega)
    hbefore
  rw [hrounds, hfunc.settled last d, hcount, attempts, List.append_assoc]
  rw [hcount]
  exact hend.imp_right fun h => by omega

variable (retryOn) in
/-- **The loop overflows** after attempt 1025, if it is to go on. -/
lemma Surroundings.Invokes.exec_retryAsync_overflow {n : ℤ} (d : D) (log : List RetryEvent)
    (hn : 1025 < n) (hretried : ∀ i < 1025, Retried retryOn (result (log.count .invoked + i))) :
    (retryAsync BreakerOp.timer (.ofMaxAttempts n) retryOn func).exec s.handler d log =
      (.error (.python .overflowError), d, log ++ attempts 1024) := by
  obtain ⟨remaining, hremaining⟩ : ∃ remaining,
      (RetryPolicy.ofMaxAttempts n).maxAttempts.toNat = remaining + 1 + 1024 :=
    ⟨n.toNat - 1025, by show n.toNat = _; omega⟩
  have hcount : (log ++ rounds 1024).count .invoked =
      log.count .invoked + 1024 := by
    rw [List.count_append, count_rounds]
  rw [retryAsync, hremaining]
  obtain ⟨last, hrounds⟩ := hfunc.exec_rounds n (remaining + 1) 1024 1 none d log (by omega)
    (by omega) fun i hi => hretried i (by omega)
  have hretry := hretried 1024 (by decide)
  rw [← hcount] at hretry
  have hmore : ((1 + 1024 : ℕ) : ℤ) < n := by omega
  obtain ⟨e, hlast⟩ := hfunc.retried remaining last d hretry hmore
  rw [hrounds, hlast, if_neg (by decide), attempts, List.append_assoc]

end Loop

/-! ## What is yielded -/

section Main

variable {α : Type} (s : Surroundings α) (n : ℤ) (retryOn : Exn → Bool)

/-- `retry_async(func, policy=RetryPolicy(max_attempts=n), retry_on=retry_on)` -/
def Surroundings.retry : Except Exn α × Unit × List RetryEvent :=
  (retryAsync BreakerOp.timer (.ofMaxAttempts n) retryOn (Prog.perform .invoke)).exec s.handler ()
    []

/-- The retries end with attempt `k + 1`: all before it are to be retried, and it is not or is
the last that is allowed.  What it yields is yielded. -/
structure Surroundings.EndsWith (k : ℕ) : Prop where
  allowed : (k : ℤ) + 1 ≤ max 1 n
  before : ∀ i < k, Retried retryOn (s.outcome i)
  last : ¬ Retried retryOn (s.outcome k) ∨ (k : ℤ) + 1 = max 1 n
  answer : (s.retry n retryOn).1 = s.outcome k
  events : (s.retry n retryOn).2.2 = attempts k

/-- The pauses between the attempts can be computed: their ceiling overflows where more than 1025
attempts are made, and not before. -/
def Surroundings.Pausable : Prop :=
  n ≤ 1025 ∨ ∃ i < 1025, ¬ Retried retryOn (s.outcome i)

variable {s n retryOn}

/-- Without an attempt the assertion after the loop fails. -/
lemma Surroundings.retry_of_nonpos (h : n ≤ 0) :
    s.retry n retryOn = (.error (.python .assertionError), (), []) := by
  have hnone : (RetryPolicy.ofMaxAttempts n).maxAttempts.toNat = 0 := Int.toNat_of_nonpos h
  rw [Surroundings.retry, retryAsync, hnone]
  rfl

/-- The attempt that the retries end with. -/
lemma Surroundings.endsWith_of_le {k : ℕ} (hpause : k + 1 ≤ 1025) (hn : (k : ℤ) + 1 ≤ n)
    (hbefore : ∀ i < k, Retried retryOn (s.outcome i))
    (hend : ¬ Retried retryOn (s.outcome k) ∨ n = k + 1) : s.EndsWith n retryOn k := by
  have hexec := s.invokes_perform.exec_retryAsync retryOn () [] hpause hn
  simp only [List.count_nil, Nat.zero_add, List.nil_append] at hexec
  have hretry := hexec hbefore hend
  have hmax : max 1 n = n := max_eq_right (by omega)
  refine ⟨by rw [hmax]; exact hn, hbefore, ?_, by rw [Surroundings.retry, hretry],
    by rw [Surroundings.retry, hretry]⟩
  rw [hmax]
  exact hend.imp_right Eq.symm

/-- There is one, if the pauses can be computed. -/
lemma Surroundings.exists_endsWith (hn : 1 ≤ n) (hpause : s.Pausable n retryOn) :
    ∃ k, s.EndsWith n retryOn k := by
  have hsome : ∃ k : ℕ, ¬ Retried retryOn (s.outcome k) ∨ n = k + 1 :=
    ⟨(n - 1).toNat, Or.inr (by omega)⟩
  -- the first attempt that is the last or is not to be retried
  obtain ⟨k, hk, hmin⟩ := Nat.findX hsome
  have hbefore : ∀ i < k, Retried retryOn (s.outcome i) := fun i hi =>
    by_contra fun hno => hmin i hi (Or.inl hno)
  have hle : (k : ℤ) + 1 ≤ n := by
    by_contra hlt
    exact hmin (n - 1).toNat (by omega) (Or.inr (by omega))
  refine ⟨k, s.endsWith_of_le ?_ hle hbefore hk⟩
  rcases hpause with hfew | ⟨i, hi, hno⟩
  · omega
  · by_contra hlt
    exact hmin i (by omega) (Or.inl hno)

variable (s n retryOn)

/-- **What a retried function yields.**  `retry_async` ends as an invocation of its function
does, the first that is not to be retried or else the last of at most `max_attempts`, with one
pause between every two, exactly if at least one attempt is allowed and no pause after attempt
1025 has to be computed. -/
theorem retries_right_iff :
    (∃ k, s.EndsWith n retryOn k) ↔ 1 ≤ n ∧ s.Pausable n retryOn := by
  refine ⟨fun ⟨k, h⟩ => ?_, fun ⟨hn, hpause⟩ => s.exists_endsWith hn hpause⟩
  by_contra hbad
  by_cases hn : 1 ≤ n
  · obtain ⟨hmany, hretried⟩ := not_or.1 (not_and.1 hbad hn)
    have hretry := s.invokes_perform.exec_retryAsync_overflow retryOn () []
      (not_le.1 hmany)
    simp only [List.count_nil, Nat.zero_add, List.nil_append] at hretry
    have hall : ∀ i < 1025, Retried retryOn (s.outcome i) := fun i hi =>
      by_contra fun hno => hretried ⟨i, hi, hno⟩
    have hevents := h.events
    rw [Surroundings.retry, hretry hall] at hevents
    -- attempt 1025 was neither the last allowed nor one that is not to be retried
    obtain rfl : 1024 = k := attempts_injective hevents
    rcases h.last with hno | hlast
    · exact hno (hall 1024 (by decide))
    · rw [max_eq_right hn] at hlast
      omega
  · have hevents := h.events
    rw [s.retry_of_nonpos (by omega)] at hevents
    have hcount := count_attempts k
    rw [← hevents] at hcount
    cases hcount

end Main

/-- A function that always raises `ValueError`. -/
def demoFailing : Surroundings Unit :=
  ⟨fun _ => .error (.python .valueError), fun _ => 0, fun _ => 0⟩

/-- With `max_attempts = 0` the function is not invoked, and an exception that it never raises
is raised. -/
theorem retries_wrong : ¬ ∃ k, demoFailing.EndsWith 0 (fun _ => true) k := by
  rintro ⟨k, h⟩
  have hanswer := h.answer
  cases hanswer

end PaymentGateway
