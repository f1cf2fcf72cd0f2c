/-
# Concurrent calls under one circuit breaker

Any number of `CircuitBreaker.call`s share a breaker.  A call takes two steps: it arrives
(`_before_call`) and, if it is admitted, `func` is started; later `func` ends, and
`_on_success` or `_on_failure` is run.  Neither step awaits anything while it holds the lock,
so each is one move; the moves of the calls come in any order, at the times of any clock.

Three things are remembered beside the state of the code: the times at which the breaker was
opened, the calls whose `func` is running in the order they were started, and for each of them
after how many moves from OPEN to HALF_OPEN it was admitted, and whether it made that move
itself (the probe).

`failFast_of_onTime` says when nothing is started while the breaker cools off, and
`singleProbe_iff` when the probe is alone.  Both fail on schedules of three calls.
-/
import Mathlib.Tactic.Linarith
import PaymentGateway.Core.Resilience
import PaymentGateway.Lib.Runs

namespace PaymentGateway

open Transact

/-- A call that was admitted and whose `func` is running. -/
structure Flight (ι : Type) where
  call : ι
  /-- The moves from OPEN to HALF_OPEN until it was admitted. -/
  episode : ℕ
  /-- It made the last of them. -/
  probe : Bool
deriving DecidableEq, Repr

/-- A breaker and the calls under it, which may overlap: between the admission of a call and its
end, any others may move. -/
structure BreakerCalls (ι : Type) where
  breaker : Breaker
  now : Seconds
  /-- The calls that have arrived. -/
  called : List ι
  flights : List (Flight ι)
  episode : ℕ
  /-- When the breaker was opened. -/
  openings : List Seconds
deriving Repr

/-- What a call does next: it arrives at the breaker, or the function that it was let through to
ends with a result. -/
inductive CallStep (ι : Type) where
  | arrive (call : ι)
  | finish (call : ι) (result : Except Exn Unit)

/-- A step of a call, at the time that the clock shows then. -/
structure BreakerMove (ι : Type) where
  now : Seconds
  action : CallStep ι

namespace BreakerCalls

variable {ι : Type} [DecidableEq ι] (config : BreakerConfig) (s : BreakerCalls ι)

/-- The state in which nothing has been called yet, with a new breaker. -/
def start (ι : Type) (now : Seconds) : BreakerCalls ι := ⟨.fresh, now, [], [], 0, []⟩

/-- The call has been admitted and its `func` has not ended, so that it may still come back with
a result. -/
def Running (i : ι) : Prop := ∃ f ∈ s.flights, f.call = i

instance (i : ι) : Decidable (s.Running i) :=
  inferInstanceAs (Decidable (∃ f ∈ s.flights, f.call = i))

/-- The flight that a call is admitted to.  One that finds the breaker open, and cooled off, is
the probe of a new episode. -/
def admitted (i : ι) : Flight ι :=
  if s.breaker.state = .opened then ⟨i, s.episode + 1, true⟩ else ⟨i, s.episode, false⟩

/-- The end of `func` opens the breaker: it is a failure that counts, and one more than the
breaker bears. -/
def Opens (r : Except Exn Unit) : Prop :=
  match r with
  | .ok _ => False
  | .error e => config.ignoredExceptions e = false ∧ e.isException = true ∧
      s.breaker.opensNext config = true

instance (r : Except Exn Unit) : Decidable (Opens config s r) :=
  match r with
  | .ok _ => isFalse id
  | .error _ => inferInstanceAs (Decidable (_ ∧ _ ∧ _))

/-- A step of a call.  One that is not the call's next does nothing: a call arrives once, and
ends once it was admitted. -/
def step (s : BreakerCalls ι) (m : BreakerMove ι) : BreakerCalls ι :=
  match m.action with
  | .arrive i =>
      if i ∈ s.called then s
      else
        match s.breaker.entry config m.now with
        | .error _ => { s with now := m.now, called := i :: s.called }
        | .ok b =>
            { s with
              breaker := b
              now := m.now
              called := i :: s.called
              flights := s.flights ++ [s.admitted i]
              episode := (s.admitted i).episode }
  | .finish i r =>
      if s.Running i then
        { s with
          breaker := s.breaker.settle config m.now r
          now := m.now
          flights := s.flights.filter fun f => f.call ≠ i
          openings := if Opens config s r then s.openings ++ [m.now] else s.openings }
      else s

/-- The move is the arrival of a call that is admitted, and so starts its `func`. -/
def Starts (m : BreakerMove ι) : Prop :=
  match m.action with
  | .arrive i => i ∉ s.called ∧ (s.breaker.entry config m.now).toBool = true
  | .finish _ _ => False

instance (m : BreakerMove ι) : Decidable (Starts config s m) :=
  match m with
  | ⟨_, .arrive _⟩ => inferInstanceAs (Decidable (_ ∧ _))
  | ⟨_, .finish _ _⟩ => isFalse id

/-! ## What a move can do -/

/-- Everything that a move can do, with the state after it, and whether it has started the `func`
of a call. -/
inductive Stepped (m : BreakerMove ι) : BreakerCalls ι → Prop
  /-- The step was not the call's next one. -/
  | nothing (quiet : ¬ Starts config s m) : Stepped m s
  /-- The call was refused. -/
  | refused {i e} (action : m.action = .arrive i) (quiet : ¬ Starts config s m)
      (refusal : s.breaker.entry config m.now = .error e) :
      Stepped m { s with now := m.now, called := i :: s.called }
  /-- The call was admitted and its `func` started. -/
  | started {i b} (action : m.action = .arrive i) (new : i ∉ s.called)
      (starts : Starts config s m) (admission : s.breaker.entry config m.now = .ok b) :
      Stepped m
        { s with
          breaker := b
          now := m.now
          called := i :: s.called
          flights := s.flights ++ [s.admitted i]
          episode := (s.admitted i).episode }
  /-- The `func` of a call ended, and did not open the breaker. -/
  | ended {i r} (action : m.action = .finish i r) (running : s.Running i)
      (closed : ¬ Opens config s r) :
      Stepped m
        { s with
          breaker := s.breaker.settle config m.now r
          now := m.now
          flights := s.flights.filter fun f => f.call ≠ i }
  /-- The `func` of a call failed, and opened the breaker. -/
  | opened {i r} (action : m.action = .finish i r) (running : s.Running i)
      (opens : Opens config s r) :
      Stepped m
        { s with
          breaker := ⟨.opened, s.breaker.failures + 1, m.now⟩
          now := m.now
          flights := s.flights.filter fun f => f.call ≠ i
          openings := s.openings ++ [m.now] }

omit [DecidableEq ι] in
lemma settle_of_opens {r : Except Exn Unit} (h : Opens config s r) (now : Seconds) :
    s.breaker.settle config now r = ⟨.opened, s.breaker.failures + 1, now⟩ := by
  rcases r with e | a
  · obtain ⟨hcounts, hexc, hopens⟩ := h
    simp only [Breaker.settle, hcounts, hexc, and_self, if_true, Breaker.onFailure, hopens]
  · exact absurd h id

/-- **What a move does.** -/
lemma stepped (m : BreakerMove ι) : Stepped config s m (step config s m) := by
  rw [step]
  rcases hm : m.action with i | ⟨i, r⟩
  · dsimp only
    by_cases hi : i ∈ s.called
    · rw [if_pos hi]
      exact .nothing fun h => by
        simp only [Starts, hm] at h
        exact h.1 hi
    · rw [if_neg hi]
      rcases hadm : s.breaker.entry config m.now with e | b
      · exact .refused hm (by simp [Starts, hm, hadm, Except.toBool]) hadm
      · exact .started hm hi (by simp [Starts, hm, hadm, hi, Except.toBool]) hadm
  · dsimp only
    by_cases hrun : s.Running i
    · rw [if_pos hrun]
      by_cases hopens : Opens config s r
      · rw [if_pos hopens, settle_of_opens config s hopens]
        exact .opened hm hrun hopens
      · rw [if_neg hopens]
        exact .ended hm hrun hopens
    · rw [if_neg hrun]
      exact .nothing (by simp [Starts, hm])

omit [DecidableEq ι] in
/-- The end of `func` leaves the breaker OPEN or HALF_OPEN only if it found it so. -/
lemma settle_state {r : Except Exn Unit} (hopens : ¬ Opens config s r) (now : Seconds) :
    s.breaker.settle config now r = s.breaker.onSuccess ∧ (∃ a, r = .ok a) ∨
      (s.breaker.settle config now r).state = s.breaker.state ∧
        (s.breaker.settle config now r).openedAt = s.breaker.openedAt := by
  rcases r with e | a
  · right
    unfold Breaker.settle
    dsimp only
    split
    · rename_i hcounts
      have hno : ¬ s.breaker.opensNext config = true := fun h => hopens ⟨hcounts.1, hcounts.2, h⟩
      simp [Breaker.onFailure, hno]
    · exact ⟨rfl, rfl⟩
  · exact Or.inl ⟨rfl, a, rfl⟩

/-! ## The fail-fast window -/

/-- Nothing is started by the move while the breaker cools off from an opening. -/
def FailFast (m : BreakerMove ι) : Prop :=
  Starts config s m → ∀ t ∈ s.openings, ¬ (t ≤ m.now ∧ m.now < t + config.resetTimeout)

instance (m : BreakerMove ι) : Decidable (FailFast config s m) :=
  inferInstanceAs (Decidable (_ → _))

/-- The clock does not go back. -/
def Forward (m : BreakerMove ι) : Prop := s.now ≤ m.now

instance (m : BreakerMove ι) : Decidable (Forward s m) := inferInstanceAs (Decidable (_ ≤ _))

/-- No call succeeds while the breaker cools off: a success that arrives in an opening would
close the breaker before its time. -/
def InTime (m : BreakerMove ι) : Prop :=
  match m.action with
  | .finish i (.ok _) =>
      s.Running i → s.breaker.state = .opened → s.breaker.cooled config m.now = true
  | _ => True

instance (m : BreakerMove ι) : Decidable (InTime config s m) :=
  match m with
  | ⟨_, .finish _ (.ok _)⟩ => inferInstanceAs (Decidable (_ → _))
  | ⟨_, .finish _ (.error _)⟩ => isTrue trivial
  | ⟨_, .arrive _⟩ => isTrue trivial

variable {config s}

/-- The invariant of the openings: each is over, or the breaker is still open since then.  So no
call is let through in between. -/
structure Windows (config : BreakerConfig) (s : BreakerCalls ι) : Prop where
  past : s.breaker.state = .opened → s.breaker.openedAt ≤ s.now
  ended : ∀ t ∈ s.openings, t + config.resetTimeout ≤ s.now ∨
    s.breaker.state = .opened ∧ t ≤ s.breaker.openedAt

omit [DecidableEq ι] in
/-- Once the breaker has cooled off, every opening is over. -/
lemma Windows.over_of_cooled (h : s.Windows config) {now : Seconds} (hnow : s.now ≤ now)
    (hcooled : s.breaker.state = .opened → s.breaker.cooled config now = true) :
    ∀ t ∈ s.openings, t + config.resetTimeout ≤ now := by
  intro t ht
  rcases h.ended t ht with hover | ⟨hopened, hle⟩
  · exact hover.trans hnow
  · have hreset := hcooled hopened
    simp only [Breaker.cooled, decide_eq_true_eq] at hreset
    linarith

omit [DecidableEq ι] in
lemma Windows.failFast (h : s.Windows config) {m : BreakerMove ι} (hnow : s.Forward m) :
    FailFast config s m := by
  intro hstarts t ht
  have hover : t + config.resetTimeout ≤ m.now := by
    refine h.over_of_cooled hnow (fun hopened => ?_) t ht
    rcases hm : m.action with i | ⟨i, r⟩
    · simp only [Starts, hm] at hstarts
      rcases hadm : s.breaker.entry config m.now with e | b
      · simp [hadm, Except.toBool] at hstarts
      · rcases Breaker.entry_ok hadm with ⟨-, hcooled, -⟩ | ⟨hno, -⟩
        · exact hcooled
        · exact absurd hopened hno
    · simp [Starts, hm] at hstarts
  exact fun hwindow => absurd hwindow.2 (not_lt.2 hover)

lemma Windows.stepped (h : s.Windows config) {m : BreakerMove ι} (hnow : s.Forward m)
    (hok : InTime config s m) {s' : BreakerCalls ι} (hs : Stepped config s m s') :
    s'.Windows config := by
  -- an opening is over, or the breaker has opened again since
  have hlater : ∀ t ∈ s.openings, t + config.resetTimeout ≤ m.now ∨
      s.breaker.state = .opened ∧ t ≤ s.breaker.openedAt :=
    fun t ht => (h.ended t ht).imp_left fun hover => hover.trans hnow
  cases hs with
  | nothing => exact h
  | refused => exact ⟨fun hopened => (h.past hopened).trans hnow, hlater⟩
  | started action new starts admission =>
    rcases Breaker.entry_ok admission with ⟨hopened, hcooled, rfl⟩ | ⟨hopened, rfl⟩
    · refine ⟨fun hno => (by cases hno), fun t ht => Or.inl ?_⟩
      exact h.over_of_cooled hnow (fun _ => hcooled) t ht
    · exact ⟨fun hyes => absurd hyes hopened, hlater⟩
  | @ended i r action running closed =>
    rcases settle_state config s closed m.now with ⟨hsettle, a, rfl⟩ | ⟨hstate, hopenedAt⟩
    · refine ⟨fun hno => by simp [hsettle, Breaker.onSuccess] at hno, fun t ht => Or.inl ?_⟩
      simp only [InTime, action] at hok
      exact h.over_of_cooled hnow (hok running) t ht
    · refine ⟨fun hopened => ?_, fun t ht => ?_⟩
      · dsimp only at hopened ⊢
        rw [hopenedAt]
        exact (h.past (hstate ▸ hopened)).trans hnow
      · dsimp only
        rw [hstate, hopenedAt]
        exact hlater t ht
  | opened =>
    refine ⟨fun _ => le_refl _, fun t ht => ?_⟩
    rcases List.mem_append.1 ht with ht | ht
    · rcases hlater t ht with hover | ⟨hopened, hle⟩
      · exact Or.inl hover
      · exact Or.inr ⟨rfl, hle.trans ((h.past hopened).trans hnow)⟩
    · exact Or.inr ⟨rfl, (List.mem_singleton.1 ht).le⟩

/-- **Fail fast.**  If the clock does not go back, and no call succeeds while the breaker cools
off, then nothing is started while the breaker cools off. -/
theorem failFast_of_inTime (config : BreakerConfig) (now : Seconds) (ms : List (BreakerMove ι))
    (h : Obeys (step config) (fun s m => s.Forward m ∧ InTime config s m) (start ι now) ms) :
    Obeys (step config) (FailFast config) (start ι now) ms := by
  have hstart : (start ι now).Windows config :=
    ⟨fun hopened => (by cases hopened), fun t ht => (by cases ht)⟩
  exact obeys_of_obeys (fun s m hw hok => hw.stepped hok.1 hok.2 (stepped config s m))
    (fun s m hw hok => hw.failFast hok.1) hstart h

/-! ## The probe -/

/-- While the breaker is HALF_OPEN, one call at most is running of those that were admitted
since it cooled off; and nothing was started after a probe that is still running. -/
structure SingleProbe (s : BreakerCalls ι) : Prop where
  alone : s.breaker.state = .halfOpen →
    (s.flights.filter fun f => f.episode = s.episode).length ≤ 1
  last : ∀ f ∈ s.flights, f.probe = true → ∃ earlier, s.flights = earlier ++ [f]

/-- No call arrives that would be admitted while a probe is running, or while the breaker is
HALF_OPEN and a call is running that was admitted since. -/
def ArrivesAlone (config : BreakerConfig) (s : BreakerCalls ι) (m : BreakerMove ι) : Prop :=
  Starts config s m → (∀ f ∈ s.flights, f.probe = false) ∧
    (s.breaker.state = .halfOpen → ∀ f ∈ s.flights, f.episode ≠ s.episode)

/-- The invariant of the runs that meet the condition: while the circuit is half open one probe
is on its way, no flight is of a later episode than the present one, and every flight belongs to
a call that was made. -/
structure ProbeInv (s : BreakerCalls ι) : Prop where
  single : s.SingleProbe
  episodes : ∀ f ∈ s.flights, f.episode ≤ s.episode
  called : ∀ f ∈ s.flights, f.call ∈ s.called

/-- The end of a call. -/
lemma ProbeInv.finish (h : s.ProbeInv) (i : ι) {b : Breaker}
    (hb : b.state = .halfOpen → s.breaker.state = .halfOpen) (now : Seconds)
    (openings : List Seconds) :
    ProbeInv { s with
      breaker := b
      now := now
      flights := s.flights.filter fun f => f.call ≠ i
      openings := openings } := by
  refine ⟨⟨fun hhalf => ?_, fun f hf hprobe => ?_⟩, fun f hf => ?_, fun f hf => ?_⟩
  · refine Nat.le_trans ?_ (h.single.alone (hb hhalf))
    exact (List.filter_sublist.filter _).length_le
  · obtain ⟨earlier, heq⟩ := h.single.last f (List.mem_of_mem_filter hf) hprobe
    refine ⟨earlier.filter fun f => f.call ≠ i, ?_⟩
    have hne : f.call ≠ i := by simpa using (List.mem_filter.1 hf).2
    simp [heq, hne]
  · exact h.episodes f (List.mem_of_mem_filter hf)
  · exact h.called f (List.mem_of_mem_filter hf)

omit [DecidableEq ι] in
/-- The arrival of a call that is alone. -/
lemma ProbeInv.arrive (h : s.ProbeInv) {i : ι} {b : Breaker} {now : Seconds}
    (hadm : s.breaker.entry config now = .ok b) (hquiet : ∀ f ∈ s.flights, f.probe = false)
    (halone : s.breaker.state = .halfOpen → ∀ f ∈ s.flights, f.episode ≠ s.episode) :
    ProbeInv { s with
      breaker := b
      now := now
      called := i :: s.called
      flights := s.flights ++ [s.admitted i]
      episode := (s.admitted i).episode } := by
  rcases Breaker.entry_ok hadm with ⟨hopened, -, rfl⟩ | ⟨hopened, rfl⟩
  · -- the call is a probe, and the first one of a new episode
    have hflight : s.admitted i = ⟨i, s.episode + 1, true⟩ := if_pos hopened
    rw [hflight]
    refine ⟨⟨fun _ => ?_, fun f hf hprobe => ?_⟩, fun f hf => ?_, fun f hf => ?_⟩
    · have hnone : s.flights.filter (fun f => f.episode = s.episode + 1) = [] := by
        rw [List.filter_eq_nil_iff]
        intro f hf
        have hle := h.episodes f hf
        simp only [decide_eq_true_eq]
        omega
      simp [hnone]
    · rcases List.mem_append.1 hf with hf | hf
      · simp [hquiet f hf] at hprobe
      · exact ⟨s.flights, by rw [List.mem_singleton.1 hf]⟩
    · rcases List.mem_append.1 hf with hf | hf
      · exact (h.episodes f hf).trans (Nat.le_succ _)
      · rw [List.mem_singleton.1 hf]
    · rcases List.mem_append.1 hf with hf | hf
      · exact List.mem_cons_of_mem i (h.called f hf)
      · rw [List.mem_singleton.1 hf]
        exact List.mem_cons_self
  · -- the breaker was not open: the call joins the current episode
    have hflight : s.admitted i = ⟨i, s.episode, false⟩ := if_neg hopened
    rw [hflight]
    refine ⟨⟨fun hhalf => ?_, fun f hf hprobe => ?_⟩, fun f hf => ?_, fun f hf => ?_⟩
    · have hnone : s.flights.filter (fun f => f.episode = s.episode) = [] := by
        rw [List.filter_eq_nil_iff]
        intro f hf
        simpa using halone hhalf f hf
      simp [hnone]
    · rcases List.mem_append.1 hf with hf | hf
      · simp [hquiet f hf] at hprobe
      · simp [List.mem_singleton.1 hf] at hprobe
    · rcases List.mem_append.1 hf with hf | hf
      · exact h.episodes f hf
      · rw [List.mem_singleton.1 hf]
    · rcases List.mem_append.1 hf with hf | hf
      · exact List.mem_cons_of_mem i (h.called f hf)
      · rw [List.mem_singleton.1 hf]
        exact List.mem_cons_self

lemma ProbeInv.stepped (h : s.ProbeInv) {m : BreakerMove ι} (hok : ArrivesAlone config s m)
    {s' : BreakerCalls ι} (hs : Stepped config s m s') : s'.ProbeInv := by
  cases hs with
  | nothing => exact h
  | refused =>
    exact ⟨⟨h.single.alone, h.single.last⟩, h.episodes,
      fun f hf => List.mem_cons_of_mem _ (h.called f hf)⟩
  | started action new starts admission =>
    exact h.arrive admission (hok starts).1 (hok starts).2
  | @ended i r action running closed =>
    refine h.finish i (fun hhalf => ?_) m.now s.openings
    rcases settle_state config s closed m.now with ⟨hsettle, -⟩ | ⟨hstate, -⟩
    · simp [hsettle, Breaker.onSuccess] at hhalf
    · exact hstate ▸ hhalf
  | @opened i r =>
    exact h.finish i (fun hhalf => by cases hhalf) m.now _

/-- A call that does not arrive alone is not alone. -/
lemma ProbeInv.not_singleProbe (h : s.ProbeInv) {m : BreakerMove ι}
    (hok : ¬ ArrivesAlone config s m) {s' : BreakerCalls ι} (hs : Stepped config s m s') :
    ¬ s'.SingleProbe := by
  intro hsingle
  rw [ArrivesAlone] at hok
  push Not at hok
  obtain ⟨hstarts, hno⟩ := hok
  cases hs with
  | nothing quiet => exact quiet hstarts
  | refused action quiet => exact quiet hstarts
  | ended action => simp [Starts, action] at hstarts
  | opened action => simp [Starts, action] at hstarts
  | @started i b action new starts admission =>
    -- the call that arrives is not one of those in flight
    have hnew : ∀ f ∈ s.flights, f ≠ s.admitted i := by
      rintro f hf rfl
      have hcall : (s.admitted i).call = i := by
        rw [admitted]
        split <;> rfl
      exact new (hcall ▸ h.called _ hf)
    -- a probe in flight would have to be the last one to have arrived
    have hquiet : ∀ f ∈ s.flights, f.probe = false := by
      intro f hf
      by_contra hprobe
      obtain ⟨earlier, heq⟩ := hsingle.last f (List.mem_append_left _ hf) (by simpa using hprobe)
      exact hnew f hf (List.append_inj_right' heq rfl |> List.singleton_inj.1).symm
    obtain ⟨hhalf, f, hf, hepisode⟩ := hno hquiet
    rcases Breaker.entry_ok admission with ⟨hopened, -, -⟩ | ⟨hopened, rfl⟩
    · simp [hopened] at hhalf
    · have hflight : s.admitted i = ⟨i, s.episode, false⟩ := if_neg hopened
      -- two calls of one episode while half open
      have halone := hsingle.alone hhalf
      have hone : ([s.admitted i].filter fun f => f.episode = s.episode).length = 1 := by
        simp [hflight]
      rw [hflight] at hone
      simp only [hflight, List.filter_append, List.length_append, hone] at halone
      have hmem : f ∈ s.flights.filter fun f => f.episode = s.episode :=
        List.mem_filter.2 ⟨hf, by simpa using hepisode⟩
      have hpos := List.length_pos_of_mem hmem
      omega

/-- **When the probe is alone.**  Whatever the clock, the probe is alone all along a run exactly
if no call arrives beside it. -/
theorem singleProbe_iff (config : BreakerConfig) (now : Seconds) (ms : List (BreakerMove ι)) :
    Always (step config) SingleProbe (start ι now) ms ↔
      Obeys (step config) (ArrivesAlone config) (start ι now) ms := by
  have hstart : (start ι now).ProbeInv :=
    ⟨⟨fun _ => Nat.zero_le 1, fun f hf => (by cases hf)⟩, fun f hf => (by cases hf),
      fun f hf => (by cases hf)⟩
  exact always_iff_obeys (fun s h => h.single)
    (fun s m h hok => h.stepped hok (stepped config s m))
    (fun s m h hok => h.not_singleProbe hok (stepped config s m)) hstart ms

end BreakerCalls

/-! ## Two schedules -/

/-- A breaker that opens at the first failure, for thirty seconds. -/
def quickBreaker : BreakerConfig := ⟨1, 30, "stripe", Exn.isProviderError⟩

/-- A transport fault. -/
def fault : Except Exn Unit := .error (.httpx .timeoutException)

/-- Two calls arrive; the first one fails and opens the breaker, the second one succeeds one
second later; the third one arrives. -/
def lateSuccess : List (BreakerMove ℕ) :=
  [⟨0, .arrive 0⟩, ⟨0, .arrive 1⟩, ⟨1, .finish 0 fault⟩, ⟨2, .finish 1 (.ok ())⟩, ⟨3, .arrive 2⟩]

theorem failFast_lateSuccess :
    Obeys (BreakerCalls.step quickBreaker) BreakerCalls.Forward (.start ℕ 0) lateSuccess ∧
      ¬ Obeys (BreakerCalls.step quickBreaker) (BreakerCalls.FailFast quickBreaker) (.start ℕ 0)
        lateSuccess := by
  decide +kernel

/-- One call fails and opens the breaker; two calls arrive after it has cooled off. -/
def twoProbes : List (BreakerMove ℕ) :=
  [⟨0, .arrive 0⟩, ⟨1, .finish 0 fault⟩, ⟨40, .arrive 1⟩, ⟨40, .arrive 2⟩]

theorem singleProbe_twoProbes :
    ¬ Always (BreakerCalls.step quickBreaker) BreakerCalls.SingleProbe (.start ℕ 0) twoProbes := by
  intro h
  have halone := h.last.alone (by decide +kernel)
  revert halone
  decide +kernel

/-- Its second call succeeds, and its third one arrives, after the breaker has cooled off. -/
theorem failFast_of_inTime_demo :
    Obeys (BreakerCalls.step quickBreaker) (BreakerCalls.FailFast quickBreaker) (.start ℕ 0)
      [⟨0, .arrive 0⟩, ⟨0, .arrive 1⟩, ⟨1, .finish 0 fault⟩, ⟨31, .finish 1 (.ok ())⟩,
        ⟨31, .arrive 2⟩] := by
  exact BreakerCalls.failFast_of_inTime quickBreaker 0 _ (by decide +kernel)

end PaymentGateway
