/-
# Concurrent requests under one idempotency key

Any number of requests of one owner, with one `Idempotency-Key` and one body, each in its own
session.  The key is looked up before the operation and recorded after it, so the constraint
on the records protects the table but not the money: `atMostOnce_race` is a run of two
sessions that charge twice.

Every answer is the stored one in any case (`KeyedInv.answers`).  The provider makes at most
one operation if it deduplicates on the key itself, which is so for the creation of a payment
at Stripe; and otherwise as long as every call that takes effect is made while the lookup is
still true and no other request is between such a call and its end, and no request is rolled
back after such a call (`atMostOnce_of_obeys`).

One call of the gateway manager reaches the provider at most once here.  That is a condition too:
`execute` tries again when an attempt was not answered, and how often the operation then takes
effect is said in `Retries.lean` (`movesOnce_iff`).
-/
import PaymentGateway.Api

namespace PaymentGateway

open Transact

section Model

variable {ι C : Type}

/-- The provider: at each call of the gateway manager the environment chooses whether the request
reaches it, and how it is answered.  It takes effect once if it does, so that the retries of one
call are left to `movesOnce_iff`. -/
def providerHandler (reaches : C → Bool) (reaction : C → Reaction) (c : C) :
    Handler GatewayOp Exn Effects :=
  fun β op w => (reaction c β op, if reaches c then w.apply op.sentKey else w)

/-- The host of the requests: the tables, and providers that carry out what reaches them. -/
abbrev keyedHost (app : App) (reaches : C → Bool) (reaction : C → Reaction) :
    Host Tables Effects C GatewayOp Exn :=
  serviceHost app (providerHandler reaches reaction)

/-- The program of a request, once the user has been found out: the endpoint, under the key that
all requests share. -/
def keyedProg (app : App) (owner : User) (key : String) (post : Post) (env : Ambient) :
    ServiceProg StoredResponse :=
  post.handler app env owner (some key)

/-- The provider made at most one operation, and all requests that were answered have the
same response body. -/
structure AtMostOnce (s : System ι Tables Effects C GatewayOp Exn StoredResponse) : Prop where
  effects : s.world.count ≤ 1
  answers : ∀ i j a b, (s.session i).Committed a → (s.session j).Committed b → a.body = b.body

/-! ## The condition -/

/-- Some call of the session has reached the provider, so that its operation was carried out or
deduplicated there. -/
def TookEffect (reaches : C → Bool) (x : Session Tables C GatewayOp Exn StoredResponse) : Prop :=
  ∃ c ∈ x.choices, reaches c = true

/-- The move is a call that reaches the provider, so that the operation is carried out there. -/
def TakesEffect (reaches : C → Bool) (s : System ι Tables Effects C GatewayOp Exn StoredResponse)
    (m : Move ι C) : Prop :=
  (s.session m.session).AtCall ∧ reaches m.choice = true

/-- The provider deduplicates the operation by the key: a payment at Stripe.  The refunds are
sent without a key, and the mock provider looks at none. -/
def Deduplicated (post : Post) : Prop :=
  ∃ payload, post = .payment payload ∧ payload.provider = .stripe

/-- When a call reaches the provider nothing is recorded under the key, and no other request
is between a call that has and its end; and a request that has made such a call is not
rolled back.  That one call takes effect at most once is the part of the condition that
`providerHandler` has built in. -/
structure Unraced (app : App) (reaches : C → Bool) (reaction : C → Reaction) (owner : User)
    (key : String) (post : Post) (s : System ι Tables Effects C GatewayOp Exn StoredResponse)
    (m : Move ι C) : Prop where
  current : TakesEffect reaches s m →
    s.store.getIdempotencyKey owner.id post.endpoint key = .ok none
  alone : TakesEffect reaches s m → ∀ i, i ≠ m.session → (s.session i).InFlight →
    ¬ TookEffect reaches (s.session i)
  kept : TookEffect reaches (s.session m.session) →
    ¬ (s.session m.session).RollsBack (keyedHost app reaches reaction) s.store

section

variable [DecidableEq ι] [Fintype ι] (app : App) (reaches : C → Bool) (reaction : C → Reaction)
  (owner : User) (key : String) (post : Post)
  (s : System ι Tables Effects C GatewayOp Exn StoredResponse) (m : Move ι C)

instance (x : Session Tables C GatewayOp Exn StoredResponse) : Decidable (TookEffect reaches x) :=
  inferInstanceAs (Decidable (∃ c ∈ x.choices, reaches c = true))

instance : Decidable (TakesEffect reaches s m) := inferInstanceAs (Decidable (_ ∧ _))

instance : Decidable (Unraced app reaches reaction owner key post s m) :=
  decidable_of_iff
    ((TakesEffect reaches s m →
        s.store.getIdempotencyKey owner.id post.endpoint key = .ok none) ∧
      (TakesEffect reaches s m → ∀ i, i ≠ m.session → (s.session i).InFlight →
        ¬ TookEffect reaches (s.session i)) ∧
      (TookEffect reaches (s.session m.session) →
        ¬ (s.session m.session).RollsBack (keyedHost app reaches reaction) s.store))
    ⟨fun ⟨a, b, c⟩ => ⟨a, b, c⟩, fun ⟨a, b, c⟩ => ⟨a, b, c⟩⟩

end

/-- The key is not empty, and the provider deduplicates or the move is not part of a race. -/
def Safe (app : App) (reaches : C → Bool) (reaction : C → Reaction) (owner : User)
    (key : String) (post : Post) (s : System ι Tables Effects C GatewayOp Exn StoredResponse)
    (m : Move ι C) : Prop :=
  key ≠ "" ∧ (Deduplicated post ∨ Unraced app reaches reaction owner key post s m)

end Model

/-! ## The answers -/

section Answers

variable {ι C : Type} [DecidableEq ι] {app : App} {reaches : C → Bool} {reaction : C → Reaction}
  {owner : User} {key : String} {post : Post} {env : ι → Ambient}

/-- The records of `d` are still there in `d'`, unchanged. -/
def KeepsRecords (d d' : Tables) : Prop := ∀ row ∈ d.idempotencyKeys, row ∈ d'.idempotencyKeys

/-- The answer is the one that is recorded under the key of the request. -/
def StoredAnswer (owner : User) (key : String) (post : Post) (a : StoredResponse) (t : Tables) :
    Prop :=
  ∃ row ∈ t.idempotencyKeys, row.under = (owner.id, post.endpoint, key) ∧
    a = ⟨row.responseStatus, row.responseBody⟩

lemma StoredAnswer.mono {a : StoredResponse} {d d' : Tables} (h : StoredAnswer owner key post a d)
    (hkeep : KeepsRecords d d') : StoredAnswer owner key post a d' := by
  obtain ⟨row, hrow, hunder, ha⟩ := h
  exact ⟨row, hkeep row hrow, hunder, ha⟩

/-- Everything that a request can do. -/
lemma keyedProg_path {r : Ambient} {H : History Tables GatewayOp Exn}
    {x : Except Exn StoredResponse} (hkey : key ≠ "")
    (h : (keyedProg app owner key post r).Path [] H x) :
    RunsIdempotently app r owner.id post.endpoint key post.body
      (post.operation app r owner (some key)) [] H x := by
  rw [keyedProg, Post.handler_eq] at h
  have hgiven : given (some key) = true := by simpa [given] using hkey
  exact idempotently_path hgiven h

/-- What a request that returns publishes: nothing, if its answer was recorded already; or
the record of its answer. -/
lemma recorded_of_path {r : Ambient} {H : History Tables GatewayOp Exn} {a : StoredResponse}
    (hkey : key ≠ "") (h : (keyedProg app owner key post r).Path [] H (.ok a)) {t : Tables}
    (hread : ∀ d ∈ H.reads, KeepsRecords d t) :
    KeepsRecords t (view H.writes t) ∧ StoredAnswer owner key post a (view H.writes t) := by
  cases keyedProg_path hkey h with
  | @replayed d row found same =>
    rw [getIdempotencyKey_eq] at found
    obtain ⟨hmem, hunder⟩ := mem_of_filter_eq_singleton (scalarOneOrNone_eq_some.1 found)
    have hrow := hread d (by simp) row hmem
    exact ⟨fun _ h => h, row, hrow, of_decide_eq_true hunder, rfl⟩
  | @stored d K d' b unused ran =>
    have hkeys := (operation_path ran).2 t
    generalize hrow : newIdempotencyKey app r owner.id post.endpoint key post.body 201 b = row
    have hview : (view (History.ofRead d ++ (K ++ (History.ofWrite (storing app r owner.id
        post.endpoint key post.body 201 b) ++ History.ofRead d'))).writes t).idempotencyKeys =
          t.idempotencyKeys ++ [row] := by
      simp [storing, hkeys, hrow]
    refine ⟨fun row' hrow' => ?_, row, ?_, ?_, ?_⟩
    · rw [hview]
      exact List.mem_append_left _ hrow'
    · rw [hview]
      exact List.mem_append_right _ (List.mem_singleton_self _)
    · rw [← hrow]
      rfl
    · rw [← hrow]
      rfl

/-- A request calls the provider at most once, with its key. -/
lemma callsWith_of_path {r : Ambient} {H : History Tables GatewayOp Exn}
    {x : Except Exn StoredResponse} (hkey : key ≠ "")
    (h : (keyedProg app owner key post r).Path [] H x) :
    CallsWith (post.sentKey (some key)) H.calls := by
  cases keyedProg_path hkey h with
  | refused => exact callsWith_nil _
  | replayed => exact callsWith_nil _
  | raised unused ran => simpa using operation_calls ran
  | rejected unused ran => simpa using operation_calls ran
  | stored unused ran => simpa using operation_calls ran

/-- What holds in every interleaving: the records stay, and every answer is recorded. -/
structure KeyedInv (app : App) (owner : User) (key : String) (post : Post) (env : ι → Ambient)
    (s : System ι Tables Effects C GatewayOp Exn StoredResponse) : Prop where
  sound : s.Sound Tables.Unique KeepsRecords fun i => keyedProg app owner key post (env i)
  recorded : ∀ i a, (s.session i).Committed a → StoredAnswer owner key post a s.store
  matched : ∀ i, (s.session i).Matched

variable {s : System ι Tables Effects C GatewayOp Exn StoredResponse} {m : Move ι C}

lemma KeyedInv.step (h : KeyedInv app owner key post env s) (hkey : key ≠ "")
    (hunique : ∀ t, app.accepts t = true → t.Unique) :
    KeyedInv app owner key post env (System.step (keyedHost app reaches reaction) s m) := by
  -- a commit records its answer, and drops no row that was there
  have hpublish : ∀ a, System.Publishes (keyedHost app reaches reaction) s m a →
      KeepsRecords s.store (view (s.session m.session).history.writes s.store) ∧
        StoredAnswer owner key post a (view (s.session m.session).history.writes s.store) :=
    fun a ha => recorded_of_path hkey (h.sound.path_of_publishes ha) fun d hd =>
      (h.sound.reads _ d hd).2
  have hsound := System.sound_step (fun d _ row hrow => hrow)
    (fun a b c hab hbc row hrow => hbc row (hab row hrow)) h.sound
    fun a ha => ⟨hunique _ ha.2, (hpublish a ha).1⟩
  refine ⟨hsound, fun i a ha => ?_, fun i => ?_⟩
  · -- either nothing is published, or the session of this move has committed
    rcases System.store_step (h := keyedHost app reaches reaction) (s := s) (m := m) with
      ⟨hstore, -, hsame⟩ | ⟨b, hb, hstore, hsession⟩
    · rw [hstore]
      by_cases hi : i = m.session
      · subst hi
        rw [hsame a ha] at ha
        exact h.recorded _ a ha
      · rw [System.step_session_of_ne _ _ _ hi] at ha
        exact h.recorded i a ha
    · rw [hstore]
      by_cases hi : i = m.session
      · subst hi
        obtain rfl : b = a := by
          rw [hsession] at ha
          simpa [Session.Committed] using ha
        exact (hpublish b hb).2
      · rw [System.step_session_of_ne _ _ _ hi] at ha
        exact (h.recorded i a ha).mono (hpublish b hb).1
  · by_cases hi : i = m.session
    · subst hi
      rw [System.step_session_self]
      exact (h.matched _).advance
    · rw [System.step_session_of_ne _ _ _ hi]
      exact h.matched i

omit [DecidableEq ι] in
/-- All requests that were answered have the same answer. -/
lemma KeyedInv.answers (h : KeyedInv app owner key post env s) {i j : ι} {a b : StoredResponse}
    (ha : (s.session i).Committed a) (hb : (s.session j).Committed b) : a = b := by
  obtain ⟨row, hrow, hunder, rfl⟩ := h.recorded i a ha
  obtain ⟨row', hrow', hunder', rfl⟩ := h.recorded j b hb
  have hnodup : (s.store.idempotencyKeys.map IdempotencyKey.under).Nodup :=
    h.sound.store.ownerEndpointKey
  obtain rfl := eq_of_key_eq hnodup hrow hrow' (hunder.trans hunder'.symm)
  rfl

end Answers

/-! ## The effects -/

section Effects

variable {ι C : Type} [DecidableEq ι] {app : App} {reaches : C → Bool} {reaction : C → Reaction}
  {owner : User} {key : String} {post : Post} {env : ι → Ambient}
  {s : System ι Tables Effects C GatewayOp Exn StoredResponse} {m : Move ι C}

omit [DecidableEq ι] in
/-- The call that a session is about to make is its first, and is sent with the key of the
request. -/
lemma KeyedInv.first_call (h : KeyedInv app owner key post env s) (hkey : key ≠ "") {i : ι}
    {β : Type} {op : GatewayOp β} {k : Except Exn β → ServiceProg StoredResponse}
    (hcall : (s.session i).status = .running (.call op k)) :
    (s.session i).choices = [] ∧ op.sentKey = post.sentKey (some key) := by
  obtain ⟨K, r, hpath⟩ := (h.sound.follows i).of_call Tables.empty .cancelled hcall
  obtain ⟨honce, hsent⟩ := callsWith_of_path hkey hpath
  have hmatched : (s.session i).choices.length = (s.session i).history.calls.length := h.matched i
  simp only [History.calls_append, History.calls_ofCall, List.length_append,
    List.length_singleton] at honce
  refine ⟨List.eq_nil_of_length_eq_zero (by omega), ?_⟩
  exact hsent ⟨op, .error .cancelled⟩ (by simp)

/-- The provider deduplicates: it made at most one operation, whatever the interleaving. -/
lemma onceUnder_step (h : KeyedInv app owner key post env s) (hkey : key ≠ "")
    (hpost : Deduplicated post) (honce : s.world.OnceUnder key) :
    (System.step (keyedHost app reaches reaction) s m).world.OnceUnder key := by
  obtain ⟨payload, rfl, hstripe⟩ := hpost
  rcases System.world_step (h := keyedHost app reaches reaction) (s := s) (m := m) with
    ⟨-, hworld, -⟩ | ⟨β, op, k, hcall, hworld, -, -⟩
  · rwa [hworld]
  · have hsent : op.sentKey = some key := by
      rw [(h.first_call hkey hcall).2, Post.sentKey, if_pos ⟨hstripe, by simpa [given] using hkey⟩]
    rw [hworld]
    show (if reaches m.choice then s.world.apply op.sentKey else s.world).OnceUnder key
    split
    · rw [hsent]
      exact honce.apply
    · exact honce

/-- Nothing has reached the provider, or one call has, whose request is in flight or was
answered. -/
def OneEffect (reaches : C → Bool) (s : System ι Tables Effects C GatewayOp Exn StoredResponse) :
    Prop :=
  s.world.count = 0 ∧ (∀ i, ¬ TookEffect reaches (s.session i)) ∨
    s.world.count ≤ 1 ∧ ∃ i, TookEffect reaches (s.session i) ∧
      ((s.session i).InFlight ∨ ∃ a, (s.session i).Committed a)

omit [DecidableEq ι] in
/-- A request that was answered left its record. -/
lemma KeyedInv.not_unused (h : KeyedInv app owner key post env s) {i : ι} {a : StoredResponse}
    (ha : (s.session i).Committed a) :
    s.store.getIdempotencyKey owner.id post.endpoint key ≠ .ok none := by
  obtain ⟨row, hrow, hunder, -⟩ := h.recorded i a ha
  rw [getIdempotencyKey_eq, ne_eq, scalarOneOrNone_eq_none, List.filter_eq_nil_iff]
  intro hno
  exact hno row hrow (by simpa using hunder)

variable (app reaction) in
/-- A move that does not reach the provider. -/
lemma step_of_not_takesEffect (hno : ¬ TakesEffect reaches s m) :
    (System.step (keyedHost app reaches reaction) s m).world = s.world ∧
      ∀ i, TookEffect reaches ((System.step (keyedHost app reaches reaction) s m).session i) ↔
        TookEffect reaches (s.session i) := by
  have hself : (System.step (keyedHost app reaches reaction) s m).world = s.world ∧
      (TookEffect reaches ((System.step (keyedHost app reaches reaction) s m).session m.session) ↔
        TookEffect reaches (s.session m.session)) := by
    rcases System.world_step (h := keyedHost app reaches reaction) (s := s) (m := m) with
      ⟨-, hworld, hchoices⟩ | ⟨β, op, k, hcall, hworld, hchoices, -⟩
    · exact ⟨hworld, by simp only [TookEffect, hchoices]⟩
    · have hfalse : reaches m.choice = false := by
        by_contra hreach
        exact hno ⟨⟨β, op, k, hcall⟩, by simpa using hreach⟩
      refine ⟨?_, by simp [TookEffect, hchoices, hfalse]⟩
      rw [hworld]
      exact if_neg (by simp [hfalse])
  refine ⟨hself.1, fun i => ?_⟩
  by_cases hi : i = m.session
  · subst hi
    exact hself.2
  · rw [System.step_session_of_ne _ _ _ hi]

variable (app reaction) in
/-- A move that reaches the provider. -/
lemma step_of_takesEffect (hyes : TakesEffect reaches s m) :
    (System.step (keyedHost app reaches reaction) s m).world.count ≤ s.world.count + 1 ∧
      TookEffect reaches
        ((System.step (keyedHost app reaches reaction) s m).session m.session) ∧
      ((System.step (keyedHost app reaches reaction) s m).session m.session).InFlight := by
  rcases System.world_step (h := keyedHost app reaches reaction) (s := s) (m := m) with
    ⟨hno, -, -⟩ | ⟨β, op, k, hcall, hworld, hchoices, hflight⟩
  · exact absurd hyes.1 hno
  · refine ⟨?_, ⟨m.choice, by simp [hchoices], hyes.2⟩, hflight⟩
    rw [hworld]
    show (if reaches m.choice then s.world.apply op.sentKey else s.world).count ≤ _
    rw [if_pos hyes.2]
    exact Effects.count_apply_le _ _

/-- Outside races at most one call reaches the provider. -/
lemma OneEffect.step (he : OneEffect reaches s) (h : KeyedInv app owner key post env s)
    (hkey : key ≠ "") (hok : Unraced app reaches reaction owner key post s m) :
    OneEffect reaches (System.step (keyedHost app reaches reaction) s m) := by
  by_cases hyes : TakesEffect reaches s m
  · -- it is the first: an earlier one would be in flight, or recorded
    obtain ⟨hcount, htook, hflight⟩ := step_of_takesEffect app reaction hyes
    rcases he with ⟨hzero, -⟩ | ⟨-, i, hi, hend⟩
    · exact Or.inr ⟨by omega, m.session, htook, Or.inl hflight⟩
    · exfalso
      by_cases him : i = m.session
      · subst him
        obtain ⟨β, op, k, hcall⟩ := hyes.1
        obtain ⟨c, hc, -⟩ := hi
        rw [(h.first_call hkey hcall).1] at hc
        cases hc
      · rcases hend with hin | ⟨a, ha⟩
        · exact hok.alone hyes i him hin hi
        · exact h.not_unused ha (hok.current hyes)
  · obtain ⟨hworld, htook⟩ := step_of_not_takesEffect app reaction hyes
    rcases he with ⟨hzero, hnone⟩ | ⟨hone, i, hi, hend⟩
    · exact Or.inl ⟨by rw [hworld]; exact hzero, fun i hi => hnone i ((htook i).1 hi)⟩
    · refine Or.inr ⟨by rw [hworld]; exact hone, i, (htook i).2 hi, ?_⟩
      by_cases him : i = m.session
      · subst him
        rcases hend with hin | ⟨a, ha⟩
        · rw [System.step_session_self]
          exact hin.advance (hok.kept hi)
        · rw [System.step_session_of_committed ha]
          exact Or.inr ⟨a, ha⟩
      · rw [System.step_session_of_ne _ _ _ him]
        exact hend

/-- **At most one execution per key, under concurrency.**  In every interleaving of any number
of requests under one key, whatever the provider does, the operation takes effect at most
once and all answers are the same, if the provider deduplicates it or no move is part of a
race. -/
theorem atMostOnce_of_obeys (hunique : ∀ t, app.accepts t = true → t.Unique) {t : Tables}
    (ht : t.Unique) (keys : List String) (moves : List (Move ι C))
    (h : Obeys (System.step (keyedHost app reaches reaction))
      (Safe app reaches reaction owner key post)
      (System.start t ⟨keys, 0⟩ fun i => keyedProg app owner key post (env i)) moves) :
    Always (System.step (keyedHost app reaches reaction)) AtMostOnce
      (System.start t ⟨keys, 0⟩ fun i => keyedProg app owner key post (env i)) moves := by
  have hstart : KeyedInv app owner key post env
      (System.start t ⟨keys, 0⟩ fun i => keyedProg app owner key post (env i) :
        System ι Tables Effects C GatewayOp Exn StoredResponse) :=
    ⟨System.sound_start ht, fun i a ha => (by cases ha), fun i => rfl⟩
  by_cases hpost : Deduplicated post
  · refine (always_of_obeys (I := fun s => KeyedInv app owner key post env s ∧
      s.world.OnceUnder key) (fun s m hs hok => ⟨hs.1.step hok.1 hunique,
        onceUnder_step hs.1 hok.1 hpost hs.2⟩) ⟨hstart, Or.inl rfl⟩ h).mono fun s hs => ?_
    refine ⟨?_, fun i j a b ha hb => congrArg StoredResponse.body (hs.1.answers ha hb)⟩
    rcases hs.2 with hzero | ⟨hone, -⟩ <;> omega
  · have hnone : ∀ i, ¬ TookEffect reaches ((System.start t ⟨keys, 0⟩ fun i =>
        keyedProg app owner key post (env i) :
          System ι Tables Effects C GatewayOp Exn StoredResponse).session i) := by
      rintro i ⟨c, hc, -⟩
      cases hc
    refine (always_of_obeys (I := fun s => KeyedInv app owner key post env s ∧
      OneEffect reaches s) (fun s m hs hok => ⟨hs.1.step hok.1 hunique,
        hs.2.step hs.1 hok.1 (hok.2.resolve_left hpost)⟩)
          ⟨hstart, Or.inl ⟨rfl, hnone⟩⟩ h).mono fun s hs => ?_
    refine ⟨?_, fun i j a b ha hb => congrArg StoredResponse.body (hs.1.answers ha hb)⟩
    rcases hs.2 with ⟨hzero, -⟩ | ⟨hone, -⟩ <;> omega

end Effects

/-! ## Two requests for one payment -/

/-- The mock provider, which makes up a new reference for each session. -/
def raceReaction (i : Bool) : Reaction := mockReaction (if i then "mock_pay_2" else "mock_pay_1")

/-- Two requests with one key, before either has looked the key up. -/
def raceStart (provider : ProviderName) :
    System Bool Tables Effects Bool GatewayOp Exn StoredResponse :=
  .start stripeTables ⟨[], 0⟩ fun i =>
    keyedProg demoApp demoUser "order-1" (.payment (demoPayload provider))
      (demoEnv (if i then 3 else 2))

/-- Both look the key up; then the one runs for `n` steps, and then the other.  Every call
reaches the provider. -/
def raceMoves (n : ℕ) : List (Move Bool Bool) := (race n).map fun m => ⟨m.session, m.session⟩

/-- The one request runs to its end, and then the other. -/
def turnMoves : List (Move Bool Bool) :=
  (List.replicate 14 false ++ List.replicate 4 true).map fun i => ⟨i, i⟩

/-- The theorem on the two requests, one after the other. -/
theorem atMostOnce_of_obeys_demo :
    Always (System.step (keyedHost demoApp (fun _ => true) raceReaction)) AtMostOnce
      (raceStart .mock) turnMoves :=
  have hturns : Obeys (System.step (keyedHost demoApp (fun _ => true) raceReaction))
      (Unraced demoApp (fun _ => true) raceReaction demoUser "order-1"
        (.payment (demoPayload .mock))) (raceStart .mock) turnMoves := by decide +kernel
  atMostOnce_of_obeys demoApp_unique (by decide) [] turnMoves
    (hturns.mono fun _ _ hok => ⟨by decide, Or.inr hok⟩)

/-- Both requests charge at the mock provider, and the second is refused afterwards. -/
theorem atMostOnce_race :
    ¬ Always (System.step (keyedHost demoApp (fun _ => true) raceReaction)) AtMostOnce
      (raceStart .mock) (raceMoves 12) := by
  intro h
  have htwo : (run (System.step (keyedHost demoApp (fun _ => true) raceReaction))
      (raceStart .mock) (raceMoves 12)).world.count = 2 := by decide
  have hone := h.last.effects
  rw [htwo] at hone
  exact absurd hone (by decide)

end PaymentGateway
