/-
# Windows of the rate limiter

Hits on any keys, at the times of a clock that does not run backwards.  The windows of a key
are its own: the first hit opens one, and so does every hit that comes when the last one is
over.  Two windows are at least a window length apart, so that an interval of that length
meets at most two of them.  The main results are

* `rateLimiter_windows`: at most `limit` hits are allowed in a window and `2 * limit` in an
  interval, a hit is rejected only when its window is used up, and no key sees another one;
* `retryAfter_tight`: a rejected client that comes back after `Retry-After` is allowed again,
  and one that comes back before its window is over is not.
-/
import Mathlib.Data.Rat.Floor
import Mathlib.Tactic.Linarith
import PaymentGateway.Lib.Runs
import PaymentGateway.Middleware.RateLimit

namespace PaymentGateway

open Transact

/-! ## Runs -/

/-- A call of `hit`: the time that the clock shows, and the key. -/
structure Hit where
  time : Seconds
  key : String
deriving DecidableEq

/-- A hit that was counted, with the start of the window that it falls into and the answer. -/
structure Counted where
  hit : Hit
  start : Seconds
  result : RateLimitResult
deriving DecidableEq

/-- The buckets of the limiter, and the hits so far with what became of them. -/
structure Traffic where
  buckets : Buckets
  counted : List Counted

namespace Traffic

/-- The limiter before its first hit. -/
def start : Traffic := ⟨fun _ => none, []⟩

variable (limiter : RateLimiter) (s : Traffic) (c : Hit)

/-- What becomes of a hit: its window is the current one of its key, and the limiter answers. -/
def count : Counted :=
  ⟨c, (limiter.current c.time (s.buckets c.key)).1, (limiter.hit c.key c.time s.buckets).1⟩

/-- The limiter is hit, and the hit is added to those that were counted. -/
def step : Traffic :=
  { buckets := (limiter.hit c.key c.time s.buckets).2
    counted := s.counted ++ [s.count limiter c] }

/-- The hits on a key since a time, that time included. -/
def since (key : String) (time : Seconds) : List Counted :=
  s.counted.filter fun e => e.hit.key = key ∧ time ≤ e.hit.time

/-- The hits on a key that were allowed in the window that has started then. -/
def allowedIn (key : String) (start : Seconds) : List Counted :=
  s.counted.filter fun e => e.hit.key = key ∧ e.start = start ∧ e.result.allowed = true

/-- The hits on a key that were allowed in an interval of time, both ends included. -/
def allowedBetween (key : String) (first last : Seconds) : List Counted :=
  s.counted.filter fun e => e.hit.key = key ∧ (first ≤ e.hit.time ∧ e.hit.time ≤ last) ∧
    e.result.allowed = true

/-- The clock has not run backwards: no earlier hit was at a later time. -/
def InOrder : Prop := ∀ e ∈ s.counted, e.hit.time ≤ c.time

/-- A hit is allowed as long as its window is not used up, and is told what is left of it. -/
def Exact : Prop :=
  ((s.count limiter c).result.allowed = true ↔
      ((s.since c.key (s.count limiter c).start).length : ℤ) < limiter.limit) ∧
    (s.count limiter c).result.remaining =
      max 0 (limiter.limit - ((s.since c.key (s.count limiter c).start).length + 1))

/-- The hits on a key fall into windows: each lies in a window of the length that is set, which
was opened by a hit on the key and is not over yet, and two windows do not overlap. -/
structure Windows (limiter : RateLimiter) (s : Traffic) : Prop where
  within : ∀ e ∈ s.counted, e.start ≤ e.hit.time ∧ e.hit.time < e.start + limiter.window
  apart : ∀ e ∈ s.counted, ∀ e' ∈ s.counted, e.hit.key = e'.hit.key → e.start = e'.start ∨
    e.start + limiter.window ≤ e'.start ∨ e'.start + limiter.window ≤ e.start
  opened : ∀ e ∈ s.counted, ∃ o ∈ s.counted, o.hit = ⟨e.start, e.hit.key⟩ ∧ o.start = e.start

end Traffic

/-! ## The invariant -/

namespace Traffic

/-- No window has been opened before its first hit. -/
def Started (s : Traffic) : Prop :=
  ∀ key start count, s.buckets key = some (start, count) → ∃ e ∈ s.counted, start ≤ e.hit.time

/-- The windows of a key, and the bucket that holds the last one. -/
structure Inv (limiter : RateLimiter) (s : Traffic) : Prop extends s.Windows limiter where
  started : s.Started
  /-- The window in a bucket has been opened by a hit on its key. -/
  bucket : ∀ key start count, s.buckets key = some (start, count) →
    ∃ o ∈ s.counted, o.hit = ⟨start, key⟩ ∧ o.start = start
  unused : ∀ key, s.buckets key = none → ∀ e ∈ s.counted, e.hit.key ≠ key
  last : ∀ key start count, s.buckets key = some (start, count) →
    count = (s.since key start).length ∧
      ∀ e ∈ s.counted, e.hit.key = key → e.start = start ∨ e.start + limiter.window ≤ start
  allowed : ∀ key start, ((s.allowedIn key start).length : ℤ) ≤ max 0 limiter.limit

variable {limiter : RateLimiter} {s : Traffic} {c : Hit}

lemma started_start : start.Started := fun _ _ _ h => by cases h

lemma inv_start : start.Inv limiter where
  started := started_start
  within e he := by cases he
  apart e he := by cases he
  opened e he := by cases he
  bucket _ _ _ h := by cases h
  unused _ _ e he := by cases he
  last _ _ _ h := by cases h
  allowed _ _ := Int.le_max_left 0 _

lemma current_none (now : Seconds) : limiter.current now none = (now, 0) := by
  rw [RateLimiter.current]
  exact ite_self _

lemma step_buckets_self : (s.step limiter c).buckets c.key =
    some ((s.count limiter c).start, (limiter.current c.time (s.buckets c.key)).2 + 1) :=
  limiter.hit_buckets_self c.key c.time s.buckets

lemma step_buckets_of_ne {key : String} (h : key ≠ c.key) :
    (s.step limiter c).buckets key = s.buckets key :=
  limiter.hit_buckets_of_ne c.key c.time s.buckets h

lemma Started.step (h : s.Started) : (s.step limiter c).Started := by
  intro key start n hbucket
  by_cases hkey : key = c.key
  · rw [hkey, step_buckets_self] at hbucket
    cases hbucket
    rw [count, RateLimiter.current]
    dsimp only
    split
    · exact ⟨s.count limiter c, List.mem_append_right _ List.mem_cons_self, le_refl c.time⟩
    · cases hold : s.buckets c.key with
      | none =>
        exact ⟨s.count limiter c, List.mem_append_right _ List.mem_cons_self, le_refl c.time⟩
      | some bucket =>
        obtain ⟨e, he, hle⟩ := h c.key bucket.1 bucket.2 hold
        exact ⟨e, List.mem_append_left _ he, hle⟩
  · rw [step_buckets_of_ne hkey] at hbucket
    obtain ⟨e, he, hle⟩ := h key start n hbucket
    exact ⟨e, List.mem_append_left _ he, hle⟩

/-- The window of the next hit, and how many came before it. -/
lemma Inv.current (h : s.Inv limiter) (hwindow : 0 < limiter.window) (horder : s.InOrder c) :
    (limiter.current c.time (s.buckets c.key)).2 =
        (s.since c.key (s.count limiter c).start).length ∧
      (s.count limiter c).start ≤ c.time ∧
      c.time < (s.count limiter c).start + limiter.window ∧
      ∀ e ∈ s.counted, e.hit.key = c.key → e.start = (s.count limiter c).start ∨
        e.start + limiter.window ≤ (s.count limiter c).start := by
  have hpos : (0 : Seconds) < limiter.window := by exact_mod_cast hwindow
  rw [count]
  dsimp only
  cases hbucket : s.buckets c.key with
  | none =>
    have hempty : s.since c.key c.time = [] := by
      refine List.filter_eq_nil_iff.2 fun e he hmem => ?_
      exact h.unused c.key hbucket e he (of_decide_eq_true hmem).1
    rw [current_none, hempty]
    exact ⟨rfl, le_refl _, by linarith, fun e he hkey => absurd hkey (h.unused c.key hbucket e he)⟩
  | some bucket =>
    obtain ⟨start, n⟩ := bucket
    obtain ⟨hcount, hlast⟩ := h.last c.key start n hbucket
    rw [RateLimiter.current]
    dsimp only [Option.getD]
    by_cases hover : (limiter.window : Seconds) ≤ c.time - start
    · -- the last window is over: the hit opens the next one
      have hbefore : ∀ e ∈ s.counted, e.hit.key = c.key → e.start + limiter.window ≤ c.time := by
        intro e he hkey
        rcases hlast e he hkey with heq | hle
        · rw [heq]
          linarith
        · linarith
      have hempty : s.since c.key c.time = [] := by
        refine List.filter_eq_nil_iff.2 fun e he hmem => ?_
        obtain ⟨hkey, hlate⟩ := of_decide_eq_true hmem
        have hwithin := h.within e he
        have hover' := hbefore e he hkey
        linarith
      rw [if_pos hover, hempty]
      exact ⟨rfl, le_refl _, by linarith, fun e he hkey => Or.inr (hbefore e he hkey)⟩
    · obtain ⟨e, he, hstarted⟩ := h.started c.key start n hbucket
      have horder' := horder e he
      rw [if_neg hover]
      exact ⟨hcount, by linarith, by linarith, hlast⟩

/-- The window of the next hit was opened by a hit on its key, if not by this one. -/
lemma Inv.exists_opener (h : s.Inv limiter) : ∃ o ∈ (s.step limiter c).counted,
    o.hit = ⟨(s.count limiter c).start, c.key⟩ ∧ o.start = (s.count limiter c).start := by
  have hself : s.count limiter c ∈ (s.step limiter c).counted :=
    List.mem_append_right _ List.mem_cons_self
  by_cases hnew : (s.count limiter c).start = c.time
  · exact ⟨s.count limiter c, hself, by rw [hnew]; rfl, rfl⟩
  · cases hbucket : s.buckets c.key with
    | none =>
      refine absurd ?_ hnew
      rw [count, hbucket, current_none]
    | some bucket =>
      obtain ⟨start, n⟩ := bucket
      have hstart : (s.count limiter c).start = start := by
        rw [count, RateLimiter.current] at hnew ⊢
        rw [hbucket] at hnew ⊢
        dsimp only [Option.getD] at hnew ⊢
        split at hnew <;> rename_i hover
        · exact absurd rfl hnew
        · rw [if_neg hover]
      obtain ⟨o, ho, hopened⟩ := h.bucket c.key start n hbucket
      exact ⟨o, List.mem_append_left _ ho, hstart ▸ hopened⟩

/-- A hit is allowed while its window is not used up. -/
lemma Inv.exact (h : s.Inv limiter) (hwindow : 0 < limiter.window) (horder : s.InOrder c) :
    s.Exact limiter c := by
  obtain ⟨hcount, -⟩ := h.current hwindow horder
  have hallowed := limiter.hit_allowed_iff c.key c.time s.buckets
  rw [hcount] at hallowed
  refine ⟨hallowed.trans ⟨fun hlt => by omega, fun hlt => by omega⟩, ?_⟩
  show (limiter.hit c.key c.time s.buckets).1.remaining = _
  rw [← hcount, RateLimiter.hit]
  dsimp only
  split
  · rename_i hover
    push_cast at hover
    show (0 : ℤ) = _
    omega
  · push_cast
    rfl

/-- A window has seen at least the hits that it has allowed. -/
lemma Inv.allowedIn_le_since (h : s.Inv limiter) (key : String) (start : Seconds) :
    (s.allowedIn key start).length ≤ (s.since key start).length := by
  rw [allowedIn, since, ← List.countP_eq_length_filter, ← List.countP_eq_length_filter]
  refine List.countP_mono_left fun e he hmem => ?_
  obtain ⟨hkey, hstart, -⟩ := of_decide_eq_true hmem
  exact decide_eq_true ⟨hkey, hstart ▸ (h.within e he).1⟩

lemma since_step (key : String) (time : Seconds) :
    (s.step limiter c).since key time =
      s.since key time ++ if c.key = key ∧ time ≤ c.time then [s.count limiter c] else [] := by
  rw [since, step, List.filter_append, List.filter_cons, List.filter_nil]
  simp only [decide_eq_true_eq]
  rfl

lemma allowedIn_step (key : String) (start : Seconds) :
    (s.step limiter c).allowedIn key start = s.allowedIn key start ++
      if c.key = key ∧ (s.count limiter c).start = start ∧
          (s.count limiter c).result.allowed = true
        then [s.count limiter c] else [] := by
  rw [allowedIn, step, List.filter_append, List.filter_cons, List.filter_nil]
  simp only [decide_eq_true_eq]
  rfl

/-- A window that has allowed `limit` hits allows no more. -/
lemma Inv.allowed_step (h : s.Inv limiter) (hexact : s.Exact limiter c) (key : String)
    (start : Seconds) :
    (((s.step limiter c).allowedIn key start).length : ℤ) ≤ max 0 limiter.limit := by
  have hold := h.allowed key start
  rw [allowedIn_step]
  split
  · rename_i hcounted
    obtain ⟨rfl, rfl, hallowed⟩ := hcounted
    have hbelow := hexact.1.1 hallowed
    have hsince := h.allowedIn_le_since c.key (s.count limiter c).start
    rw [List.length_append, List.length_singleton]
    push_cast
    omega
  · rw [List.append_nil]
    exact hold

/-- **A hit keeps the invariant.** -/
lemma Inv.step (h : s.Inv limiter) (hwindow : 0 < limiter.window) (horder : s.InOrder c) :
    (s.step limiter c).Inv limiter := by
  obtain ⟨hcount, hstart, hend, hlast⟩ := h.current hwindow horder
  have hmem : ∀ e ∈ (s.step limiter c).counted, e ∈ s.counted ∨ e = s.count limiter c := by
    intro e he
    exact (List.mem_append.1 he).imp id List.mem_singleton.1
  refine ⟨⟨fun e he => ?_, fun e he e' he' hkey => ?_, fun e he => ?_⟩, h.started.step,
    fun key start n hbucket => ?_, fun key hnone e he hkey => ?_, fun key start n hbucket => ?_,
    h.allowed_step (h.exact hwindow horder)⟩
  · -- every hit lies in its window
    rcases hmem e he with he | rfl
    · exact h.within e he
    · exact ⟨hstart, hend⟩
  · -- a new window starts after the end of the last one
    rcases hmem e he with he | rfl
    · rcases hmem e' he' with he' | rfl
      · exact h.apart e he e' he' hkey
      · exact (hlast e he hkey).imp id Or.inl
    · rcases hmem e' he' with he' | rfl
      · exact (hlast e' he' hkey.symm).imp Eq.symm Or.inr
      · exact Or.inl rfl
  · -- and was opened by a hit on the key
    rcases hmem e he with he | rfl
    · obtain ⟨o, ho, hopened⟩ := h.opened e he
      exact ⟨o, List.mem_append_left _ ho, hopened⟩
    · exact h.exists_opener
  · -- so was the one in the bucket
    by_cases hkey : key = c.key
    · subst hkey
      rw [step_buckets_self] at hbucket
      obtain ⟨rfl, -⟩ := Prod.mk.inj (Option.some.inj hbucket)
      exact h.exists_opener
    · rw [step_buckets_of_ne hkey] at hbucket
      obtain ⟨o, ho, hopened⟩ := h.bucket key start n hbucket
      exact ⟨o, List.mem_append_left _ ho, hopened⟩
  · -- a key without a bucket has had no hit
    have hne : key ≠ c.key := by
      intro heq
      rw [heq, step_buckets_self] at hnone
      cases hnone
    rw [step_buckets_of_ne hne] at hnone
    rcases hmem e he with he | rfl
    · exact h.unused key hnone e he hkey
    · exact hne hkey.symm
  · -- the bucket counts the hits since the start of its window
    by_cases hkey : key = c.key
    · subst hkey
      rw [step_buckets_self] at hbucket
      obtain ⟨rfl, rfl⟩ := Prod.mk.inj (Option.some.inj hbucket)
      rw [since_step, if_pos ⟨rfl, hstart⟩, List.length_append, hcount]
      refine ⟨rfl, fun e he hkey => ?_⟩
      rcases hmem e he with he | rfl
      · exact hlast e he hkey
      · exact Or.inl rfl
    · rw [step_buckets_of_ne hkey] at hbucket
      obtain ⟨hn, hbefore⟩ := h.last key start n hbucket
      rw [since_step, if_neg fun hc => hkey hc.1.symm, List.append_nil]
      refine ⟨hn, fun e he heq => ?_⟩
      rcases hmem e he with he | rfl
      · exact hbefore e he heq
      · exact absurd heq.symm hkey

/-- Hits at the times of a clock. -/
lemma obeys_inOrder {hits : List Hit} (h : hits.Pairwise fun c c' => c.time ≤ c'.time)
    (hs : ∀ c ∈ hits, s.InOrder c) : Obeys (step limiter) InOrder s hits := by
  induction hits generalizing s with
  | nil => trivial
  | cons c hits ih =>
    obtain ⟨hfirst, hrest⟩ := List.pairwise_cons.1 h
    refine ⟨hs c List.mem_cons_self, ih hrest fun c' hc' e he => ?_⟩
    rcases List.mem_append.1 he with he | he
    · exact hs c' (List.mem_cons_of_mem c hc') e he
    · rw [List.mem_singleton.1 he]
      exact hfirst c' hc'

end Traffic

/-! ## Intervals -/

/-- If among any three members of a list two have the same value, there are at most two
values. -/
lemma two_values {α β : Type*} {f : α → β} {l : List α}
    (h : ∀ a ∈ l, ∀ b ∈ l, ∀ c ∈ l, f a = f b ∨ f b = f c ∨ f a = f c) (hne : l ≠ []) :
    ∃ x y, ∀ a ∈ l, f a = x ∨ f a = y := by
  obtain ⟨a, ha⟩ := List.exists_mem_of_ne_nil l hne
  by_cases hother : ∃ b ∈ l, f b ≠ f a
  · obtain ⟨b, hb, hne⟩ := hother
    refine ⟨f a, f b, fun c hc => ?_⟩
    rcases h a ha b hb c hc with heq | heq | heq
    · exact absurd heq.symm hne
    · exact Or.inr heq.symm
    · exact Or.inl heq.symm
  · push Not at hother
    exact ⟨f a, f a, fun c hc => Or.inl (hother c hc)⟩

lemma length_filter_le_add {α : Type*} {p q r : α → Bool} {l : List α}
    (h : ∀ a ∈ l, p a = true → q a = true ∨ r a = true) :
    (l.filter p).length ≤ (l.filter q).length + (l.filter r).length := by
  induction l with
  | nil => simp
  | cons a l ih =>
    have hrest := ih fun b hb => h b (List.mem_cons_of_mem a hb)
    have hfirst := h a List.mem_cons_self
    simp only [List.filter_cons]
    split
    · rename_i hp
      rcases hfirst hp with hq | hr
      · rw [if_pos hq]
        split <;> simp only [List.length_cons] <;> omega
      · rw [if_pos hr]
        split <;> simp only [List.length_cons] <;> omega
    · split <;> split <;> (try simp only [List.length_cons]) <;> omega

namespace Traffic

variable {limiter : RateLimiter} {s : Traffic}

/-- An interval of the length of a window meets at most two windows of a key. -/
lemma Inv.two_windows (h : s.Inv limiter) {key : String} {first last : Seconds}
    (hlength : last - first ≤ limiter.window) :
    ∀ e ∈ s.allowedBetween key first last, ∀ e' ∈ s.allowedBetween key first last,
      ∀ e'' ∈ s.allowedBetween key first last,
        e.start = e'.start ∨ e'.start = e''.start ∨ e.start = e''.start := by
  have hbetween : ∀ e ∈ s.allowedBetween key first last, e ∈ s.counted ∧ e.hit.key = key ∧
      e.start ≤ last ∧ first < e.start + limiter.window := by
    intro e he
    obtain ⟨hmem, hsel⟩ := List.mem_filter.1 he
    obtain ⟨hkey, ⟨hfirst, hlast⟩, -⟩ := of_decide_eq_true hsel
    obtain ⟨hstart, hend⟩ := h.within e hmem
    exact ⟨hmem, hkey, by linarith, by linarith⟩
  intro e he e' he' e'' he''
  obtain ⟨hmem, hkey, hle, hlt⟩ := hbetween e he
  obtain ⟨hmem', hkey', hle', hlt'⟩ := hbetween e' he'
  obtain ⟨hmem'', hkey'', hle'', hlt''⟩ := hbetween e'' he''
  by_contra hno
  push Not at hno
  -- the first and the last of three windows are more than a window length apart
  have h12 := (h.apart e hmem e' hmem' (hkey.trans hkey'.symm)).resolve_left hno.1
  have h23 := (h.apart e' hmem' e'' hmem'' (hkey'.trans hkey''.symm)).resolve_left hno.2.1
  have h13 := (h.apart e hmem e'' hmem'' (hkey.trans hkey''.symm)).resolve_left hno.2.2
  rcases h12 with h12 | h12 <;> rcases h23 with h23 | h23 <;> rcases h13 with h13 | h13 <;>
    linarith

/-- The hits that were allowed in an interval of the length of a window. -/
lemma Inv.allowedBetween_le (h : s.Inv limiter) (hlimit : 0 ≤ limiter.limit) {key : String}
    {first last : Seconds} (hlength : last - first ≤ limiter.window) :
    ((s.allowedBetween key first last).length : ℤ) ≤ 2 * limiter.limit := by
  by_cases hne : s.allowedBetween key first last = []
  · rw [hne]
    show (0 : ℤ) ≤ _
    omega
  obtain ⟨x, y, hxy⟩ := two_values (h.two_windows hlength) hne
  have hx := h.allowed key x
  have hy := h.allowed key y
  have hsum : (s.allowedBetween key first last).length ≤
      (s.allowedIn key x).length + (s.allowedIn key y).length := by
    refine length_filter_le_add fun e he hsel => ?_
    obtain ⟨hkey, -, hallowed⟩ := of_decide_eq_true hsel
    rcases hxy e (List.mem_filter.2 ⟨he, hsel⟩) with heq | heq
    · exact Or.inl (decide_eq_true ⟨hkey, heq, hallowed⟩)
    · exact Or.inr (decide_eq_true ⟨hkey, heq, hallowed⟩)
  omega

end Traffic

/-! ## One key -/

/-- The hits on a key, counted among all the others, are counted as if they were alone. -/
lemma counted_eq_alone (limiter : RateLimiter) (hits : List Hit) (key : String) :
    (run (Traffic.step limiter) .start hits).counted.filter (fun e => e.hit.key = key) =
      (run (Traffic.step limiter) .start (hits.filter fun c => c.key = key)).counted := by
  let R : List Hit → Traffic → Traffic → Prop := fun _ s s' =>
    s.counted.filter (fun e => e.hit.key = key) = s'.counted ∧ s.buckets key = s'.buckets key
  have hidden : ∀ c hits s s', R (c :: hits) s s' → True → decide (c.key = key) = false →
      R hits (s.step limiter c) s' := by
    intro c hits s s' hR _ hother
    have hne : c.key ≠ key := of_decide_eq_false hother
    have hnil : [s.count limiter c].filter (fun e => e.hit.key = key) = [] := by
      simp [Traffic.count, hne]
    refine ⟨?_, by rw [Traffic.step_buckets_of_ne hne.symm, hR.2]⟩
    rw [Traffic.step, List.filter_append, hR.1, hnil, List.append_nil]
  have hshown : ∀ c hits s s', R (c :: hits) s s' → True → decide (c.key = key) = true →
      R hits (s.step limiter c) (s'.step limiter c) := by
    intro c hits s s' hR _ hsame
    obtain rfl : c.key = key := of_decide_eq_true hsame
    have hcount : s.count limiter c = s'.count limiter c := by
      rw [Traffic.count, Traffic.count, RateLimiter.hit, RateLimiter.hit, hR.2]
    constructor
    · rw [Traffic.step, Traffic.step, List.filter_append, hR.1, hcount,
        List.filter_cons_of_pos (by simp [Traffic.count]), List.filter_nil]
    · rw [Traffic.step_buckets_self, Traffic.step_buckets_self, hcount, hR.2]
  have hall : Obeys (Traffic.step limiter) (fun _ _ => True) .start hits :=
    obeys_of_forall fun _ _ => trivial
  exact (rel_of_hidden hidden hshown ⟨rfl, rfl⟩ hall).1

/-- **The windows.**  The hits on each key fall into windows of the length that is set, each of
them opened by a hit on the key.  At most `limit` hits are allowed in a window, and at most
twice as many in an interval of its length, wherever it starts; a hit is allowed exactly if fewer
than `limit` hits on its key came before it in its window, and is told what is left; and the
results of a key are those that it would get alone. -/
theorem rateLimiter_windows {limiter : RateLimiter} (hlimit : 1 ≤ limiter.limit)
    (hwindow : 0 < limiter.window) {hits : List Hit}
    (h : hits.Pairwise fun c c' => c.time ≤ c'.time) :
    (run (Traffic.step limiter) .start hits).Windows limiter ∧
      (∀ key start, (((run (Traffic.step limiter) .start hits).allowedIn key start).length : ℤ) ≤
        limiter.limit) ∧
      (∀ key (first last : Seconds), last - first ≤ limiter.window →
        (((run (Traffic.step limiter) .start hits).allowedBetween key first last).length : ℤ) ≤
          2 * limiter.limit) ∧
      Obeys (Traffic.step limiter) (Traffic.Exact limiter) .start hits ∧
      ∀ key, (run (Traffic.step limiter) .start hits).counted.filter (fun e => e.hit.key = key) =
        (run (Traffic.step limiter) .start (hits.filter fun c => c.key = key)).counted := by
  have horder : Obeys (Traffic.step limiter) Traffic.InOrder .start hits :=
    Traffic.obeys_inOrder h fun _ _ _ he => by cases he
  have hkeep : ∀ s c, Traffic.Inv limiter s → s.InOrder c → (s.step limiter c).Inv limiter :=
    fun s c hs hc => hs.step hwindow hc
  have hinv := (always_of_obeys hkeep Traffic.inv_start horder).last
  refine ⟨hinv.toWindows, fun key start => ?_,
    fun key first last => hinv.allowedBetween_le (by omega),
    obeys_of_obeys hkeep (fun s c hs hc => hs.exact hwindow hc) Traffic.inv_start horder,
    counted_eq_alone limiter hits⟩
  have hallowed := hinv.allowed key start
  omega

/-- Three hits on one key and one on another. -/
def demoHits : List Hit := [⟨0, "ip:a"⟩, ⟨1 / 2, "ip:a"⟩, ⟨1, "ip:b"⟩, ⟨60, "ip:a"⟩]

theorem rateLimiter_windows_demo :
    (run (Traffic.step ⟨1, 60⟩) .start demoHits).Windows ⟨1, 60⟩ ∧
      (∀ key start, (((run (Traffic.step ⟨1, 60⟩) .start demoHits).allowedIn key start).length : ℤ) ≤
        1) ∧
      (∀ key (first last : Seconds), last - first ≤ ((60 : ℤ) : Seconds) →
        (((run (Traffic.step ⟨1, 60⟩) .start demoHits).allowedBetween key first last).length : ℤ) ≤
          2 * 1) ∧
      Obeys (Traffic.step ⟨1, 60⟩) (Traffic.Exact ⟨1, 60⟩) .start demoHits ∧
      ∀ key,
        (run (Traffic.step ⟨1, 60⟩) .start demoHits).counted.filter (fun e => e.hit.key = key) =
          (run (Traffic.step ⟨1, 60⟩) .start (demoHits.filter fun c => c.key = key)).counted :=
  @rateLimiter_windows ⟨1, 60⟩ (by decide) (by decide) demoHits (by decide +kernel)

/-! ## Retry-After -/

/-- `int(x)`, for `x ≥ 0`. -/
lemma truncate_of_nonneg {x : Seconds} (h : 0 ≤ x) :
    0 ≤ truncate x ∧ (truncate x : Seconds) ≤ x ∧ x < truncate x + 1 := by
  have hfloor : truncate x = ⌊x⌋ := by
    rw [truncate, Rat.floor_def', Int.tdiv_eq_ediv_of_nonneg (Rat.num_nonneg.2 h)]
  rw [hfloor]
  exact ⟨Int.floor_nonneg.2 h, Int.floor_le x, Int.lt_floor_add_one x⟩

namespace Traffic

variable {limiter : RateLimiter} {s : Traffic} {c : Hit} {key : String} {start : Seconds}

/-- The window of a key, which has started then, is used up. -/
def Exhausted (limiter : RateLimiter) (key : String) (start : Seconds) (s : Traffic) : Prop :=
  ∃ n, s.buckets key = some (start, n) ∧ limiter.limit ≤ n

/-- A hit before the end of a window that is used up. -/
lemma Exhausted.rejected (h : s.Exhausted limiter c.key start)
    (ht : c.time < start + limiter.window) :
    (s.count limiter c).result.allowed = false ∧
      (s.step limiter c).Exhausted limiter c.key start := by
  obtain ⟨n, hbucket, hn⟩ := h
  have hcurrent : limiter.current c.time (s.buckets c.key) = (start, n) := by
    rw [hbucket, RateLimiter.current]
    exact if_neg (by simp only [Option.getD]; linarith)
  have hallowed := limiter.hit_allowed_iff c.key c.time s.buckets
  rw [hcurrent] at hallowed
  constructor
  · rw [← Bool.not_eq_true]
    intro hyes
    have hlimit := hallowed.1 hyes
    omega
  · refine ⟨n + 1, ?_, by push_cast; omega⟩
    rw [step_buckets_self, count, hcurrent]

/-- A hit after its end. -/
lemma Exhausted.allowed (h : s.Exhausted limiter c.key start) (hlimit : 1 ≤ limiter.limit)
    (ht : start + limiter.window ≤ c.time) : (s.count limiter c).result.allowed = true := by
  obtain ⟨n, hbucket, -⟩ := h
  have hcurrent : limiter.current c.time (s.buckets c.key) = (c.time, 0) := by
    rw [hbucket, RateLimiter.current]
    exact if_pos (by simp only [Option.getD]; linarith)
  refine (limiter.hit_allowed_iff c.key c.time s.buckets).2 ?_
  rw [hcurrent]
  simpa using hlimit

/-- Hits on other keys, and hits before the end of the window. -/
lemma Exhausted.run (h : s.Exhausted limiter key start) {hits : List Hit}
    (hbefore : ∀ c ∈ hits, c.key = key → c.time < start + limiter.window) :
    (run (step limiter) s hits).Exhausted limiter key start := by
  refine (always_of_obeys (I := Exhausted limiter key start) ?_ h (obeys_of_forall hbefore)).last
  intro s c hs hc
  by_cases hkey : c.key = key
  · subst hkey
    exact (hs.rejected (hc rfl)).2
  · obtain ⟨n, hbucket, hn⟩ := hs
    exact ⟨n, by rw [step_buckets_of_ne (Ne.symm hkey), hbucket], hn⟩

/-- What is known of a rejected hit. -/
lemma Started.rejected (h : s.Started) (horder : s.InOrder c) (hlimit : 1 ≤ limiter.limit)
    (hrejected : (s.count limiter c).result.allowed = false) :
    (s.count limiter c).start ≤ c.time ∧ c.time < (s.count limiter c).start + limiter.window ∧
      (s.count limiter c).result.retryAfter =
        truncate ((s.count limiter c).start + limiter.window - c.time) + 1 ∧
      (s.step limiter c).Exhausted limiter c.key (s.count limiter c).start := by
  have hover : limiter.limit < (limiter.current c.time (s.buckets c.key)).2 + 1 := by
    by_contra hno
    have hyes := (limiter.hit_allowed_iff c.key c.time s.buckets).2 (not_lt.1 hno)
    exact absurd (hyes.symm.trans hrejected) (by decide)
  obtain ⟨start, n, hbucket, hcurrent, hstart, hwindow⟩ : ∃ start n,
      s.buckets c.key = some (start, n) ∧ limiter.current c.time (s.buckets c.key) = (start, n) ∧
        start ≤ c.time ∧ c.time < start + limiter.window := by
    cases hbucket : s.buckets c.key with
    | none =>
      -- the first hit on a key is allowed
      rw [hbucket, current_none] at hover
      dsimp only at hover
      omega
    | some bucket =>
      obtain ⟨start, n⟩ := bucket
      obtain ⟨e, he, hstarted⟩ := h c.key start n hbucket
      have horder' := horder e he
      rw [hbucket, RateLimiter.current] at hover
      rw [RateLimiter.current]
      simp only [Option.getD] at hover ⊢
      by_cases hended : (limiter.window : Seconds) ≤ c.time - start
      · -- and so is the one that opens a window
        rw [if_pos hended] at hover
        dsimp only at hover
        omega
      · exact ⟨start, n, rfl, if_neg hended, by linarith, by linarith⟩
  rw [hcurrent] at hover
  have hcount : (s.count limiter c).start = start := congrArg Prod.fst hcurrent
  refine ⟨hcount ▸ hstart, hcount ▸ hwindow, ?_, n + 1, ?_, by push_cast; omega⟩
  · show (limiter.hit c.key c.time s.buckets).1.retryAfter = _
    have hrest : (limiter.window - (c.time - start) : Seconds) =
        start + limiter.window - c.time := by linarith
    rw [RateLimiter.hit, hcurrent, hcount]
    dsimp only
    rw [if_pos (by push_cast; omega), hrest]
  · rw [step_buckets_self, hcurrent, hcount]

/-- How long a rejected hit is told to wait: until after the end of its window. -/
lemma Started.retryAfter (h : s.Started) (horder : s.InOrder c) (hlimit : 1 ≤ limiter.limit)
    (hrejected : (s.count limiter c).result.allowed = false) :
    1 ≤ (s.count limiter c).result.retryAfter ∧
      (s.count limiter c).result.retryAfter ≤ limiter.window + 1 ∧
      (s.count limiter c).start + limiter.window <
        c.time + (s.count limiter c).result.retryAfter := by
  obtain ⟨hstart, hend, hretry, -⟩ := h.rejected horder hlimit hrejected
  obtain ⟨hpos, hle, hlt⟩ := truncate_of_nonneg (sub_nonneg.2 hend.le)
  have hwindow : (truncate ((s.count limiter c).start + limiter.window - c.time) : Seconds) ≤
      limiter.window := by linarith
  have hcast := Int.cast_le.1 hwindow
  rw [hretry]
  refine ⟨by omega, by omega, ?_⟩
  push_cast
  linarith

end Traffic

/-- **Retry-After.**  If a hit is rejected, it is told to wait between one second and a second
more than a window.  Whatever other hits come, the next one on its key is allowed after that
time, if in between none has come after the end of the window, and it is rejected as long as
the window lasts. -/
theorem retryAfter_tight {limiter : RateLimiter} (hlimit : 1 ≤ limiter.limit) {hits : List Hit}
    {c : Hit} (h : (hits ++ [c]).Pairwise fun d d' => d.time ≤ d'.time)
    (hrejected :
      ((run (Traffic.step limiter) .start hits).count limiter c).result.allowed = false) :
    let rejection := (run (Traffic.step limiter) .start hits).count limiter c
    (1 ≤ rejection.result.retryAfter ∧ rejection.result.retryAfter ≤ limiter.window + 1) ∧
      ∀ (more : List Hit) (next : Hit),
        (c :: (more ++ [next])).Pairwise (fun d d' => d.time ≤ d'.time) → next.key = c.key →
        let answer := (run (Traffic.step limiter) .start (hits ++ c :: more)).count limiter next
        (c.time + rejection.result.retryAfter ≤ next.time →
            (∀ d ∈ more, d.key = c.key → d.time < rejection.start + limiter.window) →
            answer.result.allowed = true) ∧
          (next.time < rejection.start + limiter.window → answer.result.allowed = false) := by
  intro rejection
  have hclock : Obeys (Traffic.step limiter) Traffic.InOrder .start (hits ++ [c]) :=
    Traffic.obeys_inOrder h fun _ _ _ he => by cases he
  have horder : (run (Traffic.step limiter) .start hits).InOrder c := hclock.rest.1
  have hstarted : (run (Traffic.step limiter) .start hits).Started :=
    (always_of_step (fun _ _ hs => hs.step) Traffic.started_start hits).last
  obtain ⟨hpos, hle, hafter⟩ := hstarted.retryAfter horder hlimit hrejected
  obtain ⟨-, -, -, hexhausted⟩ := hstarted.rejected horder hlimit hrejected
  refine ⟨⟨hpos, hle⟩, fun more next hmore hkey => ?_⟩
  intro answer
  have hanswer : answer = (run (Traffic.step limiter)
      ((run (Traffic.step limiter) .start hits).step limiter c) more).count limiter next := by
    show Traffic.count limiter (run (Traffic.step limiter) .start (hits ++ c :: more)) next = _
    rw [run_append, run_cons]
  rw [hanswer]
  rw [← hkey] at hexhausted
  constructor
  · intro hwait hbefore
    rw [← hkey] at hbefore
    exact (hexhausted.run hbefore).allowed hlimit (hafter.le.trans hwait)
  · intro hwithin
    have hbefore : ∀ d ∈ more, d.key = next.key → d.time < rejection.start + limiter.window := by
      intro d hd _
      have hlater := (List.pairwise_append.1 (List.pairwise_cons.1 hmore).2).2.2 d hd next
        List.mem_cons_self
      linarith
    exact ((hexhausted.run hbefore).rejected hwithin).1

/-- The second hit is told to come back in a minute, and the last one is allowed. -/
theorem retryAfter_tight_demo :
    let rejection := (run (Traffic.step ⟨1, 60⟩) .start [⟨0, "ip:a"⟩]).count ⟨1, 60⟩ ⟨1 / 2, "ip:a"⟩
    (1 ≤ rejection.result.retryAfter ∧ rejection.result.retryAfter ≤ 60 + 1) ∧
      ∀ (more : List Hit) (next : Hit),
        (⟨1 / 2, "ip:a"⟩ :: (more ++ [next])).Pairwise (fun d d' => d.time ≤ d'.time) →
        next.key = "ip:a" →
        let answer := (run (Traffic.step ⟨1, 60⟩) .start
          ([⟨0, "ip:a"⟩] ++ ⟨1 / 2, "ip:a"⟩ :: more)).count ⟨1, 60⟩ next
        (1 / 2 + rejection.result.retryAfter ≤ next.time →
            (∀ d ∈ more, d.key = "ip:a" → d.time < rejection.start + ((60 : ℤ) : Seconds)) →
            answer.result.allowed = true) ∧
          (next.time < rejection.start + ((60 : ℤ) : Seconds) → answer.result.allowed = false) :=
  @retryAfter_tight ⟨1, 60⟩ (by decide) [⟨0, "ip:a"⟩] ⟨1 / 2, "ip:a"⟩ (by decide +kernel)
    (by decide +kernel)

end PaymentGateway
