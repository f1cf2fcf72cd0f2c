/-
# Whose quota a request is charged to

The quota is meant for an identity: "the authenticated API key / bearer subject when present,
otherwise the client IP".  The middleware takes it from the headers, before anybody has
authenticated them: the first 16 characters of the API key, else the last 16 characters of the
`Authorization` header, else the address.

If the requests without a valid credential send neither header, then from one address at most
`limit` of them are forwarded in a window, and the other quotas are those of the identities
exactly if the tokens of one subject end in the same 16 characters and different API keys
begin with different ones (`rateLimit_quotas`).  `rateLimit_mistaken` shows the three ways
in which the quotas fail: made-up keys, two tokens of one subject, and a long key prefix.
-/
import PaymentGateway.Lib.Runs
import PaymentGateway.Middleware.RateLimit

namespace PaymentGateway

open Transact

/-! ## Runs -/

/-- A request that arrives, at which time and over which tables. -/
structure Arrival where
  now : Seconds
  tables : Tables
  env : Ambient
  request : Request

/-- A request that was charged to a quota, with the caller whom it really comes from. -/
structure Charged where
  request : Request
  caller : Caller
  quota : String
  forwarded : Bool
  /-- For a request without a valid credential: the number of the window of its address. -/
  window : ℕ

/-- Two requests with tokens of one subject share a quota, and two with different API keys do
not. -/
structure SameQuotas (c c' : Charged) : Prop where
  subjects : ∀ subject, c.caller = .subject subject → c'.caller = .subject subject →
    c.quota = c'.quota
  apiKeys : ∀ key key', c.caller = .apiKey key → c'.caller = .apiKey key' → key ≠ key' →
    c.quota ≠ c'.quota

/-- The buckets of the limiter.  Beside them: for each address the current window of its
requests without a valid credential, and the requests so far. -/
structure QuotaState where
  buckets : Buckets
  windows : String → Option (Seconds × ℕ)
  charged : List Charged

/-- The request was passed on to the application. -/
def Dispatched.isForwarded : Dispatched → Bool
  | .forwarded _ => true
  | _ => false

section Model

variable (app : App) (limiter : RateLimiter)

/-- Who the request really comes from, which only the dependencies of its route find out. -/
def Arrival.caller (a : Arrival) : Caller := PaymentGateway.caller app a.env a.request a.tables

/-- The window that a request at the time `now` belongs to: the last one, or a new one. -/
def RateLimiter.windowAt (now : Seconds) : Option (Seconds × ℕ) → Seconds × ℕ
  | none => (now, 0)
  | some (start, n) => if limiter.window ≤ now - start then (now, n + 1) else (start, n)

/-- The windows after a request.  Only a request without a valid credential belongs to the window
of its address. -/
def QuotaState.windowsAfter (s : QuotaState) (a : Arrival) : String → Option (Seconds × ℕ) :=
  match a.caller app with
  | .ip host => Function.update s.windows host (limiter.windowAt a.now (s.windows host))
  | _ => s.windows

/-- The request passes through the middleware; what is exempt is not counted at all. -/
def QuotaState.step (s : QuotaState) (a : Arrival) : QuotaState :=
  let result := dispatch limiter a.request a.now s.buckets
  if a.request.exempt then s
  else
    { buckets := result.2
      windows := s.windowsAfter app limiter a
      charged := s.charged ++ [⟨a.request, a.caller app, a.request.identity,
        result.1.isForwarded, (limiter.windowAt a.now (s.windows a.request.host)).2⟩] }

/-- The state in which nobody has been charged yet. -/
def quotaStart : QuotaState := ⟨fun _ => none, fun _ => none, []⟩

/-- The requests without a valid credential that were forwarded from an address, in a window. -/
def QuotaState.forwardedIn (s : QuotaState) (host : String) (window : ℕ) : List Charged :=
  s.charged.filter fun c => c.caller = .ip host ∧ c.window = window ∧ c.forwarded = true

/-- The quotas are those of the identities: an address passes no more requests than its limit,
and two requests share a quota exactly if they have one caller. -/
structure QuotasKept (s : QuotaState) : Prop where
  anonymous : ∀ host window, ((s.forwardedIn host window).length : ℤ) ≤ max 0 limiter.limit
  identities : ∀ c ∈ s.charged, ∀ c' ∈ s.charged, SameQuotas c c'

/-- A request without a valid credential sends none of the two headers. -/
def SendsNothing (a : Arrival) : Prop :=
  a.request.exempt = false → ∀ host, a.caller app = .ip host →
    a.request.apiKey = "" ∧ a.request.authorization = ""

/-- A token ends like the earlier tokens of its subject, and an API key begins like no earlier
one. -/
def ToldApart (s : QuotaState) (a : Arrival) : Prop :=
  a.request.exempt = false → ∀ c ∈ s.charged,
    (∀ subject, a.caller app = .subject subject → c.caller = .subject subject →
      lastChars 16 c.request.authorization = lastChars 16 a.request.authorization) ∧
    ∀ key key', a.caller app = .apiKey key → c.caller = .apiKey key' → key ≠ key' →
      firstChars 16 key ≠ firstChars 16 key'

end Model

/-! ## The quota of an identity -/

section Quotas

variable {app : App} {a : Arrival}

lemma given_apiKey : given a.request.headers.apiKey = true ↔ a.request.apiKey ≠ "" := by
  rw [Request.apiKey]
  rcases a.request.headers.apiKey with _ | key <;> simp [given]

variable (app a) in
/-- The caller of an authenticated request is named by what it has sent. -/
lemma caller_cases : a.caller app = .ip a.request.host ∨
    a.request.apiKey ≠ "" ∧ a.caller app = .apiKey a.request.apiKey ∨
    a.request.apiKey = "" ∧ a.request.authorization ≠ "" ∧
      ∃ subject, a.caller app = .subject subject := by
  rw [Arrival.caller, caller]
  cases huser : ((getCurrentUser app a.env a.request.headers).run noGateway a.tables ()).answer with
  | error e => exact Or.inl rfl
  | ok user =>
    by_cases hkey : a.request.apiKey = ""
    · -- without a key there is a token, so the header is not empty
      have hauth : a.request.authorization ≠ "" := by
        intro hempty
        have hgiven : ¬ given a.request.headers.apiKey = true := fun h => given_apiKey.1 h hkey
        have htoken : (partitionSpace (a.request.headers.authorization.getD "")).2 = "" := by
          show (partitionSpace a.request.authorization).2 = ""
          rw [hempty]
          rfl
        rw [getCurrentUser, if_neg hgiven] at huser
        simp only [htoken, ne_eq, not_true, and_false, if_false] at huser
        cases huser
      simp only [hkey, ne_eq, not_true, if_false]
      cases app.decode (bearerToken a.request.authorization) "access" with
      | error e => exact Or.inl rfl
      | ok subject => exact Or.inr (Or.inr ⟨trivial, hauth, subject, rfl⟩)
    · simp [hkey]

lemma host_of_caller {host : String} (h : a.caller app = .ip host) : host = a.request.host := by
  rcases caller_cases app a with hip | ⟨-, hkey⟩ | ⟨-, -, subject, hsub⟩
  · rw [hip] at h
    exact (Caller.ip.inj h).symm
  · rw [hkey] at h
    cases h
  · rw [hsub] at h
    cases h

lemma identity_of_apiKey {key : String} (h : a.caller app = .apiKey key) :
    a.request.identity = "key:" ++ firstChars 16 key := by
  rcases caller_cases app a with hip | ⟨hne, hkey⟩ | ⟨-, -, subject, hsub⟩
  · rw [hip] at h
    cases h
  · rw [hkey] at h
    cases h
    exact if_pos hne
  · rw [hsub] at h
    cases h

lemma identity_of_subject {subject : String} (h : a.caller app = .subject subject) :
    a.request.identity = "bearer:" ++ lastChars 16 a.request.authorization := by
  rcases caller_cases app a with hip | ⟨-, hkey⟩ | ⟨hno, hauth, subject', hsub⟩
  · rw [hip] at h
    cases h
  · rw [hkey] at h
    cases h
  · rw [Request.identity, if_neg (not_not.2 hno), if_pos hauth]

lemma identity_of_nothing (hkey : a.request.apiKey = "") (hauth : a.request.authorization = "") :
    a.request.identity = "ip:" ++ a.request.host := by
  rw [Request.identity, if_neg (not_not.2 hkey), if_neg (not_not.2 hauth)]

lemma append_left_inj {pre x y : String} : pre ++ x = pre ++ y ↔ x = y := by
  rw [← String.toList_inj, String.toList_append, String.toList_append, List.append_right_inj,
    String.toList_inj]

/-- The quota of an authenticated request is no address's. -/
lemma identity_ne_ip (h : ∀ host, a.caller app ≠ .ip host) (host : String) :
    a.request.identity ≠ "ip:" ++ host := by
  have hne : ∀ x, ("key:" ++ x : String) ≠ "ip:" ++ host ∧
      ("bearer:" ++ x : String) ≠ "ip:" ++ host := by
    intro x
    constructor <;> intro heq <;> simpa using congrArg String.toList heq
  rcases caller_cases app a with hip | ⟨-, hkey⟩ | ⟨-, -, subject, hsub⟩
  · exact absurd hip (h _)
  · rw [identity_of_apiKey hkey]
    exact (hne _).1
  · rw [identity_of_subject hsub]
    exact (hne _).2

end Quotas

/-! ## One request -/

section Steps

variable {app : App} {limiter : RateLimiter} {s : QuotaState} {a : Arrival}

/-- The entry of a request that is charged. -/
def QuotaState.entry (app : App) (limiter : RateLimiter) (s : QuotaState) (a : Arrival) : Charged :=
  ⟨a.request, a.caller app, a.request.identity,
    (limiter.hit a.request.identity a.now s.buckets).1.allowed,
    (limiter.windowAt a.now (s.windows a.request.host)).2⟩

lemma step_of_exempt (h : a.request.exempt = true) : s.step app limiter a = s := if_pos h

lemma step_of_not_exempt (h : a.request.exempt = false) :
    s.step app limiter a =
      { buckets := (limiter.hit a.request.identity a.now s.buckets).2
        windows := s.windowsAfter app limiter a
        charged := s.charged ++ [s.entry app limiter a] } := by
  have hforwarded : (dispatch limiter a.request a.now s.buckets).1.isForwarded =
      (limiter.hit a.request.identity a.now s.buckets).1.allowed := by
    rw [dispatch, if_neg (by simp [h])]
    dsimp only
    cases (limiter.hit a.request.identity a.now s.buckets).1.allowed <;> rfl
  rw [QuotaState.step, if_neg (by simp [h]), hforwarded, dispatch, if_neg (by simp [h])]
  rfl

variable (app limiter s) in
lemma forwardedIn_step (h : a.request.exempt = false) (host : String) (window : ℕ) :
    (s.step app limiter a).forwardedIn host window =
      s.forwardedIn host window ++
        if a.caller app = .ip host ∧
            (limiter.windowAt a.now (s.windows a.request.host)).2 = window ∧
            (limiter.hit a.request.identity a.now s.buckets).1.allowed = true
          then [s.entry app limiter a] else [] := by
  rw [QuotaState.forwardedIn, step_of_not_exempt h, List.filter_append, QuotaState.forwardedIn]
  rw [List.filter_cons, List.filter_nil]
  simp only [decide_eq_true_eq]
  rfl

/-- The quota of an authenticated request is the one of its key or its token. -/
def ChargedByHeader (c : Charged) : Prop :=
  (∀ key, c.caller = .apiKey key → c.quota = "key:" ++ firstChars 16 key) ∧
    ∀ subject, c.caller = .subject subject →
      c.quota = "bearer:" ++ lastChars 16 c.request.authorization

variable (app limiter s a) in
lemma QuotaState.chargedByHeader_entry : ChargedByHeader (s.entry app limiter a) :=
  ⟨fun _ h => identity_of_apiKey h, fun _ h => identity_of_subject h⟩

lemma chargedByHeader_step (h : ∀ c ∈ s.charged, ChargedByHeader c) :
    ∀ c ∈ (s.step app limiter a).charged, ChargedByHeader c := by
  cases hexempt : a.request.exempt with
  | true =>
    rw [step_of_exempt hexempt]
    exact h
  | false =>
    rw [step_of_not_exempt hexempt]
    intro c hc
    rcases List.mem_append.1 hc with hc | hc
    · exact h c hc
    · rw [List.mem_singleton.1 hc]
      exact s.chargedByHeader_entry app limiter a

/-- The invariant of an address: its bucket is the one of its current window, which no credential
shares. -/
structure AddressInv (limiter : RateLimiter) (s : QuotaState) : Prop where
  same : ∀ host, s.windows host = none ∧ s.buckets ("ip:" ++ host) = none ∨
    ∃ start n count, s.windows host = some (start, n) ∧
      s.buckets ("ip:" ++ host) = some (start, count) ∧ (s.forwardedIn host n).length ≤ count
  latest : ∀ c ∈ s.charged, ∀ host, c.caller = .ip host →
    ∃ start n, s.windows host = some (start, n) ∧ c.window ≤ n
  anonymous : ∀ host window, ((s.forwardedIn host window).length : ℤ) ≤ max 0 limiter.limit

lemma addressInv_start : AddressInv limiter quotaStart where
  same _ := Or.inl ⟨rfl, rfl⟩
  latest _ hc := by cases hc
  anonymous _ _ := le_max_left 0 _

/-- A request with a valid credential. -/
lemma AddressInv.step_of_caller (h : AddressInv limiter s) (hexempt : a.request.exempt = false)
    (hcaller : ∀ host, a.caller app ≠ .ip host) : AddressInv limiter (s.step app limiter a) := by
  have hwindows : (s.step app limiter a).windows = s.windows := by
    rw [step_of_not_exempt hexempt]
    show s.windowsAfter app limiter a = s.windows
    rw [QuotaState.windowsAfter]
    split
    · rename_i host heq
      exact absurd heq (hcaller host)
    · rfl
  -- a key of an account is never the key of an address
  have hbuckets : ∀ host, (s.step app limiter a).buckets ("ip:" ++ host) =
      s.buckets ("ip:" ++ host) := by
    intro host
    rw [step_of_not_exempt hexempt]
    exact limiter.hit_buckets_of_ne _ _ _ (identity_ne_ip hcaller host).symm
  have hforwarded : ∀ host window, (s.step app limiter a).forwardedIn host window =
      s.forwardedIn host window := by
    intro host window
    rw [forwardedIn_step app limiter s hexempt, if_neg fun hc => hcaller host hc.1, List.append_nil]
  refine ⟨fun host => ?_, fun c hc host heq => ?_, fun host window => ?_⟩
  · simp only [hwindows, hbuckets, hforwarded]
    exact h.same host
  · rw [hwindows]
    rw [step_of_not_exempt hexempt] at hc
    rcases List.mem_append.1 hc with hc | hc
    · exact h.latest c hc host heq
    · rw [List.mem_singleton.1 hc] at heq
      exact absurd heq (hcaller host)
  · rw [hforwarded]
    exact h.anonymous host window

/-- The window of the next request from an address, and its bucket: a new one, in which nothing
was forwarded yet, or the last one. -/
lemma AddressInv.current (h : AddressInv limiter s) (host : String) (now : Seconds) :
    ∃ start n count, limiter.windowAt now (s.windows host) = (start, n) ∧
      limiter.current now (s.buckets ("ip:" ++ host)) = (start, count) ∧
      (s.forwardedIn host n).length ≤ count ∧
      ∀ c ∈ s.charged, c.caller = .ip host → c.window ≤ n := by
  have hempty : ∀ n, (∀ c ∈ s.charged, c.caller = .ip host → c.window ≠ n) →
      (s.forwardedIn host n).length ≤ 0 := by
    intro n hn
    rw [QuotaState.forwardedIn, List.filter_eq_nil_iff.2]
    · simp
    · intro c hc hmem
      exact hn c hc (of_decide_eq_true hmem).1 (of_decide_eq_true hmem).2.1
  rcases h.same host with ⟨hnone, hbucket⟩ | ⟨start, n, count, hsome, hbucket, hcount⟩
  · have hno : ∀ c ∈ s.charged, c.caller ≠ .ip host := by
      intro c hc heq
      obtain ⟨start, n, hsome, -⟩ := h.latest c hc host heq
      rw [hnone] at hsome
      cases hsome
    refine ⟨now, 0, 0, by rw [hnone]; rfl, by rw [hbucket, RateLimiter.current]; simp,
      hempty 0 fun c hc heq => absurd heq (hno c hc), fun c hc heq => absurd heq (hno c hc)⟩
  · have hlatest : ∀ c ∈ s.charged, c.caller = .ip host → c.window ≤ n := by
      intro c hc heq
      obtain ⟨start', n', hsome', hle⟩ := h.latest c hc host heq
      rw [hsome] at hsome'
      cases hsome'
      exact hle
    rw [hsome, hbucket, RateLimiter.windowAt, RateLimiter.current]
    -- the window and the bucket of an address are renewed together
    by_cases hover : (limiter.window : Seconds) ≤ now - start
    · refine ⟨now, n + 1, 0, if_pos hover, if_pos hover, hempty (n + 1) fun c hc heq => ?_,
        fun c hc heq => ?_⟩
      · have := hlatest c hc heq
        omega
      · have := hlatest c hc heq
        omega
    · exact ⟨start, n, count, if_neg hover, if_neg hover, hcount, hlatest⟩

/-- A request without a valid credential, which sends nothing. -/
lemma AddressInv.step_of_ip (h : AddressInv limiter s) (hexempt : a.request.exempt = false)
    (hcaller : a.caller app = .ip a.request.host)
    (hidentity : a.request.identity = "ip:" ++ a.request.host) :
    AddressInv limiter (s.step app limiter a) := by
  obtain ⟨start, n, count, hwindow, hcurrent, hcount, hlatest⟩ := h.current a.request.host a.now
  have hallowed := limiter.hit_allowed_iff a.request.identity a.now s.buckets
  rw [hidentity, hcurrent] at hallowed
  have hforwarded := forwardedIn_step app limiter s hexempt
  simp only [hwindow, hidentity, hcaller, Caller.ip.injEq] at hforwarded
  have hwindows : (s.step app limiter a).windows =
      Function.update s.windows a.request.host (some (start, n)) := by
    rw [step_of_not_exempt hexempt]
    show s.windowsAfter app limiter a = _
    rw [QuotaState.windowsAfter, hcaller]
    show Function.update s.windows a.request.host _ = _
    rw [hwindow]
  have hbuckets : (s.step app limiter a).buckets =
      (limiter.hit ("ip:" ++ a.request.host) a.now s.buckets).2 := by
    rw [step_of_not_exempt hexempt, hidentity]
  -- the window counts the request, and forwards it if the count is within the limit
  have hbound : ((s.step app limiter a).forwardedIn a.request.host n).length ≤ count + 1 ∧
      (((s.step app limiter a).forwardedIn a.request.host n).length : ℤ) ≤ max 0 limiter.limit := by
    rw [hforwarded]
    by_cases hok : (limiter.hit ("ip:" ++ a.request.host) a.now s.buckets).1.allowed = true
    · have hlimit := hallowed.1 hok
      rw [if_pos ⟨rfl, rfl, hok⟩, List.length_append, List.length_singleton]
      constructor
      · omega
      · push_cast
        omega
    · have hold := h.anonymous a.request.host n
      rw [if_neg fun hc => hok hc.2.2, List.append_nil]
      exact ⟨by omega, hold⟩
  have hother : ∀ host window, ¬ (a.request.host = host ∧ n = window) →
      (s.step app limiter a).forwardedIn host window = s.forwardedIn host window := by
    intro host window hne
    rw [hforwarded, if_neg fun hc => hne ⟨hc.1, hc.2.1⟩, List.append_nil]
  refine ⟨fun host => ?_, fun c hc host heq => ?_, fun host window => ?_⟩
  · by_cases hhost : host = a.request.host
    · subst hhost
      refine Or.inr ⟨start, n, count + 1, by rw [hwindows, Function.update_self], ?_, hbound.1⟩
      rw [hbuckets, RateLimiter.hit_buckets_self, hcurrent]
    · have hkey : ("ip:" ++ host) ≠ "ip:" ++ a.request.host := fun heq =>
        hhost (append_left_inj.1 heq)
      rw [hwindows, Function.update_of_ne hhost, hbuckets,
        limiter.hit_buckets_of_ne _ _ _ hkey]
      rcases h.same host with hnone | ⟨start', n', count', hsome, hbucket, hle⟩
      · exact Or.inl hnone
      · exact Or.inr ⟨start', n', count', hsome, hbucket,
          by rw [hother host n' fun hc => hhost hc.1.symm]; exact hle⟩
  · rw [hwindows]
    rw [step_of_not_exempt hexempt] at hc
    by_cases hhost : host = a.request.host
    · subst hhost
      refine ⟨start, n, Function.update_self .., ?_⟩
      rcases List.mem_append.1 hc with hc | hc
      · exact hlatest c hc heq
      · rw [List.mem_singleton.1 hc]
        show (limiter.windowAt a.now (s.windows a.request.host)).2 ≤ n
        rw [hwindow]
    · rw [Function.update_of_ne hhost]
      rcases List.mem_append.1 hc with hc | hc
      · exact h.latest c hc host heq
      · rw [List.mem_singleton.1 hc] at heq
        exact absurd (host_of_caller heq) hhost
  · by_cases hsame : a.request.host = host ∧ n = window
    · obtain ⟨rfl, rfl⟩ := hsame
      exact hbound.2
    · rw [hother host window hsame]
      exact h.anonymous host window

lemma AddressInv.step (h : AddressInv limiter s) (hnothing : SendsNothing app a) :
    AddressInv limiter (s.step app limiter a) := by
  cases hexempt : a.request.exempt with
  | true =>
    rw [step_of_exempt hexempt]
    exact h
  | false =>
    by_cases hcaller : ∃ host, a.caller app = .ip host
    · obtain ⟨host, hcaller⟩ := hcaller
      obtain ⟨hkey, hauth⟩ := hnothing hexempt host hcaller
      rw [host_of_caller hcaller] at hcaller
      exact h.step_of_ip hexempt hcaller (identity_of_nothing hkey hauth)
    · push Not at hcaller
      exact h.step_of_caller hexempt hcaller

lemma SameQuotas.symm {c c' : Charged} (h : SameQuotas c c') : SameQuotas c' c :=
  ⟨fun subject hc' hc => (h.subjects subject hc hc').symm,
    fun key key' hc' hc hne => (h.apiKeys key' key hc hc' hne.symm).symm⟩

lemma sameQuotas_self (c : Charged) : SameQuotas c c := by
  refine ⟨fun _ _ _ => rfl, fun key key' hc hc' hne => ?_⟩
  rw [hc] at hc'
  exact absurd (Caller.apiKey.inj hc') hne

/-- What the quotas of two requests say about their headers. -/
lemma sameQuotas_iff {c c' : Charged} (h : ChargedByHeader c) (h' : ChargedByHeader c') :
    SameQuotas c c' ↔
      (∀ subject, c.caller = .subject subject → c'.caller = .subject subject →
        lastChars 16 c'.request.authorization = lastChars 16 c.request.authorization) ∧
      ∀ key key', c.caller = .apiKey key → c'.caller = .apiKey key' → key ≠ key' →
        firstChars 16 key ≠ firstChars 16 key' := by
  constructor
  · intro hsame
    constructor
    · intro subject hc hc'
      have hquota := hsame.subjects subject hc hc'
      rw [h.2 subject hc, h'.2 subject hc'] at hquota
      exact (append_left_inj.1 hquota).symm
    · intro key key' hc hc' hne heq
      refine hsame.apiKeys key key' hc hc' hne ?_
      rw [h.1 key hc, h'.1 key' hc', heq]
  · rintro ⟨hsubjects, hkeys⟩
    constructor
    · intro subject hc hc'
      rw [h.2 subject hc, h'.2 subject hc', hsubjects subject hc hc']
    · intro key key' hc hc' hne heq
      rw [h.1 key hc, h'.1 key' hc'] at heq
      exact hkeys key key' hc hc' hne (append_left_inj.1 heq)

/-- What the quotas after a request say about its headers. -/
lemma toldApart_of_identities (hheaders : ∀ c ∈ s.charged, ChargedByHeader c)
    (h : ∀ c ∈ (s.step app limiter a).charged, ∀ c' ∈ (s.step app limiter a).charged,
      SameQuotas c c') : ToldApart app s a := by
  intro hexempt c hc
  rw [step_of_not_exempt hexempt] at h
  refine (sameQuotas_iff (s.chargedByHeader_entry app limiter a) (hheaders c hc)).1 ?_
  exact h _ (List.mem_append_right _ List.mem_cons_self) c (List.mem_append_left _ hc)

lemma identities_step (hheaders : ∀ c ∈ s.charged, ChargedByHeader c)
    (hold : ∀ c ∈ s.charged, ∀ c' ∈ s.charged, SameQuotas c c') (h : ToldApart app s a) :
    ∀ c ∈ (s.step app limiter a).charged, ∀ c' ∈ (s.step app limiter a).charged,
      SameQuotas c c' := by
  cases hexempt : a.request.exempt with
  | true =>
    rw [step_of_exempt hexempt]
    exact hold
  | false =>
    have hentry : ∀ c ∈ s.charged, SameQuotas (s.entry app limiter a) c := fun c hc =>
      (sameQuotas_iff (s.chargedByHeader_entry app limiter a) (hheaders c hc)).2 (h hexempt c hc)
    rw [step_of_not_exempt hexempt]
    intro c hc c' hc'
    rcases List.mem_append.1 hc with hc | hc
    · rcases List.mem_append.1 hc' with hc' | hc'
      · exact hold c hc c' hc'
      · rw [List.mem_singleton.1 hc']
        exact (hentry c hc).symm
    · rw [List.mem_singleton.1 hc]
      rcases List.mem_append.1 hc' with hc' | hc'
      · exact hentry c' hc'
      · rw [List.mem_singleton.1 hc']
        exact sameQuotas_self _

/-- The invariant of a run in which nobody sends a made-up credential. -/
structure QuotaInv (limiter : RateLimiter) (s : QuotaState) : Prop where
  headers : ∀ c ∈ s.charged, ChargedByHeader c
  address : AddressInv limiter s
  identities : ∀ c ∈ s.charged, ∀ c' ∈ s.charged, SameQuotas c c'

end Steps

/-- **Whose quota.**  If no request without a valid credential sends an API key or an
`Authorization` header, then all along a run at most `limit` of them are forwarded in a window
of their address, tokens of one subject share a quota, and different keys do not, exactly if
every token ends like the earlier tokens of its subject and every key begins like no earlier
one. -/
theorem rateLimit_quotas {app : App} {limiter : RateLimiter} {arrivals : List Arrival}
    (hnothing : ∀ a ∈ arrivals, SendsNothing app a) :
    Always (QuotaState.step app limiter) (QuotasKept limiter) quotaStart arrivals ↔
      Obeys (QuotaState.step app limiter) (ToldApart app) quotaStart arrivals := by
  have hstart : QuotaInv limiter quotaStart :=
    ⟨fun c hc => (by cases hc), addressInv_start, fun c hc => (by cases hc)⟩
  constructor
  · intro h
    refine obeys_of_always (I := fun s => ∀ c ∈ s.charged, ChargedByHeader c)
      (fun s a hs => chargedByHeader_step hs) ?_ hstart.headers h
    intro s a hheaders hkept
    exact toldApart_of_identities hheaders hkept.identities
  · intro h
    have hkeep : ∀ s a, QuotaInv limiter s → SendsNothing app a ∧ ToldApart app s a →
        QuotaInv limiter (QuotaState.step app limiter s a) := fun s a hs hok =>
      ⟨chargedByHeader_step hs.headers, hs.address.step hok.1,
        identities_step hs.headers hs.identities hok.2⟩
    have hinv := always_of_obeys hkeep hstart ((obeys_of_forall hnothing).and h)
    exact hinv.mono fun s hs => ⟨hs.address.anonymous, hs.identities⟩

/-! ## Made-up keys, two tokens, and a long prefix -/

/-- The callers and quotas of two requests. -/
lemma QuotasKept.sameQuotas {limiter : RateLimiter} {s : QuotaState} (h : QuotasKept limiter s)
    {x y : Caller × String} (hx : x ∈ s.charged.map fun c => (c.caller, c.quota))
    (hy : y ∈ s.charged.map fun c => (c.caller, c.quota)) :
    (∀ subject, x.1 = .subject subject → y.1 = .subject subject → x.2 = y.2) ∧
      ∀ key key', x.1 = .apiKey key → y.1 = .apiKey key' → key ≠ key' → x.2 ≠ y.2 := by
  obtain ⟨c, hc, rfl⟩ := List.mem_map.1 hx
  obtain ⟨c', hc', rfl⟩ := List.mem_map.1 hy
  have hsame := h.identities c hc c' hc'
  exact ⟨hsame.subjects, hsame.apiKeys⟩

/-- One request in a minute. -/
def demoLimiter : RateLimiter := ⟨1, 60⟩

/-- An application that accepts two tokens of one user, and calls its keys `upgi_sk_production`. -/
def limiterApp : App :=
  { demoApp with
    apiKeyPrefix := "upgi_sk_production"
    decode := fun token _ =>
      if token = "payload.signature-a" ∨ token = "payload.signature-b" then .ok demoUser.id.str
      else .error (.authenticationError "Invalid authentication token")
    parseUuid := fun text =>
      if text = demoUser.id.str then .ok demoUser.id else .error (.python .valueError) }

/-- The key that the user gets from the `n`-th request. -/
def demoApiKey (n : ℕ) : ApiKey :=
  newApiKey (demoEnv n) demoUser "" (generatedApiKey limiterApp (demoEnv n))

/-- One merchant, with two API keys. -/
def limiterTables : Tables :=
  { Tables.empty with users := [demoUser], apiKeys := [demoApiKey 1, demoApiKey 2] }

/-- A request for the payments with these credentials, from one address at time 0. -/
def demoArrival (apiKey authorization : Option String) : Arrival where
  now := 0
  tables := limiterTables
  env := demoEnv 0
  request := ⟨"/api/v1/payments", ⟨apiKey, authorization, none⟩, some "203.0.113.7", none⟩

/-- Requests without a valid credential, with made-up keys. -/
def madeUpKeys : List Arrival := [demoArrival (some "1") none, demoArrival (some "2") none]

/-- Two access tokens that differ in their last characters. -/
def twoTokens : List Arrival :=
  [demoArrival none (some "bearer payload.signature-a"),
    demoArrival none (some "bearer payload.signature-b")]

/-- Two keys of one merchant whose first sixteen characters are the same, since the prefix of the
application is that long. -/
def longPrefix : List Arrival :=
  [demoArrival (some (generatedApiKey limiterApp (demoEnv 1)).fullKey) none,
    demoArrival (some (generatedApiKey limiterApp (demoEnv 2)).fullKey) none]

theorem rateLimit_quotas_demo :
    Always (QuotaState.step limiterApp demoLimiter) (QuotasKept demoLimiter) quotaStart
        [demoArrival none none] ↔
      Obeys (QuotaState.step limiterApp demoLimiter) (ToldApart limiterApp) quotaStart
        [demoArrival none none] := by
  refine rateLimit_quotas fun a ha => ?_
  rw [List.mem_singleton.1 ha]
  exact fun _ _ _ => ⟨rfl, rfl⟩

/-- Both requests with a made-up key are forwarded, the two tokens of one user have a quota
each, and the two keys have one quota. -/
theorem rateLimit_mistaken :
    ¬ QuotasKept demoLimiter
        (run (QuotaState.step limiterApp demoLimiter) quotaStart madeUpKeys) ∧
      ¬ QuotasKept demoLimiter
        (run (QuotaState.step limiterApp demoLimiter) quotaStart twoTokens) ∧
      ¬ QuotasKept demoLimiter
        (run (QuotaState.step limiterApp demoLimiter) quotaStart longPrefix) := by
  refine ⟨fun h => ?_, fun h => ?_, fun h => ?_⟩
  · have hlimit := h.anonymous "203.0.113.7" 0
    have hcount : ((run (QuotaState.step limiterApp demoLimiter) quotaStart madeUpKeys).forwardedIn
        "203.0.113.7" 0).length = 2 := by decide +kernel
    rw [hcount] at hlimit
    exact absurd hlimit (by decide)
  · have hquotas : (run (QuotaState.step limiterApp demoLimiter) quotaStart twoTokens).charged.map
        (fun c => (c.caller, c.quota)) =
      [(.subject demoUser.id.str, "bearer:load.signature-a"),
        (.subject demoUser.id.str, "bearer:load.signature-b")] := by decide +kernel
    have hsame := h.sameQuotas (hquotas ▸ List.mem_cons_self)
      (hquotas ▸ List.mem_cons_of_mem _ List.mem_cons_self)
    exact absurd (hsame.1 _ rfl rfl) (by decide)
  · have hquotas : (run (QuotaState.step limiterApp demoLimiter) quotaStart longPrefix).charged.map
        (fun c => (c.caller, c.quota)) =
      [(.apiKey (generatedApiKey limiterApp (demoEnv 1)).fullKey, "key:upgi_sk_producti"),
        (.apiKey (generatedApiKey limiterApp (demoEnv 2)).fullKey, "key:upgi_sk_producti")] := by
      decide +kernel
    have hsame := h.sameQuotas (hquotas ▸ List.mem_cons_self)
      (hquotas ▸ List.mem_cons_of_mem _ List.mem_cons_self)
    exact hsame.2 _ _ rfl rfl (by decide) rfl

end PaymentGateway
