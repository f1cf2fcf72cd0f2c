/-
# Rate limiting

The fixed-window counter (`app/core/rate_limit.py`) and the middleware that charges every
request to a quota (`app/middleware/rate_limit.py`).  The middleware runs before the request
is authenticated: it takes the quota from the headers as they were sent.  Who has sent the
request is found out later, by `get_current_user`.
-/
import PaymentGateway.Api
import PaymentGateway.Core.Resilience

namespace PaymentGateway

open Transact

/-! ## The limiter -/

/-- `RateLimitResult`: whether the request may pass, how many are left in the window, and after
how many whole seconds it may be repeated. -/
structure RateLimitResult where
  allowed : Bool
  remaining : ℤ
  retryAfter : ℤ
deriving DecidableEq, Repr

/-- `_buckets`: for each key the start of its window and the count, if it was ever hit. -/
abbrev Buckets := String → Option (Seconds × ℕ)

/-- The settings of `InMemoryRateLimiter`: so many requests in a window of so many seconds. -/
structure RateLimiter where
  limit : ℤ
  window : ℤ

/-- `int(x)` of a number, which truncates towards zero. -/
def truncate (x : Seconds) : ℤ := x.num.tdiv x.den

namespace RateLimiter

variable (limiter : RateLimiter) (key : String) (now : Seconds) (buckets : Buckets)

/-- The window that a request at the time `now` belongs to, and how many came before it. -/
def current (bucket : Option (Seconds × ℕ)) : Seconds × ℕ :=
  if limiter.window ≤ now - (bucket.getD (now, 0)).1 then (now, 0) else bucket.getD (now, 0)

/-- `InMemoryRateLimiter.hit` at the time `now`: the answer, and the buckets after it.  A hit
that is refused is counted too. -/
def hit : RateLimitResult × Buckets :=
  let windowStart := (limiter.current now (buckets key)).1
  let count := (limiter.current now (buckets key)).2 + 1
  (if limiter.limit < count then
      ⟨false, 0, truncate (limiter.window - (now - windowStart)) + 1⟩
    else ⟨true, max 0 (limiter.limit - count), 0⟩,
    Function.update buckets key (some (windowStart, count)))

@[simp] lemma hit_buckets_self : (limiter.hit key now buckets).2 key =
    some ((limiter.current now (buckets key)).1, (limiter.current now (buckets key)).2 + 1) := by
  simp [hit]

lemma hit_buckets_of_ne {key' : String} (h : key' ≠ key) :
    (limiter.hit key now buckets).2 key' = buckets key' := by
  simp [hit, h]

/-- The first `limit` requests of a window are allowed. -/
lemma hit_allowed_iff : (limiter.hit key now buckets).1.allowed = true ↔
    ((limiter.current now (buckets key)).2 : ℤ) + 1 ≤ limiter.limit := by
  rw [hit]
  dsimp only
  split <;> rename_i h <;> push_cast at h <;> simp <;> omega

end RateLimiter

/-! ## The middleware -/

/-- What the middleware and the authentication read of a request. -/
structure Request where
  path : String
  headers : Headers
  client : Option String
  correlationId : Option String

/-- `_EXEMPT_PREFIXES`: the probes, the metrics and the documentation. -/
def exemptPrefixes : List String := ["/health", "/metrics", "/docs", "/redoc", "/openapi.json"]

/-- `s[:n]` -/
def firstChars (n : ℕ) (s : String) : String := String.ofList (s.toList.take n)

/-- `s[-n:]`, for `n > 0` -/
def lastChars (n : ℕ) (s : String) : String := String.ofList (s.toList.drop (s.toList.length - n))

namespace Request

variable (request : Request)

/-- `request.headers.get("x-api-key", "")` -/
def apiKey : String := request.headers.apiKey.getD ""

/-- `request.headers.get("authorization", "")` -/
def authorization : String := request.headers.authorization.getD ""

/-- The path is not subject to the quota: it starts with one of the prefixes. -/
def exempt : Bool := exemptPrefixes.any fun pre => pre.toList.isPrefixOf request.path.toList

/-- The client's address, or the placeholder of the source where there is none. -/
def host : String := request.client.getD "unknown"

/-- `RateLimitMiddleware._identity`: the first characters of the API key, or the last ones of the
authorization, or the address.  None of them has been verified here. -/
def identity : String :=
  if request.apiKey ≠ "" then "key:" ++ firstChars 16 request.apiKey
  else if request.authorization ≠ "" then "bearer:" ++ lastChars 16 request.authorization
  else "ip:" ++ request.host

end Request

/-- What the middleware does with a request: it passes it on, or answers itself. -/
inductive Dispatched where
  /-- The response of the application, as it is. -/
  | exempt
  /-- The response of the application, with the header `X-RateLimit-Remaining`. -/
  | forwarded (remaining : ℤ)
  /-- Status 429, with the header `Retry-After`. -/
  | rejected (body : Json) (retryAfter : ℤ)
deriving DecidableEq

/-- The envelope of the error that a request beyond the quota is answered with. -/
def rateLimitedBody (retryAfter : ℤ) (correlationId : Option String) : Json :=
  let error : List (String × Json) := [("code", "rate_limited"),
    ("message", "rate limit exceeded"), ("details", .obj [("retry_after", .int retryAfter)])]
  .obj [("error", .obj (if given correlationId then
      error ++ [("correlation_id", .str (correlationId.getD ""))] else error))]

/-- `RateLimitMiddleware.dispatch` at the time `now`, with the buckets after it. -/
def dispatch (limiter : RateLimiter) (request : Request) (now : Seconds) (buckets : Buckets) :
    Dispatched × Buckets :=
  if request.exempt then (.exempt, buckets)
  else
    let result := limiter.hit request.identity now buckets
    (if result.1.allowed = false then
        .rejected (rateLimitedBody result.1.retryAfter request.correlationId) result.1.retryAfter
      else .forwarded result.1.remaining,
      result.2)

/-! ## Who has sent the request -/

/-- The token of an `Authorization: Bearer …` header: what follows the first blank. -/
def bearerToken (authorization : String) : String := (partitionSpace authorization).2

/-- The identity that the quota is meant for: "the authenticated API key / bearer subject when
present, otherwise the client IP". -/
inductive Caller where
  | apiKey (key : String)
  | subject (subject : String)
  | ip (host : String)
deriving DecidableEq, Repr

/-- Who has sent the request, on these tables: nobody, if `get_current_user` raises. -/
def caller (app : App) (env : Ambient) (request : Request) (t : Tables) : Caller :=
  match ((getCurrentUser app env request.headers).run noGateway t ()).answer with
  | .error _ => .ip request.host
  | .ok _ =>
      if request.apiKey ≠ "" then .apiKey request.apiKey
      else
        match app.decode (bearerToken request.authorization) "access" with
        | .ok subject => .subject subject
        | .error _ => .ip request.host

end PaymentGateway
