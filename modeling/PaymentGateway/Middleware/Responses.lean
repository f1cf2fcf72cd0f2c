/-
# Responses

How the outcome of a request becomes a response: the exception handlers
(`app/api/error_handlers.py`), which give every error the same envelope, and the middlewares
around them, from the inside out: the security headers, the rate limit, the request context
with its correlation id, and the handler of last resort.  A response that a middleware passes
on is a value of `Except Exn Response`: what is not caught further in comes out as an exception.
-/
import PaymentGateway.Endpoints
import PaymentGateway.Middleware.RateLimit
import PaymentGateway.Security.Tokens

namespace PaymentGateway

/-! ## Error envelopes -/

/-- `_envelope`, with the correlation id that `correlation_id_var` holds. -/
def envelope (code : ErrorCode) (message : Json) (details : List (String × Json))
    (correlationId : String) : Json :=
  .obj [("error", .obj ([("code", .str code.value), ("message", message)] ++
    (if details = [] then [] else [("details", .obj details)]) ++
    (if correlationId = "" then [] else [("correlation_id", .str correlationId)])))]

/-- An error of a field, as the envelope of a validation error lists it. -/
def FieldError.json (e : FieldError) : Json :=
  .obj [("loc", .arr (e.loc.map .str)), ("message", .str e.message), ("type", .str e.type)]

/-- The envelope that the rate limit writes by hand is the one of the handlers. -/
lemma rateLimitedBody_eq (retryAfter : ℤ) (correlationId : String) :
    rateLimitedBody retryAfter (some correlationId) =
      envelope .rateLimited "rate limit exceeded" [("retry_after", .int retryAfter)]
        correlationId := by
  by_cases h : correlationId = "" <;> simp [rateLimitedBody, envelope, given, ErrorCode.value, h]

/-! ## Responses -/

/-- The content of a response: what a route has answered, or the envelope of an error. -/
inductive Payload where
  | answer (a : ApiAnswer)
  | error (body : Json)

/-- A response on its way out.  The headers are a dict, in which a name occurs once. -/
structure Response where
  status : ℕ
  headers : List (String × String)
  payload : Payload

namespace Response

/-- `response.headers[name]` -/
def header (r : Response) (name : String) : Option String := r.headers.lookup name

/-- `response.headers[name] = value`: an old value is replaced in its place. -/
def setHeader (name value : String) (r : Response) : Response :=
  { r with headers := (name, value) :: r.headers.filter (·.1 ≠ name) }

/-- `response.headers.setdefault(name, value)`: an old value stays. -/
def setDefault (r : Response) (item : String × String) : Response :=
  if (r.header item.1).isSome then r else { r with headers := item :: r.headers }

variable {r : Response} {name name' value : String}

@[simp] lemma status_setHeader : (r.setHeader name value).status = r.status := rfl

@[simp] lemma payload_setHeader : (r.setHeader name value).payload = r.payload := rfl

@[simp] lemma header_setHeader_self : (r.setHeader name value).header name = some value := by
  simp [header, setHeader]

end Response

/-! ## The handlers and the middlewares -/

/-- The status that the route declares; a request that does not fit it has the status of a
validation error. -/
def OpenCall.status : OpenCall → ℕ
  | .register _ _ _ => 201
  | .login _ _ | .refresh _ | .receiveWebhook _ => 200
  | .invalid _ => 422

/-- The status of a `POST` that may be repeated is the one that was stored. -/
def UserCall.status (a : ApiAnswer) : UserCall → ℕ
  | .createApiKey _ => 201
  | .revokeApiKey _ => 204
  | .post _ =>
      match a with
      | .stored r => r.status
      | _ => 201
  | .invalid _ _ => 422
  | _ => 200

/-- The status of the response to an answer, as the decorator of the route sets it. -/
def Route.status (a : ApiAnswer) : Route → ℕ
  | .open call => call.status
  | .user _ call => call.status a

/-- `_domain_error`: the error's own class decides the status and the code. -/
def DomainError.response (e : DomainError) (correlationId : String) : Response where
  status := e.cls.httpStatus
  headers := []
  payload := .error (envelope e.cls.code e.message e.details correlationId)

/-- `_validation_error`: the envelope with the errors of the fields, and the status 422. -/
def validationResponse (errors : List FieldError) (correlationId : String) : Response where
  status := 422
  headers := []
  payload := .error (envelope .validationError "request validation failed"
    [("errors", .arr (errors.map FieldError.json))] correlationId)

/-- `_unhandled`.  It runs outside of the request context, so that there is no correlation id in
its envelope, and no header of the middlewares. -/
def unhandledResponse : Response where
  status := 500
  headers := []
  payload := .error (envelope .internalError "an unexpected error occurred" [] "")

section Stack

variable (correlationId : String)

/-- The innermost handlers: an exception that is not a `DomainError` goes on. -/
def exceptionHandlers : Except Exn Response → Except Exn Response
  | .error (.domain e) => .ok (e.response correlationId)
  | r => r

/-- `_HEADERS`: the headers that every response is given. -/
def hardeningHeaders : List (String × String) := [
  ("X-Content-Type-Options", "nosniff"),
  ("X-Frame-Options", "DENY"),
  ("Referrer-Policy", "no-referrer"),
  ("X-XSS-Protection", "0"),
  ("Content-Security-Policy", "default-src 'self'; script-src 'self' https://cdn.jsdelivr.net; " ++
    "style-src 'self' 'unsafe-inline' https://cdn.jsdelivr.net; " ++
    "img-src 'self' data: https://fastapi.tiangolo.com; connect-src 'self'; " ++
    "frame-ancestors 'none'"),
  ("Strict-Transport-Security", "max-age=63072000; includeSubDomains; preload"),
  ("Cache-Control", "no-store")]

/-- `SecurityHeadersMiddleware.dispatch`: the headers of the list are set where the response has
none. -/
def securityHeaders (r : Except Exn Response) : Except Exn Response :=
  r.map fun r => hardeningHeaders.foldl Response.setDefault r

/-- `RateLimitMiddleware.dispatch`, given the response of the application; there is none while
the application is at work, and a request that is rejected does not get there. -/
def rateLimit (dispatched : Dispatched) (next : Option (Except Exn Response)) :
    Option (Except Exn Response) :=
  match dispatched with
  | .exempt => next
  | .forwarded remaining =>
      next.map (Except.map (Response.setHeader "X-RateLimit-Remaining" (toString remaining)))
  | .rejected body retryAfter =>
      some (.ok ⟨429, [("Retry-After", toString retryAfter)], .error body⟩)

/-- `_HEADER` of the request context: the header that names the request, on the way in and on the
way out. -/
def correlationHeader : String := "X-Correlation-ID"

/-- `RequestContextMiddleware.dispatch`: the id of the request is bound to the context, and set
on the response. -/
def requestContext (r : Except Exn Response) : Except Exn Response :=
  r.map (Response.setHeader correlationHeader correlationId)

/-- The handler of last resort.  What is not an `Exception` gets no response. -/
def serverErrors : Except Exn Response → Option Response
  | .ok r => some r
  | .error e => if e.isException then some unhandledResponse else none

/-- The whole stack, from the rate limit to the exception handlers, around the outcome of the
request. -/
def respond (dispatched : Dispatched) (outcome : Option (Except Exn Response)) :
    Option Response :=
  (rateLimit dispatched (outcome.map fun r =>
    securityHeaders (exceptionHandlers correlationId r))).bind fun r =>
      serverErrors (requestContext correlationId r)

end Stack

/-! ## What comes out of the stack -/

/-- The request gets as far as the application: it is exempt, or within its quota. -/
def Dispatched.admits : Dispatched → Bool
  | .rejected _ _ => false
  | _ => true

/-- The responses of the stack, by what the application has done and whether it was asked. -/
inductive Responds (correlationId : String) (dispatched : Dispatched) :
    Option (Except Exn Response) → Response → Prop
  | passed {r r'} (admitted : dispatched.admits = true) (status : r'.status = r.status)
      (payload : r'.payload = r.payload)
      (named : r'.header correlationHeader = some correlationId) :
      Responds correlationId dispatched (some (.ok r)) r'
  | failed {e r'} (admitted : dispatched.admits = true) (status : r'.status = e.cls.httpStatus)
      (payload : r'.payload = .error (envelope e.cls.code e.message e.details correlationId))
      (named : r'.header correlationHeader = some correlationId) :
      Responds correlationId dispatched (some (.error (.domain e))) r'
  | rejected {outcome body retryAfter r'} (rejected : dispatched = .rejected body retryAfter)
      (status : r'.status = 429) (payload : r'.payload = .error body)
      (named : r'.header correlationHeader = some correlationId) :
      Responds correlationId dispatched outcome r'
  | unhandled {e} (admitted : dispatched.admits = true) (unexpected : ∀ d, e ≠ .domain d) :
      Responds correlationId dispatched (some (.error e)) unhandledResponse

section Stack

variable {correlationId : String} {dispatched : Dispatched} {r : Response}

/-- Setting defaults changes headers only. -/
lemma foldl_setDefault (items : List (String × String)) (r : Response) :
    (items.foldl Response.setDefault r).status = r.status ∧
      (items.foldl Response.setDefault r).payload = r.payload := by
  induction items generalizing r with
  | nil => exact ⟨rfl, rfl⟩
  | cons item items ih =>
    rw [List.foldl_cons, (ih _).1, (ih _).2, Response.setDefault]
    split <;> exact ⟨rfl, rfl⟩

lemma securityHeaders_ok (r : Response) :
    ∃ r', securityHeaders (.ok r) = .ok r' ∧ r'.status = r.status ∧ r'.payload = r.payload := by
  obtain ⟨hstatus, hpayload⟩ := foldl_setDefault hardeningHeaders r
  exact ⟨hardeningHeaders.foldl Response.setDefault r, rfl, hstatus, hpayload⟩

/-- A response of the application keeps its status and its payload. -/
lemma respond_response (hadmits : dispatched.admits = true) {outcome : Except Exn Response}
    (h : exceptionHandlers correlationId outcome = .ok r) :
    ∃ r', respond correlationId dispatched (some outcome) = some r' ∧ r'.status = r.status ∧
      r'.payload = r.payload ∧ r'.header correlationHeader = some correlationId := by
  obtain ⟨r', hr', hstatus, hpayload⟩ := securityHeaders_ok r
  rw [respond, Option.map_some, h, hr']
  cases dispatched with
  | exempt => exact ⟨r'.setHeader correlationHeader correlationId, rfl, hstatus, hpayload, by simp⟩
  | forwarded remaining =>
    exact ⟨(r'.setHeader "X-RateLimit-Remaining" (toString remaining)).setHeader
      correlationHeader correlationId, rfl, hstatus, hpayload, by simp⟩
  | rejected => cases hadmits

/-- What the handlers do not know goes through to the last one. -/
lemma respond_error (hadmits : dispatched.admits = true) {e : Exn}
    (h : exceptionHandlers correlationId (.error e) = .error e) :
    respond correlationId dispatched (some (.error e)) =
      if e.isException then some unhandledResponse else none := by
  rw [respond, Option.map_some, h]
  cases dispatched with
  | exempt | forwarded => rfl
  | rejected => cases hadmits

/-- **What the stack makes of an outcome.** -/
lemma responds_of_respond {outcome : Option (Except Exn Response)} {r' : Response}
    (h : respond correlationId dispatched outcome = some r') :
    Responds correlationId dispatched outcome r' := by
  cases hadmits : dispatched.admits with
  | false =>
    cases dispatched with
    | rejected body retryAfter =>
      obtain rfl := Option.some_inj.1 (show some _ = some r' from h)
      exact .rejected rfl rfl rfl (by simp)
    | exempt | forwarded => cases hadmits
  | true =>
    rcases outcome with - | e | r
    · cases dispatched with
      | exempt | forwarded => cases h
      | rejected => cases hadmits
    · cases e with
      | domain e =>
        obtain ⟨r₀, hr₀, hstatus, hpayload, hnamed⟩ :=
          respond_response hadmits (rfl : exceptionHandlers
            correlationId (.error (.domain e)) = .ok (e.response correlationId))
        obtain rfl := Option.some_inj.1 (hr₀.symm.trans h)
        exact .failed hadmits hstatus hpayload hnamed
      | cancelled =>
        rw [respond_error hadmits rfl] at h
        cases h
      | python | httpx | integrityError | multipleResultsFound =>
        rw [respond_error hadmits rfl] at h
        obtain rfl := Option.some_inj.1 h
        exact .unhandled hadmits (by simp)
    · obtain ⟨r₀, hr₀, hstatus, hpayload, hnamed⟩ :=
        respond_response hadmits (rfl : exceptionHandlers correlationId (.ok r) = .ok r)
      obtain rfl := Option.some_inj.1 (hr₀.symm.trans h)
      exact .passed hadmits hstatus hpayload hnamed

end Stack

/-! ## Requests as they arrive -/

/-- A request as it arrives, and what it draws from its surroundings.  A request that does not
fit the schema of its route, or of which nothing can be parsed, is one of the operations. -/
structure Exchange where
  path : String
  client : Option String
  headers : Headers
  /-- The request's own `X-Correlation-ID`. -/
  incoming : Option String
  /-- `uuid.uuid4()`, for a request without one. -/
  drawn : Uuid
  env : Ambient
  operation : OpenCall ⊕ UserCall

namespace Exchange

variable (x : Exchange)

/-- `incoming or uuid.uuid4().hex`: the id that the client has sent, or a new one. -/
def correlationId : String := if given x.incoming then x.incoming.getD "" else x.drawn.hex

/-- The route of the request, with its headers if the route looks at them. -/
def route : Route :=
  match x.operation with
  | .inl call => .open call
  | .inr call => .user x.headers call

/-- The request that the endpoints see; the correlation id comes from the request context. -/
def httpCall : HttpCall := ⟨{ x.env with correlationId := x.correlationId }, x.route⟩

/-- The request as the rate limit sees it, which runs inside the request context. -/
def request : Request := ⟨x.path, x.headers, x.client, some x.correlationId⟩

/-- The response that is made of what the program of the request has returned. -/
def answered : ApiAnswer → Response
  | .invalid errors => validationResponse errors x.correlationId
  | a => ⟨x.route.status a, [], .answer a⟩

variable {x}

/-- What is returned is answered, or reported as the errors of the request. -/
lemma answered_cases (a : ApiAnswer) :
    (∃ errors, a = .invalid errors ∧
        x.answered a = validationResponse errors x.correlationId) ∨
      x.answered a = ⟨x.route.status a, [], .answer a⟩ := by
  cases a with
  | invalid errors => exact Or.inl ⟨errors, rfl, rfl⟩
  | _ => exact Or.inr rfl

/-- Every request has a correlation id. -/
lemma correlationId_ne_empty : x.correlationId ≠ "" := by
  rw [correlationId]
  split
  · rename_i hgiven
    obtain ⟨s, hs, hne⟩ : ∃ s, x.incoming = some s ∧ s ≠ "" := by
      simpa [given, Option.any_eq_true] using hgiven
    simpa [hs] using hne
  · intro hempty
    have hlength := congrArg (fun s => s.toList.length) hempty
    simp [Uuid.hex, x.drawn.length_eq] at hlength

end Exchange

end PaymentGateway
