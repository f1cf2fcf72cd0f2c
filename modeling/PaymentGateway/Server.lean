/-
# The server

Requests arrive at any time and in any order.  The rate limit admits a request or turns it away
before anything else is known of it; the session of a request that was admitted takes its steps
among those of the others; and the middlewares turn its outcome into the response.  What the
server does to the tables is a run of the system of sessions (`exists_moves`), so that what
holds of all interleavings of the API holds of the server.

The response is sent in a move of its own.  FastAPI sends it before it closes the session from
version 0.118 on, and after that before 0.118, so a response is due as soon as the program of the
request has returned, and it may be sent before its session commits, or after.  A session that has
returned and never commits is one whose client is gone, or the one of a request that does not fit
its route, which FastAPI drops from 0.118 on.

Every response names its request by the correlation id, apart from the one to an unexpected
exception, and the audit log uses the same name.  So the log can be read beside the responses:
beyond the old rows it consists of what the requests that have committed have left in it, each of
them one row at most (`changes_traceable`).
-/
import PaymentGateway.Evolution
import PaymentGateway.Lib.Journal
import PaymentGateway.Middleware.Responses

namespace PaymentGateway

open Transact

/-! ## The model -/

/-- The buckets of the rate limit, what it has said to the requests that have arrived, the
sessions, and the responses that were sent. -/
structure Server (ι W C : Type) where
  buckets : Buckets
  dispatched : ι → Option Dispatched
  api : ApiSystem ι W C
  sent : ι → Option Response

/-- A request arrives, the session of one takes a step, or a response is sent. -/
inductive ServerMove (ι C : Type) where
  | arrive (i : ι) (now : Seconds)
  | act (move : Move ι C)
  | reply (i : ι)

namespace Server

section Model

variable {ι W C : Type}

/-- The rate limit has let the request pass, so that the application runs it. -/
def admitted (s : Server ι W C) (i : ι) : Bool := (s.dispatched i).any Dispatched.admits

/-- What the application has made of the request.  There is something as soon as its program has
returned, also while the writes are still to be published. -/
def outcome (exchanges : ι → Exchange) (s : Server ι W C) (i : ι) :
    Option (Except Exn Response) :=
  match (s.api.session i).status with
  | .running (.ret a) => some (.ok ((exchanges i).answered a))
  | .running _ => none
  | .committed a => some (.ok ((exchanges i).answered a))
  | .rolledBack e => some (.error e)

/-- The response that is due to the request, if there is one by now. -/
def response (exchanges : ι → Exchange) (s : Server ι W C) (i : ι) : Option Response :=
  (s.dispatched i).bind fun dispatched =>
    respond (exchanges i).correlationId dispatched (s.outcome exchanges i)

/-- The server to which nothing has been sent yet. -/
def start (app : App) (exchanges : ι → Exchange) (t : Tables) (w : W) : Server ι W C :=
  ⟨fun _ => none, fun _ => none, apiStart app (fun i => (exchanges i).httpCall) t w, fun _ => none⟩

variable [DecidableEq ι]

/-- What the rate limit says to a request; without a limiter, every request passes. -/
def receive (limiter : Option RateLimiter) (request : Request) (now : Seconds)
    (buckets : Buckets) : Dispatched × Buckets :=
  match limiter with
  | none => (.exempt, buckets)
  | some limiter => dispatch limiter request now buckets

/-- A request arrives, and the rate limit decides about it at once.  It arrives once. -/
def arrive (limiter : Option RateLimiter) (exchanges : ι → Exchange) (s : Server ι W C) (i : ι)
    (now : Seconds) : Server ι W C :=
  if (s.dispatched i).isSome then s
  else
    let r := receive limiter (exchanges i).request now s.buckets
    { s with buckets := r.2, dispatched := Function.update s.dispatched i (some r.1) }

/-- The response that is due is sent, once.  It may be sent before the changes are committed and
after that, as the version of the framework has it. -/
def reply (exchanges : ι → Exchange) (s : Server ι W C) (i : ι) : Server ι W C :=
  if (s.sent i).isSome then s
  else { s with sent := Function.update s.sent i (s.response exchanges i) }

/-- One move: a request arrives, an admitted one takes its next action, or a response is sent. -/
def step (app : App) (limiter : Option RateLimiter) (handle : C → Handler GatewayOp Exn W)
    (exchanges : ι → Exchange) (s : Server ι W C) : ServerMove ι C → Server ι W C
  | .arrive i now => s.arrive limiter exchanges i now
  | .act move =>
      if s.admitted move.session then
        { s with api := System.step (serviceHost app handle) s.api move }
      else s
  | .reply i => s.reply exchanges i

end Model

/-! ## The sessions of the server -/

section Runs

variable {ι W C : Type} [DecidableEq ι] {app : App} {limiter : Option RateLimiter}
  {handle : C → Handler GatewayOp Exn W} {exchanges : ι → Exchange} {s : Server ι W C}

@[simp] lemma api_arrive (i : ι) (now : Seconds) :
    (s.arrive limiter exchanges i now).api = s.api := by
  rw [arrive]
  split <;> rfl

@[simp] lemma sent_arrive (i : ι) (now : Seconds) :
    (s.arrive limiter exchanges i now).sent = s.sent := by
  rw [arrive]
  split <;> rfl

@[simp] lemma api_reply (i : ι) : (s.reply exchanges i).api = s.api := by
  rw [reply]
  split <;> rfl

@[simp] lemma dispatched_reply (i : ι) : (s.reply exchanges i).dispatched = s.dispatched := by
  rw [reply]
  split <;> rfl

/-- What the rate limit has said stands. -/
lemma dispatched_arrive {i j : ι} {now : Seconds} {dispatched : Dispatched}
    (h : s.dispatched j = some dispatched) :
    (s.arrive limiter exchanges i now).dispatched j = some dispatched := by
  rw [arrive]
  split
  · exact h
  · rename_i hnew
    have hne : j ≠ i := by
      rintro rfl
      simp [h] at hnew
    simpa [hne] using h

/-- What was sent goes back to what was sent before, or it is the response that is due. -/
lemma sent_step {event : ServerMove ι C} {i : ι} {r : Response}
    (h : (step app limiter handle exchanges s event).sent i = some r) :
    s.sent i = some r ∨ event = .reply i ∧ s.response exchanges i = some r := by
  cases event with
  | arrive j now =>
    rw [step, sent_arrive] at h
    exact Or.inl h
  | act move =>
    rw [step] at h
    split at h <;> exact Or.inl h
  | reply j =>
    rw [step, reply] at h
    split at h
    · exact Or.inl h
    · by_cases hij : i = j
      · subst hij
        simp only [Function.update_self] at h
        exact Or.inr ⟨rfl, h⟩
      · simp only [Function.update_of_ne hij] at h
        exact Or.inl h

/-- What the rate limit has said to a request that has arrived does not change. -/
lemma dispatched_step {event : ServerMove ι C} {i : ι} {dispatched : Dispatched}
    (h : s.dispatched i = some dispatched) :
    (step app limiter handle exchanges s event).dispatched i = some dispatched := by
  cases event with
  | arrive j now => exact dispatched_arrive h
  | act move =>
    rw [step]
    split <;> exact h
  | reply j =>
    rw [step, dispatched_reply]
    exact h

omit [DecidableEq ι] in
lemma admitted_iff {i : ι} :
    s.admitted i = true ↔ ∃ d, s.dispatched i = some d ∧ d.admits = true := by
  rw [admitted, Option.any_eq_true]

/-- Who was admitted stays so. -/
lemma admitted_step {event : ServerMove ι C} {i : ι} (h : s.admitted i = true) :
    (step app limiter handle exchanges s event).admitted i = true := by
  obtain ⟨d, hd, hadmits⟩ := admitted_iff.1 h
  exact admitted_iff.2 ⟨d, dispatched_step hd, hadmits⟩

/-- The sessions take a step of the API, or they stay as they are. -/
lemma api_step (s : Server ι W C) (event : ServerMove ι C) :
    (step app limiter handle exchanges s event).api = s.api ∨
      ∃ move, s.admitted move.session = true ∧
        (step app limiter handle exchanges s event).api =
          System.step (serviceHost app handle) s.api move := by
  cases event with
  | arrive i now => exact Or.inl (api_arrive i now)
  | act move =>
    rw [step]
    split
    · rename_i hmove
      exact Or.inr ⟨move, hmove, rfl⟩
    · exact Or.inl rfl
  | reply i => exact Or.inl (api_reply i)

/-- **Refinement.**  The sessions of the server are a run of the API. -/
lemma exists_moves (s : Server ι W C) (events : List (ServerMove ι C)) : ∃ moves,
    (run (step app limiter handle exchanges) s events).api =
      run (System.step (serviceHost app handle)) s.api moves := by
  induction events generalizing s with
  | nil => exact ⟨[], rfl⟩
  | cons event events ih =>
    obtain ⟨moves, hmoves⟩ := ih (step app limiter handle exchanges s event)
    rw [run_cons, hmoves]
    rcases api_step s event with hsame | ⟨move, -, hstep⟩
    · exact ⟨moves, by rw [hsame]⟩
    · exact ⟨move :: moves, by rw [hstep, run_cons]⟩

/-- The session of a request that was not admitted has not started. -/
def Idle (app : App) (exchanges : ι → Exchange) (s : Server ι W C) : Prop :=
  ∀ i, s.admitted i = false → s.api.session i = .fresh ((exchanges i).httpCall.prog app)

omit [DecidableEq ι] in
lemma idle_start {t : Tables} {w : W} :
    (start app exchanges t w : Server ι W C).Idle app exchanges :=
  fun _ _ => rfl

lemma idle_step (hs : s.Idle app exchanges) (event : ServerMove ι C) :
    (step app limiter handle exchanges s event).Idle app exchanges := by
  intro i hi
  have hbefore : s.admitted i = false := by
    by_contra hadmitted
    cases (admitted_step (by simpa using hadmitted)).symm.trans hi
  rcases api_step s event with hsame | ⟨move, hmove, hstep⟩
  · rw [hsame]
    exact hs i hbefore
  · have hne : i ≠ move.session := by
      rintro rfl
      cases hmove.symm.trans hbefore
    rw [hstep, System.step_session_of_ne _ _ _ hne]
    exact hs i hbefore

end Runs

end Server

/-! ## What a request leaves in the log -/

section Rows

variable {app : App} {env : Ambient}

/-- What the log has beyond the old rows after these changes: one row at most, which names the
request, and none only if nothing has changed but the stamp of an API key. -/
inductive Leaves (env : Ambient) (writes : List (Tables → Tables)) : List AuditLog → Prop
  | nothing (stages : SignInStages env writes) : Leaves env writes []
  | row {entry : AuditLog}
      (named : entry.correlationId =
        if env.correlationId = "" then none else some env.correlationId)
      (appended : ∀ t, (view writes t).auditLogs = t.auditLogs ++ [entry]) :
      Leaves env writes [entry]

lemma SignInStages.view_auditLogs {gs : List (Tables → Tables)} (h : SignInStages env gs)
    (t : Tables) : (view gs t).auditLogs = t.auditLogs := by
  cases h <;> rfl

lemma Leaves.view_auditLogs {writes : List (Tables → Tables)} {rows : List AuditLog}
    (h : Leaves env writes rows) (t : Tables) :
    (view writes t).auditLogs = t.auditLogs ++ rows := by
  cases h with
  | nothing stages => rw [stages.view_auditLogs, List.append_nil]
  | row named appended => exact appended t

@[simp] lemma auditLogs_recording {user : User} {key : Option String} {post : Post}
    {response : ResponseBody} {t : Tables} :
    (view (recording app env user key post response) t).auditLogs = t.auditLogs := by
  rw [recording]
  split <;> rfl

/-- The row that a service adds is named after the request. -/
lemma correlationId_auditEntry {action : AuditAction} {actorId : Uuid}
    {resourceType resourceId : String} :
    (auditEntry env action actorId resourceType resourceId).correlationId =
      if env.correlationId = "" then none else some env.correlationId := rfl

section Books

variable {H : History Tables GatewayOp Exn} {answer : ApiAnswer} {stages : List (Tables → Tables)}
  (hstages : SignInStages env stages)
include hstages

lemma exists_leaves_of_nil (h : H.writes = []) :
    ∃ rows, Leaves env (stages ++ H.writes) rows := by
  rw [h, List.append_nil]
  exact ⟨[], .nothing hstages⟩

lemma exists_leaves_of_row {entry : AuditLog}
    (named : entry.correlationId =
      if env.correlationId = "" then none else some env.correlationId)
    (appended : ∀ t, (view H.writes t).auditLogs = t.auditLogs ++ [entry]) :
    ∃ rows, Leaves env (stages ++ H.writes) rows := by
  refine ⟨[entry], .row named fun t => ?_⟩
  rw [view_append, appended, hstages.view_auditLogs]

lemma UserCall.Books.leaves {user : User} {key : Option String} {call : UserCall}
    (h : call.Books app env user key H answer) :
    ∃ rows, Leaves env (stages ++ H.writes) rows := by
  cases h with
  | me writes
  | keysListed read own writes
  | listed read found responded writes
  | shown read found responded writes
  | providersListed writes
  | counted read total writes
  | refused writes
  | replayed read found same writes => exact exists_leaves_of_nil hstages writes
  | keyCreated writes
  | keyRevoked read mem same named owner writes
  | captured read found status responded writes
  | canceled read found status responded writes =>
    exact exists_leaves_of_row hstages correlationId_auditEntry fun t => by rw [writes]; rfl
  | created status responded writes
  | refunded read found status amount responded writes =>
    exact exists_leaves_of_row hstages correlationId_auditEntry fun t => by
      rw [writes, view_append, auditLogs_recording]
      rfl

end Books

variable {H : History Tables GatewayOp Exn} {answer : ApiAnswer}

lemma OpenCall.Books.leaves {call : OpenCall} (h : call.Books app env H answer) :
    ∃ rows, Leaves env H.writes rows := by
  cases h with
  | registered read free hash writes
  | loggedIn read found verified active unlocked hash writes =>
    exact exists_leaves_of_row .nothing correlationId_auditEntry fun t => by rw [writes]; rfl
  | received writes => exact exists_leaves_of_row .nothing rfl fun t => by rw [writes]; rfl
  | refreshed read token named found active writes
  | duplicate read mem writes
  | refused writes => exact exists_leaves_of_nil .nothing writes

/-- A request that does not fit its route leaves no more than the stamp of an API key. -/
lemma HttpCall.Books.stages_of_invalid {request : HttpCall} {errors : List FieldError}
    (h : request.Books app H (.invalid errors)) : SignInStages request.env H.writes := by
  cases h with
  | «open» books =>
    cases books with
    | refused writes =>
      rw [writes]
      exact .nothing
  | user signedIn role stages books history =>
    cases books with
    | refused writes =>
      rw [history, History.writes_append, writes, List.append_nil]
      exact stages

/-- Where there is nothing but the stamp of an API key, there is no row. -/
lemma Leaves.eq_nil {writes : List (Tables → Tables)} {rows : List AuditLog}
    (h : Leaves env writes rows) (hstages : SignInStages env writes) : rows = [] := by
  have hview := h.view_auditLogs Tables.empty
  rw [hstages.view_auditLogs] at hview
  exact List.self_eq_append_right.1 hview

/-- **What a request leaves in the log.** -/
lemma HttpCall.Books.leaves {request : HttpCall} (h : request.Books app H answer) :
    ∃ rows, Leaves request.env H.writes rows := by
  cases h with
  | «open» books => exact books.leaves
  | user signedIn role stages books history =>
    rw [history, History.writes_append]
    exact books.leaves stages

end Rows

/-! ## What a client is told -/

/-- An error, which has the name of the request in its envelope and in its header; the response to
an unexpected exception says nothing at all. -/
def Response.ErrorFor (r : Response) (x : Exchange) : Prop :=
  400 ≤ r.status ∧ (r = unhandledResponse ∨ ∃ code message details,
    r.payload = .error (envelope code message details x.correlationId) ∧
      r.header correlationHeader = some x.correlationId)

/-- What a client was told, by what has become of the request. -/
inductive Reply {C : Type} (app : App) (x : Exchange) (dispatched : Dispatched)
    (y : Session Tables C GatewayOp Exn ApiAnswer) (r : Response) : Prop
  /-- The answer of the route.  The changes may still be on the way, or were refused since. -/
  | answered {a} (payload : r.payload = .answer a) (status : r.status = x.route.status a)
      (named : r.header correlationHeader = some x.correlationId)
      (returned : (x.httpCall.prog app).Path [] y.history (.ok a)) (settled : y.Settled a)
  /-- The request does not fit its route. -/
  | invalid {errors} (error : r.ErrorFor x) (status : r.status = 422)
      (named : r.header correlationHeader = some x.correlationId)
      (returned : (x.httpCall.prog app).Path [] y.history (.ok (.invalid errors)))
      (settled : y.Settled (.invalid errors))
  /-- The request has failed, and its changes were dropped. -/
  | failed (error : r.ErrorFor x) (dropped : ∃ e, y.status = .rolledBack e)
  /-- The rate limit has turned the request away. -/
  | turnedAway (error : r.ErrorFor x) (status : r.status = 429)
      (rejected : dispatched.admits = false)

section Replies

variable {ι W C : Type} {app : App} {exchanges : ι → Exchange} {s : Server ι W C}

/-- A client that was told of an error has changed nothing but the stamp of an API key. -/
lemma Reply.signInStages {x : Exchange} {dispatched : Dispatched}
    {y : Session Tables C GatewayOp Exn ApiAnswer} {r : Response}
    (h : Reply app x dispatched y r) (hno : ∀ a, r.payload ≠ .answer a)
    (hadmits : dispatched.admits = true) (hkept : ∀ e, y.status ≠ .rolledBack e) :
    SignInStages x.httpCall.env y.history.writes := by
  cases h with
  | answered payload => exact absurd payload (hno _)
  | invalid error status named returned settled =>
    obtain ⟨hbooks, -, -⟩ := (x.httpCall.prog_books app).of_path returned
    exact (hbooks _ rfl).stages_of_invalid
  | failed error dropped =>
    obtain ⟨e, he⟩ := dropped
    exact absurd he (hkept e)
  | turnedAway error status rejected => cases hadmits.symm.trans rejected

/-- A client whose changes were not dropped was told the name of the request. -/
lemma Reply.named {x : Exchange} {dispatched : Dispatched}
    {y : Session Tables C GatewayOp Exn ApiAnswer} {r : Response}
    (h : Reply app x dispatched y r) (hadmits : dispatched.admits = true)
    (hkept : ∀ e, y.status ≠ .rolledBack e) :
    r.header correlationHeader = some x.correlationId := by
  cases h with
  | answered payload status named => exact named
  | invalid error status named => exact named
  | failed error dropped =>
    obtain ⟨e, he⟩ := dropped
    exact absurd he (hkept e)
  | turnedAway error status rejected => cases hadmits.symm.trans rejected

/-- What was told stays so, whoever moves. -/
lemma Reply.step [DecidableEq ι] {x : Exchange} {dispatched : Dispatched} {r : Response}
    {h : Host Tables W C GatewayOp Exn} {a : ApiSystem ι W C} {i : ι} (m : Move ι C)
    (hr : Reply app x dispatched (a.session i) r) :
    Reply app x dispatched ((System.step h a m).session i) r := by
  cases hr with
  | answered payload status named returned settled =>
    obtain ⟨hsettled, hhistory⟩ := System.settled_step (h := h) (m := m) settled
    exact .answered payload status named (hhistory ▸ returned) hsettled
  | invalid error status named returned settled =>
    obtain ⟨hsettled, hhistory⟩ := System.settled_step (h := h) (m := m) settled
    exact .invalid error status named (hhistory ▸ returned) hsettled
  | failed error dropped =>
    obtain ⟨e, he⟩ := dropped
    exact .failed error ⟨e, by rw [System.session_step_of_rolledBack he, he]⟩
  | turnedAway error status rejected => exact .turnedAway error status rejected

/-- Where there is a response, the stack has made it. -/
lemma Server.responds {i : ι} {r : Response} (h : s.response exchanges i = some r) :
    ∃ dispatched, s.dispatched i = some dispatched ∧
      Responds (exchanges i).correlationId dispatched (s.outcome exchanges i) r := by
  obtain ⟨dispatched, hdispatched, hr⟩ := Option.bind_eq_some_iff.1 h
  exact ⟨dispatched, hdispatched, responds_of_respond hr⟩

lemma Server.hasReturned_of_outcome {i : ι} {r : Response}
    (h : s.outcome exchanges i = some (.ok r)) :
    ∃ a, (s.api.session i).HasReturned a ∧ r = (exchanges i).answered a := by
  rw [Server.outcome] at h
  split at h
  · rename_i a ha
    exact ⟨a, Or.inl ha, (Except.ok.inj (Option.some_inj.1 h)).symm⟩
  · cases h
  · rename_i a ha
    exact ⟨a, Or.inr ha, (Except.ok.inj (Option.some_inj.1 h)).symm⟩
  · cases h

lemma Server.rolledBack_of_outcome {i : ι} {e : Exn}
    (h : s.outcome exchanges i = some (.error e)) : (s.api.session i).status = .rolledBack e := by
  rw [Server.outcome] at h
  split at h
  · cases h
  · cases h
  · cases h
  · rename_i e' he
    rw [he, Except.error.inj (Option.some_inj.1 h)]

/-- Who was turned away was told so in the envelope of all errors. -/
def Server.Polite (exchanges : ι → Exchange) (s : Server ι W C) : Prop :=
  ∀ i body retryAfter, s.dispatched i = some (.rejected body retryAfter) →
    body = rateLimitedBody retryAfter (some (exchanges i).correlationId)

/-- The response that is due fits what has become of the request. -/
lemma Server.Polite.reply (hs : s.Polite exchanges)
    (hfollows : ∀ i, (s.api.session i).Follows ((exchanges i).httpCall.prog app)) {i : ι}
    {r : Response} (hr : s.response exchanges i = some r) :
    ∃ dispatched, s.dispatched i = some dispatched ∧
      Reply app (exchanges i) dispatched (s.api.session i) r := by
  obtain ⟨dispatched, hdispatched, hresponds⟩ := Server.responds hr
  refine ⟨dispatched, hdispatched, ?_⟩
  generalize houtcome : s.outcome exchanges i = outcome at hresponds
  cases hresponds with
  | passed admitted status payload named =>
    obtain ⟨a, ha, rfl⟩ := Server.hasReturned_of_outcome houtcome
    have hreturned := (hfollows i).of_hasReturned ha
    rcases (exchanges i).answered_cases a with ⟨errors, rfl, hinvalid⟩ | hanswer
    · rw [hinvalid] at status payload
      have hstatus : r.status = 422 := status
      exact .invalid ⟨by omega, Or.inr ⟨_, _, _, payload, named⟩⟩ hstatus named hreturned
        (Or.inl ha)
    · rw [hanswer] at status payload
      exact .answered payload status named hreturned (Or.inl ha)
  | failed admitted status payload named =>
    refine .failed ⟨?_, Or.inr ⟨_, _, _, payload, named⟩⟩ ⟨_, rolledBack_of_outcome houtcome⟩
    rw [status]
    exact DomainErrorClass.four_hundred_le_httpStatus _
  | rejected rejected status payload named =>
    rw [rejected] at hdispatched ⊢
    rw [hs i _ _ hdispatched, rateLimitedBody_eq] at payload
    exact .turnedAway ⟨by omega, Or.inr ⟨_, _, _, payload, named⟩⟩ status rfl
  | unhandled => exact .failed ⟨by decide, Or.inl rfl⟩ ⟨_, rolledBack_of_outcome houtcome⟩

/-- A request that has committed has a response, with its name. -/
lemma Server.Idle.response_of_committed (hs : s.Idle app exchanges) {i : ι} {a : ApiAnswer}
    (ha : (s.api.session i).Committed a) : ∃ dispatched, s.dispatched i = some dispatched ∧
      dispatched.admits = true ∧ ∃ r, s.response exchanges i = some r ∧
        r.header correlationHeader = some (exchanges i).correlationId := by
  have hadmitted : s.admitted i = true := by
    by_contra hno
    rw [hs i (by simpa using hno)] at ha
    cases ha
  obtain ⟨dispatched, hdispatched, hadmits⟩ := Server.admitted_iff.1 hadmitted
  obtain ⟨r, hr, -, -, hnamed⟩ := respond_response hadmits
    (rfl : exceptionHandlers (exchanges i).correlationId (.ok ((exchanges i).answered a)) = .ok _)
  refine ⟨dispatched, hdispatched, hadmits, r, ?_, hnamed⟩
  rw [Server.response, hdispatched, Option.bind_some, Server.outcome]
  rw [show (s.api.session i).status = _ from ha]
  exact hr

/-- What the rate limit says to a request that it turns away. -/
lemma dispatch_rejected {limiter : RateLimiter} {request : Request} {now : Seconds}
    {buckets : Buckets} {body : Json} {retryAfter : ℤ}
    (h : (dispatch limiter request now buckets).1 = .rejected body retryAfter) :
    body = rateLimitedBody retryAfter request.correlationId := by
  rw [dispatch] at h
  split at h
  · cases h
  · dsimp only at h
    split at h
    · cases h
      rfl
    · cases h

end Replies

/-! ## All runs of the server -/

/-- What the log and the responses say of each other: the requests that have committed, in their
order, and what each of them has left in the log. -/
structure Traceable {ι W C : Type} (app : App) (exchanges : ι → Exchange) (t : Tables)
    (entries : List (ι × List AuditLog)) (s : Server ι W C) : Prop where
  /-- The tables are what these requests have made of them; no other request has a part in it. -/
  store : s.api.store =
    entries.foldl (fun t e => view (s.api.session e.1).history.writes t) t
  log : s.api.store.auditLogs = t.auditLogs ++ (entries.map Prod.snd).flatten
  nodup : (entries.map Prod.fst).Nodup
  committed : ∀ i, i ∈ entries.map Prod.fst ↔ ∃ a, (s.api.session i).Committed a
  /-- The row of a request has its name; a request without a row has changed nothing but the stamp
  of an API key. -/
  rows : ∀ e ∈ entries,
    (e.2 = [] ∧ SignInStages (exchanges e.1).httpCall.env (s.api.session e.1).history.writes) ∨
      ∃ row, e.2 = [row] ∧ row.correlationId = some (exchanges e.1).correlationId
  /-- The response to it has the same name, be it due or sent. -/
  named : ∀ e ∈ entries, (s.response exchanges e.1).isSome ∧
    ∀ r, s.response exchanges e.1 = some r ∨ s.sent e.1 = some r →
      r.header correlationHeader = some (exchanges e.1).correlationId
  /-- Every response that was sent fits what has become of its request. -/
  replies : ∀ i r, s.sent i = some r → ∃ dispatched, s.dispatched i = some dispatched ∧
    Reply app (exchanges i) dispatched (s.api.session i) r
  /-- A request whose client was told of an error has left nothing but the stamp of an API key. -/
  unchanged : ∀ e ∈ entries, ∀ r, s.sent e.1 = some r → (∀ a, r.payload ≠ .answer a) →
    e.2 = [] ∧ SignInStages (exchanges e.1).httpCall.env (s.api.session e.1).history.writes
  /-- A request that was turned away has not even read anything. -/
  rejected : ∀ i, s.admitted i = false → (s.api.session i).history = .nil

section Runs

variable {ι W C : Type} [DecidableEq ι] {app : App} {limiter : Option RateLimiter}
  {handle : C → Handler GatewayOp Exn W} {exchanges : ι → Exchange} {s : Server ι W C}

lemma Server.polite_step (hs : s.Polite exchanges) (event : ServerMove ι C) :
    (step app limiter handle exchanges s event).Polite exchanges := by
  intro i body retryAfter hi
  cases event with
  | act move =>
    rw [step] at hi
    split at hi <;> exact hs i body retryAfter hi
  | reply j =>
    rw [step, dispatched_reply] at hi
    exact hs i body retryAfter hi
  | arrive j now =>
    rw [step, arrive] at hi
    split at hi
    · exact hs i body retryAfter hi
    · by_cases hij : i = j
      · subst hij
        simp only [Function.update_self, Option.some_inj] at hi
        cases limiter with
        | none => cases hi
        | some limiter => exact dispatch_rejected hi
      · simp only [Function.update_of_ne hij] at hi
        exact hs i body retryAfter hi

/-- What holds of the server at any time, of its requests as well as of the responses that were
sent. -/
structure Server.Sound (app : App) (exchanges : ι → Exchange) (s : Server ι W C) : Prop where
  api : ApiSound app (fun i => (exchanges i).httpCall) (fun _ => True) s.api
  idle : s.Idle app exchanges
  polite : s.Polite exchanges
  replies : ∀ i r, s.sent i = some r → ∃ dispatched, s.dispatched i = some dispatched ∧
    Reply app (exchanges i) dispatched (s.api.session i) r

omit [DecidableEq ι] in
lemma Server.sound_start {t : Tables} {w : W} :
    (start app exchanges t w : Server ι W C).Sound app exchanges where
  api := apiSound_start trivial
  idle := idle_start
  polite i _ _ hi := by cases hi
  replies i r hr := by cases hr

/-- **One move.**  A response that is sent fits its request, and goes on to fit it. -/
lemma Server.sound_step (hs : s.Sound app exchanges) (event : ServerMove ι C) :
    (step app limiter handle exchanges s event).Sound app exchanges where
  api := by
    rcases api_step s event with hsame | ⟨move, -, hstep⟩
    · rw [hsame]
      exact hs.api
    · rw [hstep]
      exact apiSound_step (bookingsKeep_of_accepts fun _ _ => trivial) hs.api
  idle := idle_step hs.idle event
  polite := polite_step hs.polite event
  replies i r hr := by
    obtain ⟨dispatched, hdispatched, hreply⟩ : ∃ dispatched, s.dispatched i = some dispatched ∧
        Reply app (exchanges i) dispatched (s.api.session i) r := by
      rcases sent_step hr with hbefore | ⟨-, hdue⟩
      · exact hs.replies i r hbefore
      · exact hs.polite.reply hs.api.sound.follows hdue
    refine ⟨dispatched, dispatched_step hdispatched, ?_⟩
    rcases api_step s event with hsame | ⟨move, -, hstep⟩
    · rw [hsame]
      exact hreply
    · rw [hstep]
      exact hreply.step move

/-- The audit log is a journal of the requests that have committed. -/
lemma exists_journal (app : App) (handle : C → Handler GatewayOp Exn W) (requests : ι → HttpCall)
    (t : Tables) (w : W) (moves : List (Move ι C)) :
    ∃ entries, Journal Tables.auditLogs (fun i H _ rows => Leaves (requests i).env H.writes rows) t
      entries (run (System.step (serviceHost app handle)) (apiStart app requests t w) moves) := by
  have halways : Always (System.step (serviceHost app handle)) (fun s =>
      ApiSound app requests (fun _ => True) s ∧ ∃ entries, Journal Tables.auditLogs
        (fun i H _ rows => Leaves (requests i).env H.writes rows) t entries s)
      (apiStart app requests t w) moves := by
    refine always_of_step ?_ ⟨apiSound_start trivial, [], journal_start⟩ moves
    rintro s m ⟨hs, entries, hentries⟩
    refine ⟨apiSound_step (bookingsKeep_of_accepts fun _ _ => trivial) hs, ?_⟩
    refine hentries.step fun a ha => ?_
    obtain ⟨rows, hrows⟩ := (hs.books_of_publishes ha).leaves
    exact ⟨rows, hrows.view_auditLogs _, hrows⟩
  exact halways.last.2

omit [DecidableEq ι] in
/-- What the server says of its requests is traceable, given the journal of its sessions. -/
lemma Server.Sound.traceable (hs : s.Sound app exchanges) {t : Tables}
    {entries : List (ι × List AuditLog)} (hjournal : Journal Tables.auditLogs
      (fun i H _ rows => Leaves (exchanges i).httpCall.env H.writes rows) t entries s.api) :
    Traceable app exchanges t entries s where
  store := hjournal.store
  log := hjournal.log
  nodup := hjournal.nodup
  committed := hjournal.committed
  rows := by
    rintro ⟨i, rows⟩ he
    obtain ⟨a, ha, hleaves⟩ := hjournal.appended _ he
    cases hleaves with
    | nothing stages => exact Or.inl ⟨rfl, stages⟩
    | row named appended =>
      refine Or.inr ⟨_, rfl, ?_⟩
      rw [named]
      exact if_neg Exchange.correlationId_ne_empty
  named := by
    rintro ⟨i, rows⟩ he
    obtain ⟨a, ha, -⟩ := hjournal.appended _ he
    obtain ⟨dispatched, hdispatched, hadmits, r, hr, hnamed⟩ := hs.idle.response_of_committed ha
    refine ⟨by rw [hr]; rfl, ?_⟩
    rintro r' (hdue | hsent)
    · cases hr.symm.trans hdue
      exact hnamed
    · obtain ⟨dispatched', hdispatched', hreply⟩ := hs.replies i r' hsent
      cases hdispatched.symm.trans hdispatched'
      exact hreply.named hadmits fun e he => by cases he.symm.trans ha
  replies := hs.replies
  unchanged := by
    rintro ⟨i, rows⟩ he r hsent hno
    obtain ⟨a, ha, hleaves⟩ := hjournal.appended _ he
    obtain ⟨dispatched, hdispatched, hadmits, -⟩ := hs.idle.response_of_committed ha
    obtain ⟨dispatched', hdispatched', hreply⟩ := hs.replies i r hsent
    cases hdispatched.symm.trans hdispatched'
    have hstages := hreply.signInStages hno hadmits fun e he => by cases he.symm.trans ha
    exact ⟨hleaves.eq_nil hstages, hstages⟩
  rejected := by
    intro i hi
    rw [hs.idle i hi]
    rfl

/-- **Every change can be traced.**  Whatever the requests are, whenever they arrive and however
their steps interleave, the tables are what the requests that have committed have made of them,
the audit log tells them by the names that are in the responses, and every response that was sent
fits what has become of its request. -/
theorem changes_traceable (app : App) (limiter : Option RateLimiter)
    (handle : C → Handler GatewayOp Exn W) (exchanges : ι → Exchange) (t : Tables) (w : W)
    (events : List (ServerMove ι C)) :
    ∃ entries, Traceable app exchanges t entries
      (run (Server.step app limiter handle exchanges) (.start app exchanges t w) events) := by
  have hsound : Always (Server.step app limiter handle exchanges) (Server.Sound app exchanges)
      (.start app exchanges t w) events := by
    refine always_of_step (fun s event hs => ?_) Server.sound_start events
    exact Server.sound_step hs event
  obtain ⟨moves, hmoves⟩ : ∃ moves,
      (run (Server.step app limiter handle exchanges) (.start app exchanges t w) events).api =
        run (System.step (serviceHost app handle))
          (Server.start app exchanges t w : Server ι W C).api moves :=
    Server.exists_moves _ events
  obtain ⟨entries, hjournal⟩ :=
    exists_journal app handle (fun i => (exchanges i).httpCall) t w moves
  rw [← show (Server.start app exchanges t w : Server ι W C).api =
    apiStart app (fun i => (exchanges i).httpCall) t w from rfl, ← hmoves] at hjournal
  exact ⟨entries, hsound.last.traceable hjournal⟩

end Runs

end PaymentGateway
