/-
# Requests that are repeated

A client that has lost an answer sends its request again, under the same idempotency key.  Two
requests that are under way at the same time may both reach the provider; but once a request has
committed, its record is there for every session that starts later.  So whatever else goes on, a
later `POST` of the same user to the same endpoint under the same key calls no provider and stages
nothing that has to do with money, and if its program returns, then its body was the same and what
it returns is what the first one has returned (`repetition_replays`).  The user may come with other
credentials.  A repetition that comes before the commit, be it after the response, is one of the
requests that are under way at the same time.

What carries it is the contract of the endpoints: they go further than the lookup only on the
grounds of tables without a record (`unrecordedRules`).
-/
import PaymentGateway.LastingAnswers

namespace PaymentGateway

open Transact

/-! ## The statement -/

section Model

variable (app : App)

/-- The request of the user was looked up, and there was no record of it. -/
def Unrecorded (headers : Headers) (post : Post) (H : History Tables GatewayOp Exn) : Prop :=
  ∃ user, SignedIn app headers H user ∧ ∃ d ∈ H.reads,
    d.getIdempotencyKey user.id post.endpoint (headers.idempotencyKey.getD "") = .ok none

/-- Only what is not on record is done: a request calls a provider or changes a payment only
after it has found no record under its key. -/
def unrecordedRules (headers : Headers) (post : Post) : Rules Tables GatewayOp Exn where
  call H _ _ := Unrecorded app headers post H
  write H f := Harmless f ∨ Unrecorded app headers post H

/-- The answer is the one on record, for the same body. -/
def FromRecord (headers : Headers) (post : Post) (H : History Tables GatewayOp Exn)
    (answer : ApiAnswer) : Prop :=
  ∃ user row, SignedIn app headers H user ∧ (∃ d ∈ H.reads,
      d.getIdempotencyKey user.id post.endpoint (headers.idempotencyKey.getD "") =
        .ok (some row)) ∧
    row.requestHash = hashBody app post.body ∧
      answer = .stored ⟨row.responseStatus, row.responseBody⟩

/-- The request is on record for the user: the row under its key has the hash of its body, and
this answer. -/
def OnRecord (t : Tables) (userId : Uuid) (headers : Headers) (post : Post) (answer : ApiAnswer) :
    Prop :=
  ∃ row ∈ t.idempotencyKeys,
    row.under = (userId, post.endpoint, headers.idempotencyKey.getD "") ∧
      row.requestHash = hashBody app post.body ∧
        answer = .stored ⟨row.responseStatus, row.responseBody⟩

/-- The repetition of a `POST` with this answer and this hash comes to nothing else: it calls no
provider, moves no money, and only the same body is answered, with the same answer. -/
structure Repeats {C : Type} (post : Post) (hash : String) (answer : ApiAnswer)
    (x : Session Tables C GatewayOp Exn ApiAnswer) : Prop where
  calls : x.history.calls = []
  writes : ∀ f ∈ x.history.writes, Harmless f
  answer : ∀ a, x.HasReturned a → hashBody app post.body = hash ∧ a = answer

end Model

/-! ## What the endpoints keep to -/

section Endpoints

variable {app : App} {env : Ambient} {headers : Headers} {post : Post}
  {H : History Tables GatewayOp Exn}

lemma Unrecorded.append (h : Unrecorded app headers post H) (K : History Tables GatewayOp Exn) :
    Unrecorded app headers post (H ++ K) := by
  obtain ⟨user, hsigned, d, hd, hnone⟩ := h
  exact ⟨user, hsigned.append K, d, List.mem_append_left _ hd, hnone⟩

lemma unrecordedRules_stable : (unrecordedRules app headers post).Stable where
  call K _ _ h := h.append K
  write K _ h := h.imp_right fun h => h.append K

/-- The handler looks first. -/
lemma post_meets (hkey : given headers.idempotencyKey = true) {user : User}
    (hsigned : SignedIn app headers H user) (hstages : SignInStages env H.writes) :
    (post.handler app env user headers.idempotencyKey).Meets (unrecordedRules app headers post)
      (fun K stored => Unrecorded app headers post K ∨
        FromRecord app headers post K (.stored stored)) H := by
  rw [Post.handler_eq, idempotently, if_pos hkey]
  simp only [lookup, Prog.bind_assoc, Prog.meets_ask_bind, Prog.meets_ofExcept_bind]
  intro d found hfound
  have hd : d.getIdempotencyKey user.id post.endpoint (headers.idempotencyKey.getD "") =
      .ok found := by
    rw [← hfound, Tables.getIdempotencyKey, Tables.getIdempotencyKey,
      hstages.view_idempotencyKeys]
  cases found with
  | none =>
    have hnone (K : History Tables GatewayOp Exn) :
        Unrecorded app headers post (H ++ .ofRead d ++ K) :=
      Unrecorded.append ⟨user, hsigned.append _, d, by simp, hd⟩ K
    exact Prog.meets_of_allowed (fun K _ _ => hnone K) (fun K _ => Or.inr (hnone K))
      fun K _ => Or.inl (hnone K)
  | some row =>
    simp only [Prog.bind_assoc, Prog.meets_raiseIf_bind, Prog.pure_def, Prog.ret_bind,
      Prog.meets_ret]
    intro hsame
    exact Or.inr ⟨user, row, hsigned.append _, ⟨d, by simp, hd⟩, by simpa using hsame, rfl⟩

/-- **What a repetition keeps to.** -/
lemma prog_meets_unrecorded (hkey : given headers.idempotencyKey = true) :
    (HttpCall.prog app ⟨env, .user headers (.post post)⟩).Meets (unrecordedRules app headers post)
      (fun K answer => Unrecorded app headers post K ∨ FromRecord app headers post K answer)
      .nil := by
  rw [HttpCall.prog, Prog.meets_bind]
  refine ((dependency_meets _).and (dependency_stages _)).mono (fun _ _ _ h => h.elim)
    (fun _ f h => Or.inl h) ?_
  rintro K user ⟨⟨hsigned, -⟩, hstages⟩
  exact Prog.meets_bind.2 (post_meets hkey hsigned hstages)

end Endpoints

/-! ## What is on record -/

section Records

variable {app : App} {t t' : Tables} {userId : Uuid} {headers : Headers} {post : Post}
  {answer : ApiAnswer} {H : History Tables GatewayOp Exn}

lemma OnRecord.lasts (ht : Evolves t t') (h : OnRecord app t userId headers post answer) :
    OnRecord app t' userId headers post answer := by
  obtain ⟨row, hrow, hsays⟩ := h
  exact ⟨row, ht.idempotencyKeys.subset hrow, hsays⟩

/-- The record is found, and only this one. -/
lemma OnRecord.found (ht : t.Unique) (h : OnRecord app t userId headers post answer) :
    ∃ row, t.getIdempotencyKey userId post.endpoint (headers.idempotencyKey.getD "") =
        .ok (some row) ∧ row.requestHash = hashBody app post.body ∧
      answer = .stored ⟨row.responseStatus, row.responseBody⟩ := by
  obtain ⟨row, hrow, hunder, hsays⟩ := h
  refine ⟨row, ?_, hsays⟩
  rw [getIdempotencyKey_eq, scalarOneOrNone_eq_some, ← hunder]
  exact filter_key_eq ht.ownerEndpointKey hrow

/-- Who comes with credentials of the user is the user. -/
lemma Identifies.signedIn_id {user : User} (h : Identifies app t userId headers)
    (hsigned : SignedIn app headers H user) (hreads : ∀ d ∈ H.reads, d.Unique ∧ Evolves t d) :
    user.id = userId := by
  cases h with
  | apiKey presented mem hash owner =>
    cases hsigned with
    | bearer absent => cases presented.symm.trans absent
    | @apiKey d d' key _ read found live later hfound active =>
      obtain ⟨hunique, hevolves⟩ := hreads d read
      obtain ⟨key', hkey', hlater⟩ := hevolves.apiKeys.exists_of_mem mem
      rw [Tables.getByHash_eq_some hunique.hashedKey] at found
      -- the hashes are unique, and a key does not change hands
      obtain rfl := eq_of_key_eq hunique.hashedKey found.1 hkey'
        (found.2.trans (hlater.hashedKey.trans hash).symm)
      rw [(mem_of_getUser hfound).2, hlater.userId, owner]
  | bearer absent token named =>
    cases hsigned with
    | apiKey presented => cases absent.symm.trans presented
    | bearer _ token' named' read found active =>
      obtain rfl := Except.ok.inj (token.symm.trans token')
      obtain rfl := Except.ok.inj (named.symm.trans named')
      exact (mem_of_getUser found).2

/-- What the handler returns under a key is on record once it is booked. -/
lemma UserCall.Books.onRecord {env : Ambient} {user : User}
    (h : (UserCall.post post).Books app env user headers.idempotencyKey H answer)
    (hkey : given headers.idempotencyKey = true) (hreads : ∀ d ∈ H.reads, Evolves d t) :
    OnRecord app (view H.writes t) user.id headers post answer := by
  have hview := evolving_view h.evolving t
  have hrecording {response : ResponseBody} {t : Tables} :
      OnRecord app (view (recording app env user headers.idempotencyKey post response) t) user.id
        headers post (.stored ⟨201, response⟩) := by
    rw [recording, if_pos hkey]
    exact ⟨_, List.mem_append_right _ List.mem_cons_self, rfl, rfl, rfl⟩
  cases h with
  | @replayed _ row d read found same writes =>
    rw [getIdempotencyKey_eq, scalarOneOrNone_eq_some] at found
    obtain ⟨hrow, hunder⟩ := mem_of_filter_eq_singleton found
    have honRecord : OnRecord app d user.id headers post
        (.stored ⟨row.responseStatus, row.responseBody⟩) :=
      ⟨row, hrow, of_decide_eq_true hunder, same, rfl⟩
    exact honRecord.lasts ((hreads d read).trans hview)
  | created status responded writes =>
    rw [writes, view_append]
    exact hrecording
  | refunded read found status amount responded writes =>
    rw [writes, view_append]
    exact hrecording

end Records

/-! ## All interleavings -/

section Interleavings

/-- What a request under a key has returned is on record for the user whose credentials were
given. -/
def KeptOnRecord (app : App) (request : HttpCall) (answer : ApiAnswer) (t : Tables) : Prop :=
  ∀ headers post, request.call = .user headers (.post post) →
    given headers.idempotencyKey = true → ∃ userId, Identifies app t userId headers ∧
      OnRecord app t userId headers post answer

variable {ι W C : Type} [DecidableEq ι] {app : App} {handle : C → Handler GatewayOp Exn W}
  {requests : ι → HttpCall} {s : ApiSystem ι W C} {m : Move ι C}

lemma KeptOnRecord.lasts {request : HttpCall} {answer : ApiAnswer} {t t' : Tables}
    (ht : Evolves t t') (h : KeptOnRecord app request answer t) :
    KeptOnRecord app request answer t' := by
  intro headers post hcall hkey
  obtain ⟨userId, hidentifies, honRecord⟩ := h headers post hcall hkey
  exact ⟨userId, hidentifies.lasts ht, honRecord.lasts ht⟩

lemma HttpCall.Books.keptOnRecord {request : HttpCall} {H : History Tables GatewayOp Exn}
    {answer : ApiAnswer} {t : Tables} (h : request.Books app H answer)
    (hreads : ∀ d ∈ H.reads, Evolves d t) :
    KeptOnRecord app request answer (view H.writes t) := by
  have hview := h.evolving t
  intro headers post hcall hkey
  cases h with
  | «open» => cases hcall
  | @user _ _ _ _ user L K signedIn role stages books history =>
    cases hcall
    subst history
    have hstages := evolving_view (evolving_signIn stages) t
    refine ⟨user.id, (signedIn.identifies fun d hd => (hreads d hd).trans hview).1, ?_⟩
    rw [History.writes_append, view_append]
    exact books.onRecord hkey fun d hd => (hreads d (by simp [hd])).trans hstages

omit [DecidableEq ι] in
/-- Who finds the record does nothing else. -/
lemma repeats_of_readsSince {t : Tables} {userId : Uuid} {headers headers' : Headers}
    {post post' : Post} {answer : ApiAnswer} {j : ι}
    (hj : (s.session j).Honours (unrecordedRules app headers' post') fun H a =>
      Unrecorded app headers' post' H ∨ FromRecord app headers' post' H a)
    (hidentifies : Identifies app t userId headers')
    (honRecord : OnRecord app t userId headers post answer)
    (hsame : headers'.idempotencyKey = headers.idempotencyKey ∧ post'.endpoint = post.endpoint)
    (hreads : ∀ d ∈ (s.session j).history.reads, d.Unique ∧ Evolves t d) :
    Repeats app post' (hashBody app post.body) answer (s.session j) := by
  have hfound {user : User} (hsigned : SignedIn app headers' (s.session j).history user)
      {d : Tables} (hd : d ∈ (s.session j).history.reads) := by
    have hid := hidentifies.signedIn_id hsigned hreads
    have hrow := (honRecord.lasts (hreads d hd).2).found (hreads d hd).1
    rwa [← hid, ← hsame.1, ← hsame.2] at hrow
  have hno : ¬ Unrecorded app headers' post' (s.session j).history := by
    rintro ⟨user, hsigned, d, hd, hnone⟩
    obtain ⟨row, hrow, -⟩ := hfound hsigned hd
    cases hnone.symm.trans hrow
  refine ⟨?_, fun f hf => (hj.writes f hf).resolve_right hno, fun a ha => ?_⟩
  · by_contra hcalls
    obtain ⟨c, hc⟩ := List.exists_mem_of_ne_nil _ hcalls
    exact hno (hj.calls c hc)
  · obtain ⟨user, row', hsigned, ⟨d, hd, hrow'⟩, hhash', ha'⟩ := (hj.returned ha).resolve_left hno
    obtain ⟨row, hrow, hhash, hanswer⟩ := hfound hsigned hd
    obtain rfl : row = row' := by
      cases hrow.symm.trans hrow'
      rfl
    exact ⟨hhash'.symm.trans hhash, ha'.trans hanswer.symm⟩

/-- **A repetition replays.**  Once a `POST` under a key has committed, a request that comes later
with credentials of the same user, to the same endpoint and under the same key, calls no provider
and moves no money, and only the same body is answered, with the same answer. -/
theorem repetition_replays (hunique : ∀ t, app.accepts t = true → t.Unique) {t : Tables}
    (ht : t.Unique) (handle : C → Handler GatewayOp Exn W) (requests : ι → HttpCall) (w : W)
    (moves later : List (Move ι C)) {i : ι} {headers : Headers} {post : Post} {answer : ApiAnswer}
    (hrequest : (requests i).call = .user headers (.post post))
    (hkey : given headers.idempotencyKey = true)
    (hcommitted : ((run (System.step (serviceHost app handle)) (apiStart app requests t w)
      moves).session i).Committed answer) :
    ∃ userId, Identifies app (run (System.step (serviceHost app handle))
        (apiStart app requests t w) moves).store userId headers ∧
      ∀ j headers' post', (requests j).call = .user headers' (.post post') →
        Identifies app (run (System.step (serviceHost app handle))
          (apiStart app requests t w) moves).store userId headers' →
        headers'.idempotencyKey = headers.idempotencyKey → post'.endpoint = post.endpoint →
        ((run (System.step (serviceHost app handle)) (apiStart app requests t w)
          moves).session j).history.reads = [] →
        Always (System.step (serviceHost app handle))
          (fun s => Repeats app post' (hashBody app post.body) answer (s.session j))
          (run (System.step (serviceHost app handle)) (apiStart app requests t w) moves) later := by
  have hI : BookingsKeep app Tables.Unique := bookingsKeep_of_accepts hunique
  have halways : Always (System.step (serviceHost app handle))
      (fun s => ApiSound app requests Tables.Unique s ∧
        Answered (fun i a t => KeptOnRecord app (requests i) a t) s)
      (apiStart app requests t w) moves :=
    answered_run hI ht w (fun _ _ _ _ ht h => h.lasts ht)
      (fun _ _ _ _ hbooks _ hreads => hbooks.keptOnRecord fun d hd => (hreads d hd).2) moves
  obtain ⟨hrun, hkept⟩ := halways.last
  obtain ⟨userId, hidentifies, honRecord⟩ := hkept i answer hcommitted headers post hrequest hkey
  refine ⟨userId, hidentifies, fun j headers' post' hcall hidentifies' hsame hendpoint hnone => ?_⟩
  have hmeets : ((requests j).prog app).Meets (unrecordedRules app headers' post')
      (fun H a => Unrecorded app headers' post' H ∨ FromRecord app headers' post' H a) .nil := by
    rw [show requests j = ⟨(requests j).env, .user headers' (.post post')⟩ by rw [← hcall]]
    exact prog_meets_unrecorded (hsame ▸ hkey)
  -- the contract holds all along, also before `j` has read anything
  have hhonours : Always (System.step (serviceHost app handle)) (fun s => (s.session j).Honours
      (unrecordedRules app headers' post') fun H a =>
        Unrecorded app headers' post' H ∨ FromRecord app headers' post' H a)
      (apiStart app requests t w) moves :=
    always_of_step (fun _ m hs => System.honours_session_step unrecordedRules_stable hs m)
      (Session.honours_fresh hmeets) moves
  refine (always_of_step (I := fun s => (ApiSound app requests Tables.Unique s ∧
    s.ReadsSince Tables.Unique Evolves (run (System.step (serviceHost app handle))
      (apiStart app requests t w) moves).store j) ∧ (s.session j).Honours
        (unrecordedRules app headers' post') fun H a =>
          Unrecorded app headers' post' H ∨ FromRecord app headers' post' H a) ?_ ?_ later).mono
    fun s hs => repeats_of_readsSince hs.2 hidentifies' honRecord ⟨hsame, hendpoint⟩ hs.1.2.reads
  · exact fun s m hs => ⟨⟨apiSound_step hI hs.1.1,
      hs.1.2.step hs.1.1.sound.store (hs.1.2.store.trans (evolves_step hs.1.1))⟩,
        System.honours_session_step unrecordedRules_stable hs.2 m⟩
  · exact ⟨⟨hrun, System.readsSince_of_nil (evolves_refl _) hnone⟩, hhonours.last⟩

end Interleavings

/-- A merchant pays, and does it again. -/
def repeatedPayment (_ : Bool) : HttpCall where
  env := demoEnv 1
  call := .user ⟨some "upgi_sk_1", none, some "order-1"⟩ (.post (.payment (demoPayload .mock)))

/-- One step of the two requests, with the mock provider behind them. -/
def repetitionStep : ApiSystem Bool Unit Unit → Move Bool Unit → ApiSystem Bool Unit Unit :=
  System.step (serviceHost demoApp (mockHandler ""))

/-- The system in which neither of the two requests has begun. -/
def repetitionStart : ApiSystem Bool Unit Unit :=
  apiStart demoApp repeatedPayment apiKeyTables ()

/-- The steps of the first request, up to its commit. -/
def repetitionMoves : List (Move Bool Unit) := List.replicate 14 ⟨true, ()⟩

/-- What the first request has returned, once it is committed. -/
def repetitionAnswer : ApiAnswer :=
  match ((run repetitionStep repetitionStart repetitionMoves).session true).status with
  | .committed a => a
  | _ => .noContent

/-- The second request comes after the first one. -/
theorem repetition_replays_demo :
    ∃ userId, Identifies demoApp (run repetitionStep repetitionStart repetitionMoves).store userId
        ⟨some "upgi_sk_1", none, some "order-1"⟩ ∧
      ∀ j headers' post', (repeatedPayment j).call = .user headers' (.post post') →
        Identifies demoApp (run repetitionStep repetitionStart repetitionMoves).store userId
          headers' →
        headers'.idempotencyKey = some "order-1" → post'.endpoint = "create_payment" →
        ((run repetitionStep repetitionStart repetitionMoves).session j).history.reads = [] →
        Always repetitionStep (fun s => Repeats demoApp post'
            (hashBody demoApp (Post.payment (demoPayload .mock)).body) repetitionAnswer
            (s.session j))
          (run repetitionStep repetitionStart repetitionMoves) (List.replicate 8 ⟨false, ()⟩) :=
  repetition_replays demoApp_unique (by decide) (mockHandler "") repeatedPayment () _ _
    (show (repeatedPayment true).call = _ from rfl) (by decide) rfl

end PaymentGateway
