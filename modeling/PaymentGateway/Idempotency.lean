/-
# Requests under an idempotency key

`POST /payments` and `POST /payments/{id}/refunds`, one after another, each in a unit of work
of its own.  The runs carry, besides the tables, every operation that was committed for a
request with an `Idempotency-Key` (`Served`), and what is promised of the key is said of that
list and of the next request, whatever it is (`Idempotent`).

It holds for every key that is not empty, with bodies compared as they are dumped, and a replay
changes nothing but the row of the API key that it is authenticated with (`idempotent_always`).
An empty key is no key, the use of an API key is stamped on its row also when nothing is
executed, and a NaN in a payment's metadata is dumped as `null` (`idempotent_unrestricted`).
-/
import PaymentGateway.Api
import PaymentGateway.Core.JsonText
import PaymentGateway.Lib.Runs

namespace PaymentGateway

open Transact

/-! ## Requests, one after another -/

/-- A request, with what it draws from its surroundings and the provider's reaction. -/
structure ApiCall where
  env : Ambient
  headers : Headers
  post : Post
  reaction : Reaction

/-- The dependencies of the endpoint, and then the endpoint. -/
def ApiCall.prog (app : App) (c : ApiCall) : ServiceProg StoredResponse := do
  let user ← requireScope app c.env c.post.scope c.headers
  c.post.handler app c.env user c.headers.idempotencyKey

/-- The request as it is processed if nothing is stored under its key. -/
def ApiCall.firstProg (app : App) (c : ApiCall) : ServiceProg StoredResponse := do
  let user ← requireScope app c.env c.post.scope c.headers
  let operation := c.post.operation app c.env user c.headers.idempotencyKey
  if given c.headers.idempotencyKey then
    runAndStore app c.env user.id c.post.endpoint (c.headers.idempotencyKey.getD "") c.post.body
      operation
  else do
    return ⟨201, ← operation⟩

/-- The user that the request is made for, found out against the tables `t`. -/
def signIn (app : App) (c : ApiCall) (t : Tables) : Outcome Tables Unit GatewayOp Exn User :=
  (requireScope app c.env c.post.scope c.headers).run c.reaction.handler t ()

/-- The request in a unit of work of its own, from the dependencies to the commit. -/
def serve (app : App) (c : ApiCall) (t : Tables) :
    Outcome Tables Unit GatewayOp Exn StoredResponse :=
  (c.prog app).atomically c.reaction.handler t () app.accepts .integrityError

/-- The call, processed as if no record were found: the operation is run and its response stored.
-/
def serveFirst (app : App) (c : ApiCall) (t : Tables) :
    Outcome Tables Unit GatewayOp Exn StoredResponse :=
  (c.firstProg app).atomically c.reaction.handler t () app.accepts .integrityError

/-- An operation that was committed for a request with an `Idempotency-Key`: for whom, at which
endpoint and under which key, the parsed body of the request, and what it was answered. -/
structure Operation where
  ownerId : Uuid
  endpoint : String
  key : String
  body : List (String × Json)
  response : StoredResponse
deriving DecidableEq

/-- What the record of the operation is found by: the owner, the endpoint and the key. -/
def Operation.under (o : Operation) : Uuid × String × String := (o.ownerId, o.endpoint, o.key)

/-- The operation that the request commits: it was answered, and the provider was called. -/
def newOperations (app : App) (c : ApiCall) (t : Tables) : List Operation :=
  match (signIn app c t).answer, (serve app c t).answer, c.headers.idempotencyKey with
  | .ok user, .ok response, some key =>
      if (serve app c t).calls.isEmpty then []
      else [⟨user.id, c.post.endpoint, key, c.post.parsed, response⟩]
  | _, _, _ => []

/-- The tables, and the operations committed under an `Idempotency-Key`. -/
structure Served where
  tables : Tables
  committed : List Operation

/-- A call is served, and the operation that it has committed is added to the list. -/
def Served.step (app : App) (s : Served) (c : ApiCall) : Served :=
  ⟨(serve app c s.tables).store, s.committed ++ newOperations app c s.tables⟩

/-! ## What is promised -/

/-- The bodies are equal, up to the order of keys at any depth. -/
def SameBody (a b : List (String × Json)) : Prop := (Json.obj a).canon = (Json.obj b).canon

instance (a b : List (String × Json)) : Decidable (SameBody a b) :=
  inferInstanceAs (Decidable (_ = _))

/-- The parsed bodies are dumped to equal ones: NaN and the infinities count as `null`. -/
def SameDump (a b : List (String × Json)) : Prop :=
  SameBody (Json.modelDumpFields a) (Json.modelDumpFields b)

/-- What an `Idempotency-Key` promises, for the keys of `keyed`: at most one operation is
committed, and of every next request, what it does.  Two parsed bodies are equal if `same` says
so, and a replay may take the tables only to where `kept` allows. -/
structure Idempotent (app : App) (same : List (String × Json) → List (String × Json) → Prop)
    (keyed : String → Prop) (kept : ApiCall → Tables → Tables → Prop) (s : Served) : Prop where
  /-- One operation at most. -/
  once : ∀ ownerId endpoint key, keyed key →
    (s.committed.filter fun o => o.under = (ownerId, endpoint, key)).length ≤ 1
  /-- The same body under the key of a committed operation. -/
  replayed : ∀ c user key, (signIn app c s.tables).answer = .ok user →
    c.headers.idempotencyKey = some key → keyed key →
    ∀ o ∈ s.committed, o.under = (user.id, c.post.endpoint, key) → same o.body c.post.parsed →
      (serve app c s.tables).answer = .ok o.response ∧ (serve app c s.tables).calls = [] ∧
        kept c s.tables (serve app c s.tables).store
  /-- Another body under the key of a committed operation. -/
  refused : ∀ c user key, (signIn app c s.tables).answer = .ok user →
    c.headers.idempotencyKey = some key → keyed key →
    ∀ o ∈ s.committed, o.under = (user.id, c.post.endpoint, key) → ¬ same o.body c.post.parsed →
      (serve app c s.tables).answer = .error (conflict key) ∧
        (serve app c s.tables).calls = [] ∧ (serve app c s.tables).store = s.tables
  /-- A request that fails leaves everything as it was. -/
  failed : ∀ c, ¬ Returned (serve app c s.tables).answer → s.step app c = s
  /-- Operations under other owners, endpoints and keys make no difference. -/
  others : ∀ c user, (signIn app c s.tables).answer = .ok user →
    (∀ key, c.headers.idempotencyKey = some key → keyed key →
      ∀ o ∈ s.committed, o.under ≠ (user.id, c.post.endpoint, key)) →
    serve app c s.tables = serveFirst app c s.tables

/-- Nothing was changed, or the API key that the request presents was stamped as used. -/
def KeptButUse (app : App) (c : ApiCall) (t t' : Tables) : Prop :=
  t' = t ∨ given c.headers.apiKey = true ∧ ∃ key ∈ t.apiKeys,
    key.hashedKey = app.sha256 (c.headers.apiKey.getD "") ∧
      t' = t.saveApiKey c.env.now key (withUse c.env key)

/-! ## One request -/

section Request

variable {app : App} {c : ApiCall} {t : Tables}

/-- Signing in calls nobody, and stamps at most the API key that was presented. -/
lemma signIn_spec (app : App) (c : ApiCall) (t : Tables) :
    (signIn app c t).calls = [] ∧ KeptButUse app c t (signIn app c t).store := by
  obtain ⟨H, hpath, hreads, hcalls, hstore⟩ := Prog.path_run c.reaction.handler
    (requireScope app c.env c.post.scope c.headers) [] t ()
  simp only [view_nil, List.nil_append] at hpath hcalls hstore
  obtain ⟨hquiet, hstamps⟩ := requireScope_path hpath
  refine ⟨hcalls.trans hquiet, ?_⟩
  rw [signIn, hstore]
  cases hstamps with
  | nothing writes =>
    rw [writes]
    exact Or.inl rfl
  | @used d key hgiven read found writes =>
    obtain rfl : d = t := hreads d read
    obtain ⟨hmem, hhash⟩ := mem_of_filter_eq_singleton (scalarOneOrNone_eq_some.1 found)
    rw [writes]
    exact Or.inr ⟨hgiven, key, hmem, of_decide_eq_true hhash, rfl⟩

/-- Signing in leaves the idempotency keys alone. -/
lemma KeptButUse.idempotencyKeys {t' : Tables} (h : KeptButUse app c t t') :
    t'.idempotencyKeys = t.idempotencyKeys := by
  rcases h with rfl | ⟨-, key, -, -, rfl⟩ <;> rfl

lemma getIdempotencyKey_signIn (ownerId : Uuid) (endpoint key : String) :
    (signIn app c t).store.getIdempotencyKey ownerId endpoint key =
      t.getIdempotencyKey ownerId endpoint key := by
  unfold Tables.getIdempotencyKey
  rw [(signIn_spec app c t).2.idempotencyKeys]

/-- After signing in, a request runs its endpoint. -/
lemma run_prog {user : User} (huser : (signIn app c t).answer = .ok user) :
    (c.prog app).run c.reaction.handler t () =
      (idempotently app c.env user.id c.post.endpoint c.headers.idempotencyKey c.post.body
        (c.post.operation app c.env user c.headers.idempotencyKey)).run c.reaction.handler
          (signIn app c t).store () := by
  rw [ApiCall.prog, Prog.run_bind]
  show Prog.followedBy (signIn app c t) _ = _
  rw [Prog.followedBy, huser]
  simp only [(signIn_spec app c t).1, List.nil_append, Post.handler_eq]

lemma run_firstProg {user : User} (huser : (signIn app c t).answer = .ok user) :
    (c.firstProg app).run c.reaction.handler t () =
      (if given c.headers.idempotencyKey then
        runAndStore app c.env user.id c.post.endpoint (c.headers.idempotencyKey.getD "") c.post.body
          (c.post.operation app c.env user c.headers.idempotencyKey)
      else do
        return ⟨201, ← c.post.operation app c.env user c.headers.idempotencyKey⟩).run
          c.reaction.handler (signIn app c t).store () := by
  rw [ApiCall.firstProg, Prog.run_bind]
  show Prog.followedBy (signIn app c t) _ = _
  rw [Prog.followedBy, huser]
  simp only [(signIn_spec app c t).1, List.nil_append]

/-- A request that is answered was signed in. -/
lemma exists_user_of_serve {response : StoredResponse}
    (h : (serve app c t).answer = .ok response) : ∃ user, (signIn app c t).answer = .ok user := by
  rcases huser : (signIn app c t).answer with e | user
  · have hrun := (Prog.atomically_ok_iff.1 h).1
    rw [ApiCall.prog, Prog.run_bind] at hrun
    change (Prog.followedBy (signIn app c t) _).answer = _ at hrun
    rw [Prog.followedBy, huser] at hrun
    cases hrun
  · exact ⟨user, rfl⟩

/-- What an operation that returns has done to the tables. -/
lemma operation_run {user : User} {t' : Tables} {b : ResponseBody}
    (h : ((c.post.operation app c.env user c.headers.idempotencyKey).run c.reaction.handler t'
      ()).answer = .ok b) :
    ((c.post.operation app c.env user c.headers.idempotencyKey).run c.reaction.handler t'
        ()).calls ≠ [] ∧
      ((c.post.operation app c.env user c.headers.idempotencyKey).run c.reaction.handler t'
        ()).store.idempotencyKeys = t'.idempotencyKeys := by
  obtain ⟨H, hpath, -, hcalls, hstore⟩ := Prog.path_run c.reaction.handler
    (c.post.operation app c.env user c.headers.idempotencyKey) [] t' ()
  simp only [view_nil, List.nil_append] at hpath hcalls hstore
  rw [h] at hpath
  obtain ⟨hsome, hkeys⟩ := operation_path hpath
  rw [hcalls, hstore]
  exact ⟨hsome, hkeys t'⟩

/-- Running an operation and storing its response, when it succeeds. -/
lemma runAndStore_run {operation : ServiceProg ResponseBody} {ownerId : Uuid}
    {endpoint key : String} {body : List (String × Json)} {t' : Tables}
    {response : StoredResponse}
    (h : ((runAndStore app c.env ownerId endpoint key body operation).run c.reaction.handler t'
      ()).answer = .ok response) :
    ∃ b, (operation.run c.reaction.handler t' ()).answer = .ok b ∧ response = ⟨201, b⟩ ∧
      ((runAndStore app c.env ownerId endpoint key body operation).run c.reaction.handler t'
        ()).calls = (operation.run c.reaction.handler t' ()).calls ∧
      ((runAndStore app c.env ownerId endpoint key body operation).run c.reaction.handler t'
        ()).store = storing app c.env ownerId endpoint key body 201 b
          (operation.run c.reaction.handler t' ()).store := by
  have hrun := Prog.run_bind c.reaction.handler t' () operation fun b => do
    store app c.env ownerId endpoint key body 201 b
    return (⟨201, b⟩ : StoredResponse)
  change (runAndStore app c.env ownerId endpoint key body operation).run c.reaction.handler t' () =
    _ at hrun
  rw [hrun] at h ⊢
  rw [Prog.followedBy] at h ⊢
  rcases hop : (operation.run c.reaction.handler t' ()).answer with e | b
  · rw [hop] at h
    cases h
  · rw [hop] at h
    simp only [store, Prog.bind_assoc, Prog.run_modify_bind, run_flush_bind] at h ⊢
    split at h
    · cases h
    · rename_i haccepts
      rw [if_neg haccepts]
      refine ⟨b, rfl, (Except.ok.inj h).symm, by simp, rfl⟩

end Request

/-! ## The records and the committed operations -/

/-- The row is the record of the operation: it is found under the same key, and holds the hash
of the body as it is dumped, and the response. -/
structure Records (app : App) (row : IdempotencyKey) (o : Operation) : Prop where
  under : row.under = o.under
  hash : row.requestHash = hashBody app (Json.modelDumpFields o.body)
  response : ⟨row.responseStatus, row.responseBody⟩ = o.response

/-- The operations that have a record: those of requests with a key. -/
def Served.recorded (s : Served) : List Operation := s.committed.filter fun o => o.key ≠ ""

/-- The database accepts the tables, and the records are those of the operations committed
under a key that is not empty. -/
structure Served.Inv (app : App) (s : Served) : Prop where
  accepted : app.accepts s.tables = true
  records : List.Forall₂ (Records app) s.tables.idempotencyKeys s.recorded

section Records

variable {app : App} {s : Served}

lemma Served.Inv.under_eq (h : s.Inv app) :
    s.tables.idempotencyKeys.map IdempotencyKey.under = s.recorded.map Operation.under := by
  have heq : List.Forall₂ (· = ·) (s.tables.idempotencyKeys.map IdempotencyKey.under)
      (s.recorded.map Operation.under) := by
    rw [List.forall₂_map_left_iff, List.forall₂_map_right_iff]
    exact h.records.imp fun row o hrow => hrow.under
  rwa [List.forall₂_eq_eq_eq] at heq

/-- The record of a committed operation is found. -/
lemma Served.Inv.found (h : s.Inv app) (hunique : s.tables.Unique) {o : Operation}
    (ho : o ∈ s.committed) {ownerId : Uuid} {endpoint key : String}
    (hunder : o.under = (ownerId, endpoint, key)) (hkey : key ≠ "") :
    ∃ row, s.tables.getIdempotencyKey ownerId endpoint key = .ok (some row) ∧
      Records app row o := by
  have hokey : o.key = key := congrArg (fun u => u.2.2) hunder
  have hmem : o ∈ s.recorded := List.mem_filter.2 ⟨ho, by simpa [hokey] using hkey⟩
  obtain ⟨row, hrow, hrecords⟩ := exists_of_forall₂ h.records hmem
  refine ⟨row, ?_, hrecords⟩
  rw [getIdempotencyKey_eq, scalarOneOrNone_eq_some]
  have hnodup : (s.tables.idempotencyKeys.map IdempotencyKey.under).Nodup :=
    hunique.ownerEndpointKey
  have hfilter := filter_key_eq hnodup hrow
  rwa [hrecords.under.trans hunder] at hfilter

/-- Nothing is found under a key under which no operation was committed. -/
lemma Served.Inv.unused (h : s.Inv app) {ownerId : Uuid} {endpoint key : String}
    (hno : ∀ o ∈ s.committed, o.under ≠ (ownerId, endpoint, key)) :
    s.tables.getIdempotencyKey ownerId endpoint key = .ok none := by
  rw [getIdempotencyKey_eq, scalarOneOrNone_eq_none, List.filter_eq_nil_iff]
  intro row hrow hunder
  have hmem : row.under ∈ s.recorded.map Operation.under := by
    rw [← h.under_eq]
    exact List.mem_map_of_mem hrow
  obtain ⟨o, ho, hrow'⟩ := List.mem_map.1 hmem
  exact hno o (List.mem_filter.1 ho).1 (hrow'.trans (of_decide_eq_true hunder))

/-- At most one operation is committed under a key. -/
lemma Served.Inv.length_filter_le (h : s.Inv app) (hunique : s.tables.Unique) (ownerId : Uuid)
    (endpoint : String) {key : String} (hkey : key ≠ "") :
    (s.committed.filter fun o => o.under = (ownerId, endpoint, key)).length ≤ 1 := by
  have hnodup : (s.recorded.map Operation.under).Nodup := by
    rw [← h.under_eq]
    exact hunique.ownerEndpointKey
  have hfilter : s.committed.filter (fun o => o.under = (ownerId, endpoint, key)) =
      s.recorded.filter fun o => o.under = (ownerId, endpoint, key) := by
    rw [Served.recorded, List.filter_filter]
    apply List.filter_congr
    intro o _
    by_cases ho : o.under = (ownerId, endpoint, key)
    · have hokey : o.key = key := congrArg (fun u => u.2.2) ho
      simp [ho, hokey, hkey]
    · simp [ho]
  rw [hfilter]
  exact length_filter_key_le hnodup _

end Records

/-! ## What the next request does -/

/-- What the code relies on: the database enforces its constraints, and none of them is about
the use of an API key; the digest is injective, and the serialisation up to the order of
keys. -/
structure Dependable (app : App) : Prop where
  unique : ∀ t, app.accepts t = true → t.Unique
  use : ∀ t env, ∀ key ∈ t.apiKeys, app.accepts t = true →
    app.accepts (t.saveApiKey env.now key (withUse env key)) = true
  sha256 : Function.Injective app.sha256
  dumps : ∀ a b, app.dumps a = app.dumps b ↔ a.canon = b.canon

section Next

variable {app : App} {c : ApiCall} {t : Tables} {user : User}

lemma Dependable.hashBody_eq_iff (happ : Dependable app) {a b : List (String × Json)} :
    hashBody app a = hashBody app b ↔ SameBody a b := by
  rw [hashBody, hashBody, happ.sha256.eq_iff, happ.dumps, SameBody]

lemma Dependable.accepts_signIn (happ : Dependable app) (haccepts : app.accepts t = true) :
    app.accepts (signIn app c t).store = true := by
  rcases (signIn_spec app c t).2 with heq | ⟨-, key, hmem, -, heq⟩
  · rwa [heq]
  · rw [heq]
    exact happ.use t c.env key hmem haccepts

lemma serve_of_none (huser : (signIn app c t).answer = .ok user)
    (hnone : given c.headers.idempotencyKey = true → t.getIdempotencyKey user.id c.post.endpoint
      (c.headers.idempotencyKey.getD "") = .ok none) :
    serve app c t = serveFirst app c t := by
  apply Prog.atomically_congr
  rw [run_prog huser, run_firstProg huser]
  by_cases hkey : given c.headers.idempotencyKey = true
  · rw [if_pos hkey]
    exact run_idempotently_of_none hkey (by rw [getIdempotencyKey_signIn, hnone hkey])
  · rw [if_neg hkey, idempotently, if_neg hkey]

variable {row : IdempotencyKey}

lemma serve_of_same (huser : (signIn app c t).answer = .ok user)
    (hkey : given c.headers.idempotencyKey = true)
    (hrow : t.getIdempotencyKey user.id c.post.endpoint (c.headers.idempotencyKey.getD "") =
      .ok (some row))
    (hsame : row.requestHash = hashBody app c.post.body)
    (haccepts : app.accepts (signIn app c t).store = true) :
    serve app c t =
      ⟨.ok ⟨row.responseStatus, row.responseBody⟩, (signIn app c t).store, (), []⟩ := by
  have hrun := run_prog huser
  rw [run_idempotently_of_same hkey (by rw [getIdempotencyKey_signIn, hrow]) hsame] at hrun
  rw [serve, Prog.atomically, hrun]
  simp [haccepts]

lemma serve_of_differs (huser : (signIn app c t).answer = .ok user)
    (hkey : given c.headers.idempotencyKey = true)
    (hrow : t.getIdempotencyKey user.id c.post.endpoint (c.headers.idempotencyKey.getD "") =
      .ok (some row))
    (hdiffers : row.requestHash ≠ hashBody app c.post.body) :
    serve app c t = ⟨.error (conflict (c.headers.idempotencyKey.getD "")), t, (), []⟩ := by
  have hrun := run_prog huser
  rw [run_idempotently_of_differs hkey (by rw [getIdempotencyKey_signIn, hrow]) hdiffers] at hrun
  rw [serve, Prog.atomically, hrun]

/-- What a request without a record has done when it succeeds. -/
lemma serveFirst_ok {response : StoredResponse} (huser : (signIn app c t).answer = .ok user)
    (h : (serveFirst app c t).answer = .ok response) :
    app.accepts (serveFirst app c t).store = true ∧ (serveFirst app c t).calls ≠ [] ∧
      (serveFirst app c t).store.idempotencyKeys = t.idempotencyKeys ++
        if given c.headers.idempotencyKey then
          [newIdempotencyKey app c.env user.id c.post.endpoint (c.headers.idempotencyKey.getD "")
            c.post.body response.status response.body]
        else [] := by
  have hstore : (serveFirst app c t).store = _ := Prog.atomically_store_of_ok h
  have hcalls : (serveFirst app c t).calls = _ := Prog.atomically_calls
  have hsign := (signIn_spec app c t).2.idempotencyKeys
  obtain ⟨hans, haccepts⟩ := Prog.atomically_ok_iff.1 h
  rw [hstore, hcalls]
  refine ⟨haccepts, ?_⟩
  rw [run_firstProg huser] at hans ⊢
  -- with a key the operation is followed by the row that stores its answer
  by_cases hkey : given c.headers.idempotencyKey = true
  · rw [if_pos hkey] at hans ⊢
    obtain ⟨b, hop, rfl, hsame, hrow⟩ := runAndStore_run hans
    obtain ⟨hsome, hkeys⟩ := operation_run hop
    rw [hsame, hrow, if_pos hkey]
    refine ⟨hsome, ?_⟩
    rw [storing, Tables.insertIdempotencyKey_idempotencyKeys, hkeys, hsign]
  · rw [if_neg hkey] at hans ⊢
    rw [Prog.run_bind] at hans ⊢
    rw [Prog.followedBy] at hans ⊢
    rcases hop : ((c.post.operation app c.env user c.headers.idempotencyKey).run
      c.reaction.handler (signIn app c t).store ()).answer with e | b
    · rw [hop] at hans
      cases hans
    · obtain ⟨hsome, hkeys⟩ := operation_run hop
      rw [if_neg hkey, List.append_nil]
      exact ⟨by simpa using hsome, hkeys.trans hsign⟩

end Next

/-! ## Whole runs -/

section Runs

variable {app : App} {c : ApiCall} {s : Served} {user : User}

lemma given_iff {key : Option String} : given key = true ↔ ∃ k, key = some k ∧ k ≠ "" := by
  cases key <;> simp [given]

/-- A request that is not answered commits nothing. -/
lemma step_of_not_returned (hno : ¬ Returned (serve app c s.tables).answer) :
    s.step app c = s := by
  rcases hans : (serve app c s.tables).answer with e | response
  · have hstore : (serve app c s.tables).store = s.tables := Prog.atomically_store_of_error hans
    have hnew : newOperations app c s.tables = [] := by
      rw [newOperations]
      rw [hans]
      cases (signIn app c s.tables).answer <;> rfl
    rw [Served.step, hstore, hnew, List.append_nil]
  · exact absurd ⟨response, hans⟩ hno

/-- A request that does not call the provider commits nothing. -/
lemma newOperations_of_quiet (hcalls : (serve app c s.tables).calls = []) :
    newOperations app c s.tables = [] := by
  rw [newOperations]
  rw [hcalls]
  split <;> rfl

lemma newOperations_of_ok {response : StoredResponse} {key : String}
    (huser : (signIn app c s.tables).answer = .ok user)
    (hans : (serve app c s.tables).answer = .ok response)
    (hkey : c.headers.idempotencyKey = some key) (hcalls : (serve app c s.tables).calls ≠ []) :
    newOperations app c s.tables = [⟨user.id, c.post.endpoint, key, c.post.parsed, response⟩] := by
  rw [newOperations]
  rw [huser, hans, hkey]
  simp [hcalls]

/-- Operations without a key, or under the empty one, are not recorded. -/
lemma recorded_of_not_given (hkey : ¬ given c.headers.idempotencyKey = true) :
    (newOperations app c s.tables).filter (fun o => o.key ≠ "") = [] := by
  rw [List.filter_eq_nil_iff]
  intro o ho
  rw [newOperations] at ho
  split at ho
  · rename_i user response key _ _ hsome
    split at ho
    · cases ho
    · rw [List.mem_singleton] at ho
      rw [given_iff] at hkey
      have hempty : key = "" := by
        by_contra hne
        exact hkey ⟨key, hsome, hne⟩
      simp [ho, hempty]
  · cases ho

/-- A request without a record keeps the records in step with the committed operations. -/
lemma Served.Inv.step_of_first (h : s.Inv app) {response : StoredResponse}
    (huser : (signIn app c s.tables).answer = .ok user)
    (hfirst : serve app c s.tables = serveFirst app c s.tables)
    (hans : (serve app c s.tables).answer = .ok response) : (s.step app c).Inv app := by
  rw [hfirst] at hans
  obtain ⟨haccepted, hcalls, hkeys⟩ := serveFirst_ok huser hans
  rw [← hfirst] at haccepted hcalls hkeys hans
  refine ⟨haccepted, ?_⟩
  show List.Forall₂ (Records app) (serve app c s.tables).store.idempotencyKeys
    ((s.committed ++ newOperations app c s.tables).filter _)
  rw [hkeys, List.filter_append]
  refine List.rel_append h.records ?_
  by_cases hkey : given c.headers.idempotencyKey = true
  · obtain ⟨key, hsome, hne⟩ := given_iff.1 hkey
    rw [newOperations_of_ok huser hans hsome hcalls, if_pos hkey, hsome,
      List.filter_cons_of_pos (by simpa using hne)]
    exact .cons ⟨rfl, congrArg (hashBody app) c.post.body_eq, rfl⟩ .nil
  · rw [if_neg hkey, recorded_of_not_given hkey]
    exact .nil

/-- **One request.**  The records stay those of the committed operations. -/
lemma Served.Inv.step (h : s.Inv app) (happ : Dependable app) (c : ApiCall) :
    (s.step app c).Inv app := by
  by_cases hreturned : Returned (serve app c s.tables).answer
  swap
  · rwa [step_of_not_returned hreturned]
  obtain ⟨response, hans⟩ := hreturned
  obtain ⟨user, huser⟩ := exists_user_of_serve hans
  by_cases hkey : given c.headers.idempotencyKey = true
  swap
  · exact h.step_of_first huser (serve_of_none huser fun hno => absurd hno hkey) hans
  obtain ⟨key, hsome, hne⟩ := given_iff.1 hkey
  have hgetD : c.headers.idempotencyKey.getD "" = key := by rw [hsome, Option.getD_some]
  by_cases hex : ∃ o ∈ s.committed, o.under = (user.id, c.post.endpoint, key)
  · obtain ⟨o, ho, hunder⟩ := hex
    obtain ⟨row, hrow, -⟩ := h.found (happ.unique _ h.accepted) ho hunder hne
    by_cases hsame : row.requestHash = hashBody app c.post.body
    · -- a replay
      have hserve := serve_of_same huser hkey (hgetD ▸ hrow) hsame (happ.accepts_signIn h.accepted)
      rw [Served.step, newOperations_of_quiet (by rw [hserve]), List.append_nil, hserve]
      refine ⟨happ.accepts_signIn h.accepted, ?_⟩
      show List.Forall₂ _ (signIn app c s.tables).store.idempotencyKeys s.recorded
      rw [(signIn_spec app c s.tables).2.idempotencyKeys]
      exact h.records
    · rw [serve_of_differs huser hkey (hgetD ▸ hrow) hsame] at hans
      cases hans
  · have hnone := h.unused fun o ho hunder => hex ⟨o, ho, hunder⟩
    exact h.step_of_first huser (serve_of_none huser fun _ => hgetD ▸ hnone) hans

/-- What is promised holds wherever the records are those of the committed operations. -/
lemma Served.Inv.idempotent (h : s.Inv app) (happ : Dependable app) :
    Idempotent app SameDump (· ≠ "") (KeptButUse app) s where
  once ownerId endpoint key hkey :=
    h.length_filter_le (happ.unique _ h.accepted) ownerId endpoint hkey
  replayed := by
    intro c user key huser hsome hne o ho hunder hbody
    obtain ⟨row, hrow, hrecords⟩ := h.found (happ.unique _ h.accepted) ho hunder hne
    have hsame : row.requestHash = hashBody app c.post.body := by
      rw [hrecords.hash, c.post.body_eq, happ.hashBody_eq_iff]
      exact hbody
    rw [serve_of_same huser (given_iff.2 ⟨key, hsome, hne⟩) (by rwa [hsome]) hsame
      (happ.accepts_signIn h.accepted), hrecords.response]
    exact ⟨rfl, rfl, (signIn_spec app c s.tables).2⟩
  refused := by
    intro c user key huser hsome hne o ho hunder hbody
    obtain ⟨row, hrow, hrecords⟩ := h.found (happ.unique _ h.accepted) ho hunder hne
    have hdiffers : row.requestHash ≠ hashBody app c.post.body := by
      rw [hrecords.hash, c.post.body_eq, ne_eq, happ.hashBody_eq_iff]
      exact hbody
    rw [serve_of_differs huser (given_iff.2 ⟨key, hsome, hne⟩) (by rwa [hsome]) hdiffers, hsome]
    exact ⟨rfl, rfl, rfl⟩
  failed c hno := step_of_not_returned hno
  others := by
    intro c user huser hno
    refine serve_of_none huser fun hkey => ?_
    obtain ⟨key, hsome, hne⟩ := given_iff.1 hkey
    rw [hsome, Option.getD_some]
    exact h.unused (hno key hsome hne)

end Runs

/-- **The idempotency contract.**  In every sequence of requests, each processed in a unit of
work of its own, every key that is not empty is promised at most one committed operation;
after every request, a next one whose body is dumped to the same one is answered as the
committed one was, and changes nothing but the row of the API key it presents; one with another
body is refused; a request that fails leaves its key unused; and operations under other owners,
endpoints and keys make no difference. -/
theorem idempotent_always {app : App} (happ : Dependable app) {t : Tables}
    (haccepts : app.accepts t = true) (hnone : t.idempotencyKeys = []) (calls : List ApiCall) :
    Always (Served.step app) (Idempotent app SameDump (· ≠ "") (KeptButUse app)) ⟨t, []⟩
      calls := by
  have hstart : (⟨t, []⟩ : Served).Inv app := by
    refine ⟨haccepts, ?_⟩
    show List.Forall₂ _ t.idempotencyKeys []
    rw [hnone]
    exact .nil
  have hinv := always_of_step (fun (s : Served) c (h : s.Inv app) => h.step happ c) hstart calls
  exact hinv.mono fun s h => h.idempotent happ

/-! ## An empty key, the use of an API key, and a NaN -/

/-- The application that serialises bodies as `json.dumps` does, and reads the user's id. -/
def keyedApp : App :=
  { demoApp with
    dumps := Json.canonText
    parseUuid := fun text =>
      if text = demoUser.id.str then .ok demoUser.id else .error (.python .valueError) }

lemma keyedApp_dependable : Dependable keyedApp where
  unique _ h := of_decide_eq_true h
  use t env key _ h := by
    have hunique : t.Unique := of_decide_eq_true h
    have hid : ((t.saveApiKey env.now key (withUse env key)).apiKeys.map ApiKey.id).Nodup := by
      rw [Tables.saveApiKey_apiKeys, map_key_updateAt fun row => by simp]
      exact hunique.apiKeyId
    have hhash :
        ((t.saveApiKey env.now key (withUse env key)).apiKeys.map ApiKey.hashedKey).Nodup := by
      rw [Tables.saveApiKey_apiKeys, map_updateAt fun row => by simp]
      exact hunique.hashedKey
    exact decide_eq_true { hunique with apiKeyId := hid, hashedKey := hhash }
  sha256 _ _ h := h
  dumps _ _ := Json.canonText_eq_iff

/-- The `n`-th request for the payment, with a key of idempotency and one of the two credentials.
-/
def demoCall (n : ℕ) (apiKey : Option String) (key : String) : ApiCall where
  env := demoEnv n
  headers := ⟨apiKey, some ("bearer " ++ demoUser.id.str), some key⟩
  post := .payment (demoPayload .mock)
  reaction := mockReaction (if n = 1 then "mock_pay_1" else "mock_pay_2")

/-- The first request, with a free-form value in the metadata of the payment. -/
def demoNoted (value : Json) : ApiCall :=
  { demoCall 1 none "order-1" with
    post := .payment { demoPayload .mock with metadata := [("x", value)] } }

/-- Tables with one user, who has one API key. -/
def demoTables : Tables :=
  { Tables.empty with
    users := [demoUser]
    apiKeys := [⟨.ofNat 3, demoUser.id, "shop", "upgi_secret", "upgi_sec", true, none, none, 0,
      0⟩] }

lemma demoTables_accepted : keyedApp.accepts demoTables = true := by decide

/-- The theorem on two requests under one key. -/
theorem idempotent_always_demo :
    Always (Served.step keyedApp) (Idempotent keyedApp SameDump (· ≠ "") (KeptButUse keyedApp))
      ⟨demoTables, []⟩ [demoCall 1 none "order-1", demoCall 2 none "order-1"] :=
  idempotent_always keyedApp_dependable demoTables_accepted rfl _

/-- Two operations are committed under the empty key; a replay that presents an API key
changes the row of that key; and a body with a NaN is answered as one with `null` in its place
was. -/
theorem idempotent_unrestricted :
    Dependable keyedApp ∧
      ¬ Always (Served.step keyedApp)
        (Idempotent keyedApp SameBody (fun _ => True) fun _ t t' => t' = t)
        ⟨demoTables, []⟩ [demoCall 1 none "", demoCall 2 none ""] ∧
      ¬ Always (Served.step keyedApp)
        (Idempotent keyedApp SameBody (fun _ => True) fun _ t t' => t' = t)
        ⟨demoTables, []⟩ [demoCall 1 (some "upgi_secret") "order-1"] ∧
      ¬ Always (Served.step keyedApp)
        (Idempotent keyedApp SameBody (fun _ => True) fun _ t t' => t' = t)
        ⟨demoTables, []⟩ [demoNoted .null] := by
  refine ⟨keyedApp_dependable, fun h => ?_, fun h => ?_, fun h => ?_⟩
  · have htwo : ((run (Served.step keyedApp) ⟨demoTables, []⟩
        [demoCall 1 none "", demoCall 2 none ""]).committed.filter fun o =>
          o.under = (demoUser.id, "create_payment", "")).length = 2 := by decide +kernel
    have hone := h.last.once demoUser.id "create_payment" "" trivial
    rw [htwo] at hone
    exact absurd hone (by decide)
  · have hreplay : ∃ user, (signIn keyedApp (demoCall 2 (some "upgi_secret") "order-1")
        (run (Served.step keyedApp) ⟨demoTables, []⟩
          [demoCall 1 (some "upgi_secret") "order-1"]).tables).answer = .ok user ∧
        ∃ o ∈ (run (Served.step keyedApp) ⟨demoTables, []⟩
          [demoCall 1 (some "upgi_secret") "order-1"]).committed,
          o.under = (user.id, "create_payment", "order-1") ∧
            SameBody o.body (demoPayload .mock).fields :=
      ⟨demoUser, by decide +kernel, by decide +kernel⟩
    obtain ⟨user, huser, o, ho, hunder, hbody⟩ := hreplay
    obtain ⟨-, -, hkept⟩ := h.last.replayed (demoCall 2 (some "upgi_secret") "order-1") user
      "order-1" huser rfl trivial o ho hunder hbody
    have hused := congrArg (fun t => t.apiKeys.map ApiKey.lastUsedAt) hkept
    exact absurd hused (by decide +kernel)
  · have hother : ∃ user, (signIn keyedApp (demoNoted (.float .nan))
        (run (Served.step keyedApp) ⟨demoTables, []⟩ [demoNoted .null]).tables).answer =
          .ok user ∧
        ∃ o ∈ (run (Served.step keyedApp) ⟨demoTables, []⟩ [demoNoted .null]).committed,
          o.under = (user.id, "create_payment", "order-1") ∧
            ¬ SameBody o.body (demoNoted (.float .nan)).post.parsed :=
      ⟨demoUser, by decide +kernel, by decide +kernel⟩
    obtain ⟨user, huser, o, ho, hunder, hbody⟩ := hother
    obtain ⟨hrefused, -, -⟩ := h.last.refused (demoNoted (.float .nan)) user "order-1" huser rfl
      trivial o ho hunder hbody
    exact absurd hrefused (by decide +kernel)

end PaymentGateway
