/-
# The idempotency service

`app/services/idempotency.py`: the responses of unsafe requests, stored under the owner, the
endpoint and the key that the client has sent, together with a hash of the request's body.

`idempotently` is the frame that the two endpoints share: look the key up, run the operation
if nothing is stored, and store its response.  What it does to the tables that it starts from
is said by three equations (`run_idempotently_of_none` and its companions), what it can do
among other sessions by `RunsIdempotently`.
-/
import PaymentGateway.Services.Base

namespace PaymentGateway

open Transact

/-- `StoredResponse`: the status and the body that are sent again. -/
structure StoredResponse where
  status : ℕ
  body : ResponseBody
deriving DecidableEq, Repr

/-- The key that a record is looked up by, and that is unique. -/
def IdempotencyKey.under (row : IdempotencyKey) : Uuid × String × String :=
  (row.ownerId, row.endpoint, row.key)

lemma getIdempotencyKey_eq (t : Tables) (ownerId : Uuid) (endpoint key : String) :
    t.getIdempotencyKey ownerId endpoint key = scalarOneOrNone
      (t.idempotencyKeys.filter fun row => row.under = (ownerId, endpoint, key)) := by
  rw [Tables.getIdempotencyKey]
  congr 1
  apply List.filter_congr
  intro row _
  simp [IdempotencyKey.under]

/-- `_hash_body`: the hash of the canonical JSON of the body. -/
def hashBody (app : App) (body : List (String × Json)) : String := app.sha256 (app.dumps (.obj body))

/-- The row that `store` adds, with the hash of the body and the response. -/
def newIdempotencyKey (app : App) (env : Ambient) (ownerId : Uuid) (endpoint key : String)
    (body : List (String × Json)) (status : ℕ) (response : ResponseBody) : IdempotencyKey where
  id := env.recordId
  ownerId := ownerId
  endpoint := endpoint
  key := key
  requestHash := hashBody app body
  responseStatus := status
  responseBody := response
  createdAt := env.now
  updatedAt := env.now

section Methods

variable (app : App) (env : Ambient) (ownerId : Uuid) (endpoint key : String)
  (body : List (String × Json))

/-- The error of a key that was used for another body, which names the key. -/
def conflict : Exn :=
  .idempotencyConflictError "idempotency key reused with a different request body"
    [("key", .str key)]

/-- `lookup`: the response stored under the key, where there is one.  A record of another body
raises the conflict. -/
def lookup : ServiceProg (Option StoredResponse) := do
  let found ← Prog.ofExcept (← Prog.ask fun t => t.getIdempotencyKey ownerId endpoint key)
  match found with
  | none => return none
  | some row => do
      Prog.raiseIf (row.requestHash ≠ hashBody app body) (conflict key)
      return some ⟨row.responseStatus, row.responseBody⟩

/-- `store`: the record is flushed at once, so that a second one under the key is refused here
and not at the commit. -/
def store (status : ℕ) (response : ResponseBody) : ServiceProg Unit := do
  Prog.modify fun t =>
    t.insertIdempotencyKey (newIdempotencyKey app env ownerId endpoint key body status response)
  flush app

/-- Run the operation and store its response, both in the session of the request. -/
def runAndStore (operation : ServiceProg ResponseBody) : ServiceProg StoredResponse := do
  let response ← operation
  store app env ownerId endpoint key body 201 response
  return ⟨201, response⟩

end Methods

/-- An endpoint that honours the `Idempotency-Key` header; an empty key is no key. -/
def idempotently (app : App) (env : Ambient) (ownerId : Uuid) (endpoint : String)
    (idempotencyKey : Option String) (body : List (String × Json))
    (operation : ServiceProg ResponseBody) : ServiceProg StoredResponse :=
  if given idempotencyKey then do
    match ← lookup app ownerId endpoint (idempotencyKey.getD "") body with
    | some cached => return cached
    | none => runAndStore app env ownerId endpoint (idempotencyKey.getD "") body operation
  else do
    return ⟨201, ← operation⟩

/-! ## On the tables it starts from -/

section Runs

variable {app : App} {env : Ambient} {ownerId : Uuid} {endpoint : String} {key : Option String}
  {body : List (String × Json)} {operation : ServiceProg ResponseBody} {W : Type}
  {handle : Handler GatewayOp Exn W} {t : Tables} {w : W}

/-- Nothing is stored: the operation runs. -/
lemma run_idempotently_of_none (hkey : given key = true)
    (hnone : t.getIdempotencyKey ownerId endpoint (key.getD "") = .ok none) :
    (idempotently app env ownerId endpoint key body operation).run handle t w =
      (runAndStore app env ownerId endpoint (key.getD "") body operation).run handle t w := by
  rw [idempotently, if_pos hkey]
  simp only [lookup, Prog.bind_assoc, Prog.run_ask_bind, hnone, Prog.ofExcept_ok, Prog.ret_bind,
    Prog.pure_def]

variable {row : IdempotencyKey}

/-- A response to this body is stored: it is the answer. -/
lemma run_idempotently_of_same (hkey : given key = true)
    (hrow : t.getIdempotencyKey ownerId endpoint (key.getD "") = .ok (some row))
    (hsame : row.requestHash = hashBody app body) :
    (idempotently app env ownerId endpoint key body operation).run handle t w =
      ⟨.ok ⟨row.responseStatus, row.responseBody⟩, t, w, []⟩ := by
  rw [idempotently, if_pos hkey]
  simp only [lookup, Prog.bind_assoc, Prog.run_ask_bind, hrow, Prog.ofExcept_ok, Prog.ret_bind]
  rw [Prog.run_raiseIf_bind, if_neg (not_not.2 hsame)]
  rfl

/-- A response to another body is stored: the request is refused. -/
lemma run_idempotently_of_differs (hkey : given key = true)
    (hrow : t.getIdempotencyKey ownerId endpoint (key.getD "") = .ok (some row))
    (hdiffers : row.requestHash ≠ hashBody app body) :
    (idempotently app env ownerId endpoint key body operation).run handle t w =
      ⟨.error (conflict (key.getD "")), t, w, []⟩ := by
  rw [idempotently, if_pos hkey]
  simp only [lookup, Prog.bind_assoc, Prog.run_ask_bind, hrow, Prog.ofExcept_ok, Prog.ret_bind]
  rw [Prog.run_raiseIf_bind, if_pos hdiffers]

/-- Two stores with the same record, in both of which the operation is refused, are told apart
by nothing. -/
lemma run_idempotently_of_refused {t' : Tables} {e : Exn}
    (hrecord : t.getIdempotencyKey ownerId endpoint (key.getD "") =
      t'.getIdempotencyKey ownerId endpoint (key.getD ""))
    (h : operation.run handle t w = ⟨.error e, t, w, []⟩)
    (h' : operation.run handle t' w = ⟨.error e, t', w, []⟩) :
    ∃ r, (idempotently app env ownerId endpoint key body operation).run handle t w =
        ⟨r, t, w, []⟩ ∧
      (idempotently app env ownerId endpoint key body operation).run handle t' w =
        ⟨r, t', w, []⟩ := by
  by_cases hkey : given key = true
  · rcases hfound : t'.getIdempotencyKey ownerId endpoint (key.getD "") with e' | _ | row
    · refine ⟨.error e', ?_, ?_⟩
      · rw [idempotently, if_pos hkey]
        simp [lookup, Prog.bind_assoc, hrecord, hfound]
      · rw [idempotently, if_pos hkey]
        simp [lookup, Prog.bind_assoc, hfound]
    · refine ⟨.error e, ?_, ?_⟩
      · rw [run_idempotently_of_none hkey (hrecord.trans hfound)]
        exact Prog.run_bind_of_error _ _ _ _ h
      · rw [run_idempotently_of_none hkey hfound]
        exact Prog.run_bind_of_error _ _ _ _ h'
    · by_cases hsame : row.requestHash = hashBody app body
      · exact ⟨_, run_idempotently_of_same hkey (hrecord.trans hfound) hsame,
          run_idempotently_of_same hkey hfound hsame⟩
      · exact ⟨_, run_idempotently_of_differs hkey (hrecord.trans hfound) hsame,
          run_idempotently_of_differs hkey hfound hsame⟩
  · rw [idempotently, if_neg hkey]
    exact ⟨.error e, Prog.run_bind_of_error _ _ _ _ h, Prog.run_bind_of_error _ _ _ _ h'⟩

end Runs

/-! ## Among other sessions -/

section Paths

variable {app : App} {env : Ambient} {ownerId : Uuid} {endpoint : String}
  {body : List (String × Json)} {operation : ServiceProg ResponseBody}
  {gs : List (Tables → Tables)} {H : History Tables GatewayOp Exn}

/-- The change that `store` stages. -/
def storing (app : App) (env : Ambient) (ownerId : Uuid) (endpoint key : String)
    (body : List (String × Json)) (status : ℕ) (response : ResponseBody) (t : Tables) : Tables :=
  t.insertIdempotencyKey (newIdempotencyKey app env ownerId endpoint key body status response)

/-- Everything that an endpoint with the key `key` can do: replay a record, refuse the body, or
run the operation and store what it returns. -/
inductive RunsIdempotently (app : App) (env : Ambient) (ownerId : Uuid) (endpoint : String)
    (key : String) (body : List (String × Json)) (operation : ServiceProg ResponseBody)
    (gs : List (Tables → Tables)) :
    History Tables GatewayOp Exn → Except Exn StoredResponse → Prop
  /-- The lookup raised. -/
  | refused {d e} : RunsIdempotently app env ownerId endpoint key body operation gs
      (.ofRead d) (.error e)
  | replayed {d row}
      (found : (view gs d).getIdempotencyKey ownerId endpoint key = .ok (some row))
      (same : row.requestHash = hashBody app body) :
      RunsIdempotently app env ownerId endpoint key body operation gs (.ofRead d)
        (.ok ⟨row.responseStatus, row.responseBody⟩)
  /-- The operation raised. -/
  | raised {d K e} (unused : (view gs d).getIdempotencyKey ownerId endpoint key = .ok none)
      (ran : operation.Path gs K (.error e)) :
      RunsIdempotently app env ownerId endpoint key body operation gs (.ofRead d ++ K) (.error e)
  /-- The database refused the record. -/
  | rejected {d K d' b} (unused : (view gs d).getIdempotencyKey ownerId endpoint key = .ok none)
      (ran : operation.Path gs K (.ok b)) :
      RunsIdempotently app env ownerId endpoint key body operation gs
        (.ofRead d ++ (K ++ (.ofWrite (storing app env ownerId endpoint key body 201 b) ++
          .ofRead d'))) (.error .integrityError)
  | stored {d K d' b} (unused : (view gs d).getIdempotencyKey ownerId endpoint key = .ok none)
      (ran : operation.Path gs K (.ok b)) :
      RunsIdempotently app env ownerId endpoint key body operation gs
        (.ofRead d ++ (K ++ (.ofWrite (storing app env ownerId endpoint key body 201 b) ++
          .ofRead d'))) (.ok ⟨201, b⟩)

lemma idempotently_path {key : Option String} {r : Except Exn StoredResponse}
    (hkey : given key = true)
    (h : (idempotently app env ownerId endpoint key body operation).Path gs H r) :
    RunsIdempotently app env ownerId endpoint (key.getD "") body operation gs H r := by
  rw [idempotently, if_pos hkey] at h
  simp only [lookup, Prog.bind_assoc, Prog.path_ask_bind, Prog.path_ofExcept_bind] at h
  obtain ⟨d, K, rfl, ⟨e, -, rfl, rfl⟩ | ⟨found, hfound, h⟩⟩ := h
  · rw [History.append_nil]
    exact .refused
  rcases found with _ | row
  · simp only [Prog.pure_def, Prog.ret_bind, runAndStore, store, Prog.bind_assoc,
      Prog.path_bind (p := operation)] at h
    rcases h with ⟨e, hran, rfl⟩ | ⟨b, K', L, rfl, hran, h⟩
    · exact .raised hfound hran
    · simp only [Prog.path_modify_bind, path_flush_bind, Prog.path_ret] at h
      obtain ⟨M, rfl, d', N, rfl, ⟨-, rfl, rfl⟩ | ⟨-, rfl, rfl⟩⟩ := h
      · rw [History.append_nil]
        exact .rejected hfound hran
      · rw [History.append_nil]
        exact .stored hfound hran
  · simp only [Prog.bind_assoc, Prog.path_raiseIf_bind, Prog.pure_def, Prog.ret_bind,
      Prog.path_ret] at h
    rcases h with ⟨-, rfl, rfl⟩ | ⟨hsame, rfl, rfl⟩
    · rw [History.append_nil]
      exact .refused
    · rw [History.append_nil]
      exact .replayed hfound (not_not.1 hsame)

end Paths

end PaymentGateway
