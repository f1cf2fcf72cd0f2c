/-
# Revocation is final

`revoke_api_key` among all the other requests (`app/services/auth.py`): once a revocation has
committed, no request that starts after it and presents the key gets an answer or reaches a
provider, in any interleaving (`revocation_final`).

Three facts are put together: a committed revocation leaves an inactive key (`RevokedKey`), an
inactive key stays inactive (`Evolves`), and who presents a key is let in only if the key was
found to be active (`SignedIn`).  Requests that had read the key before may still go through, and
so may those that come between the response and the commit, which from FastAPI 0.118 on follows it.
-/
import PaymentGateway.Evolution

namespace PaymentGateway

open Transact

/-- The request presents this API key, whatever it asks for. -/
def HttpCall.Presents (app : App) (request : HttpCall) (key : ApiKey) : Prop :=
  ∃ headers call, request.call = .user headers call ∧ given headers.apiKey = true ∧
    app.sha256 (headers.apiKey.getD "") = key.hashedKey

/-- The session gets nowhere: no provider was called, and its program does not return, so that
there is nothing to answer, neither before a commit nor after it. -/
def ShutOut {C : Type} (x : Session Tables C GatewayOp Exn ApiAnswer) : Prop :=
  x.history.calls = [] ∧ ∀ answer, ¬ x.HasReturned answer

section Model

variable {ι : Type} (app : App) (requests : ι → HttpCall)

/-- The key that the request revokes, if that is what it asks for, is inactive. -/
def RevokedKey (i : ι) (_ : ApiAnswer) (t : Tables) : Prop :=
  ∀ headers keyId, (requests i).call = .user headers (.revokeApiKey keyId) →
    ∃ key ∈ t.apiKeys, app.parseUuid keyId = .ok key.id ∧ key.isActive = false

end Model

section Keys

variable {app : App} {env : Ambient}

/-- What a revocation leaves of the key, whatever has happened to it since it was read. -/
lemma isActive_saved_revocation (now : Timestamp) {key row : ApiKey}
    (h : key.isActive = false → row.isActive = false) :
    (row.saved now key (withRevocation env key)).isActive = false := by
  rw [ApiKey.saved_isActive, withRevocation_isActive]
  cases hkey : key.isActive with
  | false =>
    rw [changed_same]
    exact h hkey
  | true => rfl

/-- **A booked revocation leaves an inactive key.** -/
lemma UserCall.Books.exists_revoked {user : User} {idempotencyKey : Option String} {keyId : String}
    {L K : History Tables GatewayOp Exn} {t : Tables} {answer : ApiAnswer}
    (h : (UserCall.revokeApiKey keyId).Books app env user idempotencyKey K answer)
    (hstages : SignInStages env L.writes) (hreads : ∀ d ∈ K.reads, Evolves d t) :
    ∃ key ∈ (view (L ++ K).writes t).apiKeys,
      app.parseUuid keyId = .ok key.id ∧ key.isActive = false := by
  cases h with
  | @keyRevoked _ d row₀ row read mem same named owner writes =>
    -- the row as it was read, as it is now, and as the request sees it
    obtain ⟨row₁, hrow₁, hlater⟩ := (hreads d read).apiKeys.exists_of_mem mem
    have hstages := evolving_view (evolving_signIn hstages) t
    obtain ⟨row₂, hrow₂, hlater'⟩ := hstages.apiKeys.exists_of_mem hrow₁
    have hrow : row₂.id = row.id := by rw [hlater'.id, hlater.id, same.id]
    refine ⟨row₂.saved env.now row (withRevocation env row), ?_, ?_, ?_⟩
    · rw [History.writes_append, writes, view_append]
      exact List.mem_map.2 ⟨row₂, hrow₂, if_pos hrow⟩
    · rw [ApiKey.saved_id, hrow, named]
    · refine isActive_saved_revocation _ fun hinactive => ?_
      exact hlater'.inactive (hlater.inactive (same.isActive ▸ hinactive))

/-- Who presents a key that is inactive by now is not signed in. -/
lemma not_signedIn_of_presents {request : HttpCall} {key : ApiKey}
    (hpresents : request.Presents app key) {t : Tables} (hkey : key ∈ t.apiKeys)
    (hinactive : key.isActive = false) {H : History Tables GatewayOp Exn}
    (hreads : ∀ d ∈ H.reads, d.Unique ∧ Evolves t d) {headers : Headers} {call : UserCall}
    {user : User} (hcall : request.call = .user headers call)
    (hsigned : SignedIn app headers H user) : False := by
  obtain ⟨headers', call', hcall', hgiven, hhash⟩ := hpresents
  obtain ⟨rfl, rfl⟩ : headers' = headers ∧ call' = call := by
    rw [hcall] at hcall'
    cases hcall'
    exact ⟨rfl, rfl⟩
  cases hsigned with
  | @apiKey d _ found presented read hfound live later owner active =>
    obtain ⟨hunique, hevolves⟩ := hreads d read
    obtain ⟨key', hkey', hlater⟩ := hevolves.apiKeys.exists_of_mem hkey
    -- the hashes are unique, so the key that was found is the later version of the key
    rw [hhash, Tables.getByHash_eq_some hunique.hashedKey] at hfound
    obtain rfl := eq_of_key_eq hunique.hashedKey hfound.1 hkey'
      (hfound.2.trans hlater.hashedKey.symm)
    rw [hlater.inactive hinactive] at live
    cases live.1
  | bearer absent =>
    rw [hgiven] at absent
    cases absent

end Keys

/-! ## All interleavings -/

section Interleavings

variable {ι W C : Type} [DecidableEq ι] {app : App} {handle : C → Handler GatewayOp Exn W}
  {requests : ι → HttpCall} {s : ApiSystem ι W C} {m : Move ι C}

omit [DecidableEq ι] in
/-- The key of a revocation is inactive when the revocation is published, -/
lemma revokedKey_booked {i : ι} {H : History Tables GatewayOp Exn} {answer : ApiAnswer} {t : Tables}
    (hbooks : (requests i).Books app H answer) (hreads : ∀ d ∈ H.reads, Evolves d t) :
    RevokedKey app requests i answer (view H.writes t) := by
  intro headers keyId hcall
  generalize requests i = request at hbooks hcall
  cases hbooks with
  | «open» => cases hcall
  | user signedIn role stages books history =>
    cases hcall
    subst history
    exact books.exists_revoked stages fun d hd => hreads d (by simp [hd])

omit [DecidableEq ι] in
/-- and from then on. -/
lemma RevokedKey.stable {i : ι} {answer : ApiAnswer} {t t' : Tables} (ht : Evolves t t')
    (h : RevokedKey app requests i answer t) : RevokedKey app requests i answer t' := by
  intro headers keyId hcall
  obtain ⟨key, hkey, hnamed, hinactive⟩ := h headers keyId hcall
  obtain ⟨key', hkey', hlater⟩ := ht.apiKeys.exists_of_mem hkey
  exact ⟨key', hkey', by rw [hlater.id, hnamed], hlater.inactive hinactive⟩

omit [DecidableEq ι] in
/-- A session that has read nothing but an inactive key gets nowhere. -/
lemma shutOut_of_readsSince {I : Tables → Prop} (hs : ApiSound app requests I s) {t : Tables}
    {key : ApiKey} (hkey : key ∈ t.apiKeys) (hinactive : key.isActive = false) {j : ι}
    (hpresents : (requests j).Presents app key) (hj : s.ReadsSince Tables.Unique Evolves t j) :
    ShutOut (s.session j) := by
  constructor
  · by_contra hcalls
    obtain ⟨c, hc⟩ := List.exists_mem_of_ne_nil _ hcalls
    obtain ⟨headers, call, user, hcall, -, hsigned, -⟩ := (hs.access j).calls c hc
    exact not_signedIn_of_presents hpresents hkey hinactive hj.reads hcall hsigned
  · intro answer hanswer
    have hallowed := ((hs.access j).returned hanswer).1
    obtain ⟨headers, call, hcall, hgiven⟩ := hpresents
    rw [MayBeAnswered, hcall] at hallowed
    obtain ⟨user, hsigned, -⟩ := hallowed
    exact not_signedIn_of_presents ⟨headers, call, hcall, hgiven⟩ hkey hinactive hj.reads hcall
      hsigned

/-- **Revocation is final.**  Once a revocation has committed, there is an inactive key with the
id that it named, and a request that presents this key and has not read anything so far gets
nowhere, whatever else goes on. -/
theorem revocation_final (hunique : ∀ t, app.accepts t = true → t.Unique) {t : Tables}
    (ht : t.Unique) (handle : C → Handler GatewayOp Exn W) (requests : ι → HttpCall) (w : W)
    (moves later : List (Move ι C)) {i : ι} {headers : Headers} {keyId : String}
    (hrevoke : (requests i).call = .user headers (.revokeApiKey keyId))
    (hcommitted : ((run (System.step (serviceHost app handle)) (apiStart app requests t w)
      moves).session i).Committed .noContent) :
    ∃ key ∈ (run (System.step (serviceHost app handle)) (apiStart app requests t w)
        moves).store.apiKeys, app.parseUuid keyId = .ok key.id ∧
      ∀ j, (requests j).Presents app key →
        ((run (System.step (serviceHost app handle)) (apiStart app requests t w)
          moves).session j).history.reads = [] →
        Always (System.step (serviceHost app handle)) (fun s => ShutOut (s.session j))
          (run (System.step (serviceHost app handle)) (apiStart app requests t w) moves) later := by
  have hI : BookingsKeep app Tables.Unique := bookingsKeep_of_accepts hunique
  have halways : Always (System.step (serviceHost app handle))
      (fun s => ApiSound app requests Tables.Unique s ∧ Answered (RevokedKey app requests) s)
      (apiStart app requests t w) moves :=
    answered_run hI ht w (fun _ _ _ _ ht h => h.stable ht)
      (fun _ _ _ _ hbooks _ hreads => revokedKey_booked hbooks fun d hd => (hreads d hd).2) moves
  have hrun := halways.last
  obtain ⟨key, hkey, hnamed, hinactive⟩ := hrun.2 i _ hcommitted headers keyId hrevoke
  refine ⟨key, hkey, hnamed, fun j hpresents hnone => ?_⟩
  refine (always_of_step (I := fun s => ApiSound app requests Tables.Unique s ∧
    s.ReadsSince Tables.Unique Evolves (run (System.step (serviceHost app handle))
      (apiStart app requests t w) moves).store j) ?_ ?_ later).mono fun s hs =>
        shutOut_of_readsSince hs.1 hkey hinactive hpresents hs.2
  · exact fun s m hs => ⟨apiSound_step hI hs.1,
      hs.2.step hs.1.sound.store (hs.2.store.trans (evolves_step hs.1))⟩
  · exact ⟨hrun.1, System.readsSince_of_nil (evolves_refl _) hnone⟩

end Interleavings

/-- The user revokes the key that is presented, and uses it in another request. -/
def revocationRequest (revokes : Bool) : HttpCall where
  env := demoEnv 1
  call := .user ⟨some "upgi_sk_1", none, none⟩ (if revokes then .revokeApiKey "3" else .me)

/-- An application that reads the text of the request as the id of the key. -/
def revocationApp : App := { demoApp with parseUuid := fun _ => .ok (.ofNat 3) }

/-- One step of the two requests, with the mock provider behind them. -/
def revocationStep : ApiSystem Bool Unit Unit → Move Bool Unit → ApiSystem Bool Unit Unit :=
  System.step (serviceHost revocationApp (mockHandler ""))

/-- The system in which neither of the two requests has begun. -/
def revocationStart : ApiSystem Bool Unit Unit :=
  apiStart revocationApp revocationRequest apiKeyTables ()

/-- The revocation commits, and then the key is presented. -/
theorem revocation_final_demo :
    ∃ key ∈ (run revocationStep revocationStart
        (List.replicate 7 ⟨true, ()⟩)).store.apiKeys,
      revocationApp.parseUuid "3" = .ok key.id ∧
      ∀ j, (revocationRequest j).Presents revocationApp key →
        ((run revocationStep revocationStart
          (List.replicate 7 ⟨true, ()⟩)).session j).history.reads = [] →
        Always revocationStep (fun s => ShutOut (s.session j))
          (run revocationStep revocationStart (List.replicate 7 ⟨true, ()⟩))
          (List.replicate 7 ⟨false, ()⟩) :=
  revocation_final (show ∀ t, revocationApp.accepts t = true → t.Unique from demoApp_unique)
    (by decide) (mockHandler "") revocationRequest () _ _
    (show (revocationRequest true).call = _ from rfl) rfl

end PaymentGateway
