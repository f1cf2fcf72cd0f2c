/-
# The life of an API key

A run issues API keys, revokes them, lists them, signs in with them, and deactivates and
reactivates users, in any order.  Besides the tables it carries which keys were issued, in
plain text, and which of them their owners have revoked (`KeyState`).

The rows are the issued keys, one by one: the row holds the hash of the plaintext, and it is
live unless the key was revoked by its owner (`KeysMatch`).  From this follows
`apiKey_lifecycle`: a plaintext signs in as a user exactly if it belongs to a key that was
issued to the user and that the user has not revoked, while the user is active.  What counts as
revoked is what `revoke_api_key` has returned for; it does so for every key of the user, unless the
database refuses the change (`Lifecycle.granted`).
-/
import PaymentGateway.Lib.Runs
import PaymentGateway.Services.Auth

namespace PaymentGateway

open Transact

/-! ## Runs over the keys -/

/-- A key that was issued: its plaintext, the user it was issued to, and its id. -/
structure Issue where
  plaintext : String
  owner : Uuid
  id : Uuid
deriving DecidableEq, Repr

/-- The tables, the keys issued so far, and the revocations: who revoked which key. -/
structure KeyState where
  tables : Tables
  issued : List Issue
  revoked : List (Uuid × Uuid)
deriving DecidableEq, Repr

/-- What may happen to the keys: the methods of the service, and the doings of an operator. -/
inductive KeyMove where
  | create (env : Ambient) (user : User) (name : String)
  | revoke (env : Ambient) (user : User) (keyId : String)
  | list (env : Ambient) (user : User)
  | authenticate (env : Ambient) (presentedKey : String)
  /-- An operator sets `is_active` of a user. -/
  | setActive (userId : Uuid) (active : Bool)

section Model

variable (app : App)

/-- A method in a unit of work of its own: what it has staged is committed if it returns and the
database accepts it. -/
def alone {α : Type} (p : ServiceProg α) (t : Tables) : Outcome Tables Unit GatewayOp Exn α :=
  p.atomically noGateway t () app.accepts .integrityError

/-- The answer of `authenticate_api_key`: the user whom the presented key signs in, or the
exception. -/
def signsIn (env : Ambient) (presentedKey : String) (t : Tables) : Except Exn User :=
  ((authenticateApiKey app env presentedKey).run noGateway t ()).answer

/-- The user after an operator has switched the account on or off; no method of the application
does that. -/
def withActive (active : Bool) (user : User) : User := { user with isActive := active }

/-- The key that `create_api_key` has issued, if it returned, with its plaintext, its owner and
its id. -/
def issuedBy (user : User) (answer : Except Exn IssuedApiKey) : List Issue :=
  match answer with
  | .ok issued => [⟨issued.plaintext, user.id, issued.apiKey.id⟩]
  | .error _ => []

/-- The revocation that `revoke_api_key` has returned for, if it did. -/
def revokedBy (user : User) (keyId : String) (answer : Except Exn Unit) : List (Uuid × Uuid) :=
  match answer, app.parseUuid keyId with
  | .ok _, .ok id => [(user.id, id)]
  | _, _ => []

/-- One move, in a unit of work of its own.  What a call has issued or revoked is read off its
answer. -/
def KeyState.step (s : KeyState) : KeyMove → KeyState
  | .create env user name =>
      let o := alone app (createApiKey app env user name) s.tables
      { s with tables := o.store, issued := s.issued ++ issuedBy user o.answer }
  | .revoke env user keyId =>
      let o := alone app (revokeApiKey app env user keyId) s.tables
      { s with tables := o.store, revoked := s.revoked ++ revokedBy app user keyId o.answer }
  | .list _ user => { s with tables := (alone app (listApiKeys user) s.tables).store }
  | .authenticate env presentedKey =>
      { s with tables := (alone app (authenticateApiKey app env presentedKey) s.tables).store }
  | .setActive userId active =>
      { s with tables :=
          { s.tables with users := updateAt User.id userId (withActive active) s.tables.users } }

end Model

/-- The plaintext is that of a key that was issued to the user and that the user has not
revoked, and the user is active. -/
def Usable (s : KeyState) (presentedKey : String) (userId : Uuid) : Prop :=
  (∃ key ∈ s.issued, key.plaintext = presentedKey ∧ key.owner = userId ∧
    (userId, key.id) ∉ s.revoked) ∧
  ∃ user ∈ s.tables.users, user.id = userId ∧ user.isActive = true

/-! ## The rows are the issued keys -/

/-- The row has not been revoked: it is active and has no time of revocation.  The code sets both
at once. -/
def LiveKey (row : ApiKey) : Prop := row.isActive = true ∧ row.revokedAt = none

/-- The row is that of the issued key: its owner, the hash of its plaintext, and alive exactly as
long as the owner has not revoked it. -/
structure KeyMatches (app : App) (revoked : List (Uuid × Uuid)) (row : ApiKey) (key : Issue) :
    Prop where
  id : row.id = key.id
  owner : row.userId = key.owner
  hash : row.hashedKey = app.sha256 key.plaintext
  live : LiveKey row ↔ (key.owner, key.id) ∉ revoked

/-- The rows are those of the issued keys, one by one, and what identifies them is distinct. -/
structure KeysMatch (app : App) (s : KeyState) : Prop where
  userIds : (s.tables.users.map User.id).Nodup
  ids : (s.tables.apiKeys.map ApiKey.id).Nodup
  hashes : (s.tables.apiKeys.map ApiKey.hashedKey).Nodup
  rows : List.Forall₂ (KeyMatches app s.revoked) s.tables.apiKeys s.issued
  /-- Only keys that exist were revoked. -/
  known : ∀ r ∈ s.revoked, ∃ row ∈ s.tables.apiKeys, row.id = r.2

section Steps

variable {app : App} {s : KeyState}

/-- What a method in a unit of work of its own leaves. -/
lemma alone_settled {α : Type} (app : App) (p : ServiceProg α) (t : Tables) :
    (∃ H a, p.Path [] H (.ok a) ∧ (∀ d ∈ H.reads, d = t) ∧ (alone app p t).answer = .ok a ∧
        (alone app p t).store = view H.writes t ∧ app.accepts (view H.writes t) = true) ∨
      ∃ e, (alone app p t).answer = .error e ∧ (alone app p t).store = t := by
  obtain ⟨H, r, hpath, hreads, -, ⟨a, rfl, hacc, hans, hstore⟩ | ⟨e, hans, hstore, -⟩⟩ :=
    Prog.path_atomically noGateway app.accepts .integrityError p t ()
  · exact Or.inl ⟨H, a, hpath, hreads, hans, hstore, hacc⟩
  · exact Or.inr ⟨e, hans, hstore⟩

/-- A plaintext signs in exactly if it is usable. -/
lemma KeysMatch.signsIn_iff (h : KeysMatch app s) (hsha : Function.Injective app.sha256)
    {env : Ambient} {presentedKey : String} {userId : Uuid} :
    (∃ user, signsIn app env presentedKey s.tables = .ok user ∧ user.id = userId) ↔
      Usable s presentedKey userId := by
  simp only [signsIn, authenticateApiKey_ok_iff, Tables.getByHash_eq_some h.hashes,
    Tables.getUser_eq_some h.userIds]
  constructor
  · rintro ⟨user, ⟨row, ⟨hrow, hhash⟩, hactive, hkept, ⟨huser, howner⟩, hopen⟩, rfl⟩
    obtain ⟨key, hkey, hmatch⟩ := exists_of_forall₂ h.rows.flip hrow
    have hid : key.owner = user.id := hmatch.owner.symm.trans howner.symm
    have hplain : key.plaintext = presentedKey := hsha (hmatch.hash.symm.trans hhash)
    have hlive := hmatch.live.1 ⟨hactive, hkept⟩
    exact ⟨⟨key, hkey, hplain, hid, hid ▸ hlive⟩, user, huser, rfl, hopen⟩
  · rintro ⟨⟨key, hkey, rfl, rfl, hkept⟩, user, huser, hid, hopen⟩
    obtain ⟨row, hrow, hmatch⟩ := exists_of_forall₂ h.rows hkey
    obtain ⟨hactive, hnever⟩ := hmatch.live.2 hkept
    exact ⟨user, ⟨row, ⟨hrow, hmatch.hash⟩, hactive, hnever,
      ⟨huser, hid.trans hmatch.owner.symm⟩, hopen⟩, hid⟩

/-- An issued key is a new row. -/
lemma KeysMatch.create (h : KeysMatch app s) (hunique : ∀ t, app.accepts t = true → t.Unique)
    (env : Ambient) (user : User) (name : String) :
    KeysMatch app (s.step app (.create env user name)) := by
  rcases alone_settled app (createApiKey app env user name) s.tables with
    ⟨H, issued, hpath, -, hans, hstore, hacc⟩ | ⟨e, hans, hstore⟩
  · cases createApiKey_path hpath with
    | @done d =>
      obtain ⟨-, -, hids, hhashes⟩ := hunique _ hacc
      have hnew : KeyMatches app s.revoked (newApiKey env user name (generatedApiKey app env))
          ⟨(generatedApiKey app env).fullKey, user.id, env.apiKeyId⟩ := by
        refine ⟨rfl, rfl, rfl, iff_of_true ⟨rfl, rfl⟩ fun hrevoked => ?_⟩
        -- the id is new, so it was not revoked
        obtain ⟨row, hrow, hid⟩ := h.known _ hrevoked
        have hfresh : env.apiKeyId ∉ s.tables.apiKeys.map ApiKey.id := by
          have hdistinct : (s.tables.apiKeys.map ApiKey.id ++ [env.apiKeyId]).Nodup := by
            simpa using hids
          rw [List.nodup_append] at hdistinct
          intro hmem
          exact hdistinct.2.2 _ hmem _ List.mem_cons_self rfl
        have hid' : row.id = env.apiKeyId := hid
        exact hfresh (hid' ▸ List.mem_map_of_mem hrow)
      simp only [KeyState.step, hans, hstore, issuedBy]
      refine ⟨h.userIds, hids, hhashes, ?_, ?_⟩
      · exact List.rel_append h.rows (.cons hnew .nil)
      · intro r hr
        obtain ⟨row, hrow, hid⟩ := h.known r hr
        exact ⟨row, List.mem_append_left _ hrow, hid⟩
  · simpa only [KeyState.step, hans, hstore, issuedBy, List.append_nil] using h

/-- An `UPDATE` of one row that keeps what identifies a key. -/
lemma KeysMatch.save (h : KeysMatch app s) {revoked : List (Uuid × Uuid)} (now : Timestamp)
    (old new : ApiKey)
    (hmatch : ∀ row ∈ s.tables.apiKeys, ∀ key, KeyMatches app s.revoked row key →
      (LiveKey (if row.id = old.id then row.saved now old new else row) ↔
        (key.owner, key.id) ∉ revoked))
    (hknown : ∀ r ∈ revoked, ∃ row ∈ s.tables.apiKeys, row.id = r.2)
    {t : Tables} (hkeys : t.apiKeys = (s.tables.saveApiKey now old new).apiKeys)
    (husers : t.users = s.tables.users) : KeysMatch app ⟨t, s.issued, revoked⟩ := by
  rw [Tables.saveApiKey_apiKeys] at hkeys
  have hids : t.apiKeys.map ApiKey.id = s.tables.apiKeys.map ApiKey.id := by
    rw [hkeys, map_key_updateAt fun row => by simp]
  refine ⟨husers ▸ h.userIds, hids ▸ h.ids, ?_, ?_, fun r hr => ?_⟩
  · rw [hkeys, map_updateAt fun row => by simp]
    exact h.hashes
  · rw [hkeys]
    refine forall₂_updateAt h.rows fun row hrow key hk => ?_
    refine ⟨?_, ?_, ?_, hmatch row hrow key hk⟩
    · split <;> simp [hk.id]
    · split <;> simp [hk.owner]
    · split <;> simp [hk.hash]
  · obtain ⟨row, hrow, hid⟩ := hknown r hr
    have hmem : r.2 ∈ t.apiKeys.map ApiKey.id := hids ▸ hid ▸ List.mem_map_of_mem hrow
    obtain ⟨row', hrow', hid'⟩ := List.mem_map.1 hmem
    exact ⟨row', hrow', hid'⟩

/-- A revoked key is no longer live, and the others are as they were. -/
lemma KeysMatch.revoke (h : KeysMatch app s) (env : Ambient) (user : User) (keyId : String) :
    KeysMatch app (s.step app (.revoke env user keyId)) := by
  rcases alone_settled app (revokeApiKey app env user keyId) s.tables with
    ⟨H, u, hpath, hreads, hans, hstore, -⟩ | ⟨e, hans, hstore⟩
  · cases revokeApiKey_path hpath with
    | @done d id row named found owner =>
      obtain rfl : d = s.tables := hreads d (by simp)
      obtain ⟨hrow, rfl⟩ := (Tables.getApiKey_eq_some h.ids).1 found
      simp only [KeyState.step, hans, hstore, revokedBy, named]
      refine h.save env.now row (withRevocation env row) ?_ ?_ rfl rfl
      · -- the key that matches the revoked row is dead, and no other one is touched
        intro other hother key hk
        by_cases hid : other.id = row.id
        · obtain rfl := eq_of_key_eq h.ids hother hrow hid
          have hkey : (key.owner, key.id) = (user.id, other.id) := by
            rw [← hk.owner, ← hk.id, owner]
          rw [if_pos rfl, hkey]
          simp [LiveKey]
        · have hne : (key.owner, key.id) ≠ (user.id, row.id) := by
            rw [← hk.id]
            intro heq
            exact hid (Prod.ext_iff.1 heq).2
          rw [if_neg hid, hk.live]
          simp [hne]
      · intro r hr
        rcases List.mem_append.1 hr with hr | hr
        · exact h.known r hr
        · rw [List.mem_singleton.1 hr]
          exact ⟨row, hrow, rfl⟩
  · simpa only [KeyState.step, hans, hstore, revokedBy, List.append_nil] using h

/-- The use of a key changes nothing that matters. -/
lemma KeysMatch.authenticate (h : KeysMatch app s) (env : Ambient) (presentedKey : String) :
    KeysMatch app (s.step app (.authenticate env presentedKey)) := by
  rcases alone_settled app (authenticateApiKey app env presentedKey) s.tables with
    ⟨H, u, hpath, -, -, hstore, -⟩ | ⟨e, -, hstore⟩
  · cases authenticateApiKey_uses hpath with
    | @done d d' row user found =>
      simp only [KeyState.step, hstore]
      refine h.save env.now row (withUse env row) ?_ h.known rfl rfl
      intro other _ key hk
      rw [← hk.live]
      split <;> simp [LiveKey]
  · simpa only [KeyState.step, hstore] using h

/-- Listing the keys only reads. -/
lemma KeysMatch.list (h : KeysMatch app s) (env : Ambient) (user : User) :
    KeysMatch app (s.step app (.list env user)) := by
  have hstore : (alone app (listApiKeys user) s.tables).store = s.tables := by
    rcases alone_settled app (listApiKeys user) s.tables with
      ⟨H, keys, ⟨d, K, rfl, rfl, -⟩, -, -, hstore, -⟩ | ⟨e, -, hstore⟩
    · exact hstore
    · exact hstore
  simpa only [KeyState.step, hstore] using h

/-- An operator touches the users only. -/
lemma KeysMatch.setActive (h : KeysMatch app s) (userId : Uuid) (active : Bool) :
    KeysMatch app (s.step app (.setActive userId active)) := by
  refine ⟨?_, h.ids, h.hashes, h.rows, h.known⟩
  show ((updateAt User.id userId (withActive active) s.tables.users).map User.id).Nodup
  rw [map_key_updateAt (f := withActive active) fun user => rfl]
  exact h.userIds

/-- **One move** keeps the rows those of the issued keys. -/
lemma KeysMatch.step (hunique : ∀ t, app.accepts t = true → t.Unique) (move : KeyMove)
    (h : KeysMatch app s) : KeysMatch app (s.step app move) := by
  cases move with
  | create env user name => exact h.create hunique env user name
  | revoke env user keyId => exact h.revoke env user keyId
  | list env user => exact h.list env user
  | authenticate env presentedKey => exact h.authenticate env presentedKey
  | setActive userId active => exact h.setActive userId active

/-! ## What holds in every state -/

/-- A revocation changes no key but the one it names, and only if that is the user's own. -/
def SparesOthers (app : App) (s : KeyState) (env : Ambient) (user : User) (keyId : String) :
    Prop :=
  (s.step app (.revoke env user keyId)).tables.apiKeys.map ApiKey.id =
      s.tables.apiKeys.map ApiKey.id ∧
    ∀ row ∈ s.tables.apiKeys, row.userId ≠ user.id ∨ app.parseUuid keyId ≠ .ok row.id →
      row ∈ (s.step app (.revoke env user keyId)).tables.apiKeys

lemma KeysMatch.sparesOthers (h : KeysMatch app s) (env : Ambient) (user : User)
    (keyId : String) : SparesOthers app s env user keyId := by
  rw [SparesOthers]
  rcases alone_settled app (revokeApiKey app env user keyId) s.tables with
    ⟨H, u, hpath, hreads, -, hstore, -⟩ | ⟨e, -, hstore⟩
  · cases revokeApiKey_path hpath with
    | @done d id row named found owner =>
      obtain rfl : d = s.tables := hreads d (by simp)
      obtain ⟨hrow, rfl⟩ := (Tables.getApiKey_eq_some h.ids).1 found
      have hkeys : (s.step app (.revoke env user keyId)).tables.apiKeys =
          updateAt ApiKey.id row.id
            (fun k => k.saved env.now row (withRevocation env row)) s.tables.apiKeys :=
        congrArg Tables.apiKeys hstore
      rw [hkeys]
      refine ⟨map_key_updateAt fun k => by simp, fun other hother hspared => ?_⟩
      refine (mem_updateAt h.ids hrow).2 (Or.inr ⟨hother, fun hid => ?_⟩)
      rcases hspared with hforeign | hnamed
      · rw [eq_of_key_eq h.ids hother hrow hid] at hforeign
        exact hforeign owner
      · exact hnamed (hid ▸ named)
  · have htables : (s.step app (.revoke env user keyId)).tables = s.tables := hstore
    rw [htables]
    exact ⟨rfl, fun row hrow _ => hrow⟩

/-- Issued keys with one plaintext are one key. -/
lemma KeysMatch.issue_eq (h : KeysMatch app s) {key key' : Issue} (hkey : key ∈ s.issued)
    (hkey' : key' ∈ s.issued) (hplain : key.plaintext = key'.plaintext) :
    key.owner = key'.owner ∧ key.id = key'.id := by
  obtain ⟨row, hrow, hmatch⟩ := exists_of_forall₂ h.rows hkey
  obtain ⟨row', hrow', hmatch'⟩ := exists_of_forall₂ h.rows hkey'
  have hhash : row.hashedKey = row'.hashedKey := by rw [hmatch.hash, hmatch'.hash, hplain]
  obtain rfl := eq_of_key_eq h.hashes hrow hrow' hhash
  exact ⟨hmatch.owner.symm.trans hmatch'.owner, hmatch.id.symm.trans hmatch'.id⟩

/-- The owner's revocation of a key goes through, unless the database refuses it. -/
lemma KeysMatch.grants (h : KeysMatch app s) {key : Issue} (hkey : key ∈ s.issued) {user : User}
    (howner : key.owner = user.id) {keyId : String} (hnamed : app.parseUuid keyId = .ok key.id)
    (env : Ambient) :
    (alone app (revokeApiKey app env user keyId) s.tables).answer = .ok () ∨
      (alone app (revokeApiKey app env user keyId) s.tables).answer = .error .integrityError := by
  obtain ⟨row, hrow, hmatch⟩ := exists_of_forall₂ h.rows hkey
  have hfound : s.tables.getApiKey key.id = some row :=
    (Tables.getApiKey_eq_some h.ids).2 ⟨hrow, hmatch.id⟩
  have hown : ¬ row.userId ≠ user.id := not_not.2 (hmatch.owner.trans howner)
  have hrun : ((revokeApiKey app env user keyId).run noGateway s.tables ()).answer = .ok () := by
    rw [revokeApiKey, hnamed, Prog.ofExcept_ok, Prog.ret_bind, Prog.run_ask_bind, hfound,
      Prog.orRaise, Option.elim_some, Prog.ofExcept_ok, Prog.ret_bind, Prog.run_raiseIf_bind,
      if_neg hown]
    rfl
  rw [alone, Prog.atomically, hrun]
  dsimp only
  split
  · exact Or.inl hrun
  · exact Or.inr rfl

/-- A key whose owner has revoked it signs nobody in. -/
lemma KeysMatch.refuses_revoked (h : KeysMatch app s) (hsha : Function.Injective app.sha256)
    {key : Issue} (hkey : key ∈ s.issued) (hrevoked : (key.owner, key.id) ∈ s.revoked)
    (env : Ambient) (user : User) : signsIn app env key.plaintext s.tables ≠ .ok user := by
  intro hok
  obtain ⟨⟨key', hkey', hplain, howner, hkept⟩, -⟩ := (h.signsIn_iff hsha).1 ⟨user, hok, rfl⟩
  obtain ⟨howner', hid⟩ := h.issue_eq hkey hkey' hplain.symm
  rw [← howner, ← howner', ← hid] at hkept
  exact hkept hrevoked

variable (app s) in
/-- Nothing is forgotten of what was issued and revoked. -/
lemma subset_step (move : KeyMove) :
    s.issued ⊆ (s.step app move).issued ∧ s.revoked ⊆ (s.step app move).revoked := by
  cases move with
  | create env user name => exact ⟨List.subset_append_left _ _, List.Subset.refl _⟩
  | revoke env user keyId => exact ⟨List.Subset.refl _, List.subset_append_left _ _⟩
  | list env user => exact ⟨List.Subset.refl _, List.Subset.refl _⟩
  | authenticate env presentedKey => exact ⟨List.Subset.refl _, List.Subset.refl _⟩
  | setActive userId active => exact ⟨List.Subset.refl _, List.Subset.refl _⟩

variable (app s) in
lemma subset_run (moves : List KeyMove) :
    s.issued ⊆ (run (KeyState.step app) s moves).issued ∧
      s.revoked ⊆ (run (KeyState.step app) s moves).revoked := by
  induction moves generalizing s with
  | nil => exact ⟨List.Subset.refl _, List.Subset.refl _⟩
  | cons move moves ih =>
    obtain ⟨hissued, hrevoked⟩ := subset_step app s move
    exact ⟨List.Subset.trans hissued (ih _).1, List.Subset.trans hrevoked (ih _).2⟩

end Steps

/-- What holds of the keys in the state `s`. -/
structure Lifecycle (app : App) (s : KeyState) : Prop where
  /-- A plaintext signs in as a user exactly if it is usable. -/
  signsIn : ∀ env presentedKey userId,
    (∃ user, PaymentGateway.signsIn app env presentedKey s.tables = .ok user ∧
      user.id = userId) ↔ Usable s presentedKey userId
  /-- The owner may revoke a key at any time, and only the database may refuse it. -/
  granted : ∀ key ∈ s.issued, ∀ env user keyId, key.owner = user.id →
    app.parseUuid keyId = .ok key.id →
      (alone app (revokeApiKey app env user keyId) s.tables).answer = .ok () ∨
        (alone app (revokeApiKey app env user keyId) s.tables).answer = .error .integrityError
  /-- A revocation changes nobody else's key. -/
  spared : ∀ env user keyId, SparesOthers app s env user keyId
  /-- Whatever happens later, a revoked key signs nobody in. -/
  dead : ∀ key ∈ s.issued, (key.owner, key.id) ∈ s.revoked → ∀ later env user,
    PaymentGateway.signsIn app env key.plaintext (run (KeyState.step app) s later).tables ≠
      .ok user

lemma KeysMatch.lifecycle {app : App} {s : KeyState}
    (hunique : ∀ t, app.accepts t = true → t.Unique) (hsha : Function.Injective app.sha256)
    (h : KeysMatch app s) : Lifecycle app s where
  signsIn _ _ _ := h.signsIn_iff hsha
  granted _ hkey env _ _ howner hnamed := h.grants hkey howner hnamed env
  spared := h.sparesOthers
  dead key hkey hrevoked later env user := by
    have hlater := (always_of_step (fun s move hs => hs.step hunique move) h later).last
    obtain ⟨hissued, hrevoked'⟩ := subset_run app s later
    exact hlater.refuses_revoked hsha (hissued hkey) (hrevoked' hrevoked) env user

/-- **The life of an API key.**  In every state of every run that starts without keys, a
plaintext signs in as a user exactly if it is that of a key that was issued to the user and
that the user has not revoked, and the user is active; the owner may revoke a key at any time;
a revocation changes nobody else's key; and a revoked key stays dead.  The database enforces its
unique constraints, and SHA-256 is taken to be injective. -/
theorem apiKey_lifecycle {app : App} (hunique : ∀ t, app.accepts t = true → t.Unique)
    (hsha : Function.Injective app.sha256) {t : Tables} (hids : (t.users.map User.id).Nodup)
    (hnone : t.apiKeys = []) (moves : List KeyMove) :
    Always (KeyState.step app) (Lifecycle app) ⟨t, [], []⟩ moves := by
  have hstart : KeysMatch app ⟨t, [], []⟩ := by
    refine ⟨hids, ?_, ?_, ?_, by simp⟩
    · simp [hnone]
    · simp [hnone]
    · simp [hnone]
  have hinv := always_of_step (fun s move (h : KeysMatch app s) => h.step hunique move) hstart
    moves
  exact hinv.mono fun s h => h.lifecycle hunique hsha

/-! ## A key that is issued, used and revoked -/

/-- The application that reads the id of the first key. -/
def revokingApp : App :=
  { demoApp with
    parseUuid := fun text =>
      if text = (demoEnv 1).apiKeyId.str then .ok (demoEnv 1).apiKeyId
      else .error (.python .valueError) }

/-- A key is issued and used, somebody else tries to revoke it, and then its owner does. -/
def keyMoves : List KeyMove :=
  [.create (demoEnv 1) demoUser "shop",
    .authenticate (demoEnv 2) (generatedApiKey revokingApp (demoEnv 1)).fullKey,
    .revoke (demoEnv 3) { demoUser with id := .ofNat 9 } (demoEnv 1).apiKeyId.str,
    .revoke (demoEnv 4) demoUser (demoEnv 1).apiKeyId.str]

/-- The state with the user and no keys, before anything was issued or revoked. -/
def keyStart : KeyState := ⟨{ Tables.empty with users := [demoUser] }, [], []⟩

/-- The theorem on the four moves. -/
theorem apiKey_lifecycle_demo :
    Always (KeyState.step revokingApp) (Lifecycle revokingApp) keyStart keyMoves :=
  apiKey_lifecycle (fun _ h => of_decide_eq_true h) (fun _ _ h => h) (by decide) rfl _

/-- Somebody else's attempt to revoke the key leaves it as it is. -/
example : signsIn revokingApp (demoEnv 9) (generatedApiKey revokingApp (demoEnv 1)).fullKey
    (run (KeyState.step revokingApp) keyStart (keyMoves.take 3)).tables = .ok demoUser := by decide

end PaymentGateway
