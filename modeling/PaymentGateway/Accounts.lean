/-
# Registered accounts

Registrations and logins (`app/services/auth.py`), among all the other requests.  Once a
registration has committed, its account is there in every later state, active and not locked,
and it is opened by the password that was registered and by no other (`registration_lasts`).

Logins write the row of their account back, some of them with a new hash, and they read it some
time before.  So the relation between a version of a user that was read and the present one is
the invariant here (`User.SameAccount`): the two are opened by the same passwords.
-/
import PaymentGateway.Evolution

namespace PaymentGateway

open Transact

/-! ## Passwords -/

/-- A hash is verified against the password that it was made of, and against no other. -/
def HashesWell (app : App) : Prop :=
  ∀ salt plain q, app.verifyPassword q (app.hash salt plain) = true ↔ q = plain

/-- There is no more than one password that opens the account.  That is a property of the hash
that is stored, and rows of the past may lack it. -/
def OpensOnce (app : App) (u : User) : Prop :=
  ∀ p q, app.verifyPassword p u.hashedPassword = true →
    app.verifyPassword q u.hashedPassword = true → p = q

/-- Two versions of one account: the same passwords open it, and it has not been locked. -/
structure User.SameAccount (app : App) (a b : User) : Prop extends a.Later b where
  opens : ∀ q, app.verifyPassword q b.hashedPassword = app.verifyPassword q a.hashedPassword
  unlocked : a.failedLoginAttempts < maxFailedLogins → b.failedLoginAttempts < maxFailedLogins

/-- What may have become of the accounts: each is the one that it was, and a new one opens with
one password at most. -/
def KeepsAccounts (app : App) (t t' : Tables) : Prop :=
  Grows (User.SameAccount app) (OpensOnce app) t.users t'.users

/-- The constraints on the accounts: what the database checks, and that each stored hash belongs
to one password at most. -/
structure WellHashed (app : App) (t : Tables) : Prop where
  unique : t.Unique
  opens : ∀ u ∈ t.users, OpensOnce app u

lemma User.saved_hashedPassword (row : User) (now : Timestamp) (old new : User) :
    (row.saved now old new).hashedPassword =
      changed old.hashedPassword new.hashedPassword row.hashedPassword := by
  rw [saved]
  split <;> simp [*]

section Rows

variable {app : App} {env : Ambient} {t t' t'' : Tables}

lemma User.sameAccount_refl (app : App) (a : User) : a.SameAccount app a :=
  ⟨a.later_refl, fun _ => rfl, fun h => h⟩

lemma User.SameAccount.trans {a b c : User} (h : a.SameAccount app b) (h' : b.SameAccount app c) :
    a.SameAccount app c :=
  ⟨h.toLater.trans h'.toLater, fun q => (h'.opens q).trans (h.opens q),
    fun hlock => h'.unlocked (h.unlocked hlock)⟩

lemma OpensOnce.keeps {a b : User} (ha : OpensOnce app a) (h : a.SameAccount app b) :
    OpensOnce app b := by
  intro p q hp hq
  rw [h.opens] at hp hq
  exact ha p q hp hq

lemma keepsAccounts_of_users (h : t'.users = t.users) : KeepsAccounts app t t' := by
  rw [KeepsAccounts, h]
  exact .refl (User.sameAccount_refl app) _

lemma KeepsAccounts.trans (h : KeepsAccounts app t t') (h' : KeepsAccounts app t' t'') :
    KeepsAccounts app t t'' :=
  Grows.trans (fun _ _ _ => User.SameAccount.trans) (fun _ _ => OpensOnce.keeps) h h'

/-- The hash that a login leaves is opened by the passwords that opened the old one. -/
lemma upgradedHash_opens (hhash : HashesWell app) {user : User} {password hashed : String}
    (honce : OpensOnce app user)
    (hverified : app.verifyPassword password user.hashedPassword = true)
    (h : upgradedHash app env user password = .ok hashed) (q : String) :
    app.verifyPassword q hashed = app.verifyPassword q user.hashedPassword := by
  rw [upgradedHash] at h
  split at h
  · rw [hashPassword] at h
    split at h
    · cases h
    · cases h
      rw [Bool.eq_iff_iff, hhash]
      constructor
      · rintro rfl
        exact hverified
      · intro hq
        exact honce q password hq hverified
  · cases h
    rfl

/-- What a login writes back to the present version of the account that it has read. -/
lemma User.SameAccount.saved {now : Timestamp} {user v : User} (hsame : user.SameAccount app v)
    {hashed : String}
    (hopens : ∀ q, app.verifyPassword q hashed = app.verifyPassword q user.hashedPassword) :
    v.SameAccount app (v.saved now user (withLogin user hashed)) := by
  refine ⟨v.later_saved .., fun q => ?_, fun hlock => ?_⟩
  · rw [User.saved_hashedPassword, changed]
    split
    · rfl
    · exact (hopens q).trans (hsame.opens q).symm
  · rw [User.saved_failedLoginAttempts, changed]
    split
    · exact hlock
    · exact (by decide : (0 : ℤ) < maxFailedLogins)

lemma keepsAccounts_login (hhash : HashesWell app) {d : Tables} (hd : WellHashed app d)
    (hkept : KeepsAccounts app d t) (ht : t.Unique) {user : User} (hmem : user ∈ d.users)
    {password hashed : String} (hverified : app.verifyPassword password user.hashedPassword = true)
    (hupgrade : upgradedHash app env user password = .ok hashed) :
    KeepsAccounts app t (t.saveUser env.now user (withLogin user hashed)) := by
  obtain ⟨v, hv, hsame⟩ := hkept.exists_of_mem hmem
  have hopens := upgradedHash_opens hhash (hd.opens user hmem) hverified hupgrade
  refine grows_of_forall₂ ?_
  rw [Tables.saveUser_users, updateAt, List.forall₂_map_right_iff, List.forall₂_same]
  intro a ha
  by_cases hid : a.id = user.id
  · rw [if_pos hid]
    obtain rfl := eq_of_key_eq ht.userId ha hv (hid.trans hsame.id.symm)
    exact hsame.saved hopens
  · rw [if_neg hid]
    exact a.sameAccount_refl app

end Rows

/-! ## Requests -/

section Requests

variable {app : App} {env : Ambient} {user : User} {key : Option String} {t : Tables}
  {H K : History Tables GatewayOp Exn} {answer : ApiAnswer}

lemma SignInStages.view_users {gs : List (Tables → Tables)} (h : SignInStages env gs) :
    (view gs t).users = t.users := by
  cases h <;> rfl

/-- The handlers leave the users alone. -/
lemma UserCall.Books.view_users {call : UserCall} (h : call.Books app env user key K answer) :
    (view K.writes t).users = t.users := by
  have hrecording {post : Post} {response : ResponseBody} {t' : Tables} :
      (view (recording app env user key post response) t').users = t'.users := by
    rw [recording]
    split <;> rfl
  cases h with
  | created status responded writes =>
    rw [writes, view_append, hrecording]
    rfl
  | refunded read found status amount responded writes =>
    rw [writes, view_append, hrecording]
    rfl
  | _ =>
    rename_i writes
    rw [writes]
    rfl

lemma opensOnce_newUser (hhash : HashesWell app) {email password hashed : String}
    {fullName : Option String} (h : hashPassword app env password = .ok hashed) :
    OpensOnce app (newUser env email hashed fullName) := by
  rw [hashPassword] at h
  split at h
  · cases h
  · cases h
    intro p q hp hq
    rw [newUser_hashedPassword, hhash] at hp hq
    exact hp.trans hq.symm

/-- **What a request books keeps the accounts.** -/
lemma HttpCall.Books.keepsAccounts (hhash : HashesWell app) {request : HttpCall}
    (h : request.Books app H answer) (ht : t.Unique)
    (hreads : ∀ d ∈ H.reads, WellHashed app d ∧ KeepsAccounts app d t) :
    KeepsAccounts app t (view H.writes t) := by
  cases h with
  | «open» books =>
    cases books with
    | registered read free hash writes =>
      rw [writes]
      exact grows_append (User.sameAccount_refl app)
        (List.forall_mem_singleton.2 (opensOnce_newUser hhash hash))
    | @loggedIn _ _ u hashed d read found verified active unlocked hash writes =>
      rw [writes]
      exact keepsAccounts_login hhash (hreads d read).1 (hreads d read).2 ht
        (Tables.mem_of_getByEmail found) verified hash
    | _ =>
      rename_i writes
      rw [writes]
      exact keepsAccounts_of_users rfl
  | user signedIn role stages books history =>
    subst history
    rw [History.writes_append, view_append]
    exact keepsAccounts_of_users (books.view_users.trans stages.view_users)

/-! ## What a client knows of an account -/

/-- The account of the user is as it was registered. -/
def HasAccount (app : App) (userId : Uuid) (email password : String) (t : Tables) : Prop :=
  password ≠ "" ∧ ∃ u ∈ t.users, u.id = userId ∧ u.email = app.strip (app.lower email) ∧
    u.isActive = true ∧ u.failedLoginAttempts < maxFailedLogins ∧
    ∀ q, app.verifyPassword q u.hashedPassword = true ↔ q = password

lemma HasAccount.keeps {userId : Uuid} {email password : String} {t' : Tables}
    (h : HasAccount app userId email password t) (ht : KeepsAccounts app t t') :
    HasAccount app userId email password t' := by
  obtain ⟨hne, u, hu, hid, hemail, hactive, hlock, hopens⟩ := h
  obtain ⟨v, hv, hsame⟩ := ht.exists_of_mem hu
  refine ⟨hne, v, hv, hsame.id.trans hid, hsame.email.trans hemail, hsame.isActive.trans hactive,
    hsame.unlocked hlock, fun q => ?_⟩
  rw [hsame.opens]
  exact hopens q

/-- The account is there when the registration is booked. -/
lemma hasAccount_registered (hhash : HashesWell app) {email password : String}
    {fullName : Option String}
    (h : (OpenCall.register email password fullName).Books app env H answer) :
    ∃ r, answer = .user r ∧ HasAccount app r.id email password (view H.writes t) := by
  cases h with
  | @registered _ _ _ hashed d read free hash writes =>
    refine ⟨_, rfl, ?_⟩
    rw [hashPassword] at hash
    split at hash
    · cases hash
    · rename_i hne
      cases hash
      rw [writes]
      exact ⟨hne, _, List.mem_append_right _ List.mem_cons_self, rfl, rfl, rfl,
        (by decide : (0 : ℤ) < maxFailedLogins), fun q => hhash _ _ q⟩

/-- The address is the one of the account. -/
lemma HasAccount.getByEmail {userId : Uuid} {email password address : String}
    (h : HasAccount app userId email password t) (ht : t.Unique)
    (haddress : loginEmail app address = app.strip (app.lower email)) :
    ∃ u ∈ t.users, t.getByEmail (loginEmail app address) = .ok (some u) ∧ u.id = userId ∧
      u.isActive = true ∧ u.failedLoginAttempts < maxFailedLogins ∧
      ∀ q, app.verifyPassword q u.hashedPassword = true ↔ q = password := by
  obtain ⟨-, u, hu, hid, hemail, hrest⟩ := h
  refine ⟨u, hu, ?_, hid, hrest⟩
  rw [Tables.getByEmail, haddress, ← hemail, scalarOneOrNone_eq_some]
  exact filter_key_eq ht.email hu

/-- A login to the account is booked with the password of the account only. -/
lemma HasAccount.of_loggedIn {userId : Uuid} {email password address q : String}
    (h : (OpenCall.login address q).Books app env H answer)
    (haddress : loginEmail app address = app.strip (app.lower email))
    (hreads : ∀ d ∈ H.reads, d.Unique ∧ HasAccount app userId email password d) :
    q = password ∧ ∃ d ∈ H.reads, ∃ u ∈ d.users, u.id = userId ∧
      answer = .tokens (issueTokens app u) := by
  cases h with
  | @loggedIn _ _ user hashed d read found verified active unlocked hash writes =>
    obtain ⟨hunique, haccount⟩ := hreads d read
    obtain ⟨u, hu, hfound, hid, -, -, hopens⟩ := haccount.getByEmail hunique haddress
    obtain rfl : u = user := by
      rw [hfound] at found
      exact Option.some_inj.1 (Except.ok.inj found)
    exact ⟨(hopens q).1 verified, d, read, u, hu, hid, rfl⟩

/-- The login of the account, from tables that have it. -/
lemma HasAccount.run_login {userId : Uuid} {email password address : String}
    (h : HasAccount app userId email password t) (ht : t.Unique)
    (haddress : loginEmail app address = app.strip (app.lower email)) (env : Ambient) {W : Type}
    (handle : Handler GatewayOp Exn W) (w : W) :
    ∃ u ∈ t.users, u.id = userId ∧
      (((OpenCall.login address password).prog app env).run handle t w).answer =
        .ok (.tokens (issueTokens app u)) := by
  obtain ⟨u, hu, hfound, hid, hactive, hlock, hopens⟩ := h.getByEmail ht haddress
  have hverified := (hopens password).2 rfl
  have hupgrade : ∃ hashed, upgradedHash app env u password = .ok hashed := by
    rw [upgradedHash]
    split
    · rw [hashPassword, if_neg h.1]
      exact ⟨_, rfl⟩
    · exact ⟨_, rfl⟩
  obtain ⟨hashed, hupgrade⟩ := hupgrade
  refine ⟨u, hu, hid, ?_⟩
  have hopen : ¬ (u.isActive = false ∨ maxFailedLogins ≤ u.failedLoginAttempts) := by
    rw [hactive]
    simpa using hlock
  simp only [OpenCall.prog, login, authenticate, Prog.bind_assoc, Prog.run_ask_bind, hfound,
    Prog.ofExcept, Prog.pure_def, Prog.ret_bind, hverified, Bool.true_eq_false, if_false,
    Prog.run_raiseIf_bind, hopen, hupgrade, Prog.run_modify_bind, record]
  rfl

end Requests

/-! ## All interleavings -/

section Interleavings

variable {ι W C : Type} {app : App} {handle : C → Handler GatewayOp Exn W}
  {requests : ι → HttpCall} {s : ApiSystem ι W C} {m : Move ι C}

/-- What holds at any time: the requests book what they may, and every session has read accounts
that the present ones are versions of. -/
structure AccountsSound (app : App) (requests : ι → HttpCall) (s : ApiSystem ι W C) : Prop where
  api : ApiSound app requests Tables.Unique s
  accounts : s.Sound (WellHashed app) (KeepsAccounts app) fun i => (requests i).prog app

variable (requests) in
/-- What a committed registration has left: the account that it shows is there, and opens with
its password. -/
def Registered (i : ι) (answer : ApiAnswer) (app : App) (t : Tables) : Prop :=
  ∀ email password fullName, (requests i).call = .open (.register email password fullName) →
    ∃ r, answer = .user r ∧ HasAccount app r.id email password t

/-- What a client who knows the account may see of a login: whether it succeeds, and for whom. -/
structure LoginFares [DecidableEq ι] (app : App) (handle : C → Handler GatewayOp Exn W)
    (requests : ι → HttpCall) (userId : Uuid) (password q : String) (j : ι)
    (s : ApiSystem ι W C) : Prop where
  /-- It returns for the right password only, with tokens of the user. -/
  answered : ∀ answer, (s.session j).HasReturned answer →
    q = password ∧ ∃ u ∈ s.store.users, u.id = userId ∧ answer = .tokens (issueTokens app u)
  /-- If nothing else goes on, it commits with them for the right password, unless the database
  refuses it. -/
  answers : q = password → s.session j = .fresh ((requests j).prog app) → ∀ c, ∃ n,
    ∃ u ∈ s.store.users, u.id = userId ∧
      (((System.alone (serviceHost app handle) j c n s).session j).Committed
          (.tokens (issueTokens app u)) ∨
        ((System.alone (serviceHost app handle) j c n s).session j).status =
          .rolledBack .integrityError)

variable [DecidableEq ι]

lemma keepsAccounts_step (hhash : HashesWell app) (hs : AccountsSound app requests s) :
    KeepsAccounts app s.store (System.step (serviceHost app handle) s m).store := by
  rcases System.store_step (h := serviceHost app handle) (s := s) (m := m) with
    ⟨hstore, -, -⟩ | ⟨answer, ha, hstore, -⟩
  · exact keepsAccounts_of_users (congrArg Tables.users hstore)
  · rw [hstore]
    exact (hs.api.books_of_publishes ha).keepsAccounts hhash hs.accounts.store.unique
      (hs.accounts.reads _)

lemma accountsSound_step (hunique : ∀ t, app.accepts t = true → t.Unique) (hhash : HashesWell app)
    (hs : AccountsSound app requests s) :
    AccountsSound app requests (System.step (serviceHost app handle) s m) where
  api := apiSound_step (bookingsKeep_of_accepts hunique) hs.api
  accounts := by
    refine System.sound_step (fun t _ => keepsAccounts_of_users rfl)
      (fun _ _ _ => KeepsAccounts.trans) hs.accounts fun _ ha => ?_
    have hkept := (hs.api.books_of_publishes ha).keepsAccounts hhash hs.accounts.store.unique
      (hs.accounts.reads _)
    refine ⟨⟨hunique _ ha.2, fun v hv => ?_⟩, hkept⟩
    rcases hkept.old_or_new hv with ⟨u, hu, hsame⟩ | hnew
    · exact (hs.accounts.store.opens u hu).keeps hsame
    · exact hnew

lemma registered_step (hhash : HashesWell app) (hs : AccountsSound app requests s)
    (h : Answered (fun i answer t => Registered requests i answer app t) s) :
    Answered (fun i answer t => Registered requests i answer app t)
      (System.step (serviceHost app handle) s m) := by
  intro i answer hanswer email password fullName hcall
  rcases System.committed_step hanswer with hbefore | ⟨rfl, ha⟩
  · obtain ⟨r, hr, haccount⟩ := h i answer hbefore email password fullName hcall
    exact ⟨r, hr, haccount.keeps (keepsAccounts_step hhash hs)⟩
  · rw [(System.step_of_publishes ha).1]
    have hbooks := hs.api.books_of_publishes ha
    generalize (s.session m.session).history = H at hbooks ⊢
    generalize requests m.session = request at hbooks hcall
    cases hbooks with
    | «open» books =>
      cases hcall
      exact hasAccount_registered hhash books
    | user => cases hcall

/-- A login that has read nothing before the account was there. -/
lemma loginFares_of_readsSince (hs : AccountsSound app requests s) {t : Tables} {userId : Uuid}
    {email password : String} (haccount : HasAccount app userId email password t) {j : ι}
    (hreads : s.ReadsSince (WellHashed app) (KeepsAccounts app) t j) {address q : String}
    (hcall : (requests j).call = .open (.login address q))
    (haddress : loginEmail app address = app.strip (app.lower email)) :
    LoginFares app handle requests userId password q j s := by
  constructor
  · intro answer hanswer
    have hbooks := ((hs.api.access j).returned hanswer).2
    have hevolves := hs.api.sound.reads j
    have hreads := hreads.reads
    generalize (s.session j).history = H at hbooks hevolves hreads
    generalize requests j = request at hbooks hcall
    cases hbooks with
    | «open» books =>
      cases hcall
      obtain ⟨hright, d, hd, u, hu, hid, hanswer⟩ := HasAccount.of_loggedIn books haddress
        fun d hd => ⟨(hreads d hd).1.unique, haccount.keeps (hreads d hd).2⟩
      obtain ⟨v, hv, hlater⟩ := (hevolves d hd).2.users.exists_of_mem hu
      refine ⟨hright, v, hv, hlater.id.trans hid, ?_⟩
      rw [hanswer, issueTokens, issueTokens, hlater.id, hlater.role]
    | user => cases hcall
  · rintro rfl hfresh c
    obtain ⟨n, -, hends⟩ := System.alone_eq_atomically (h := serviceHost app handle) j c
      ((requests j).prog app) s .nil [] hfresh s.store rfl
    obtain ⟨u, hu, hid, hrun⟩ := (haccount.keeps hreads.store).run_login
      hs.accounts.store.unique haddress (requests j).env ((serviceHost app handle).handle c) s.world
    refine ⟨n, u, hu, hid, ?_⟩
    have hprog : (requests j).prog app =
        (OpenCall.login address q).prog app (requests j).env := by
      rw [HttpCall.prog, hcall]
    rw [hprog, hrun] at hends
    dsimp only at hends
    split at hends
    · exact Or.inl hends.2
    · exact Or.inr hends.2

/-- **Registered accounts last.**  Once a registration has committed, its account is there as it
was registered, and a login that starts later fares accordingly, whatever else goes on. -/
theorem registration_lasts (hunique : ∀ t, app.accepts t = true → t.Unique)
    (hhash : HashesWell app) {t : Tables} (ht : WellHashed app t)
    (handle : C → Handler GatewayOp Exn W) (requests : ι → HttpCall) (w : W)
    (moves later : List (Move ι C)) {i : ι} {email password : String} {fullName : Option String}
    (hregister : (requests i).call = .open (.register email password fullName))
    {answer : ApiAnswer}
    (hcommitted : ((run (System.step (serviceHost app handle)) (apiStart app requests t w)
      moves).session i).Committed answer) :
    ∃ r, answer = .user r ∧ ∀ j address q, (requests j).call = .open (.login address q) →
      loginEmail app address = app.strip (app.lower email) →
      ((run (System.step (serviceHost app handle)) (apiStart app requests t w)
        moves).session j).history.reads = [] →
      Always (System.step (serviceHost app handle)) (fun s =>
          HasAccount app r.id email password s.store ∧
            LoginFares app handle requests r.id password q j s)
        (run (System.step (serviceHost app handle)) (apiStart app requests t w) moves) later := by
  have halways : Always (System.step (serviceHost app handle)) (fun s =>
      AccountsSound app requests s ∧
        Answered (fun i answer t => Registered requests i answer app t) s)
      (apiStart app requests t w) moves :=
    always_of_step (fun s m hs => ⟨accountsSound_step hunique hhash hs.1,
      registered_step hhash hs.1 hs.2⟩)
      ⟨⟨apiSound_start ht.unique, System.sound_start ht⟩, fun i answer h => by cases h⟩ moves
  have hrun := halways.last
  obtain ⟨r, hr, haccount⟩ := hrun.2 i answer hcommitted email password fullName hregister
  refine ⟨r, hr, fun j address q hcall haddress hnone => ?_⟩
  have hlater : Always (System.step (serviceHost app handle)) (fun s =>
      AccountsSound app requests s ∧ s.ReadsSince (WellHashed app) (KeepsAccounts app)
        (run (System.step (serviceHost app handle)) (apiStart app requests t w) moves).store j)
      (run (System.step (serviceHost app handle)) (apiStart app requests t w) moves) later :=
    always_of_step (fun s m hs => ⟨accountsSound_step hunique hhash hs.1,
      hs.2.step hs.1.accounts.store (hs.2.store.trans (keepsAccounts_step hhash hs.1))⟩)
      ⟨hrun.1, System.readsSince_of_nil (keepsAccounts_of_users rfl) hnone⟩ later
  exact hlater.mono fun s hs => ⟨haccount.keeps hs.2.store,
    loginFares_of_readsSince hs.1 haccount hs.2 hcall haddress⟩

end Interleavings

/-- A registration, and a login with the password that was registered. -/
def accountRequest (registers : Bool) : HttpCall where
  env := demoEnv 1
  call := .open (if registers then .register "a@example.com" "correct horse" none
    else .login "a@example.com" "correct horse")

/-- One step of the registration or of the login.  No provider is called by either. -/
def accountStep : ApiSystem Bool Unit Unit → Move Bool Unit → ApiSystem Bool Unit Unit :=
  System.step (serviceHost demoApp (mockHandler ""))

/-- The state in which the registration has committed, and the login has not begun. -/
def registeredState : ApiSystem Bool Unit Unit :=
  run accountStep (apiStart demoApp accountRequest Tables.empty ()) (List.replicate 5 ⟨true, ()⟩)

/-- The login begins after the registration. -/
theorem registration_lasts_demo :
    ∃ r, ApiAnswer.user (.ofUser (newUser (demoEnv 1) "a@example.com" "correct horse" none)) =
        .user r ∧
      ∀ j address q, (accountRequest j).call = .open (.login address q) →
        loginEmail demoApp address = demoApp.strip (demoApp.lower "a@example.com") →
        (registeredState.session j).history.reads = [] →
        Always accountStep (fun s =>
            HasAccount demoApp r.id "a@example.com" "correct horse" s.store ∧
              LoginFares demoApp (mockHandler "") accountRequest r.id "correct horse" q j s)
          registeredState (List.replicate 4 ⟨false, ()⟩) := by
  have hhash : HashesWell demoApp := fun _ _ _ => decide_eq_true_iff
  have ht : WellHashed demoApp Tables.empty := ⟨by decide, fun _ h => by cases h⟩
  exact registration_lasts demoApp_unique hhash ht (mockHandler "") accountRequest ()
    (List.replicate 5 ⟨true, ()⟩) _ (show (accountRequest true).call = _ from rfl) rfl

end PaymentGateway
