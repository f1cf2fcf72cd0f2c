/-
# The lockout of an account after failed logins

`authenticate` counts a wrong password on the user's row and raises, and `get_session` rolls
back whatever a request staged before it raised.  So the count is never stored: in a sequence
of logins the stored counter is the number of wrong attempts since the last successful login,
and the lockout holds, exactly if there is no attempt with a wrong password at all
(`lockout_iff`).  In `lockout_ineffective` an eleventh attempt succeeds after ten wrong ones.

The runs carry the number of wrong attempts besides the tables (`LoginState`).
-/
import PaymentGateway.Lib.Runs
import PaymentGateway.Services.Auth

namespace PaymentGateway

open Transact

/-! ## Runs of logins -/

/-- A login request: the address and the password, as they were sent. -/
structure LoginInput where
  env : Ambient
  email : String
  password : String

section Model

variable (app : App) (account : Uuid)

/-- The request in a unit of work of its own: what it has staged is lost when it raises. -/
def LoginInput.process (c : LoginInput) (t : Tables) :
    Outcome Tables Unit GatewayOp Exn TokenPair :=
  (login app c.env c.email c.password).atomically noGateway t () app.accepts .integrityError

/-- The user that a request names, if its address is that of a user. -/
def LoginInput.target (c : LoginInput) (t : Tables) : Option User :=
  (t.getByEmail (loginEmail app c.email)).toOption.join

/-- The tables, and the number of wrong attempts on the account since its last successful
login. -/
structure LoginState where
  tables : Tables
  wrong : ℕ

/-- One request.  The attempts with a wrong password since the last successful login are counted
beside the tables. -/
def LoginState.step (s : LoginState) (c : LoginInput) : LoginState where
  tables := (c.process app s.tables).store
  wrong :=
    match c.target app s.tables with
    | some user =>
        if user.id ≠ account then s.wrong
        else if app.verifyPassword c.password user.hashedPassword = false then s.wrong + 1
        else
          match (c.process app s.tables).answer with
          | .ok _ => 0
          | .error _ => s.wrong
    | none => s.wrong

/-- The request is an attempt on the account with a wrong password. -/
def WrongPassword (s : LoginState) (c : LoginInput) : Prop :=
  ∃ user, c.target app s.tables = some user ∧ user.id = account ∧
    app.verifyPassword c.password user.hashedPassword = false

/-- The stored counter is the number of wrong attempts since the last successful login. -/
def CounterMatches (s : LoginState) : Prop :=
  ∀ user ∈ s.tables.users, user.id = account → user.failedLoginAttempts = s.wrong

/-- Once the number has reached the threshold, the account is refused. -/
def LockedOut (s : LoginState) (c : LoginInput) : Prop :=
  maxFailedLogins ≤ s.wrong → ∀ user, c.target app s.tables = some user → user.id = account →
    ¬ Returned (c.process app s.tables).answer

end Model

/-! ## One request -/

section Steps

variable {app : App} {account : Uuid} {s : LoginState} {c : LoginInput}

lemma target_eq_some {t : Tables} {user : User} :
    c.target app t = some user ↔ t.getByEmail (loginEmail app c.email) = .ok (some user) := by
  rw [LoginInput.target]
  rcases t.getByEmail (loginEmail app c.email) with e | _ | u <;> simp [Except.toOption]

/-- **Everything a login can do.** -/
lemma login_settled (app : App) (c : LoginInput) (t : Tables) :
    (c.process app t).store = t ∧ ¬ Returned (c.process app t).answer ∨
      ∃ user hashed, c.target app t = some user ∧
        app.verifyPassword c.password user.hashedPassword = true ∧
        user.failedLoginAttempts < maxFailedLogins ∧ Returned (c.process app t).answer ∧
        (c.process app t).store.users =
          (t.saveUser c.env.now user (withLogin user hashed)).users := by
  obtain ⟨H, r, hpath, hreads, -, hend⟩ := Prog.path_atomically noGateway app.accepts
    .integrityError (login app c.env c.email c.password) t ()
  rcases hend with ⟨tokens, rfl, hacc, hans, hstore⟩ | ⟨e, hans, hstore, -⟩
  · rw [login, Prog.path_map] at hpath
    obtain ⟨x, hx, hr⟩ := hpath
    cases authenticate_path hx with
    | refused => cases hr
    | @done d user hashed found verified active unlocked hash =>
      obtain rfl : d = t := hreads d (by simp)
      refine Or.inr ⟨user, hashed, target_eq_some.2 found, verified, unlocked, ⟨_, hans⟩, ?_⟩
      rw [LoginInput.process, hstore]
      rfl
  · refine Or.inl ⟨hstore, ?_⟩
    rintro ⟨tokens, hok⟩
    rw [LoginInput.process, hans] at hok
    cases hok

/-- The account exists, and its counter is the number of wrong attempts. -/
structure LoginInv (account : Uuid) (s : LoginState) : Prop where
  ids : (s.tables.users.map User.id).Nodup
  row : ∃ user ∈ s.tables.users, user.id = account
  counter : CounterMatches account s

/-- A refused request that is no wrong attempt leaves the number as it is. -/
lemma wrong_of_refused (hok : ¬ WrongPassword app account s c)
    (hno : ¬ Returned (c.process app s.tables).answer) :
    (s.step app account c).wrong = s.wrong := by
  rw [LoginState.step]
  dsimp only
  split
  · rename_i user htarget
    split_ifs with hid hverify
    · rfl
    · exact absurd ⟨user, htarget, not_not.1 hid, hverify⟩ hok
    · split
      · rename_i tokens hans
        exact absurd ⟨tokens, hans⟩ hno
      · rfl
  · rfl

/-- A successful login starts the count of its account again. -/
lemma wrong_of_returned {user : User} (htarget : c.target app s.tables = some user)
    (hverified : app.verifyPassword c.password user.hashedPassword = true)
    (hret : Returned (c.process app s.tables).answer) :
    (s.step app account c).wrong = if user.id = account then 0 else s.wrong := by
  obtain ⟨tokens, hans⟩ := hret
  by_cases hid : user.id = account
  · simp [LoginState.step, htarget, hid, hverified, hans]
  · simp [LoginState.step, htarget, hid]

/-- A request that is no wrong attempt keeps the invariant. -/
lemma LoginInv.step (h : LoginInv account s) (hok : ¬ WrongPassword app account s c) :
    LoginInv account (s.step app account c) := by
  rcases login_settled app c s.tables with
    ⟨hstore, hno⟩ | ⟨user, hashed, htarget, hverified, hlt, hret, husers⟩
  · have htables : (s.step app account c).tables = s.tables := hstore
    refine ⟨htables ▸ h.ids, htables ▸ h.row, fun u hu hid => ?_⟩
    rw [wrong_of_refused hok hno]
    exact h.counter u (htables ▸ hu) hid
  · have husers' : (s.step app account c).tables.users = updateAt User.id user.id
        (fun u => u.saved c.env.now user (withLogin user hashed)) s.tables.users := husers
    have hmem := Tables.mem_of_getByEmail (target_eq_some.1 htarget)
    refine ⟨?_, ?_, fun u hu hid => ?_⟩
    · rw [husers', map_key_updateAt (fun u => by simp)]
      exact h.ids
    · obtain ⟨u, hu, hid⟩ := h.row
      by_cases heq : u.id = user.id
      · exact ⟨_, husers' ▸ mem_updateAt_self hmem _, by simp [← heq, hid]⟩
      · exact ⟨u, husers' ▸ (mem_updateAt h.ids hmem).2 (Or.inr ⟨hu, heq⟩), hid⟩
    · rw [wrong_of_returned htarget hverified hret]
      rw [husers'] at hu
      rcases (mem_updateAt h.ids hmem).1 hu with rfl | ⟨hu, hne⟩
      · -- the account itself has logged in
        rw [if_pos (by simpa using hid), User.saved_failedLoginAttempts, changed_loaded]
        rfl
      · rw [if_neg fun hua => hne (hid.trans hua.symm)]
        exact h.counter u hu hid

/-- A wrong attempt is not counted. -/
lemma LoginInv.not_counterMatches (h : LoginInv account s)
    (hwrong : WrongPassword app account s c) :
    ¬ CounterMatches account (s.step app account c) := by
  obtain ⟨user, htarget, hid, hverify⟩ := hwrong
  rcases login_settled app c s.tables with ⟨hstore, -⟩ | ⟨user', -, htarget', hverified, -⟩
  · have htables : (s.step app account c).tables = s.tables := hstore
    have hcount : (s.step app account c).wrong = s.wrong + 1 := by
      simp [LoginState.step, htarget, hid, hverify]
    obtain ⟨u, hu, huid⟩ := h.row
    intro hmatch
    have hafter := hmatch u (htables ▸ hu) huid
    rw [h.counter u hu huid, hcount] at hafter
    omega
  · obtain rfl : user = user' := Option.some_inj.1 (htarget.symm.trans htarget')
    rw [hverify] at hverified
    cases hverified

/-- The account is refused once the stored counter has reached the threshold. -/
lemma LoginInv.lockedOut (h : LoginInv account s) : LockedOut app account s c := by
  intro hreached user htarget hid hret
  rcases login_settled app c s.tables with ⟨-, hno⟩ | ⟨user', -, htarget', -, hlt, -⟩
  · exact hno hret
  · obtain rfl : user = user' := Option.some_inj.1 (htarget.symm.trans htarget')
    have hcounter := h.counter user (Tables.mem_of_getByEmail (target_eq_some.1 htarget)) hid
    omega

end Steps

/-- **The lockout.**  In every sequence of logins, the stored counter of an account is after
every request the number of wrong attempts since the last successful login, and the account
is refused once that number has reached the threshold, exactly if no request is an attempt
on the account with a wrong password. -/
theorem lockout_iff {app : App} {account : Uuid} {t : Tables} {n : ℕ}
    (hids : (t.users.map User.id).Nodup)
    (hrow : ∃ user ∈ t.users, user.id = account ∧ user.failedLoginAttempts = n)
    (requests : List LoginInput) :
    Always (LoginState.step app account) (CounterMatches account) ⟨t, n⟩ requests ∧
        Obeys (LoginState.step app account) (LockedOut app account) ⟨t, n⟩ requests ↔
      Obeys (LoginState.step app account) (fun s c => ¬ WrongPassword app account s c) ⟨t, n⟩
        requests := by
  obtain ⟨user, hmem, hid, hn⟩ := hrow
  have hstart : LoginInv account ⟨t, n⟩ := by
    refine ⟨hids, ⟨user, hmem, hid⟩, fun u hu huid => ?_⟩
    obtain rfl := eq_of_key_eq hids hu hmem (huid.trans hid.symm)
    exact hn
  have hkeep : ∀ s c, LoginInv account s → ¬ WrongPassword app account s c →
      LoginInv account (LoginState.step app account s c) := fun s c h hok => h.step hok
  have hbreak : ∀ s c, LoginInv account s → ¬ ¬ WrongPassword app account s c →
      ¬ CounterMatches account (LoginState.step app account s c) :=
    fun s c h hwrong => h.not_counterMatches (not_not.1 hwrong)
  have hiff := always_iff_obeys (fun s (h : LoginInv account s) => h.counter) hkeep hbreak hstart
    requests
  refine ⟨fun h => hiff.1 h.1, fun h => ⟨hiff.2 h, ?_⟩⟩
  exact obeys_of_obeys hkeep (fun s c h _ => h.lockedOut) hstart h

/-! ## An eleventh attempt -/

/-- The `n`-th login of the user with the given password. -/
def demoLogin (n : ℕ) (password : String) : LoginInput := ⟨demoEnv n, demoUser.email, password⟩

/-- One account, which nobody has tried to log in to yet. -/
def loginTables : Tables := { Tables.empty with users := [demoUser] }

/-- The theorem on a login with the right password. -/
theorem lockout_iff_demo :
    Always (LoginState.step demoApp demoUser.id) (CounterMatches demoUser.id) ⟨loginTables, 0⟩
          [demoLogin 1 "correct horse"] ∧
        Obeys (LoginState.step demoApp demoUser.id) (LockedOut demoApp demoUser.id)
          ⟨loginTables, 0⟩ [demoLogin 1 "correct horse"] ↔
      Obeys (LoginState.step demoApp demoUser.id)
        (fun s c => ¬ WrongPassword demoApp demoUser.id s c) ⟨loginTables, 0⟩
        [demoLogin 1 "correct horse"] :=
  lockout_iff (by decide) ⟨demoUser, List.mem_singleton_self _, rfl, rfl⟩ _

/-- Ten attempts with a wrong password, and then one with the right password. -/
def bruteForce : List LoginInput :=
  (List.range 10).map (fun n => demoLogin n "wrong") ++ [demoLogin 10 "correct horse"]

/-- After ten wrong attempts the counter is still zero, and the account is not refused. -/
theorem lockout_ineffective :
    ¬ (Always (LoginState.step demoApp demoUser.id) (CounterMatches demoUser.id)
          ⟨loginTables, 0⟩ bruteForce ∧
        Obeys (LoginState.step demoApp demoUser.id) (LockedOut demoApp demoUser.id)
          ⟨loginTables, 0⟩ bruteForce) := by
  rintro ⟨-, hlocked⟩
  have hlast := hlocked.rest.1
  have hreached : (run (LoginState.step demoApp demoUser.id) ⟨loginTables, 0⟩
      ((List.range 10).map fun n => demoLogin n "wrong")).wrong = 10 := by decide
  have htarget : (demoLogin 10 "correct horse").target demoApp (run
      (LoginState.step demoApp demoUser.id) ⟨loginTables, 0⟩
      ((List.range 10).map fun n => demoLogin n "wrong")).tables = some demoUser := by decide
  refine hlast ?_ demoUser htarget rfl ⟨_, rfl⟩
  rw [hreached]
  decide

end PaymentGateway
