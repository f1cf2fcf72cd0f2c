/-
# Tokens

`app/security/tokens.py`: access and refresh tokens are JWTs.  Reading and writing them, with
the signature, is the work of PyJWT, which is a parameter here (`Jwt`): it accepts a token that
it has written while the clock it reads is inside the times of the token (`Jwt.Documented`).

A `TokenService` is given a clock of its own.  It writes the times of a token by that clock and
leaves reading them to the library, which looks at the system's clock: a token follows the
clock of the service only as far as the two clocks agree about it (`decode_follows_now_iff`), as
they do where the service has the clock of the system (`decode_of_systemClock`).
-/
import PaymentGateway.Core.Uuid
import PaymentGateway.Lib.HalfEven
import PaymentGateway.Providers.Stripe

namespace PaymentGateway

open Transact

/-! ## Times -/

/-- A `datetime` with a time zone: the microseconds since 1970, from the year 1 to 9999. -/
structure Datetime where
  micros : ℤ
  lower : -62135596800 * 10 ^ 6 ≤ micros
  upper : micros < 253402300800 * 10 ^ 6

namespace Datetime

/-- The time so many microseconds after the epoch, where a `datetime` can hold it: from the year
1 to the year 9999. -/
def ofMicros? (micros : ℤ) : Option Datetime :=
  if h : -62135596800 * 10 ^ 6 ≤ micros ∧ micros < 253402300800 * 10 ^ 6 then
    some ⟨micros, h.1, h.2⟩
  else none

/-- `t + timedelta(seconds=n)`, which overflows where a `datetime` cannot hold the sum. -/
def add (t : Datetime) (n : ℤ) : Except Exn Datetime :=
  match ofMicros? (t.micros + n * 10 ^ 6) with
  | some u => .ok u
  | none => .error (.python .overflowError)

/-- `t.timestamp()`: the seconds since the epoch, as the nearest float. -/
def timestamp (t : Datetime) : ℚ := toDouble (t.micros / 10 ^ 6)

/-- `int(t.timestamp())`: the fraction is cut off, towards zero. -/
def wholeSeconds (t : Datetime) : ℤ := t.timestamp.num.tdiv t.timestamp.den

/-- `datetime.fromtimestamp(v, tz=UTC)`.  The fraction of a float is multiplied as a float.  A
number that the platform's own calendar does not hold raises its errors, not this one. -/
def fromTimestamp : Json → Except Exn Datetime
  | .int n => ofSeconds n 0
  | .bool b => ofSeconds (if b then 1 else 0) 0
  | .float (.finite x) =>
      let whole := x.num.tdiv x.den
      ofSeconds whole (halfEven (toDouble ((x - whole) * 10 ^ 6)))
  | .float .negZero => ofSeconds 0 0
  | .float (.infinite _) => .error (.python .overflowError)
  | .float .nan => .error (.python .valueError)
  | _ => .error (.python .typeError)
where
  ofSeconds (seconds micros : ℤ) : Except Exn Datetime :=
    match ofMicros? (seconds * 10 ^ 6 + micros) with
    | some t => .ok t
    | none => .error (.python .valueError)

end Datetime

/-! ## The library -/

/-- The values of `jwt_algorithm`, all of them symmetric. -/
inductive JwtAlgorithm where
  | hs256 | hs384 | hs512
deriving DecidableEq, Repr

/-- The claims of a token: the items of a dict. -/
abbrev Claims := List (String × Json)

/-- `jwt.InvalidTokenError`, of which the subclass for an expired token is told apart. -/
inductive JwtError where
  | expiredSignatureError
  | invalidTokenError
deriving DecidableEq, Repr

/-- The keyword arguments of `jwt.decode`, against which a token is checked. -/
structure JwtCheck where
  key : String
  algorithms : List JwtAlgorithm
  issuer : String
  audience : String
  require : List String

/-- `jwt.encode`, and `jwt.decode` at a time of the system's clock. -/
structure Jwt (Token : Type) where
  encode : Claims → String → JwtAlgorithm → Token
  decode : Token → JwtCheck → ℚ → Except JwtError Claims

/-- Claims that come back from JSON as they were: texts, integers that can be printed, and lists
of texts. -/
def Claims.Plain (claims : Claims) : Prop :=
  (claims.map Prod.fst).Nodup ∧ ∀ item ∈ claims,
    (∃ s : String, item.2 = .str s) ∨ (∃ n : ℤ, n.natAbs < 10 ^ maxStrDigits ∧ item.2 = .int n) ∨
      ∃ ss : List String, item.2 = .arr (ss.map .str)

/-- What the library does, as documented, with a token that it has written itself. -/
structure Jwt.Documented {Token : Type} (jwt : Jwt Token) : Prop where
  /-- The signature, the times, the issuer and the audience are right, and nothing is missing. -/
  accepts : ∀ (check : JwtCheck) {claims : Claims} {algorithm : JwtAlgorithm} {clock : ℚ}
    {iat nbf exp : ℤ}, claims.Plain → algorithm ∈ check.algorithms →
    Json.lookup claims "iat" = some (.int iat) → iat ≤ clock →
    Json.lookup claims "nbf" = some (.int nbf) → nbf ≤ clock →
    Json.lookup claims "exp" = some (.int exp) → clock < exp →
    Json.lookup claims "iss" = some (.str check.issuer) →
    Json.lookup claims "aud" = some (.str check.audience) → check.audience ≠ "" →
    (∃ sub, Json.lookup claims "sub" = some (.str sub)) →
    (∃ jti, Json.lookup claims "jti" = some (.str jti)) →
    (∀ name ∈ check.require, ∃ v, Json.lookup claims name = some v ∧ v ≠ .null) →
    jwt.decode (jwt.encode claims check.key algorithm) check clock = .ok claims
  /-- The token has expired. -/
  expires : ∀ (check : JwtCheck) {claims : Claims} {algorithm : JwtAlgorithm} {clock : ℚ} {exp : ℤ},
    claims.Plain → Json.lookup claims "exp" = some (.int exp) → exp ≤ clock →
    ∃ e, jwt.decode (jwt.encode claims check.key algorithm) check clock = .error e
  /-- The token is not valid yet. -/
  awaits : ∀ (check : JwtCheck) {claims : Claims} {algorithm : JwtAlgorithm} {clock : ℚ} {iat : ℤ},
    claims.Plain → Json.lookup claims "iat" = some (.int iat) → clock < iat →
    ∃ e, jwt.decode (jwt.encode claims check.key algorithm) check clock = .error e
  /-- An empty audience counts as a missing one. -/
  asks : ∀ (check : JwtCheck) {claims : Claims} {algorithm : JwtAlgorithm} {clock : ℚ},
    claims.Plain → Json.lookup claims "aud" = some (.str "") →
    ∃ e, jwt.decode (jwt.encode claims check.key algorithm) check clock = .error e

/-! ## The service -/

/-- `uuid.hex`: the digits without the dashes. -/
def Uuid.hex (u : Uuid) : String := String.ofList (u.digits.map hexDigit)

/-- What `TokenService` reads of the `Settings`, which refuse a short key. -/
structure TokenSettings where
  jwtSecretKey : String
  jwtAlgorithm : JwtAlgorithm
  jwtIssuer : String
  jwtAudience : String
  accessTokenTtlSeconds : ℤ
  refreshTokenTtlSeconds : ℤ
  minSecretLength : 32 ≤ jwtSecretKey.length

/-- `TokenType`: what a token may be used for. -/
inductive TokenType where
  | access | refresh
deriving DecidableEq, Repr

/-- The value of the member, which the claim `type` holds. -/
def TokenType.value : TokenType → String
  | access => "access"
  | refresh => "refresh"

/-- `TokenClaims`: what is read of a token that was accepted.  The scopes are what the payload
holds, of any type. -/
structure TokenClaims where
  subject : String
  tokenType : TokenType
  jti : String
  expiresAt : Datetime
  scopes : List Json
  raw : Claims

/-- `TokenService`: the settings, and the time that its `now` gives. -/
structure TokenService where
  settings : TokenSettings
  now : Datetime

namespace TokenService

variable {Token : Type} (jwt : Jwt Token) (service : TokenService)

/-- The claims of a token that is issued now, all times in whole seconds of the service's own
clock. -/
def payload (jti : Uuid) (subject : String) (tokenType : TokenType) (scopes : List String)
    (expires : Datetime) : Claims :=
  [("sub", .str subject), ("type", .str tokenType.value), ("scopes", .arr (scopes.map .str)),
    ("iss", .str service.settings.jwtIssuer), ("aud", .str service.settings.jwtAudience),
    ("iat", .int service.now.wholeSeconds), ("nbf", .int service.now.wholeSeconds),
    ("exp", .int expires.wholeSeconds), ("jti", .str jti.hex)]

/-- `_issue`: the claims of a token with this lifetime, signed with the key of the settings. -/
def issue (jti : Uuid) (subject : String) (tokenType : TokenType) (ttlSeconds : ℤ)
    (scopes : List String) : Except Exn Token := do
  let expires ← service.now.add ttlSeconds
  return jwt.encode (service.payload jti subject tokenType scopes expires)
    service.settings.jwtSecretKey service.settings.jwtAlgorithm

/-- `create_access_token`: it carries the scopes, and lives for the shorter time. -/
def createAccessToken (jti : Uuid) (subject : String) (scopes : List String) : Except Exn Token :=
  service.issue jwt jti subject .access service.settings.accessTokenTtlSeconds scopes

/-- `create_refresh_token`: it carries no scopes, and lives for the longer time. -/
def createRefreshToken (jti : Uuid) (subject : String) : Except Exn Token :=
  service.issue jwt jti subject .refresh service.settings.refreshTokenTtlSeconds []

/-- The arguments of `jwt.decode`; no time is among them. -/
def check : JwtCheck where
  key := service.settings.jwtSecretKey
  algorithms := [service.settings.jwtAlgorithm]
  issuer := service.settings.jwtIssuer
  audience := service.settings.jwtAudience
  require := ["exp", "iat", "sub", "jti"]

/-- `tuple(v)`: a text gives its characters and a dict its keys. -/
def toTuple : Json → Except Exn (List Json)
  | .arr xs => .ok xs
  | .str s => .ok (s.toList.map fun c => .str (String.ofList [c]))
  | .obj fields => .ok (fields.map fun f => .str f.1)
  | _ => .error (.python .typeError)

/-- `decode`, at a time of the system's clock: the library checks the token, and the type is
checked after it. -/
def decode (repr : Json → String) (clock : Datetime) (token : Token) (expectedType : TokenType) :
    Except Exn TokenClaims :=
  match jwt.decode token service.check clock.timestamp with
  | .error .expiredSignatureError => .error (.authenticationError "Token has expired")
  | .error .invalidTokenError => .error (.authenticationError "Invalid authentication token")
  | .ok payload =>
      let received := (Json.lookup payload "type").getD .null
      if received ≠ .str expectedType.value then
        .error (.authenticationError ("Expected a " ++ expectedType.value ++
          " token but received " ++ repr received))
      else do
        let sub ← Json.item "sub" (.obj payload)
        let jti ← Json.item "jti" (.obj payload)
        let exp ← Json.item "exp" (.obj payload)
        let expiresAt ← Datetime.fromTimestamp exp
        let scopes ← toTuple ((Json.lookup payload "scopes").getD (.arr []))
        return ⟨sub.toStr repr, expectedType, jti.toStr repr, expiresAt, scopes, payload⟩

/-! ## The life of a token -/

/-- A time at which a token issued at `s` is alive: whole seconds from its issue on, and before
its end. -/
def Lives (s : Datetime) (ttl : ℤ) (time : ℚ) : Prop :=
  s.wholeSeconds ≤ time ∧ ∃ expires, s.add ttl = .ok expires ∧ time < expires.wholeSeconds

/-- The system's clock finds a token alive; one without an audience it never does. -/
def SystemTakes (settings : TokenSettings) (s : Datetime) (ttl : ℤ) (clock : Datetime) : Prop :=
  settings.jwtAudience ≠ "" ∧ Lives s ttl clock.timestamp

/-- The end of a token, in whole seconds, is a `datetime`.  The last microseconds of the year
9999 are rounded to a second that is not. -/
def EndsInTime (s : Datetime) (ttl : ℤ) : Prop :=
  ∃ expires last, s.add ttl = .ok expires ∧
    Datetime.fromTimestamp (.int expires.wholeSeconds) = .ok last

/-- The answer that a token should get: its claims if it is alive and of the type that is
expected, and an `AuthenticationError` otherwise. -/
def Answers (alive : Prop) (subject : String) (tokenType : TokenType) (scopes : List String)
    (expectedType : TokenType) (answer : Except Exn TokenClaims) : Prop :=
  (alive ∧ expectedType = tokenType → ∃ claims, answer = .ok claims ∧ claims.subject = subject ∧
    claims.tokenType = tokenType ∧ claims.scopes = scopes.map .str) ∧
  (¬ (alive ∧ expectedType = tokenType) →
    ∃ message, answer = .error (.authenticationError message))

/-- Truncation does not take a number away from zero. -/
lemma abs_tdiv_le (x : ℚ) : |((x.num.tdiv x.den : ℤ) : ℚ)| ≤ |x| := by
  have hden : (0 : ℚ) < x.den := by exact_mod_cast x.den_pos
  have habs : |x| = |(x.num : ℚ)| / x.den := by
    conv_lhs => rw [← x.num_div_den]
    rw [abs_div, abs_of_pos hden]
  have hdiv : |x.num.tdiv x.den| * x.den ≤ |x.num| := by
    rw [Int.abs_eq_natAbs, Int.abs_eq_natAbs, Int.natAbs_tdiv, Int.natAbs_natCast]
    exact_mod_cast Nat.div_mul_le_self _ _
  rw [habs, le_div_iff₀ hden]
  exact_mod_cast hdiv

/-- The whole seconds of a `datetime` have a dozen digits. -/
lemma natAbs_wholeSeconds_lt (t : Datetime) : t.wholeSeconds.natAbs < 10 ^ maxStrDigits := by
  have hmicros : |(t.micros : ℚ)| ≤ 253402300800 * 10 ^ 6 := by
    have hlo := t.lower
    have hhi := t.upper
    have habs : |t.micros| ≤ 253402300800 * 10 ^ 6 := abs_le.2 ⟨by omega, by omega⟩
    exact_mod_cast habs
  have hseconds : |((t.wholeSeconds : ℤ) : ℚ)| ≤ 10 ^ 12 := by
    refine (abs_tdiv_le _).trans ((abs_toDouble_le _).trans ?_)
    rw [abs_div, abs_of_pos (by norm_num : (0 : ℚ) < 10 ^ 6)]
    linarith
  have hnat : t.wholeSeconds.natAbs ≤ 10 ^ 12 := by
    rw [← Int.cast_abs, Int.abs_eq_natAbs] at hseconds
    exact_mod_cast hseconds
  exact hnat.trans_lt (Nat.pow_lt_pow_right (by decide) (by decide))

lemma plain_payload (service : TokenService) (jti : Uuid) (subject : String)
    (tokenType : TokenType) (scopes : List String) (expires : Datetime) :
    (service.payload jti subject tokenType scopes expires).Plain := by
  refine ⟨by simp [payload], ?_⟩
  have hiat := natAbs_wholeSeconds_lt service.now
  have hexp := natAbs_wholeSeconds_lt expires
  simp only [payload, List.forall_mem_cons]
  simp [hiat, hexp]

variable {Token : Type} {jwt : Jwt Token} {jti : Uuid} {subject : String} {tokenType : TokenType}
  {scopes : List String} {expires : Datetime}

section Reading

variable (hjwt : jwt.Documented) (service : TokenService) {clock : ℚ}

include hjwt

/-- The library accepts a token that is alive by its clock. -/
lemma jwt_decode_of_lives (haudience : service.settings.jwtAudience ≠ "")
    (hstart : service.now.wholeSeconds ≤ clock) (hend : clock < expires.wholeSeconds) :
    jwt.decode (jwt.encode (service.payload jti subject tokenType scopes expires)
      service.settings.jwtSecretKey service.settings.jwtAlgorithm) service.check clock =
      .ok (service.payload jti subject tokenType scopes expires) := by
  refine hjwt.accepts service.check (plain_payload ..) (List.mem_singleton_self _)
    rfl hstart rfl hstart rfl hend rfl rfl haudience ⟨_, rfl⟩ ⟨_, rfl⟩ ?_
  intro name hname
  simp only [check, List.mem_cons, List.not_mem_nil, or_false] at hname
  rcases hname with rfl | rfl | rfl | rfl <;> exact ⟨_, rfl, Json.noConfusion⟩

/-- The library refuses every other token. -/
lemma jwt_decode_of_not_lives
    (hdead : ¬ (service.settings.jwtAudience ≠ "" ∧ service.now.wholeSeconds ≤ clock ∧
      clock < expires.wholeSeconds)) :
    ∃ e, jwt.decode (jwt.encode (service.payload jti subject tokenType scopes expires)
      service.settings.jwtSecretKey service.settings.jwtAlgorithm) service.check clock =
      .error e := by
  have hplain := plain_payload service jti subject tokenType scopes expires
  by_cases haudience : service.settings.jwtAudience = ""
  · refine hjwt.asks service.check hplain ?_
    rw [← haudience]
    rfl
  by_cases hstart : service.now.wholeSeconds ≤ clock
  · exact hjwt.expires service.check hplain rfl
      (not_lt.1 fun hend => hdead ⟨haudience, hstart, hend⟩)
  · exact hjwt.awaits service.check hplain rfl (not_le.1 hstart)

end Reading

/-- What is issued. -/
lemma issue_eq_ok {service : TokenService} {ttl : ℤ} {token : Token}
    (h : issue jwt service jti subject tokenType ttl scopes = .ok token) :
    ∃ expires, service.now.add ttl = .ok expires ∧
      jwt.encode (service.payload jti subject tokenType scopes expires)
        service.settings.jwtSecretKey service.settings.jwtAlgorithm = token := by
  rw [issue] at h
  cases hadd : service.now.add ttl with
  | error e =>
      rw [hadd] at h
      cases h
  | ok expires =>
      rw [hadd] at h
      exact ⟨expires, rfl, Except.ok.inj h⟩

/-- The number of seconds of another year is a `ValueError`. -/
lemma fromTimestamp_int (n : ℤ) :
    (∃ t, Datetime.fromTimestamp (.int n) = .ok t) ∨
      Datetime.fromTimestamp (.int n) = .error (.python .valueError) := by
  rw [Datetime.fromTimestamp, Datetime.fromTimestamp.ofSeconds]
  split
  · exact Or.inl ⟨_, rfl⟩
  · exact Or.inr rfl

section Decoding

variable {s c : Datetime} {settings : TokenSettings} {ttl : ℤ} {token : Token}
  {expectedType : TokenType} (t : Datetime) (repr : Json → String)

/-- A payload of the service that the library has accepted. -/
lemma decode_of_ok
    (hread : jwt.decode token (check ⟨settings, t⟩) c.timestamp =
      .ok (payload ⟨settings, s⟩ jti subject tokenType scopes expires)) :
    decode jwt ⟨settings, t⟩ repr c token expectedType =
      if expectedType = tokenType then
        (Datetime.fromTimestamp (.int expires.wholeSeconds)).map fun expiresAt =>
          ⟨subject, expectedType, jti.hex, expiresAt, scopes.map .str,
            payload ⟨settings, s⟩ jti subject tokenType scopes expires⟩
      else .error (.authenticationError ("Expected a " ++ expectedType.value ++
        " token but received " ++ repr (.str tokenType.value))) := by
  have hkind : (Json.lookup (payload ⟨settings, s⟩ jti subject tokenType scopes expires)
      "type").getD .null = .str tokenType.value := rfl
  have hvalue : (Json.str tokenType.value ≠ .str expectedType.value) ↔
      expectedType ≠ tokenType := by
    cases tokenType <;> cases expectedType <;> decide
  rw [decode, hread]
  simp only [hkind, hvalue]
  by_cases htype : expectedType = tokenType
  · rw [if_neg (not_not.2 htype), if_pos htype]
    change (Datetime.fromTimestamp (.int expires.wholeSeconds) >>= fun expiresAt => _) = _
    cases Datetime.fromTimestamp (.int expires.wholeSeconds) with
    | error e => rfl
    | ok expiresAt => rfl
  · rw [if_pos htype, if_neg htype]

/-- A token that the library has refused. -/
lemma decode_of_error {e : JwtError}
    (hread : jwt.decode token (check ⟨settings, t⟩) c.timestamp = .error e) :
    ∃ message, decode jwt ⟨settings, t⟩ repr c token expectedType =
      .error (.authenticationError message) := by
  rw [decode, hread]
  cases e with
  | expiredSignatureError => exact ⟨_, rfl⟩
  | invalidTokenError => exact ⟨_, rfl⟩

variable (htoken : issue jwt ⟨settings, s⟩ jti subject tokenType ttl scopes = .ok token)
  (hjwt : jwt.Documented)

include htoken hjwt

/-- The claims of a token that is alive by the system's clock. -/
lemma decode_of_takes (htakes : SystemTakes settings s ttl c) (htype : expectedType = tokenType)
    (hend : EndsInTime s ttl) :
    ∃ claims, decode jwt ⟨settings, t⟩ repr c token expectedType = .ok claims ∧
      claims.subject = subject ∧ claims.tokenType = tokenType ∧
      claims.scopes = scopes.map .str := by
  obtain ⟨haudience, hstart, expires, hexpires, hlt⟩ := htakes
  obtain ⟨expires', last, hexpires', hlast⟩ := hend
  obtain ⟨x, hx, rfl⟩ := issue_eq_ok htoken
  cases hx.symm.trans hexpires
  cases hexpires.symm.trans hexpires'
  rw [decode_of_ok t repr (jwt_decode_of_lives hjwt ⟨settings, s⟩ haudience hstart hlt),
    if_pos htype, hlast]
  exact ⟨_, rfl, rfl, htype, rfl⟩

/-- The end of a token that is alive cannot be told. -/
lemma decode_of_not_endsInTime (htakes : SystemTakes settings s ttl c)
    (htype : expectedType = tokenType) (hend : ¬ EndsInTime s ttl) :
    decode jwt ⟨settings, t⟩ repr c token expectedType = .error (.python .valueError) := by
  obtain ⟨haudience, hstart, expires, hexpires, hlt⟩ := htakes
  obtain ⟨x, hx, rfl⟩ := issue_eq_ok htoken
  cases hx.symm.trans hexpires
  rw [decode_of_ok t repr (jwt_decode_of_lives hjwt ⟨settings, s⟩ haudience hstart hlt),
    if_pos htype]
  rcases fromTimestamp_int expires.wholeSeconds with ⟨last, hlast⟩ | herror
  · exact absurd ⟨expires, last, hexpires, hlast⟩ hend
  · rw [herror]
    rfl

/-- A token that the system's clock refuses, or one of the other type. -/
lemma decode_of_not_takes (h : ¬ (SystemTakes settings s ttl c ∧ expectedType = tokenType)) :
    ∃ message, decode jwt ⟨settings, t⟩ repr c token expectedType =
      .error (.authenticationError message) := by
  obtain ⟨expires, hexpires, rfl⟩ := issue_eq_ok htoken
  by_cases htakes : settings.jwtAudience ≠ "" ∧ s.wholeSeconds ≤ c.timestamp ∧
      c.timestamp < expires.wholeSeconds
  · have htype : expectedType ≠ tokenType := fun heq =>
      h ⟨⟨htakes.1, htakes.2.1, expires, hexpires, htakes.2.2⟩, heq⟩
    rw [decode_of_ok t repr (jwt_decode_of_lives hjwt ⟨settings, s⟩ htakes.1 htakes.2.1 htakes.2.2),
      if_neg htype]
    exact ⟨_, rfl⟩
  · obtain ⟨e, he⟩ := jwt_decode_of_not_lives hjwt ⟨settings, s⟩ htakes
    exact decode_of_error t repr he

/-- The system's clock agrees with the service's. -/
lemma answers_of_agree
    (h : expectedType = tokenType → (SystemTakes settings s ttl c ↔ Lives s ttl t.wholeSeconds) ∧
      (Lives s ttl t.wholeSeconds → EndsInTime s ttl)) :
    Answers (Lives s ttl t.wholeSeconds) subject tokenType scopes expectedType
      (decode jwt ⟨settings, t⟩ repr c token expectedType) := by
  constructor
  · rintro ⟨hlives, htype⟩
    obtain ⟨hagree, hend⟩ := h htype
    exact decode_of_takes t repr htoken hjwt (hagree.2 hlives) htype (hend hlives)
  · intro hdead
    refine decode_of_not_takes t repr htoken hjwt fun htakes => hdead ⟨?_, htakes.2⟩
    exact (h htakes.2).1.1 htakes.1

end Decoding

/-- From 1970 on, a token is alive in a second if it is at any time of it. -/
lemma lives_timestamp_iff {s t : Datetime} {ttl : ℤ} (ht : 0 ≤ t.micros) :
    Lives s ttl t.timestamp ↔ Lives s ttl t.wholeSeconds := by
  have hnonneg : 0 ≤ t.timestamp := by
    have hmicros : (0 : ℚ) ≤ t.micros := by exact_mod_cast ht
    exact toDouble_nonneg (by positivity)
  have hfloor : t.wholeSeconds = ⌊t.timestamp⌋ := by
    rw [Datetime.wholeSeconds, Rat.floor_def',
      Int.tdiv_eq_ediv_of_nonneg (Rat.num_nonneg.2 hnonneg)]
  have hend : ∀ n : ℤ, t.timestamp < n ↔ ((t.wholeSeconds : ℤ) : ℚ) < n := by
    intro n
    rw [Int.cast_lt, hfloor, Int.floor_lt]
  have hstart : (s.wholeSeconds : ℚ) ≤ t.timestamp ↔
      (s.wholeSeconds : ℚ) ≤ ((t.wholeSeconds : ℤ) : ℚ) := by
    rw [Int.cast_le, hfloor, Int.le_floor]
  simp only [Lives, hstart, hend]

/-- **A service with the clock of the system** answers as its clock says. -/
theorem decode_of_systemClock {Token : Type} {jwt : Jwt Token} (hjwt : jwt.Documented)
    (repr : Json → String) {settings : TokenSettings} (haudience : settings.jwtAudience ≠ "")
    {s clock : Datetime} (hclock : 0 ≤ clock.micros) {ttl : ℤ} (hend : EndsInTime s ttl)
    {jti : Uuid} {subject : String} {tokenType : TokenType} {scopes : List String} {token : Token}
    (htoken : issue jwt ⟨settings, s⟩ jti subject tokenType ttl scopes = .ok token)
    (expectedType : TokenType) :
    Answers (Lives s ttl clock.wholeSeconds) subject tokenType scopes expectedType
      (decode jwt ⟨settings, clock⟩ repr clock token expectedType) := by
  refine answers_of_agree clock repr htoken hjwt fun _ => ⟨?_, fun _ => hend⟩
  rw [SystemTakes, lives_timestamp_iff hclock]
  exact and_iff_right haudience

/-- A token is answered as the clock of the reading service says, if and only if it is of another
type than the one expected, or the system's clock agrees with the service's about its life and
its end can be told. -/
theorem decode_follows_now_iff {Token : Type} {jwt : Jwt Token} (hjwt : jwt.Documented)
    (repr : Json → String) (settings : TokenSettings) (s t clock : Datetime) (jti : Uuid)
    (subject : String) (tokenType expectedType : TokenType) (ttl : ℤ) (scopes : List String)
    {token : Token}
    (htoken : issue jwt ⟨settings, s⟩ jti subject tokenType ttl scopes = .ok token) :
    Answers (Lives s ttl t.wholeSeconds) subject tokenType scopes expectedType
        (decode jwt ⟨settings, t⟩ repr clock token expectedType) ↔
      (expectedType = tokenType →
        (SystemTakes settings s ttl clock ↔ Lives s ttl t.wholeSeconds) ∧
          (Lives s ttl t.wholeSeconds → EndsInTime s ttl)) := by
  constructor
  · rintro ⟨haccept, hrefuse⟩ htype
    by_cases htakes : SystemTakes settings s ttl clock
    · by_cases hend : EndsInTime s ttl
      · refine ⟨iff_of_true htakes ?_, fun _ => hend⟩
        obtain ⟨claims, hclaims, -⟩ :=
          decode_of_takes t repr htoken hjwt htakes htype hend
        by_contra hdead
        obtain ⟨message, herror⟩ := hrefuse fun h => hdead h.1
        cases hclaims.symm.trans herror
      · -- an error that is neither of the two answers
        have herror := decode_of_not_endsInTime t repr htoken hjwt htakes htype hend
        by_cases hlives : Lives s ttl t.wholeSeconds
        · obtain ⟨claims, hclaims, -⟩ := haccept ⟨hlives, htype⟩
          cases hclaims.symm.trans herror
        · obtain ⟨message, hmessage⟩ := hrefuse fun h => hlives h.1
          cases hmessage.symm.trans herror
    · obtain ⟨message, herror⟩ := decode_of_not_takes t repr htoken hjwt
        fun h : _ ∧ expectedType = tokenType => htakes h.1
      have hdead : ¬ Lives s ttl t.wholeSeconds := by
        intro hlives
        obtain ⟨claims, hclaims, -⟩ := haccept ⟨hlives, htype⟩
        cases hclaims.symm.trans herror
      exact ⟨iff_of_false htakes hdead, fun hlives => absurd hlives hdead⟩
  · exact fun h => answers_of_agree t repr htoken hjwt h

/-! ## A library -/

/-- An integer claim. -/
def claimInt (claims : Claims) (name : String) : ℤ :=
  match Json.lookup claims name with
  | some (.int n) => n
  | _ => 0

/-- A library whose tokens are the claims with the key, checked in the order of PyJWT. -/
def demoJwt : Jwt (Claims × String × JwtAlgorithm) where
  encode claims key algorithm := (claims, key, algorithm)
  decode token check clock :=
    if token.2.1 ≠ check.key ∨ token.2.2 ∉ check.algorithms then .error .invalidTokenError
    else if ∃ name ∈ check.require, (Json.lookup token.1 name).getD .null = .null then
      .error .invalidTokenError
    else if clock < claimInt token.1 "iat" ∨ clock < claimInt token.1 "nbf" then
      .error .invalidTokenError
    else if claimInt token.1 "exp" ≤ clock then .error .expiredSignatureError
    else if Json.lookup token.1 "iss" ≠ some (.str check.issuer) then .error .invalidTokenError
    else if Json.lookup token.1 "aud" = some (.str "") ∨
        Json.lookup token.1 "aud" ≠ some (.str check.audience) then
      .error .invalidTokenError
    else .ok token.1

lemma demoJwt_documented : demoJwt.Documented where
  accepts check claims algorithm clock iat nbf exp _ halg hiat hiat' hnbf hnbf' hexp hexp' hiss haud
      haudience _ _ hrequire := by
    have hints : claimInt claims "iat" = iat ∧ claimInt claims "nbf" = nbf ∧
        claimInt claims "exp" = exp := by
      simp only [claimInt, hiat, hnbf, hexp, and_self]
    have hpresent : ¬ ∃ name ∈ check.require, (Json.lookup claims name).getD .null = .null := by
      rintro ⟨name, hname, hnull⟩
      obtain ⟨v, hv, hne⟩ := hrequire name hname
      rw [hv] at hnull
      exact hne hnull
    have haudience' : ¬ (Json.lookup claims "aud" = some (.str "") ∨
        Json.lookup claims "aud" ≠ some (.str check.audience)) := by
      rw [haud]
      simp [haudience]
    simp only [demoJwt, hints, if_neg hpresent, if_neg haudience', hiss]
    simp [halg, not_lt.2 hiat', not_lt.2 hnbf', not_le.2 hexp']
  expires check claims algorithm clock exp _ hexp hclock := by
    have hint : claimInt claims "exp" = exp := by rw [claimInt, hexp]
    simp only [demoJwt, hint, hclock, if_true]
    split_ifs <;> exact ⟨_, rfl⟩
  awaits check claims algorithm clock iat _ hiat hclock := by
    have hint : claimInt claims "iat" = iat := by rw [claimInt, hiat]
    simp only [demoJwt, hint, hclock, true_or, if_true]
    split_ifs <;> exact ⟨_, rfl⟩
  asks check claims algorithm clock _ haud := by
    simp only [demoJwt, haud, true_or, if_true]
    split_ifs <;> exact ⟨_, rfl⟩

/-- The default lifetimes and algorithm, with a key that is long enough. -/
def demoSettings : TokenSettings where
  jwtSecretKey := "xxxxxxxxxxxxxxxxxxxxxxxxxxxxxxxxxxxxxxxx"
  jwtAlgorithm := .hs256
  jwtIssuer := "upgi"
  jwtAudience := "upgi-clients"
  accessTokenTtlSeconds := 900
  refreshTokenTtlSeconds := 60 * 60 * 24 * 7
  minSecretLength := by decide

/-- A time of the year 2023, and `n` seconds later. -/
def demoTime (n : Fin 10000) : Datetime where
  micros := (1700000000 + n) * 10 ^ 6
  lower := by omega
  upper := by omega

/-- A token of a user. -/
def demoToken : Claims × String × JwtAlgorithm :=
  demoJwt.encode (payload ⟨demoSettings, demoTime 0⟩ (.ofNat 1) "user-1" .access ["payments:read"]
    (demoTime 900)) demoSettings.jwtSecretKey .hs256

/-- Both clocks are ten seconds after the token was issued. -/
theorem decode_follows_now_demo :
    Answers (Lives (demoTime 0) 900 (demoTime 10).wholeSeconds) "user-1" .access ["payments:read"]
        .access (decode demoJwt ⟨demoSettings, demoTime 10⟩ (fun _ => "") (demoTime 10) demoToken
          .access) ↔
      (TokenType.access = .access →
        (SystemTakes demoSettings (demoTime 0) 900 (demoTime 10) ↔
          Lives (demoTime 0) 900 (demoTime 10).wholeSeconds) ∧
          (Lives (demoTime 0) 900 (demoTime 10).wholeSeconds → EndsInTime (demoTime 0) 900)) :=
  decode_follows_now_iff demoJwt_documented (fun _ => "") demoSettings (demoTime 0) (demoTime 10)
    (demoTime 10) (.ofNat 1) "user-1" .access .access 900 ["payments:read"] rfl

/-- The clock of the service is ten seconds after the token was issued, and the system's clock
is a thousand seconds after it. -/
theorem decode_ignores_now :
    issue demoJwt ⟨demoSettings, demoTime 0⟩ (.ofNat 1) "user-1" .access 900 ["payments:read"] =
        .ok demoToken ∧
      decode demoJwt ⟨demoSettings, demoTime 10⟩ (fun _ => "") (demoTime 1000) demoToken .access =
        .error (.authenticationError "Token has expired") ∧
      ¬ Answers (Lives (demoTime 0) 900 (demoTime 10).wholeSeconds) "user-1" .access
        ["payments:read"] .access (decode demoJwt ⟨demoSettings, demoTime 10⟩ (fun _ => "")
          (demoTime 1000) demoToken .access) := by
  have herror : decode demoJwt ⟨demoSettings, demoTime 10⟩ (fun _ => "") (demoTime 1000) demoToken
      .access = .error (.authenticationError "Token has expired") := by
    have hread : demoJwt.decode demoToken (check ⟨demoSettings, demoTime 10⟩)
        (demoTime 1000).timestamp = .error .expiredSignatureError := by decide +kernel
    rw [decode, hread]
  have hlives : Lives (demoTime 0) 900 (demoTime 10).wholeSeconds :=
    ⟨by decide +kernel, demoTime 900, rfl, by decide +kernel⟩
  refine ⟨rfl, herror, fun hanswers => ?_⟩
  obtain ⟨claims, hclaims, -⟩ := hanswers.1 ⟨hlives, rfl⟩
  cases hclaims.symm.trans herror

end TokenService

end PaymentGateway
