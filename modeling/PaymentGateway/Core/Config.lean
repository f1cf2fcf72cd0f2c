/-
# The configuration

`app/core/config.py`: the settings that decide whether the application starts, and with which
master key.  In production the defaults of the secrets are refused.
-/
import Mathlib.Data.List.Infix
import PaymentGateway.Security.Crypto

namespace PaymentGateway

open Transact

/-- `Environment`: where the application is deployed.  The checks of the settings are those of
production only. -/
inductive Environment where
  | «local»
  | testing
  | staging
  | production
deriving DecidableEq, Repr

/-- What `create_app` reads of the `Settings` before it builds anything; the validator refuses a
short key for the tokens. -/
structure Settings where
  environment : Environment
  debug : Bool
  jwtSecretKey : String
  secretEncryptionKey : String
  corsAllowOrigins : List String
  minSecretLength : 32 ≤ jwtSecretKey.length

/-- Why the application does not start: what the start-up checks raise. -/
inductive StartError where
  /-- A `ValueError`: of the decoder, of `encryption_key_bytes`, or of the box. -/
  | valueError
  | runtimeError (message : String)
deriving DecidableEq, Repr

namespace Settings

variable (settings : Settings)

/-- `Settings.is_production`: the environment is the one that the checks are for. -/
def isProduction : Bool := settings.environment = .production

/-- `encryption_key_bytes`: the 32 bytes of the master key, or the `ValueError` of a text that is
not their encoding. -/
def encryptionKeyBytes : Except StartError Bytes :=
  match Base64.decode settings.secretEncryptionKey with
  | none => .error .valueError
  | some raw => if raw.length ≠ 32 then .error .valueError else .ok raw

/-- What is insecure about the settings, if this is the master key. -/
def problems (raw : Bytes) : List String :=
  (if "dev-only-insecure".toList <:+: settings.jwtSecretKey.toList then
    ["UPGI_JWT_SECRET_KEY still uses the insecure default"] else []) ++
  (if raw = List.replicate 32 0 then
    ["UPGI_SECRET_ENCRYPTION_KEY still uses the insecure default"] else []) ++
  (if settings.debug then ["UPGI_DEBUG must be false in production"] else []) ++
  (if "*" ∈ settings.corsAllowOrigins then
    ["wildcard CORS origin is forbidden in production"] else [])

/-- `assert_production_ready`: outside production nothing is checked, and in production every
problem that was found is named in one error.  A master key that cannot be decoded raises its
own. -/
def assertProductionReady : Except StartError Unit :=
  if settings.isProduction = false then .ok ()
  else do
    let raw ← settings.encryptionKeyBytes
    if settings.problems raw = [] then .ok ()
    else .error (.runtimeError ("Insecure production configuration: " ++
      "; ".intercalate (settings.problems raw)))

variable {settings}

lemma length_of_encryptionKeyBytes {raw : Bytes} (h : settings.encryptionKeyBytes = .ok raw) :
    raw.length = 32 := by
  rw [encryptionKeyBytes] at h
  split at h
  · cases h
  · split at h
    · cases h
    · rename_i hlength
      cases h
      exact not_not.1 hlength

/-- With a readable key, the check passes unless something is insecure in production. -/
lemma assertProductionReady_ok_iff {raw : Bytes} (h : settings.encryptionKeyBytes = .ok raw) :
    settings.assertProductionReady = .ok () ↔
      (settings.environment = .production → settings.problems raw = []) := by
  rw [assertProductionReady, isProduction]
  by_cases hproduction : settings.environment = .production
  · simp only [hproduction, decide_true, Bool.true_eq_false, if_false, h, true_implies]
    constructor
    · intro hready
      by_contra hproblems
      simp only [bind, Except.bind, if_neg hproblems] at hready
      cases hready
    · intro hnone
      simp only [bind, Except.bind, if_pos hnone]
  · simp [hproduction]

end Settings

end PaymentGateway
