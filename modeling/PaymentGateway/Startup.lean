/-
# Master keys

From the text that `upgi generate-key` prints to the adapter that a payment is made with: the
settings carry the text, `create_app` builds the box of it (`app/main.py`), and the gateway manager
opens with the box what stands in the row of an account.

A generated key starts the application, unless something else is insecure in production.  And the
secret that one process has sealed for an account any later process with the same key serves this
account with, and no other (`generated_key_serves`).
-/
import PaymentGateway.Core.Config
import PaymentGateway.Credentials

namespace PaymentGateway

open Transact

/-! ## Starting -/

/-- `_generate_key`, for a value of `os.urandom(32)`: the bytes, encoded for URLs. -/
def generateKey (random : Bytes) : String := Base64.encode random

/-- `SecretBox.from_single_key(key)`: a box with this key under the id `primary`. -/
def SecretBox.fromSingleKey (key : Bytes) : Except StartError SecretBox :=
  if h : postInit [(.ofString "primary", key)] (.ofString "primary") = .ok () then
    .ok ⟨[(.ofString "primary", key)], .ofString "primary", by simp, h⟩
  else .error .valueError

/-- What `create_app` makes of the settings as far as the master key is concerned: the check of
the settings, the bytes of the key, and the box.  That it returns a box is what starting means
here; the engine and the routers, which may refuse other settings (`database_url`,
`api_v1_prefix`), are left out. -/
def createApp (settings : Settings) : Except StartError SecretBox := do
  settings.assertProductionReady
  let key ← settings.encryptionKeyBytes
  SecretBox.fromSingleKey key

lemma encryptionKeyBytes_of_generated {settings : Settings} {random : Bytes}
    (hkey : settings.secretEncryptionKey = generateKey random) (hrandom : random.length = 32) :
    settings.encryptionKeyBytes = .ok random := by
  rw [Settings.encryptionKeyBytes, hkey, generateKey, Base64.decode_encode]
  exact if_neg (not_not.2 hrandom)

/-- The box has this key, and it is active, under the id that every such box uses. -/
structure SecretBox.HasKey (box : SecretBox) (key : Bytes) : Prop where
  activeKeyId : box.activeKeyId = .ofString "primary"
  key : box.key (.ofString "primary") = some key

lemma SecretBox.fromSingleKey_of_length {key : Bytes} (hkey : key.length = 32) :
    ∃ box, fromSingleKey key = .ok box ∧ box.HasKey key := by
  have haccepted : postInit [(.ofString "primary", key)] (.ofString "primary") = .ok () := by
    simp [postInit, hkey]
  refine ⟨_, dif_pos haccepted, rfl, ?_⟩
  simp [SecretBox.key]

lemma createApp_of_key {settings : Settings} {key : Bytes}
    (hkey : settings.encryptionKeyBytes = .ok key) :
    ∃ box, box.HasKey key ∧ ∀ started, createApp settings = .ok started ↔
      (settings.environment = .production → settings.problems key = []) ∧ started = box := by
  obtain ⟨box, hbox, hhas⟩ :=
    SecretBox.fromSingleKey_of_length (Settings.length_of_encryptionKeyBytes hkey)
  refine ⟨box, hhas, fun started => ?_⟩
  rw [← Settings.assertProductionReady_ok_iff hkey, createApp, hkey]
  cases hready : settings.assertProductionReady with
  | error e => simp [bind, Except.bind]
  | ok u => simp [bind, Except.bind, hbox, eq_comm]

/-! ## Sealing and opening -/

namespace SecretBox

variable {gcm : Gcm} {box box' : SecretBox} {key : Bytes} {nonce : Nonce}
  {token plaintext aad : String}

lemma HasKey.exists_sealed (hbox : box.HasKey key) (gcm : Gcm) (nonce : Nonce)
    (plaintext aad : String) : ∃ token, box.encryptText gcm nonce plaintext aad = .ok token := by
  obtain ⟨ad, had⟩ := exists_aadBytes (some aad)
  refine ⟨_, encrypt_eq_ok.2 ⟨key, utf8 plaintext, ad, utf8 "primary", ?_,
    PyStr.encode_ofString _, had, ?_, by decide, rfl⟩⟩
  · rw [hbox.activeKeyId]
    exact hbox.key
  · rw [hbox.activeKeyId]
    exact PyStr.encode_ofString _

lemma decryptText_of_decrypt
    (h : box.decrypt gcm token (some (.ofString aad)) = .ok (.ofString plaintext)) :
    box.decryptText gcm token aad = .ok plaintext := by
  rw [decryptText, h]
  show (((plaintext.toList.map CodePoint.ofChar).mapM CodePoint.char?).elim _ _) = _
  rw [PyStr.mapM_char?_ofString]
  simp

/-- A box with the same key opens the token for the account that it was sealed for. -/
lemma HasKey.opens (hbox : box.HasKey key) (hbox' : box'.HasKey key) (hgcm : gcm.Ideal)
    (hsealed : box.encryptText gcm nonce plaintext aad = .ok token) (aad' : String) :
    box'.decryptText gcm token aad' =
      if aad' = aad then .ok plaintext else .error (.python .valueError) := by
  obtain ⟨key', data, ad, kid, hkey, hdata, had, hkid, hlength, rfl⟩ := encrypt_eq_ok.1 hsealed
  rw [hbox.activeKeyId] at hkey hkid
  obtain rfl : key' = key := Option.some.inj (hkey.symm.trans hbox.key)
  obtain ⟨ad', had'⟩ := exists_aadBytes (some aad')
  rw [Option.map_some] at had'
  have hopened := tryDecrypt_frame gcm (gcm.encrypt key' nonce data ad) (some (.ofString aad'))
    hkid hlength nonce.2 hbox'.key
  rw [had'] at hopened
  simp only [bind, Except.bind] at hopened
  by_cases hsame : aad' = aad
  · subst hsame
    obtain rfl : ad' = ad := Except.ok.inj (had'.symm.trans had)
    rw [hgcm.correct] at hopened
    rw [if_pos rfl]
    refine decryptText_of_decrypt ?_
    rw [decrypt, hopened]
    simp only [PyStr.decode_of_encode hdata]
  · have hdiffers : ad.getD [] ≠ ad'.getD [] := by
      intro heq
      have hencode := encode_of_aadBytes had
      rw [heq] at hencode
      exact hsame
        (ofString_injective (PyStr.encode_injective (encode_of_aadBytes had') hencode))
    rw [hgcm.authentic _ _ _ _ _ hdiffers] at hopened
    rw [if_neg hsame, decryptText, decrypt, hopened]
    rfl

end SecretBox

/-- The token is the secret of this account, and of no use in the row of another one. -/
def ServesOnly (gcm : Gcm) (box : SecretBox) (token secret : String) (account : Uuid) : Prop :=
  ∀ (app : App) (t : Tables) (ownerId : Uuid) (provider : ProviderName) (config : ProviderConfig),
    t.getActive ownerId provider = .ok (some config) → config.encryptedSecret = token →
      resolveProvider (app.withBox gcm box) ownerId provider t =
        if ownerId = account then
          .ok ⟨provider, secret, config.sandbox, config.config, app.http⟩
        else .error (.python .valueError)

/-- **Generated keys serve.**  A key that was generated passes the checks at the start and gives a
box, unless something else is insecure; and what was sealed for an account before a restart, the
account is served with after it. -/
theorem generated_key_serves {gcm : Gcm} (hgcm : gcm.Ideal) {random : Bytes}
    (hrandom : random.length = 32) {settings settings' : Settings}
    (hkey : settings.secretEncryptionKey = generateKey random)
    (hkey' : settings'.secretEncryptionKey = generateKey random) :
    ((∃ box, createApp settings = .ok box) ↔
        (settings.environment = .production → settings.problems random = [])) ∧
      ∀ box box', createApp settings = .ok box → createApp settings' = .ok box' →
        ∀ (nonce : SecretBox.Nonce) (secret : String) (account : Uuid), ∃ token,
          box.encryptText gcm nonce secret account.str = .ok token ∧
            ServesOnly gcm box' token secret account := by
  obtain ⟨box₀, hbox₀, hstarts⟩ :=
    createApp_of_key (encryptionKeyBytes_of_generated hkey hrandom)
  obtain ⟨box₁, hbox₁, hstarts'⟩ :=
    createApp_of_key (encryptionKeyBytes_of_generated hkey' hrandom)
  refine ⟨⟨?_, fun hready => ⟨box₀, (hstarts box₀).2 ⟨hready, rfl⟩⟩⟩, ?_⟩
  · rintro ⟨box, hbox⟩
    exact ((hstarts box).1 hbox).1
  · intro box box' hbox hbox' nonce secret account
    obtain ⟨-, rfl⟩ := (hstarts box).1 hbox
    obtain ⟨-, rfl⟩ := (hstarts' box').1 hbox'
    obtain ⟨token, htoken⟩ := hbox₀.exists_sealed gcm nonce secret account.str
    refine ⟨token, htoken, fun app t ownerId provider config hactive hconfig => ?_⟩
    have hopened := hbox₀.opens hbox₁ hgcm htoken ownerId.str
    rw [resolveProvider, hactive]
    simp only [bind, Except.bind, App.withBox, hconfig, hopened, Uuid.str_injective.eq_iff]
    by_cases hsame : ownerId = account
    · simp [hsame]
    · simp [hsame]

/-- Settings for production, with a generated key. -/
def productionSettings : Settings where
  environment := .production
  debug := false
  jwtSecretKey := "a-secret-of-thirty-two-characters"
  secretEncryptionKey := generateKey SecretBox.demoKey
  corsAllowOrigins := ["https://shop.example"]
  minSecretLength := by decide

/-- The theorem on settings for production with a generated key, restarted unchanged. -/
theorem generated_key_serves_demo :
    (∃ box, createApp productionSettings = .ok box) ∧
      ∀ box box', createApp productionSettings = .ok box →
        createApp productionSettings = .ok box' →
        ∀ (nonce : SecretBox.Nonce) (secret : String) (account : Uuid), ∃ token,
          box.encryptText SecretBox.demoGcm nonce secret account.str = .ok token ∧
            ServesOnly SecretBox.demoGcm box' token secret account := by
  obtain ⟨hstarts, hserves⟩ := generated_key_serves SecretBox.demoGcm_ideal
    (rfl : SecretBox.demoKey.length = 32) (rfl : productionSettings.secretEncryptionKey = _)
    (rfl : productionSettings.secretEncryptionKey = _)
  exact ⟨hstarts.2 fun _ => by decide +kernel, hserves⟩

/-- The defaults of the secrets are refused in production. -/
example : ({ productionSettings with
    secretEncryptionKey := "AAAAAAAAAAAAAAAAAAAAAAAAAAAAAAAAAAAAAAAAAAA=" }).assertProductionReady =
    .error (.runtimeError ("Insecure production configuration: " ++
      "UPGI_SECRET_ENCRYPTION_KEY still uses the insecure default")) := by
  decide +kernel

end PaymentGateway
