/-
# Encryption of provider credentials

`app/security/crypto.py`: a token is the Base64 text of a frame that holds the id of the key,
the nonce and the ciphertext of AES-256-GCM.  The cipher is the one of the `cryptography`
package and is a parameter here (`Gcm`).

A box decrypts what another box has encrypted under a key that both hold, if the id of the key
can be written into the frame (`SecretBox.rotation_iff`).  The associated data binds a token to
its context up to the empty string, which is read like no data at all (`SecretBox.aad_binds`).
On any other text `decrypt` raises `DecryptionError` and nothing else (`SecretBox.decrypt_total`).
-/
import PaymentGateway.Lib.Base64
import PaymentGateway.Security.Signatures

namespace PaymentGateway

open Transact

/-! ## Strings -/

/-- A code point of a `str`; the surrogates are among them. -/
abbrev CodePoint := Fin 0x110000

/-- A `str`, as a list of code points: one with a surrogate cannot be encoded. -/
abbrev PyStr := List CodePoint

/-- A character as a code point; surrogates are no characters. -/
def CodePoint.ofChar (c : Char) : CodePoint := ⟨c.toNat, by
  have h := c.valid
  change c.toNat.isValidChar at h
  rw [Nat.isValidChar] at h
  omega⟩

/-- The character of a code point, where that is no surrogate. -/
def CodePoint.char? (c : CodePoint) : Option Char :=
  if h : c.val.isValidChar then some (Char.ofNatAux c.val h) else none

/-- The exceptions that meet in this module; `UnicodeError`s and `binascii.Error` are
`ValueError`s. -/
inductive CryptoError where
  | keyError
  | indexError
  | valueError
  | overflowError
  | invalidTag
  /-- `DecryptionError("unsupported ciphertext version")` -/
  | unsupportedVersion
  /-- `DecryptionError(f"unknown key id {kid!r}")` -/
  | unknownKeyId (kid : PyStr)
  /-- `DecryptionError("failed to decrypt secret")` -/
  | decryptionError
deriving DecidableEq, Repr

/-- `isinstance(exc, (InvalidTag, IndexError, ValueError))`: what `decrypt` turns into its own
error. -/
def CryptoError.isCaught : CryptoError → Bool
  | .keyError | .overflowError => false
  | _ => true

namespace PyStr

/-- The string of these characters. -/
def ofString (s : String) : PyStr := s.toList.map CodePoint.ofChar

/-- `s.encode("utf-8")`, which refuses surrogates. -/
def encode (s : PyStr) : Except CryptoError Bytes :=
  match s.mapM CodePoint.char? with
  | some cs => .ok (utf8 (String.ofList cs))
  | none => .error .valueError

/-- `b.decode("utf-8")`, which refuses what is not well formed. -/
def decode (b : Bytes) : Except CryptoError PyStr :=
  match (ByteArray.mk b.toArray).utf8Decode? with
  | some cs => .ok (cs.toList.map CodePoint.ofChar)
  | none => .error .valueError

end PyStr

lemma CodePoint.char?_ofChar (c : Char) : (ofChar c).char? = some c := by
  have h : c.toNat.isValidChar := c.valid
  rw [char?, dif_pos (show (ofChar c).val.isValidChar from h)]
  exact congrArg some (Char.ext rfl)

lemma CodePoint.eq_ofChar {c : CodePoint} {x : Char} (h : c.char? = some x) : c = ofChar x := by
  by_cases hvalid : c.val.isValidChar
  · rw [char?, dif_pos hvalid] at h
    cases h
    rfl
  · rw [char?, dif_neg hvalid] at h
    cases h

namespace PyStr

lemma mapM_char?_ofString (s : List Char) :
    (s.map CodePoint.ofChar).mapM CodePoint.char? = some s := by
  induction s with
  | nil => rfl
  | cons c s ih =>
    rw [List.map_cons, List.mapM_cons, CodePoint.char?_ofChar, ih]
    rfl

lemma eq_of_mapM_char? {s : PyStr} {cs : List Char} (h : s.mapM CodePoint.char? = some cs) :
    s = cs.map CodePoint.ofChar := by
  induction s generalizing cs with
  | nil =>
    cases h
    rfl
  | cons c s ih =>
    rw [List.mapM_cons] at h
    obtain ⟨x, hx, h⟩ := Option.bind_eq_some_iff.1 h
    obtain ⟨xs, hxs, h⟩ := Option.bind_eq_some_iff.1 h
    cases h
    rw [List.map_cons, ← CodePoint.eq_ofChar hx, ← ih hxs]

@[simp] lemma encode_ofString (s : String) : (ofString s).encode = .ok (utf8 s) := by
  rw [encode, ofString, mapM_char?_ofString]
  simp

/-- What can be encoded is valid Unicode. -/
lemma encode_eq_ok {s : PyStr} {b : Bytes} (h : s.encode = .ok b) :
    ∃ x : String, s = ofString x ∧ b = utf8 x := by
  rw [encode] at h
  split at h
  · rename_i cs hcs
    cases h
    refine ⟨String.ofList cs, ?_, rfl⟩
    rw [ofString, String.toList_ofList]
    exact eq_of_mapM_char? hcs
  · cases h

@[simp] lemma decode_utf8 (s : String) : decode (utf8 s) = .ok (ofString s) := by
  have hbytes : ByteArray.mk (utf8 s).toArray = s.toList.utf8Encode := by
    rw [String.utf8Encode_toList, utf8]
    rfl
  rw [decode, hbytes, List.utf8Decode?_utf8Encode]
  rfl

/-- Decoding undoes encoding. -/
lemma decode_of_encode {s : PyStr} {b : Bytes} (h : s.encode = .ok b) : decode b = .ok s := by
  obtain ⟨x, rfl, rfl⟩ := encode_eq_ok h
  exact decode_utf8 x

lemma encode_injective {s s' : PyStr} {b : Bytes} (h : s.encode = .ok b) (h' : s'.encode = .ok b) :
    s = s' := by
  have hs := decode_of_encode h
  rw [decode_of_encode h'] at hs
  exact (Except.ok.inj hs).symm

end PyStr

/-! ## The cipher -/

/-- `AESGCM(key).encrypt(nonce, data, aad)` and its `decrypt`. -/
structure Gcm where
  encrypt : Bytes → Bytes → Bytes → Option Bytes → Bytes
  decrypt : Bytes → Bytes → Bytes → Option Bytes → Except CryptoError Bytes

/-- The cipher decrypts what it has encrypted under the same key, nonce and data. -/
def Gcm.Correct (gcm : Gcm) : Prop :=
  ∀ key nonce data aad, gcm.decrypt key nonce (gcm.encrypt key nonce data aad) aad = .ok data

/-- On malformed input the cipher raises a `ValueError`, as for a nonce of a wrong length, or
`InvalidTag`. -/
def Gcm.Documented (gcm : Gcm) : Prop :=
  ∀ key nonce ct aad e, gcm.decrypt key nonce ct aad = .error e →
    e = .valueError ∨ e = .invalidTag

/-- The ideal cipher: it authenticates the bytes it is given, and no associated data are empty
associated data. -/
structure Gcm.Ideal (gcm : Gcm) : Prop where
  correct : gcm.Correct
  authentic : ∀ key nonce data aad aad', aad.getD [] ≠ aad'.getD [] →
    gcm.decrypt key nonce (gcm.encrypt key nonce data aad) aad' = .error .invalidTag

/-! ## Boxes -/

/-- `SecretBox.__post_init__`: the active key must be there, and every key must have 32 bytes. -/
def SecretBox.postInit (keys : List (PyStr × Bytes)) (activeKeyId : PyStr) :
    Except CryptoError Unit :=
  if activeKeyId ∉ keys.map Prod.fst then .error .valueError
  else if ∃ item ∈ keys, item.2.length ≠ 32 then .error .valueError
  else .ok ()

/-- Authenticated encryption with support for key rotation; `keys` is a `dict`. -/
structure SecretBox where
  keys : List (PyStr × Bytes)
  activeKeyId : PyStr
  distinct : (keys.map Prod.fst).Nodup
  accepted : SecretBox.postInit keys activeKeyId = .ok ()

namespace SecretBox

/-- `_NONCE_BYTES`, the length that AES-GCM asks for. -/
def nonceBytes : ℕ := 12

/-- `_VERSION`, the first byte of every token. -/
def version : UInt8 := 1

/-- A value of `os.urandom(_NONCE_BYTES)`: twelve bytes, drawn anew for every token. -/
abbrev Nonce := {nonce : Bytes // nonce.length = nonceBytes}

/-- `aad.encode() if aad else None`: the empty text counts as none. -/
def aadBytes : Option PyStr → Except CryptoError (Option Bytes)
  | none | some [] => .ok none
  | some aad => do .ok (some (← aad.encode))

/-- `version | len(kid) | kid | nonce | ciphertext`; `bytes([n])` takes one byte. -/
def frame (kid nonce ct : Bytes) : Except CryptoError Bytes :=
  if kid.length < 256 then .ok (version :: UInt8.ofNat kid.length :: (kid ++ nonce ++ ct))
  else .error .valueError

section

variable (gcm : Gcm) (box : SecretBox)

/-- `self.keys.get(kid)`: the key under this id, if the box has one. -/
def key (kid : PyStr) : Option Bytes := (box.keys.find? fun item => item.1 = kid).map Prod.snd

/-- `encrypt`: sealed under the active key, with the id of the key and the nonce in front, and
encoded for URLs. -/
def encrypt (nonce : Nonce) (plaintext : PyStr) (aad : Option PyStr) :
    Except CryptoError String := do
  match box.key box.activeKeyId with
  | none => .error .keyError
  | some key => do
      let data ← plaintext.encode
      let ct := gcm.encrypt key nonce data (← aadBytes aad)
      let kid ← box.activeKeyId.encode
      let blob ← frame kid nonce ct
      .ok (Base64.encode blob)

/-- The body of `decrypt`, before its exceptions are caught: the frame is taken apart, the key is
looked up and the ciphertext opened. -/
def tryDecrypt (token : String) (aad : Option PyStr) : Except CryptoError PyStr :=
  match Base64.decode token with
  | none => .error .valueError
  | some blob =>
      if blob.take 1 ≠ [version] then .error .unsupportedVersion
      else
        match blob[1]? with
        | none => .error .indexError
        | some kidLen => do
            let rest := blob.drop 2
            let kid ← PyStr.decode (rest.take kidLen.toNat)
            let rest := rest.drop kidLen.toNat
            let nonce := rest.take nonceBytes
            let ct := rest.drop nonceBytes
            match box.key kid with
            | none => .error (.unknownKeyId kid)
            | some key => do
                let data ← gcm.decrypt key nonce ct (← aadBytes aad)
                PyStr.decode data

/-- `decrypt`: every failure that the method names is a `DecryptionError`, and what it does not
catch passes through. -/
def decrypt (token : String) (aad : Option PyStr) : Except CryptoError PyStr :=
  match box.tryDecrypt gcm token aad with
  | .ok plaintext => .ok plaintext
  | .error e => if e.isCaught then .error .decryptionError else .error e

/-- `decrypt` of any `str`: a token that is not even Unicode is not ASCII either, which is what
`urlsafe_b64decode` asks for. -/
def decryptStr (token : PyStr) (aad : Option PyStr) : Except CryptoError PyStr :=
  match token.mapM CodePoint.char? with
  | some cs => box.decrypt gcm (String.ofList cs) aad
  | none => if CryptoError.valueError.isCaught then .error .decryptionError else .error .valueError

end

/-- The id can be written into the frame, where one byte holds its length. -/
def Taggable (kid : PyStr) : Prop := ∃ b, kid.encode = .ok b ∧ b.length < 256

variable {gcm : Gcm} {box : SecretBox}

/-- The active key is there. -/
lemma exists_activeKey (box : SecretBox) : ∃ key, box.key box.activeKeyId = some key := by
  have hactive : box.activeKeyId ∈ box.keys.map Prod.fst := by
    by_contra hno
    have h := box.accepted
    rw [postInit, if_pos hno] at h
    cases h
  obtain ⟨item, hitem, hid⟩ := List.mem_map.1 hactive
  have hsome : (box.keys.find? fun item => item.1 = box.activeKeyId).isSome :=
    List.find?_isSome.2 ⟨item, hitem, decide_eq_true hid⟩
  obtain ⟨found, hfound⟩ := Option.isSome_iff_exists.1 hsome
  exact ⟨found.2, by rw [key, hfound]; rfl⟩

lemma aadBytes_empty : aadBytes (some []) = .ok none := rfl

/-- Valid Unicode has associated bytes. -/
lemma exists_aadBytes (aad : Option String) :
    ∃ ad, aadBytes (aad.map PyStr.ofString) = .ok ad := by
  rcases aad with _ | s
  · exact ⟨none, rfl⟩
  by_cases h : PyStr.ofString s = []
  · exact ⟨none, by rw [Option.map_some, h, aadBytes_empty]⟩
  · refine ⟨some (utf8 s), ?_⟩
    rw [Option.map_some, aadBytes, PyStr.encode_ofString]
    · rfl
    · exact h

/-- What `encrypt` returns. -/
lemma encrypt_eq_ok {nonce : Nonce} {plaintext : PyStr} {aad : Option PyStr} {token : String} :
    box.encrypt gcm nonce plaintext aad = .ok token ↔
      ∃ key data ad kid, box.key box.activeKeyId = some key ∧ plaintext.encode = .ok data ∧
        aadBytes aad = .ok ad ∧ box.activeKeyId.encode = .ok kid ∧ kid.length < 256 ∧
        token = Base64.encode (version :: UInt8.ofNat kid.length ::
          (kid ++ nonce ++ gcm.encrypt key nonce data ad)) := by
  obtain ⟨key, hkey⟩ := exists_activeKey box
  constructor
  · intro h
    rw [encrypt, hkey] at h
    dsimp only at h
    cases hdata : plaintext.encode with
    | error e =>
      rw [hdata] at h
      cases h
    | ok data =>
      rw [hdata] at h
      cases had : aadBytes aad with
      | error e =>
        rw [had] at h
        cases h
      | ok ad =>
        rw [had] at h
        cases hkid : box.activeKeyId.encode with
        | error e =>
          rw [hkid] at h
          cases h
        | ok kid =>
          rw [hkid] at h
          -- `bytes([len(kid)])` takes one byte
          by_cases hlength : kid.length < 256
          · simp only [bind, Except.bind, frame, if_pos hlength] at h
            exact ⟨key, data, ad, kid, hkey, rfl, rfl, rfl, hlength, (Except.ok.inj h).symm⟩
          · simp only [bind, Except.bind, frame, if_neg hlength] at h
            cases h
  · rintro ⟨key', data, ad, kid, hkey', hdata, had, hkid, hlength, rfl⟩
    rw [encrypt, hkey', hdata, had, hkid]
    simp only [bind, Except.bind, frame, if_pos hlength]

/-- An id that is too long for the frame. -/
lemma encrypt_of_long {id : String} (hid : box.activeKeyId = PyStr.ofString id)
    (hlong : ¬ (utf8 id).length < 256) (nonce : Nonce) (plaintext : String) (aad : Option String) :
    box.encrypt gcm nonce (PyStr.ofString plaintext) (aad.map PyStr.ofString) =
      .error .valueError := by
  obtain ⟨key, hkey⟩ := exists_activeKey box
  obtain ⟨ad, had⟩ := exists_aadBytes aad
  rw [encrypt, hkey]
  dsimp only
  rw [PyStr.encode_ofString, had, hid, PyStr.encode_ofString]
  simp only [bind, Except.bind, frame, if_neg hlong]

/-- What a box makes of a token whose key it has. -/
lemma tryDecrypt_frame (gcm : Gcm) {kid nonce : Bytes} (ct : Bytes) {id : PyStr} {key : Bytes}
    (aad : Option PyStr) (hkid : id.encode = .ok kid) (hlength : kid.length < 256)
    (hnonce : nonce.length = nonceBytes) (hkey : box.key id = some key) :
    box.tryDecrypt gcm
        (Base64.encode (version :: UInt8.ofNat kid.length :: (kid ++ nonce ++ ct))) aad =
      aadBytes aad >>= fun ad => gcm.decrypt key nonce ct ad >>= PyStr.decode := by
  have hlen : (UInt8.ofNat kid.length).toNat = kid.length := by
    rw [UInt8.toNat_ofNat']
    exact Nat.mod_eq_of_lt hlength
  have hdrop : (version :: UInt8.ofNat kid.length :: (kid ++ nonce ++ ct)).drop 2 =
      kid ++ (nonce ++ ct) := by
    rw [← List.append_assoc]
    rfl
  rw [tryDecrypt, Base64.decode_encode]
  simp only [List.take_succ_cons, List.take_zero, ne_eq, not_true_eq_false, reduceIte,
    List.getElem?_cons_succ, List.getElem?_cons_zero, hlen, hdrop, List.take_left, List.drop_left,
    PyStr.decode_of_encode hkid, bind, Except.bind, hkey, ← hnonce]

/-! ## Rotation of keys -/

/-- **A token is read by every box that has the key it was encrypted with**, if and only if the
id of the key has at most 255 bytes. -/
theorem rotation_iff (hgcm : gcm.Correct) (box other : SecretBox)
    (hkey : other.key box.activeKeyId = box.key box.activeKeyId) (nonce : Nonce)
    (plaintext : String) (aad : Option String) :
    (∃ token,
      box.encrypt gcm nonce (PyStr.ofString plaintext) (aad.map PyStr.ofString) = .ok token ∧
      other.decrypt gcm token (aad.map PyStr.ofString) = .ok (PyStr.ofString plaintext)) ↔
    Taggable box.activeKeyId := by
  constructor
  · rintro ⟨token, htoken, -⟩
    obtain ⟨-, -, -, kid, -, -, -, hkid, hlength, -⟩ := encrypt_eq_ok.1 htoken
    exact ⟨kid, hkid, hlength⟩
  · rintro ⟨kid, hkid, hlength⟩
    obtain ⟨key, hactive⟩ := exists_activeKey box
    obtain ⟨ad, had⟩ := exists_aadBytes aad
    refine ⟨_, encrypt_eq_ok.2 ⟨key, _, ad, kid, hactive, PyStr.encode_ofString plaintext, had,
      hkid, hlength, rfl⟩, ?_⟩
    have hread := tryDecrypt_frame gcm (gcm.encrypt key nonce (utf8 plaintext) ad)
      (aad.map PyStr.ofString) hkid hlength nonce.2 (hkey.trans hactive)
    rw [had] at hread
    have hplain := hgcm key nonce (utf8 plaintext) ad
    simp only [bind, Except.bind, hplain, PyStr.decode_utf8] at hread
    rw [decrypt, hread]

/-! ## A cipher, to evaluate the model with -/

/-- A key and a nonce. -/
def demoKey : Bytes := List.replicate 32 7

/-- Twelve bytes. -/
def demoNonce : Nonce := ⟨[0, 1, 2, 3, 4, 5, 6, 7, 8, 9, 10, 11], rfl⟩

/-- What AES-256-GCM makes of `sk` with the associated data `t1`, under this key and nonce. -/
def demoBound : Bytes :=
  [107, 234, 203, 152, 6, 4, 119, 66, 203, 4, 150, 10, 200, 99, 227, 13, 80, 174]

/-- What it makes of `sk` without associated data, under the same key and nonce. -/
def demoUnbound : Bytes :=
  [107, 234, 115, 136, 230, 114, 189, 75, 209, 39, 20, 194, 192, 49, 215, 103, 1, 44]

/-- For everything else: the associated data after their length in unary, and the data. -/
def plainSeal (data ad : Bytes) : Bytes := List.replicate ad.length 1 ++ 0 :: (ad ++ data)

/-- Check the associated data `ad` of what is left, after `n` was read of their length. -/
def plainOpen (ad : Bytes) : ℕ → Bytes → Except CryptoError Bytes
  | n, 1 :: bytes => plainOpen ad (n + 1) bytes
  | n, 0 :: bytes => if bytes.take n = ad then .ok (bytes.drop n) else .error .invalidTag
  | _, _ => .error .invalidTag

lemma plainOpen_plainSeal (data ad ad' : Bytes) :
    plainOpen ad' 0 (plainSeal data ad) = if ad = ad' then .ok data else .error .invalidTag := by
  have hread : ∀ k n, plainOpen ad' n (List.replicate k 1 ++ 0 :: (ad ++ data)) =
      if (ad ++ data).take (n + k) = ad' then .ok ((ad ++ data).drop (n + k))
      else .error .invalidTag := by
    intro k
    induction k with
    | zero =>
      intro n
      rfl
    | succ k ih =>
      intro n
      rw [List.replicate_succ, List.cons_append, plainOpen, ih]
      congr 3 <;> omega
  rw [plainSeal, hread, Nat.zero_add, List.take_left, List.drop_left]

lemma plainSeal_ne (data ad : Bytes) (bytes : Bytes) : plainSeal data ad ≠ 107 :: bytes := by
  rw [plainSeal]
  cases ad <;> simp [List.replicate_succ]

/-- AES-256-GCM at the two points that are used below.  Elsewhere the plaintext and the
associated data are laid side by side, which opens again and tells both apart. -/
def demoGcm : Gcm where
  encrypt key nonce data aad :=
    if key = demoKey ∧ nonce = demoNonce ∧ data = utf8 "sk" ∧ aad.getD [] = utf8 "t1" then demoBound
    else if key = demoKey ∧ nonce = demoNonce ∧ data = utf8 "sk" ∧ aad.getD [] = [] then demoUnbound
    else plainSeal data (aad.getD [])
  decrypt key nonce ct aad :=
    if key = demoKey ∧ nonce = demoNonce ∧ ct = demoBound then
      if aad.getD [] = utf8 "t1" then .ok (utf8 "sk") else .error .invalidTag
    else if key = demoKey ∧ nonce = demoNonce ∧ ct = demoUnbound then
      if aad.getD [] = [] then .ok (utf8 "sk") else .error .invalidTag
    else plainOpen (aad.getD []) 0 ct

lemma demoGcm_decrypt (key nonce data : Bytes) (aad aad' : Option Bytes) :
    demoGcm.decrypt key nonce (demoGcm.encrypt key nonce data aad) aad' =
      if aad.getD [] = aad'.getD [] then .ok data else .error .invalidTag := by
  have hdistinct : demoUnbound ≠ demoBound := by decide
  simp only [demoGcm]
  by_cases hbound : key = demoKey ∧ nonce = demoNonce ∧ data = utf8 "sk" ∧ aad.getD [] = utf8 "t1"
  · rw [if_pos hbound, hbound.2.2.2, if_pos ⟨hbound.1, hbound.2.1, rfl⟩, hbound.2.2.1]
    exact if_congr eq_comm rfl rfl
  by_cases hunbound : key = demoKey ∧ nonce = demoNonce ∧ data = utf8 "sk" ∧ aad.getD [] = []
  · rw [if_neg hbound, if_pos hunbound, hunbound.2.2.2, if_neg fun h => hdistinct h.2.2,
      if_pos ⟨hunbound.1, hunbound.2.1, rfl⟩, hunbound.2.2.1]
    exact if_congr eq_comm rfl rfl
  · rw [if_neg hbound, if_neg hunbound]
    rw [if_neg fun h => plainSeal_ne _ _ _ h.2.2, if_neg fun h => plainSeal_ne _ _ _ h.2.2,
      plainOpen_plainSeal]

lemma demoGcm_ideal : demoGcm.Ideal where
  correct key nonce data aad := by rw [demoGcm_decrypt, if_pos rfl]
  authentic key nonce data aad aad' h := by rw [demoGcm_decrypt, if_neg h]

/-- A box with one key, under the given id. -/
def demoBox (id : String) : SecretBox where
  keys := [(PyStr.ofString id, demoKey)]
  activeKeyId := PyStr.ofString id
  distinct := by simp
  accepted := by simp [postInit, demoKey]

/-- The box after a rotation: the old key is kept, and a new one is active. -/
def rotatedBox : SecretBox where
  keys := [(PyStr.ofString "k1", demoKey), (PyStr.ofString "k2", List.replicate 32 8)]
  activeKeyId := PyStr.ofString "k2"
  distinct := by decide +kernel
  accepted := by decide +kernel

/-- A token from before a rotation. -/
theorem rotation_demo : ∃ token,
    (demoBox "k1").encrypt demoGcm demoNonce (PyStr.ofString "sk") (some (PyStr.ofString "t1")) =
      .ok token ∧
    rotatedBox.decrypt demoGcm token (some (PyStr.ofString "t1")) = .ok (PyStr.ofString "sk") :=
  (rotation_iff demoGcm_ideal.correct (demoBox "k1") rotatedBox (by decide +kernel) demoNonce "sk"
    (some "t1")).2 ⟨utf8 "k1", PyStr.encode_ofString "k1", by decide +kernel⟩

/-- An id that the box accepts and `bytes([len(kid)])` does not. -/
theorem rotation_longId :
    (demoBox (String.ofList (List.replicate 256 'k'))).encrypt demoGcm demoNonce
      (PyStr.ofString "sk") (some (PyStr.ofString "t1")) = .error .valueError := by
  have hlong : (utf8 (String.ofList (List.replicate 256 'k'))).length = 256 := by decide +kernel
  exact encrypt_of_long rfl (by rw [hlong]; decide) demoNonce "sk" (some "t1")

/-! ## Associated data -/

/-- The associated bytes are those of the text, where no text is the empty one. -/
lemma encode_of_aadBytes {aad : Option PyStr} {ad : Option Bytes} (h : aadBytes aad = .ok ad) :
    (aad.getD []).encode = .ok (ad.getD []) := by
  rcases aad with _ | _ | ⟨c, s⟩
  · cases h
    rfl
  · cases h
    rfl
  · rw [aadBytes] at h
    · cases hs : PyStr.encode (c :: s) with
      | error e =>
        rw [hs] at h
        cases h
      | ok b =>
        rw [hs] at h
        cases h
        exact hs
    · exact List.cons_ne_nil c s

lemma aadBytes_congr {aad aad' : Option PyStr} (h : aad.getD [] = aad'.getD []) :
    aadBytes aad = aadBytes aad' := by
  have hrepr : ∀ a : Option PyStr, aadBytes a = aadBytes (some (a.getD [])) := by
    intro a
    cases a <;> rfl
  rw [hrepr aad, hrepr aad', h]

/-- What has no associated bytes is not Unicode. -/
lemma aadBytes_eq_error {aad : Option PyStr} {e : CryptoError} (h : aadBytes aad = .error e) :
    e = .valueError := by
  rcases aad with _ | _ | ⟨c, s⟩
  · cases h
  · cases h
  · rw [aadBytes] at h
    · rw [PyStr.encode] at h
      split at h
      · cases h
      · cases h
        rfl
    · exact List.cons_ne_nil c s

/-- **A token is decrypted with the associated data it was encrypted with, and with no other**,
where `None` and the empty string are the same. -/
theorem aad_binds (hgcm : gcm.Ideal) (box : SecretBox) (nonce : Nonce) (plaintext : PyStr)
    (aad aad' : Option PyStr) {token : String}
    (h : box.encrypt gcm nonce plaintext aad = .ok token) :
    box.decrypt gcm token aad' =
      if aad.getD [] = aad'.getD [] then .ok plaintext else .error .decryptionError := by
  obtain ⟨key, data, ad, kid, hactive, hdata, had, hkid, hlength, rfl⟩ := encrypt_eq_ok.1 h
  rw [decrypt, tryDecrypt_frame gcm _ aad' hkid hlength nonce.2 hactive]
  by_cases heq : aad.getD [] = aad'.getD []
  · rw [if_pos heq, ← aadBytes_congr heq, had]
    simp only [bind, Except.bind, hgcm.correct key nonce data ad, PyStr.decode_of_encode hdata]
  · rw [if_neg heq]
    cases had' : aadBytes aad' with
    | error e =>
      rw [aadBytes_eq_error had']
      rfl
    | ok ad' =>
      have hne : ad.getD [] ≠ ad'.getD [] := by
        intro hsame
        have hencode := encode_of_aadBytes had
        rw [hsame] at hencode
        exact heq (PyStr.encode_injective hencode (encode_of_aadBytes had'))
      simp only [bind, Except.bind, hgcm.authentic key nonce data ad ad' hne]
      rfl

/-- A token for a tenant, read for another one. -/
theorem aad_binds_demo :
    (demoBox "k1").decrypt demoGcm "AQJrMQABAgMEBQYHCAkKC2vqy5gGBHdCywSWCshj4w1Qrg=="
      (some (PyStr.ofString "t2")) = .error .decryptionError :=
  (aad_binds demoGcm_ideal (demoBox "k1") demoNonce (PyStr.ofString "sk")
    (some (PyStr.ofString "t1")) (some (PyStr.ofString "t2")) (by decide +kernel)).trans
    (if_neg (by decide +kernel))

/-- No associated data and the empty string are different arguments. -/
theorem aad_binds_empty :
    (demoBox "k1").encrypt demoGcm demoNonce (PyStr.ofString "sk") none =
      .ok "AQJrMQABAgMEBQYHCAkKC2vqc4jmcr1L0ScUwsAx12cBLA==" ∧
    (demoBox "k1").decrypt demoGcm "AQJrMQABAgMEBQYHCAkKC2vqc4jmcr1L0ScUwsAx12cBLA=="
      (some (PyStr.ofString "")) = .ok (PyStr.ofString "sk") ∧
    (none : Option PyStr) ≠ some (PyStr.ofString "") := by
  have htoken : (demoBox "k1").encrypt demoGcm demoNonce (PyStr.ofString "sk") none =
      .ok "AQJrMQABAgMEBQYHCAkKC2vqc4jmcr1L0ScUwsAx12cBLA==" := by decide +kernel
  refine ⟨htoken, ?_, by simp⟩
  decide +kernel

/-! ## Malformed tokens -/

lemma decode_eq_error {b : Bytes} {e : CryptoError} (h : PyStr.decode b = .error e) :
    e = .valueError := by
  rw [PyStr.decode] at h
  split at h
  · cases h
  · cases h
    rfl

/-- Whatever `decrypt` meets in a token, it translates. -/
lemma isCaught_of_tryDecrypt (hgcm : gcm.Documented) {token : String} {aad : Option PyStr}
    {e : CryptoError} (h : box.tryDecrypt gcm token aad = .error e) : e.isCaught = true := by
  rw [tryDecrypt] at h
  split at h
  · cases h
    rfl
  rename_i blob _
  split at h
  · cases h
    rfl
  split at h
  · -- the version is all there is
    cases h
    rfl
  rename_i kidLen _
  dsimp only at h
  cases hkid : PyStr.decode ((blob.drop 2).take kidLen.toNat) with
  | error e' =>
    simp only [bind, Except.bind, hkid] at h
    cases h
    rw [decode_eq_error hkid]
    rfl
  | ok kid =>
    simp only [bind, Except.bind, hkid] at h
    split at h
    · cases h
      rfl
    rename_i key _
    cases had : aadBytes aad with
    | error e' =>
      simp only [had] at h
      cases h
      rw [aadBytes_eq_error had]
      rfl
    | ok ad =>
      simp only [had] at h
      split at h
      · -- the cipher has raised, on the nonce or on the tag
        rename_i e' hraised
        cases h
        rcases hgcm _ _ _ _ _ hraised with rfl | rfl <;> rfl
      · rw [decode_eq_error h]
        rfl

/-- **Decryption is total up to `DecryptionError`**, for every token. -/
theorem decrypt_total (hgcm : gcm.Documented) (box : SecretBox) (token : PyStr)
    (aad : Option PyStr) :
    (∃ plaintext, box.decryptStr gcm token aad = .ok plaintext) ∨
      box.decryptStr gcm token aad = .error .decryptionError := by
  rw [decryptStr]
  cases token.mapM CodePoint.char? with
  | none => exact Or.inr rfl
  | some cs =>
    dsimp only
    rw [decrypt]
    cases htried : box.tryDecrypt gcm (String.ofList cs) aad with
    | ok plaintext => exact Or.inl ⟨plaintext, rfl⟩
    | error e =>
      dsimp only
      rw [if_pos (isCaught_of_tryDecrypt hgcm htried)]
      exact Or.inr rfl

lemma demoGcm_documented : demoGcm.Documented := by
  have hopen : ∀ ad ct n e, plainOpen ad n ct = .error e → e = .invalidTag := by
    intro ad ct n e h
    fun_induction plainOpen ad n ct with
    | case1 n bytes ih => exact ih h
    | case2 n bytes htake => cases h
    | case3 n bytes htake =>
      cases h
      rfl
    | case4 n ct =>
      cases h
      rfl
  intro key nonce ct aad e h
  right
  simp only [demoGcm] at h
  split at h
  · split at h <;> cases h
    rfl
  split at h
  · split at h <;> cases h
    rfl
  · exact hopen _ _ _ _ h

/-- The version alone. -/
theorem decrypt_total_demo :
    (∃ plaintext, (demoBox "k1").decryptStr demoGcm (PyStr.ofString "AQ==") none =
      .ok plaintext) ∨
      (demoBox "k1").decryptStr demoGcm (PyStr.ofString "AQ==") none = .error .decryptionError :=
  decrypt_total demoGcm_documented (demoBox "k1") (PyStr.ofString "AQ==") none

end SecretBox

end PaymentGateway
