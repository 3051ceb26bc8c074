import Rastreo.Library.BlockModes
import Rastreo.Prober.Snmp.Sessions

/-!
# Keys and privacy

The functions behind `SnmpCrypto`: a privacy key is a localized password extended until it is long
enough, DES chains padded blocks, and AES uses cipher feedback.  Digests and block ciphers are
parameters (`CryptoPrimitives`), of which only lengths and that DES decrypts are assumed.  What a
derived key encrypts is decrypted again (`privacy_round_trip`), and a session never fails to encrypt
(`protectScopedPdu_eq_ok`).
-/

namespace Rastreo

open List

/-! ## Primitives -/

/-- `AuthAlgo::key_len`, the length of a digest. -/
def AuthAlgo.keyLen : AuthAlgo → ℕ
  | .md5 => 16
  | .sha1 => 20
  | .sha224 => 28
  | .sha256 => 32
  | .sha384 => 48
  | .sha512 => 64

def PrivAlgo.keyLen : PrivAlgo → ℕ
  | .des => 16
  | .aes128 => 16
  | .aes192 => 24
  | .aes256 => 32

/-- Digests, authentication codes and block ciphers. Updates of a digest are concatenated. -/
structure CryptoPrimitives where
  digest : AuthAlgo → Bytes → Bytes
  digest_length : ∀ algo bytes, (digest algo bytes).length = algo.keyLen
  hmac : AuthAlgo → Bytes → Bytes → Bytes
  desEncrypt : TextBlock UInt8 8 → TextBlock UInt8 8 → TextBlock UInt8 8
  desDecrypt : TextBlock UInt8 8 → TextBlock UInt8 8 → TextBlock UInt8 8
  des_inverse : ∀ key block, desDecrypt key (desEncrypt key block) = block
  aesEncrypt : (algo : PrivAlgo) → TextBlock UInt8 algo.keyLen → TextBlock UInt8 16 →
    TextBlock UInt8 16

lemma AuthAlgo.keyLen_pos (algo : AuthAlgo) : 0 < algo.keyLen := by
  cases algo <;> decide

inductive CryptoError where
  | desKeyTooShort (len : ℕ)
  | aesKeyTooShort (have_ need : ℕ)
  | ivOutOfRange
  | desDecrypt
  deriving DecidableEq

def CryptoError.display : CryptoError → String
  | .desKeyTooShort len =>
    "des key derivation failed: priv-localized key too short (" ++ toString len ++ " < 16)"
  | .aesKeyTooShort have_ need =>
    "aes key derivation failed: priv-localized key too short (" ++ toString have_ ++ " < " ++
      toString need ++ ")"
  | .ivOutOfRange => "aes iv construction failed: engine boots/time out of range"
  | .desDecrypt => "des decryption failed"

/-! ## Keys -/

def passwordExpansionBytes : ℕ := 1048576

/-- A chunk of the repeated password from a position on, and the position after it. -/
def fillChunk (pw : Bytes) (hpw : 0 < pw.length) : ℕ → Fin pw.length → Bytes × Fin pw.length
  | 0, idx => ([], idx)
  | take + 1, idx =>
    let rest := fillChunk pw hpw take ⟨(idx + 1) % pw.length, Nat.mod_lt _ hpw⟩
    (pw.get idx :: rest.1, rest.2)

/-- What the loop of `localize` feeds to the digest. -/
def expandPassword (pw : Bytes) (hpw : 0 < pw.length) (fed : ℕ) (idx : Fin pw.length) : Bytes :=
  if fed < passwordExpansionBytes then
    let take := min 64 (passwordExpansionBytes - fed)
    let chunk := fillChunk pw hpw take idx
    chunk.1 ++ expandPassword pw hpw (fed + take) chunk.2
  else []
termination_by passwordExpansionBytes - fed

section Keys

variable (prims : CryptoPrimitives)

def hashLocalized (digest engineId : Bytes) (algo : AuthAlgo) : Bytes :=
  prims.digest algo (digest ++ engineId ++ digest)

def localizeKey (password : String) (engineId : Bytes) (algo : AuthAlgo) : Bytes :=
  let pw := password.toUTF8.toList
  if hpw : 0 < pw.length then
    hashLocalized prims (prims.digest algo (expandPassword pw hpw 0 ⟨0, hpw⟩)) engineId algo
  else hashLocalized prims (prims.digest algo []) engineId algo

def localizeKeyFromKey (prevKey : Bytes) (password : String) (engineId : Bytes)
    (algo : AuthAlgo) : Bytes :=
  hashLocalized prims (prims.digest algo (prevKey ++ password.toUTF8.toList)) engineId algo

lemma length_localizeKeyFromKey (prevKey : Bytes) (password : String) (engineId : Bytes)
    (algo : AuthAlgo) :
    (localizeKeyFromKey prims prevKey password engineId algo).length = algo.keyLen :=
  prims.digest_length algo _

/-- The loop of `derive_priv_key`. -/
def extendKey (needed : ℕ) (password : String) (engineId : Bytes) (algo : AuthAlgo)
    (key : Bytes) : Bytes :=
  if key.length < needed then
    extendKey needed password engineId algo
      (key ++ localizeKeyFromKey prims key password engineId algo)
  else key
termination_by needed - key.length
decreasing_by
  rw [List.length_append, length_localizeKeyFromKey]
  have := algo.keyLen_pos
  omega

def derivePrivKey (_authLocalized : Bytes) (privPassword : String) (engineId : Bytes)
    (authAlgo : AuthAlgo) (privAlgo : PrivAlgo) : Bytes :=
  let needed := privAlgo.keyLen
  (extendKey prims needed privPassword engineId authAlgo
    (localizeKey prims privPassword engineId authAlgo)).take needed

def hmacTruncated (algo : AuthAlgo) (key message : Bytes) : Bytes :=
  (prims.hmac algo key message).take algo.hmacTruncLen

lemma le_length_extendKey (needed : ℕ) (password : String) (engineId : Bytes) (algo : AuthAlgo)
    (key : Bytes) : needed ≤ (extendKey prims needed password engineId algo key).length := by
  fun_induction extendKey prims needed password engineId algo key with
  | case1 key hshort ih => exact ih
  | case2 key hlong => exact Nat.not_lt.mp hlong

lemma length_derivePrivKey (authLocalized : Bytes) (privPassword : String) (engineId : Bytes)
    (authAlgo : AuthAlgo) (privAlgo : PrivAlgo) :
    (derivePrivKey prims authLocalized privPassword engineId authAlgo privAlgo).length =
      privAlgo.keyLen :=
  length_take_of_le (le_length_extendKey prims _ _ _ _ _)

end Keys

/-! ## Encryption -/

def xor8 (a b : TextBlock UInt8 8) : TextBlock UInt8 8 := mixBlocks (· ^^^ ·) a b

/-- `u32::to_be_bytes`. -/
def u32BeBytes (w : UInt32) : Bytes :=
  [(w >>> 24).toUInt8, (w >>> 16).toUInt8, (w >>> 8).toUInt8, w.toUInt8]

lemma length_nextSalt (seq nanos : UInt64) : (nextSalt seq nanos).length = 8 := rfl

def aesIv (engineBoots engineTime : UInt32) (salt : TextBlock UInt8 8) : TextBlock UInt8 16 :=
  ⟨u32BeBytes engineBoots ++ u32BeBytes engineTime ++ salt.1, by
    rw [length_append, salt.2]
    rfl⟩

def keyPart (privKey : Bytes) (start : ℕ) (h : start + 8 ≤ privKey.length) : TextBlock UInt8 8 :=
  ⟨(privKey.drop start).take 8, by
    rw [length_take, length_drop]
    omega⟩

/-- Zeros up to the next whole block. -/
def desPad (plaintext : Bytes) : Bytes :=
  let rem := plaintext.length % 8
  if rem ≠ 0 then plaintext ++ List.replicate (8 - rem) 0 else plaintext

section Encryption

variable (prims : CryptoPrimitives)

def desCbcEncrypt (key iv : TextBlock UInt8 8) (plaintext : Bytes) : Bytes :=
  joinBlocks (cbcEncrypt (prims.desEncrypt key) (mixBlocks (· ^^^ ·)) iv
    (splitBlocks 8 (desPad plaintext)).1)

def desCbcDecrypt (key iv : TextBlock UInt8 8) (ciphertext : Bytes) : Option Bytes :=
  if ciphertext.isEmpty || ciphertext.length % 8 ≠ 0 then none
  else some (joinBlocks (cbcDecrypt (prims.desDecrypt key) (mixBlocks (· ^^^ ·)) iv
    (splitBlocks 8 ciphertext).1))

def aesCfbEncrypt (algo : PrivAlgo) (key : TextBlock UInt8 algo.keyLen) (iv : TextBlock UInt8 16)
    (plaintext : Bytes) : Bytes :=
  cfbEncrypt (prims.aesEncrypt algo key) (· ^^^ ·) iv plaintext

def aesCfbDecrypt (algo : PrivAlgo) (key : TextBlock UInt8 algo.keyLen) (iv : TextBlock UInt8 16)
    (ciphertext : Bytes) : Bytes :=
  cfbDecrypt (prims.aesEncrypt algo key) (· ^^^ ·) iv ciphertext

def encryptScopedPdu (algo : PrivAlgo) (privKey : Bytes) (engineBoots engineTime : UInt32)
    (salt : TextBlock UInt8 8) (plaintext : Bytes) : Except CryptoError EncryptedPdu :=
  match algo with
  | .des =>
    if h : privKey.length < 16 then .error (.desKeyTooShort privKey.length)
    else
      let encKey := keyPart privKey 0 (by omega)
      let preIv := keyPart privKey 8 (by omega)
      .ok ⟨desCbcEncrypt prims encKey (xor8 preIv salt) plaintext, salt.1⟩
  | algo =>
    let need := algo.keyLen
    if h : privKey.length < need then .error (.aesKeyTooShort privKey.length need)
    else
      let key : TextBlock UInt8 need :=
        ⟨privKey.take need, length_take_of_le (Nat.not_lt.mp h)⟩
      .ok ⟨aesCfbEncrypt prims algo key (aesIv engineBoots engineTime salt) plaintext, salt.1⟩

def decryptScopedPdu (algo : PrivAlgo) (privKey : Bytes) (engineBoots engineTime : UInt32)
    (privacyParameters ciphertext : Bytes) : Except CryptoError Bytes :=
  match algo with
  | .des =>
    if h : privKey.length < 16 then .error (.desKeyTooShort privKey.length)
    else if hsalt : privacyParameters.length = 8 then
      let encKey := keyPart privKey 0 (by omega)
      let preIv := keyPart privKey 8 (by omega)
      match desCbcDecrypt prims encKey (xor8 preIv ⟨privacyParameters, hsalt⟩) ciphertext with
      | some plaintext => .ok plaintext
      | none => .error .desDecrypt
    else .error .desDecrypt
  | algo =>
    let need := algo.keyLen
    if h : privKey.length < need then .error (.aesKeyTooShort privKey.length need)
    else if hsalt : privacyParameters.length = 8 then
      let key : TextBlock UInt8 need :=
        ⟨privKey.take need, length_take_of_le (Nat.not_lt.mp h)⟩
      .ok (aesCfbDecrypt prims algo key (aesIv engineBoots engineTime ⟨privacyParameters, hsalt⟩)
        ciphertext)
    else .error .desDecrypt

end Encryption

/-! ## Decryption undoes encryption -/

section RoundTrip

variable (prims : CryptoPrimitives)

lemma xor_cancel (a b : UInt8) : a ^^^ b ^^^ b = a := by
  rw [UInt8.xor_assoc, UInt8.xor_self, UInt8.xor_zero]

lemma desPad_eq (plaintext : Bytes) : ∃ k < 8, desPad plaintext = plaintext ++ List.replicate k 0 ∧
      (desPad plaintext).length % 8 = 0 := by
  unfold desPad
  dsimp only
  split_ifs with hrem
  · refine ⟨8 - plaintext.length % 8, by omega, rfl, ?_⟩
    grind
  · simp_all

variable {plaintext : Bytes}

lemma desCbcDecrypt_desCbcEncrypt (key iv : TextBlock UInt8 8) (hne : plaintext ≠ []) :
    desCbcDecrypt prims key iv (desCbcEncrypt prims key iv plaintext) =
      some (desPad plaintext) := by
  obtain ⟨k, -, hpad, hmod⟩ := desPad_eq plaintext
  obtain ⟨blocks, hblocks⟩ := exists_joinBlocks_of_mod (by decide) hmod
  have hsplit : ∀ bs : List (TextBlock UInt8 8), splitBlocks 8 (joinBlocks bs) = (bs, []) := by
    intro bs
    have h := splitBlocks_joinBlocks (by decide) bs (show ([] : Bytes).length < 8 by decide)
    rwa [append_nil] at h
  have hsome : blocks ≠ [] := by
    rintro rfl
    rw [hblocks] at hpad
    exact hne (append_eq_nil_iff.mp hpad.symm).1
  rw [desCbcEncrypt, hblocks, hsplit]
  set ciphers := cbcEncrypt (prims.desEncrypt key) (mixBlocks (· ^^^ ·)) iv blocks with hcip
  have hlen : (joinBlocks ciphers).length = blocks.length * 8 := by
    rw [length_joinBlocks, hcip, length_cbcEncrypt]
  have hwhole : ((joinBlocks ciphers).isEmpty || decide ((joinBlocks ciphers).length % 8 ≠ 0)) =
      false := by
    have hpos := length_pos_iff.mpr hsome
    grind
  rw [desCbcDecrypt, hwhole, if_neg Bool.false_ne_true, hsplit, hcip,
    cbcDecrypt_cbcEncrypt (prims.des_inverse key) (mixBlocks_cancel xor_cancel)]

variable {privKey : Bytes}

lemma decryptScopedPdu_encryptScopedPdu_des (hkey : 16 ≤ privKey.length)
    (engineBoots engineTime : UInt32) (salt : TextBlock UInt8 8) (hne : plaintext ≠ []) :
    ∃ ciphertext, encryptScopedPdu prims .des privKey engineBoots engineTime salt plaintext =
        .ok ⟨ciphertext, salt.1⟩ ∧
      decryptScopedPdu prims .des privKey engineBoots engineTime salt.1 ciphertext =
        .ok (desPad plaintext) := by
  have hlong : ¬ privKey.length < 16 := Nat.not_lt.mpr hkey
  rw [encryptScopedPdu, dif_neg hlong]
  refine ⟨_, rfl, ?_⟩
  rw [decryptScopedPdu, dif_neg hlong, dif_pos salt.2]
  dsimp only
  rw [desCbcDecrypt_desCbcEncrypt prims _ _ hne]

lemma decryptScopedPdu_encryptScopedPdu_aes {algo : PrivAlgo} (halgo : algo ≠ .des)
    (hkey : algo.keyLen ≤ privKey.length) (engineBoots engineTime : UInt32)
    (salt : TextBlock UInt8 8) (plaintext : Bytes) :
    ∃ ciphertext, encryptScopedPdu prims algo privKey engineBoots engineTime salt plaintext =
        .ok ⟨ciphertext, salt.1⟩ ∧
      decryptScopedPdu prims algo privKey engineBoots engineTime salt.1 ciphertext =
        .ok plaintext := by
  have hlong : ¬ privKey.length < algo.keyLen := Nat.not_lt.mpr hkey
  have htrip : ∀ key iv, aesCfbDecrypt prims algo key iv (aesCfbEncrypt prims algo key iv plaintext)
      = plaintext := fun key iv => cfbDecrypt_cfbEncrypt (by decide) xor_cancel iv plaintext
  cases algo with
  | des => exact absurd rfl halgo
  | aes128 | aes192 | aes256 =>
    rw [encryptScopedPdu]
    · rw [dif_neg hlong]
      refine ⟨_, rfl, ?_⟩
      rw [decryptScopedPdu]
      · dsimp only
        grind
      · nofun
    · nofun

/-- As it was with AES; with DES followed by fewer zeros than a block has. -/
def Recovers (algo : PrivAlgo) (plaintext decrypted : Bytes) : Prop :=
  (algo ≠ .des → decrypted = plaintext) ∧
    (algo = .des → ∃ k < 8, decrypted = plaintext ++ List.replicate k 0)

lemma decryptScopedPdu_encryptScopedPdu {algo : PrivAlgo} (hkey : algo.keyLen ≤ privKey.length)
    (engineBoots engineTime : UInt32) (salt : TextBlock UInt8 8) (hne : plaintext ≠ []) :
    ∃ ciphertext decrypted,
      encryptScopedPdu prims algo privKey engineBoots engineTime salt plaintext =
        .ok ⟨ciphertext, salt.1⟩ ∧
      decryptScopedPdu prims algo privKey engineBoots engineTime salt.1 ciphertext =
        .ok decrypted ∧ Recovers algo plaintext decrypted := by
  by_cases hdes : algo = .des
  · subst hdes
    obtain ⟨ciphertext, henc, hdec⟩ :=
      decryptScopedPdu_encryptScopedPdu_des prims hkey engineBoots engineTime salt hne
    obtain ⟨k, hk, hpad, -⟩ := desPad_eq plaintext
    exact ⟨ciphertext, _, henc, hdec, fun h => absurd rfl h, fun _ => ⟨k, hk, hpad⟩⟩
  · obtain ⟨ciphertext, henc, hdec⟩ :=
      decryptScopedPdu_encryptScopedPdu_aes prims hdes hkey engineBoots engineTime salt plaintext
    exact ⟨ciphertext, _, henc, hdec, fun _ => rfl, fun h => absurd h hdes⟩

end RoundTrip

/-- For every algorithm, password, engine, clock, salt and text the key has the length needed,
encryption succeeds, and decryption gives the text back, with DES followed by fewer zeros than a
block has. -/
theorem privacy_round_trip (prims : CryptoPrimitives) (authAlgo : AuthAlgo) (privAlgo : PrivAlgo)
    (authLocalized : Bytes) (password : String) (engineId : Bytes) (engineBoots engineTime : UInt32)
    (salt : TextBlock UInt8 8) (plaintext : Bytes) (hne : plaintext ≠ []) :
    let key := derivePrivKey prims authLocalized password engineId authAlgo privAlgo
    key.length = privAlgo.keyLen ∧
    ∃ enc, encryptScopedPdu prims privAlgo key engineBoots engineTime salt plaintext = .ok enc ∧
      ∃ decrypted, decryptScopedPdu prims privAlgo key engineBoots engineTime
          enc.privacyParameters enc.ciphertext = .ok decrypted ∧
        (privAlgo ≠ .des → decrypted = plaintext) ∧
        (privAlgo = .des → ∃ k < 8, decrypted = plaintext ++ List.replicate k 0) := by
  dsimp only
  have hkey := length_derivePrivKey prims authLocalized password engineId authAlgo privAlgo
  obtain ⟨ciphertext, decrypted, henc, hdec, hrec⟩ :=
    decryptScopedPdu_encryptScopedPdu prims (Nat.le_of_eq hkey.symm) engineBoots engineTime salt hne
  exact ⟨hkey, _, henc, decrypted, hdec, hrec⟩

/-- Digests of zeros and ciphers that leave a block as it is. -/
def plainPrimitives : CryptoPrimitives where
  digest algo _ := List.replicate algo.keyLen 0
  digest_length _ _ := length_replicate
  hmac algo _ _ := List.replicate algo.keyLen 0
  desEncrypt _ block := block
  desDecrypt _ block := block
  des_inverse _ _ := rfl
  aesEncrypt _ _ block := block

/-- AES-256 with a digest of MD5, which is half as long, and two blocks and a half. -/
theorem privacy_round_trip_aes256 :
    let plaintext := (List.range 40).map UInt8.ofNat
    let key := derivePrivKey plainPrimitives [] "secret" [65] .md5 .aes256
    key.length = 32 ∧
    ∃ enc, encryptScopedPdu plainPrimitives .aes256 key 1 2 ⟨List.replicate 8 0, rfl⟩ plaintext =
        .ok enc ∧
      decryptScopedPdu plainPrimitives .aes256 key 1 2 enc.privacyParameters enc.ciphertext =
        .ok plaintext := by
  intro plaintext key
  obtain ⟨hlen, enc, henc, decrypted, hdec, haes, -⟩ :=
    privacy_round_trip plainPrimitives .md5 .aes256 [] "secret" [65] 1 2 ⟨List.replicate 8 0, rfl⟩
      plaintext (by decide)
  obtain rfl := haes (by decide)
  exact ⟨hlen, enc, henc, hdec⟩

/-! ## Sessions with these functions -/

/-- The cryptographic functions of a session. -/
def CryptoPrimitives.crypto (prims : CryptoPrimitives) : SnmpCrypto where
  localizeKey := localizeKey prims
  derivePrivKey := derivePrivKey prims
  hmacTruncated := hmacTruncated prims
  encryptScopedPdu algo privKey engineBoots engineTime salt plaintext :=
    -- The salts of the code are arrays of eight bytes.
    if hsalt : salt.length = 8 then
      (encryptScopedPdu prims algo privKey engineBoots engineTime ⟨salt, hsalt⟩ plaintext).mapError
        CryptoError.display
    else .error "salt"
  decryptScopedPdu algo privKey engineBoots engineTime privacyParameters ciphertext :=
    (decryptScopedPdu prims algo privKey engineBoots engineTime privacyParameters
      ciphertext).mapError CryptoError.display

variable {engine : EngineSnapshot} {session : V3Session} {authAlgo : AuthAlgo} {privAlgo : PrivAlgo}

lemma V3Session.KeysOf.length_privKey {prims : CryptoPrimitives}
    (hkeys : session.KeysOf prims.crypto engine) {password privPassword : String}
    (hauth : session.auth = .some authAlgo password)
    (hprivacy : session.privacy = .some privAlgo privPassword) :
    session.privKey.length = privAlgo.keyLen := by
  have hkey : session.privKey = derivePrivKey prims session.authKey privPassword engine.engineId
      authAlgo privAlgo := by
    have h := hkeys
    unfold V3Session.KeysOf deriveKeys at h
    rw [hauth, hprivacy] at h
    obtain ⟨haut, hprv⟩ := Prod.mk.inj h
    rw [hprv, haut]
    rfl
  rw [hkey]
  exact length_derivePrivKey prims _ _ _ _ _

/-- At the level `authPriv` every request is encrypted, and the privacy key recovers it. -/
theorem protectScopedPdu_eq_ok {prims : CryptoPrimitives}
    (hkeys : session.KeysOf prims.crypto engine) {password privPassword : String}
    (hauth : session.auth = .some authAlgo password)
    (hprivacy : session.privacy = .some privAlgo privPassword)
    (hlevel : session.securityLevel = .authPriv) (seq nanos : UInt64) (scopedPdu : ScopedPdu)
    {plaintext : Bytes} (hne : plaintext ≠ []) : ∃ ciphertext decrypted,
      protectScopedPdu prims.crypto session session.engine (nextSalt seq nanos) scopedPdu
        plaintext = .ok (.encrypted ciphertext, nextSalt seq nanos) ∧
      prims.crypto.decryptScopedPdu privAlgo session.privKey session.engine.engineBoots
        session.engine.engineTime (nextSalt seq nanos) ciphertext = .ok decrypted ∧
      Recovers privAlgo plaintext decrypted := by
  have hkey := Nat.le_of_eq (hkeys.length_privKey hauth hprivacy).symm
  have hsalt := length_nextSalt seq nanos
  obtain ⟨ciphertext, decrypted, henc, hdec, hrec⟩ :=
    decryptScopedPdu_encryptScopedPdu prims hkey session.engine.engineBoots
      session.engine.engineTime ⟨nextSalt seq nanos, hsalt⟩ hne
  refine ⟨ciphertext, decrypted, ?_, ?_, hrec⟩
  · rw [protectScopedPdu, hlevel, hprivacy]
    dsimp only [CryptoPrimitives.crypto]
    rw [dif_pos hsalt, henc]
    rfl
  · dsimp only [CryptoPrimitives.crypto]
    rw [hdec]
    rfl

/-- The keys of this session are derived with AES-256 from passwords. -/
def aesSession : V3Session :=
  let auth := .some .md5 "secret"
  let keys := deriveKeys plainPrimitives.crypto ⟨[65], 0, 0⟩ auth (.some .aes256 "secret")
  ⟨"monitor", .authPriv, auth, .some .aes256 "secret", keys.1, keys.2, ⟨[65], 0, 0⟩⟩

theorem protectScopedPdu_eq_ok_aes : ∃ scopedPdu ciphertext,
    protectScopedPdu plainPrimitives.crypto aesSession aesSession.engine (nextSalt 1 2) scopedPdu
      [7] = .ok (.encrypted ciphertext, nextSalt 1 2) := by
  have hkeys : aesSession.KeysOf plainPrimitives.crypto ⟨[65], 0, 0⟩ := rfl
  obtain ⟨ciphertext, -, henc, -⟩ := protectScopedPdu_eq_ok hkeys rfl rfl rfl 1 2
    ⟨[65], [], .getRequest ⟨0, 0, 0, []⟩⟩ (cons_ne_nil 7 [])
  exact ⟨_, ciphertext, henc⟩

end Rastreo
