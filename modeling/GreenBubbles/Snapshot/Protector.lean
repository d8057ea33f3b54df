import GreenBubbles.Digest
import GreenBubbles.Library.Base64

/-! # Snapshot key protectors

The database key of a snapshot, wrapped once for each secret that may unlock
it. The three kinds of protector wrap and unwrap alike and differ in a scheme.
-/
namespace GreenBubbles.Snapshot

open Library Library.Bytes

inductive SnapshotProtectorError where
  | invalidProtector
  | randomGeneration
  deriving DecidableEq

structure SnapshotKey where
  bytes : List UInt8
  size : bytes.length = 32
  deriving DecidableEq

structure SnapshotRecoveryWords where
  entropy : List UInt8
  size : entropy.length = 32
  deriving DecidableEq

structure SnapshotLocalCredential where
  credentialId : List UInt8
  secret : List UInt8
  sizes : credentialId.length = 16 ∧ secret.length = 32
  deriving DecidableEq

/-- Twelve to 1024 bytes of text without a NUL. -/
structure SnapshotPassphrase where
  text : String
  sizes : 12 ≤ text.utf8ByteSize ∧ text.utf8ByteSize ≤ 1024
  plain : '\x00' ∉ text.toList
  deriving DecidableEq

structure WrappedSnapshotKey where
  formatVersion : ℕ
  protectorId : String
  kind : String
  keyDerivation : String
  salt : String
  wrappingCipher : String
  nonce : String
  wrappedDatabaseKey : String
  portable : Bool
  credentialId : Option String
  deriving DecidableEq

def wrappedKeyFormatVersion : ℕ := 1
def wrappingCipherName : String := "xchacha20Poly1305"
def recoveryWordsProtectorKind : String := "bip39English24"
def localCredentialProtectorKind : String := "localCredentialV1"
def passphraseProtectorKind : String := "argon2idPassphraseV1"
def keyDerivationName : String := "hkdfSha256"
def passphraseKeyDerivationName : String := "argon2idV19-m65536-t3-p1"

/-- Key derivation and authenticated encryption. -/
structure Cryptography where
  hkdf (salt secret info : List UInt8) : List UInt8
  argon2 (password salt : List UInt8) : List UInt8
  encrypt (key nonce associated message : List UInt8) : List UInt8
  decrypt (key nonce associated ciphertext : List UInt8) : Option (List UInt8)

/-- An encryption opens under its own key and carries a tag of sixteen bytes. -/
structure Cryptography.Lawful (crypto : Cryptography) : Prop where
  opens : ∀ key nonce associated message,
    crypto.decrypt key nonce associated (crypto.encrypt key nonce associated message) = some message
  tagged : ∀ key nonce associated message,
    (crypto.encrypt key nonce associated message).length = message.length + 16

/-- What is encrypted under a key derived from one of these secrets is refused under a key
derived from another of them. -/
structure Cryptography.Separates (crypto : Cryptography) (secrets passwords : Set (List UInt8)) :
    Prop where
  hkdf : ∀ secret ∈ secrets, ∀ other ∈ secrets, other ≠ secret →
    ∀ salt info nonce associated message,
      crypto.decrypt (crypto.hkdf salt other info) nonce associated
        (crypto.encrypt (crypto.hkdf salt secret info) nonce associated message) = none
  argon2 : ∀ secret ∈ passwords, ∀ other ∈ passwords, other ≠ secret →
    ∀ salt nonce associated message,
      crypto.decrypt (crypto.argon2 other salt) nonce associated
        (crypto.encrypt (crypto.argon2 secret salt) nonce associated message) = none

/-- The length in four bytes, the most significant one first, and the value. -/
def aadField (value : String) : List UInt8 :=
  let length := value.utf8ByteSize % 2 ^ 32
  [.ofNat (length / 2 ^ 24), .ofNat (length / 2 ^ 16), .ofNat (length / 2 ^ 8), .ofNat length] ++
    utf8 value

/-- What one kind of protector makes of its secret. -/
structure ProtectorScheme where
  kind : String
  keyDerivation : String
  portable : Bool
  credentialId : Option String
  associated : (snapshotId protectorId salt nonce : String) → List UInt8
  wrappingKey : (snapshotId protectorId : String) → (salt : List UInt8) → List UInt8

section Schemes

variable (crypto : Cryptography)

def recoveryWordsScheme (words : SnapshotRecoveryWords) : ProtectorScheme where
  kind := recoveryWordsProtectorKind
  keyDerivation := keyDerivationName
  portable := true
  credentialId := none
  associated snapshotId protectorId salt nonce :=
    ["greenbubbles-snapshot-key-protector-v1", snapshotId, protectorId, recoveryWordsProtectorKind,
      keyDerivationName, wrappingCipherName, salt, nonce].flatMap aadField
  wrappingKey snapshotId protectorId salt := crypto.hkdf salt words.entropy
    (["greenbubbles-snapshot-wrapping-key-v1", snapshotId, protectorId].flatMap aadField)

def localCredentialScheme (credential : SnapshotLocalCredential) : ProtectorScheme where
  kind := localCredentialProtectorKind
  keyDerivation := keyDerivationName
  portable := false
  credentialId := some (encode credential.credentialId)
  associated snapshotId protectorId salt nonce :=
    ["greenbubbles-snapshot-local-key-protector-v1", snapshotId, protectorId,
      localCredentialProtectorKind, keyDerivationName, wrappingCipherName,
      encode credential.credentialId, salt, nonce, "nonportable"].flatMap aadField
  wrappingKey snapshotId protectorId salt := crypto.hkdf salt credential.secret
    (["greenbubbles-snapshot-local-wrapping-key-v1", snapshotId, protectorId,
      encode credential.credentialId].flatMap aadField)

def passphraseScheme (passphrase : SnapshotPassphrase) : ProtectorScheme where
  kind := passphraseProtectorKind
  keyDerivation := passphraseKeyDerivationName
  portable := true
  credentialId := none
  associated snapshotId protectorId salt nonce :=
    ["greenbubbles-snapshot-passphrase-key-protector-v1", snapshotId, protectorId,
      passphraseProtectorKind, passphraseKeyDerivationName, wrappingCipherName, salt, nonce,
      "portable-secondary"].flatMap aadField
  wrappingKey _ _ salt := crypto.argon2 (utf8 passphrase.text) salt

end Schemes

/-- `count` hexadecimal digits. -/
def isHexadecimal (count : ℕ) (value : String) : Bool :=
  value.utf8ByteSize == count && value.toList.all isAsciiHexDigit

def decodeExact (size : ℕ) (value : String) : Except SnapshotProtectorError (List UInt8) :=
  match Base64.decode value with
  | none => .error .invalidProtector
  | some bytes => if bytes.length = size then .ok bytes else .error .invalidProtector

/-- The kinds of protector there are. -/
def knownKind (kind keyDerivation : String) (portable : Bool) (credentialId : Option String) :
    Bool :=
  if kind = recoveryWordsProtectorKind then
    portable && credentialId.isNone && keyDerivation == keyDerivationName
  else if kind = localCredentialProtectorKind then
    !portable && keyDerivation == keyDerivationName && credentialId.any (isHexadecimal 32)
  else if kind = passphraseProtectorKind then
    portable && credentialId.isNone && keyDerivation == passphraseKeyDerivationName
  else false

def validateWrappedSnapshotKey (protector : WrappedSnapshotKey) :
    Except SnapshotProtectorError Unit :=
  if protector.formatVersion ≠ wrappedKeyFormatVersion ∨
      !isHexadecimal 32 protector.protectorId ∨ protector.wrappingCipher ≠ wrappingCipherName ∨
      !knownKind protector.kind protector.keyDerivation protector.portable
        protector.credentialId then
    .error .invalidProtector
  else do
    let _ ← decodeExact 32 protector.salt
    let _ ← decodeExact 24 protector.nonce
    let _ ← decodeExact 48 protector.wrappedDatabaseKey

/-- What the generator of random bytes gave one protector. -/
structure Draw where
  protectorId : List UInt8
  salt : List UInt8
  nonce : List UInt8
  sizes : protectorId.length = 16 ∧ salt.length = 32 ∧ nonce.length = 24

section Wrapping

variable (crypto : Cryptography) (scheme : ProtectorScheme)

def wrap (draw : Option Draw) (snapshotId : String) (databaseKey : SnapshotKey) :
    Except SnapshotProtectorError WrappedSnapshotKey :=
  if !isSha256 snapshotId then .error .invalidProtector
  else
    match draw with
    | none => .error .randomGeneration
    | some draw =>
      let protectorId := encode draw.protectorId
      let salt := Base64.encode draw.salt
      let nonce := Base64.encode draw.nonce
      .ok
        { formatVersion := wrappedKeyFormatVersion
          protectorId
          kind := scheme.kind
          keyDerivation := scheme.keyDerivation
          salt
          wrappingCipher := wrappingCipherName
          nonce
          wrappedDatabaseKey := Base64.encode (crypto.encrypt
            (scheme.wrappingKey snapshotId protectorId draw.salt) draw.nonce
            (scheme.associated snapshotId protectorId salt nonce) databaseKey.bytes)
          portable := scheme.portable
          credentialId := scheme.credentialId }

def unwrap (snapshotId : String) (protector : WrappedSnapshotKey) :
    Except SnapshotProtectorError SnapshotKey :=
  if !isSha256 snapshotId then .error .invalidProtector
  else do
    validateWrappedSnapshotKey protector
    if protector.kind ≠ scheme.kind ∨ protector.portable ≠ scheme.portable ∨
        protector.credentialId ≠ scheme.credentialId then
      .error .invalidProtector
    let salt ← decodeExact 32 protector.salt
    let nonce ← decodeExact 24 protector.nonce
    let ciphertext ← decodeExact 48 protector.wrappedDatabaseKey
    match crypto.decrypt (scheme.wrappingKey snapshotId protector.protectorId salt) nonce
        (scheme.associated snapshotId protector.protectorId protector.salt protector.nonce)
        ciphertext with
    | none => .error .invalidProtector
    | some plaintext =>
      if size : plaintext.length = 32 then .ok ⟨plaintext, size⟩ else .error .invalidProtector

end Wrapping

section Names

variable (crypto : Cryptography) (draw : Option Draw) (snapshotId : String)
  (databaseKey : SnapshotKey) (protector : WrappedSnapshotKey)

def wrapSnapshotDatabaseKeyWithRecoveryWords (words : SnapshotRecoveryWords) :=
  wrap crypto (recoveryWordsScheme crypto words) draw snapshotId databaseKey

def wrapSnapshotDatabaseKeyWithLocalCredential (credential : SnapshotLocalCredential) :=
  wrap crypto (localCredentialScheme crypto credential) draw snapshotId databaseKey

def wrapSnapshotDatabaseKeyWithPassphrase (passphrase : SnapshotPassphrase) :=
  wrap crypto (passphraseScheme crypto passphrase) draw snapshotId databaseKey

def unwrapSnapshotDatabaseKey (words : SnapshotRecoveryWords) :=
  unwrap crypto (recoveryWordsScheme crypto words) snapshotId protector

def unwrapSnapshotDatabaseKeyWithLocalCredential (credential : SnapshotLocalCredential) :=
  unwrap crypto (localCredentialScheme crypto credential) snapshotId protector

def unwrapSnapshotDatabaseKeyWithPassphrase (passphrase : SnapshotPassphrase) :=
  unwrap crypto (passphraseScheme crypto passphrase) snapshotId protector

end Names

/-! What was wrapped is unwrapped by its own secret only -/

theorem isHexadecimal_encode (bytes : List UInt8) :
    isHexadecimal (2 * bytes.length) (encode bytes) = true := by
  rw [isHexadecimal, utf8ByteSize_encode, all_isAsciiHexDigit_encode, beq_self_eq_true,
    Bool.and_self]

theorem decodeExact_encode {size : ℕ} {bytes : List UInt8} (h : bytes.length = size) :
    decodeExact size (Base64.encode bytes) = .ok bytes := by
  rw [decodeExact, Base64.decode_encode]
  exact if_pos h

def ProtectorScheme.Known (scheme : ProtectorScheme) : Prop :=
  knownKind scheme.kind scheme.keyDerivation scheme.portable scheme.credentialId = true

theorem knownKind_recoveryWords (crypto : Cryptography) (words : SnapshotRecoveryWords) :
    (recoveryWordsScheme crypto words).Known := by
  simp [ProtectorScheme.Known, knownKind, recoveryWordsScheme]

theorem knownKind_localCredential (crypto : Cryptography) (credential : SnapshotLocalCredential) :
    (localCredentialScheme crypto credential).Known := by
  have hdigits := isHexadecimal_encode credential.credentialId
  rw [credential.sizes.1] at hdigits
  simp [ProtectorScheme.Known, knownKind, localCredentialScheme, recoveryWordsProtectorKind,
    localCredentialProtectorKind, hdigits]

theorem knownKind_passphrase (crypto : Cryptography) (passphrase : SnapshotPassphrase) :
    (passphraseScheme crypto passphrase).Known := by
  simp [ProtectorScheme.Known, knownKind, passphraseScheme, recoveryWordsProtectorKind,
    localCredentialProtectorKind, passphraseProtectorKind]

section Wrapped

variable {crypto : Cryptography} {scheme : ProtectorScheme} {snapshotId : String}
  {databaseKey : SnapshotKey} {draw : Option Draw} {protector : WrappedSnapshotKey}

/-- What a protector is made of. -/
structure Wraps (crypto : Cryptography) (scheme : ProtectorScheme) (snapshotId : String)
    (databaseKey : SnapshotKey) (protector : WrappedSnapshotKey) (draw : Draw) : Prop where
  identity : isSha256 snapshotId = true
  formatVersion : protector.formatVersion = wrappedKeyFormatVersion
  wrappingCipher : protector.wrappingCipher = wrappingCipherName
  kind : protector.kind = scheme.kind
  keyDerivation : protector.keyDerivation = scheme.keyDerivation
  portable : protector.portable = scheme.portable
  credentialId : protector.credentialId = scheme.credentialId
  protectorId : protector.protectorId = encode draw.protectorId
  salt : protector.salt = Base64.encode draw.salt
  nonce : protector.nonce = Base64.encode draw.nonce
  wrappedDatabaseKey : protector.wrappedDatabaseKey = Base64.encode (crypto.encrypt
    (scheme.wrappingKey snapshotId protector.protectorId draw.salt) draw.nonce
    (scheme.associated snapshotId protector.protectorId protector.salt protector.nonce)
    databaseKey.bytes)

theorem wraps_of_wrap (h : wrap crypto scheme draw snapshotId databaseKey = .ok protector) :
    ∃ draw, Wraps crypto scheme snapshotId databaseKey protector draw := by
  unfold wrap at h
  split at h
  · cases h
  · cases draw with
    | none => cases h
    | some draw =>
      cases h
      exact ⟨draw, by simp_all, rfl, rfl, rfl, rfl, rfl, rfl, rfl, rfl, rfl, rfl⟩

namespace Wraps

variable {draw : Draw} (h : Wraps crypto scheme snapshotId databaseKey protector draw)
include h

theorem decodes_salt : decodeExact 32 protector.salt = .ok draw.salt := by
  rw [h.salt, decodeExact_encode draw.sizes.2.1]

theorem decodes_nonce : decodeExact 24 protector.nonce = .ok draw.nonce := by
  rw [h.nonce, decodeExact_encode draw.sizes.2.2]

theorem decodes_key (hlawful : crypto.Lawful) :
    decodeExact 48 protector.wrappedDatabaseKey = .ok (crypto.encrypt
      (scheme.wrappingKey snapshotId protector.protectorId draw.salt) draw.nonce
      (scheme.associated snapshotId protector.protectorId protector.salt protector.nonce)
      databaseKey.bytes) := by
  rw [h.wrappedDatabaseKey, decodeExact_encode]
  rw [hlawful.tagged, databaseKey.size]

theorem valid (hlawful : crypto.Lawful) (hknown : scheme.Known) :
    validateWrappedSnapshotKey protector = .ok () := by
  have hid : isHexadecimal 32 protector.protectorId = true := by
    have hdigits := isHexadecimal_encode draw.protectorId
    rw [draw.sizes.1] at hdigits
    rw [h.protectorId]
    exact hdigits
  have hkind : knownKind protector.kind protector.keyDerivation protector.portable
      protector.credentialId = true := by
    rw [h.kind, h.keyDerivation, h.portable, h.credentialId]
    exact hknown
  rw [validateWrappedSnapshotKey, if_neg, h.decodes_salt, h.decodes_nonce, h.decodes_key hlawful]
  · rfl
  · simp [h.formatVersion, h.wrappingCipher, hid, hkind]

/-- The secret that wrapped a key unwraps it. -/
theorem unwrap (hlawful : crypto.Lawful) (hknown : scheme.Known) :
    unwrap crypto scheme snapshotId protector = .ok databaseKey := by
  rw [Snapshot.unwrap, h.identity, h.valid hlawful hknown, h.decodes_salt, h.decodes_nonce,
    h.decodes_key hlawful]
  simp [h.kind, h.portable, h.credentialId, hlawful.opens, databaseKey.size, bind, Except.bind]

/-- A scheme whose key does not open the encryption is refused. -/
theorem refuses (hlawful : crypto.Lawful) (hknown : scheme.Known) {other : ProtectorScheme}
    (hother : other.credentialId = scheme.credentialId → other.kind = scheme.kind →
      crypto.decrypt (other.wrappingKey snapshotId protector.protectorId draw.salt) draw.nonce
        (other.associated snapshotId protector.protectorId protector.salt protector.nonce)
        (crypto.encrypt (scheme.wrappingKey snapshotId protector.protectorId draw.salt) draw.nonce
          (scheme.associated snapshotId protector.protectorId protector.salt protector.nonce)
          databaseKey.bytes) = none) :
    Snapshot.unwrap crypto other snapshotId protector = .error .invalidProtector := by
  rw [Snapshot.unwrap, h.identity, h.valid hlawful hknown]
  by_cases hmatch : protector.kind ≠ other.kind ∨ protector.portable ≠ other.portable ∨
      protector.credentialId ≠ other.credentialId
  · simp only [Bool.not_true, Bool.false_eq_true, if_false, bind, Except.bind, if_pos hmatch]
  · rw [h.decodes_salt, h.decodes_nonce, h.decodes_key hlawful]
    simp only [ne_eq, not_or, not_not] at hmatch
    have hnone := hother (h.credentialId ▸ hmatch.2.2.symm) (h.kind ▸ hmatch.1.symm)
    simp [bind, Except.bind, hmatch.1, hmatch.2, hnone]

end Wraps

end Wrapped

/-! The three kinds of secret -/

inductive SnapshotSecret where
  | recoveryWords (words : SnapshotRecoveryWords)
  | localCredential (credential : SnapshotLocalCredential)
  | passphrase (phrase : SnapshotPassphrase)
  deriving DecidableEq

namespace SnapshotSecret

def scheme (crypto : Cryptography) : SnapshotSecret → ProtectorScheme
  | .recoveryWords words => recoveryWordsScheme crypto words
  | .localCredential credential => localCredentialScheme crypto credential
  | .passphrase phrase => passphraseScheme crypto phrase

/-- The secret is among the ones the cryptography tells apart. -/
def Among (secrets passwords : Set (List UInt8)) : SnapshotSecret → Prop
  | .recoveryWords words => words.entropy ∈ secrets
  | .localCredential credential => credential.secret ∈ secrets
  | .passphrase phrase => utf8 phrase.text ∈ passwords

theorem known (crypto : Cryptography) (secret : SnapshotSecret) :
    (secret.scheme crypto).Known := by
  cases secret with
  | recoveryWords words => exact knownKind_recoveryWords crypto words
  | localCredential credential => exact knownKind_localCredential crypto credential
  | passphrase phrase => exact knownKind_passphrase crypto phrase

end SnapshotSecret

theorem kinds_distinct : recoveryWordsProtectorKind ≠ localCredentialProtectorKind ∧
    recoveryWordsProtectorKind ≠ passphraseProtectorKind ∧
    localCredentialProtectorKind ≠ passphraseProtectorKind := by
  decide

theorem Wraps.refuses_other {crypto : Cryptography} {secrets passwords : Set (List UInt8)}
    (hlawful : crypto.Lawful) (hseparates : crypto.Separates secrets passwords)
    (secret other : SnapshotSecret) {snapshotId : String} {databaseKey : SnapshotKey}
    {protector : WrappedSnapshotKey} {draw : Draw}
    (h : Wraps crypto (secret.scheme crypto) snapshotId databaseKey protector draw)
    (hsecret : secret.Among secrets passwords) (hother : other.Among secrets passwords)
    (hne : other ≠ secret) :
    Snapshot.unwrap crypto (other.scheme crypto) snapshotId protector =
      .error .invalidProtector := by
  apply h.refuses hlawful (secret.known crypto)
  intro hcredential hkind
  cases secret with
  | recoveryWords words =>
    cases other with
    | recoveryWords words' =>
      refine hseparates.hkdf _ hsecret _ hother (fun hsame => hne ?_) ..
      cases words
      cases words'
      cases hsame
      rfl
    | localCredential _ => exact absurd hkind kinds_distinct.1.symm
    | passphrase _ => exact absurd hkind kinds_distinct.2.1.symm
  | localCredential credential =>
    cases other with
    | recoveryWords _ => exact absurd hkind kinds_distinct.1
    | localCredential credential' =>
      have hid : credential'.credentialId = credential.credentialId :=
        encode_injective (Option.some.inj hcredential)
      simp only [SnapshotSecret.scheme, localCredentialScheme, hid]
      refine hseparates.hkdf _ hsecret _ hother (fun hsame => hne ?_) ..
      cases credential
      cases credential'
      cases hsame
      cases hid
      rfl
    | passphrase _ => exact absurd hkind kinds_distinct.2.2.symm
  | passphrase phrase =>
    cases other with
    | recoveryWords _ => exact absurd hkind kinds_distinct.2.1
    | localCredential _ => exact absurd hkind kinds_distinct.2.2
    | passphrase phrase' =>
      refine hseparates.argon2 _ hsecret _ hother (fun hsame => hne ?_) ..
      cases phrase
      cases phrase'
      cases utf8_injective hsame
      rfl

end GreenBubbles.Snapshot
