import GreenBubbles.Library.Framing
import GreenBubbles.Library.Sealing
import GreenBubbles.Snapshot.Protector

/-! # Where a wrapped key opens

The texts that a wrapping key is derived from and that a ciphertext is bound to
tell the kinds of secrets, the snapshots and the protectors apart. Over ideal
cryptography a secret therefore opens what it wrapped, in the document and for
the snapshot it was wrapped for, and nothing else.
-/
namespace GreenBubbles.Snapshot

open Library Library.Bytes Library.Framing

/-! Length-prefixed fields -/

/-- The length of the text fits into the four bytes in front of it. -/
def Short (text : String) : Prop := text.utf8ByteSize < 2 ^ 32

theorem ofNat_byte_inj {a b : ℕ} (h : UInt8.ofNat a = UInt8.ofNat b) : a % 256 = b % 256 := by
  simpa using congrArg UInt8.toNat h

/-- A field is cut off the front. -/
theorem aadField_cut {value value' : String} (hshort : Short value) (hshort' : Short value')
    {rest rest' : List UInt8} (h : aadField value ++ rest = aadField value' ++ rest') :
    value = value' ∧ rest = rest' := by
  simp only [Short, Nat.reducePow] at hshort hshort'
  simp only [aadField, List.cons_append, List.nil_append, List.cons.injEq, Nat.reducePow] at h
  obtain ⟨hfirst, hsecond, hthird, hfourth, htext⟩ := h
  have hfirst := ofNat_byte_inj hfirst
  have hsecond := ofNat_byte_inj hsecond
  have hthird := ofNat_byte_inj hthird
  have hfourth := ofNat_byte_inj hfourth
  have hsize : value.utf8ByteSize = value'.utf8ByteSize := by omega
  obtain ⟨hvalue, hrest⟩ := List.append_inj htext (by rw [length_utf8, length_utf8, hsize])
  exact ⟨utf8_injective hvalue, hrest⟩

theorem aadFields_inj {values values' : List String} (hshort : ∀ value ∈ values, Short value)
    (hshort' : ∀ value ∈ values', Short value)
    (h : values.flatMap aadField = values'.flatMap aadField) : values = values' :=
  flatMap_inj_of_cut (fun _ => List.cons_ne_nil _ _)
    (fun value hvalue value' hvalue' _ _ hcut =>
      aadField_cut (hshort value hvalue) (hshort' value' hvalue') hcut) h

/-! What keys are derived from -/

/-- A query to one of the two derivation functions. -/
inductive KeyDerivation where
  | hkdf (salt secret info : List UInt8)
  | argon2 (password salt : List UInt8)

def KeyDerivation.key (crypto : Cryptography) : KeyDerivation → List UInt8
  | .hkdf salt secret info => crypto.hkdf salt secret info
  | .argon2 password salt => crypto.argon2 password salt

namespace SnapshotSecret

/-- The fields of the context, for the secrets whose derivation takes one. -/
def infoFields (snapshotId protectorId : String) : SnapshotSecret → List String
  | .recoveryWords _ => ["greenbubbles-snapshot-wrapping-key-v1", snapshotId, protectorId]
  | .localCredential credential =>
    ["greenbubbles-snapshot-local-wrapping-key-v1", snapshotId, protectorId,
      encode credential.credentialId]
  | .passphrase _ => []

def derivation (snapshotId protectorId : String) (salt : List UInt8) :
    SnapshotSecret → KeyDerivation
  | .recoveryWords words =>
    .hkdf salt words.entropy
      ((infoFields snapshotId protectorId (.recoveryWords words)).flatMap aadField)
  | .localCredential credential =>
    .hkdf salt credential.secret
      ((infoFields snapshotId protectorId (.localCredential credential)).flatMap aadField)
  | .passphrase phrase => .argon2 (utf8 phrase.text) salt

theorem wrappingKey_eq (crypto : Cryptography) (secret : SnapshotSecret)
    (snapshotId protectorId : String) (salt : List UInt8) :
    (secret.scheme crypto).wrappingKey snapshotId protectorId salt =
      (secret.derivation snapshotId protectorId salt).key crypto := by
  cases secret <;> rfl

/-- The fields a ciphertext is bound to. -/
def associatedFields (snapshotId protectorId salt nonce : String) : SnapshotSecret → List String
  | .recoveryWords _ =>
    ["greenbubbles-snapshot-key-protector-v1", snapshotId, protectorId, recoveryWordsProtectorKind,
      keyDerivationName, wrappingCipherName, salt, nonce]
  | .localCredential credential =>
    ["greenbubbles-snapshot-local-key-protector-v1", snapshotId, protectorId,
      localCredentialProtectorKind, keyDerivationName, wrappingCipherName,
      encode credential.credentialId, salt, nonce, "nonportable"]
  | .passphrase _ =>
    ["greenbubbles-snapshot-passphrase-key-protector-v1", snapshotId, protectorId,
      passphraseProtectorKind, passphraseKeyDerivationName, wrappingCipherName, salt, nonce,
      "portable-secondary"]

theorem associated_eq (crypto : Cryptography) (secret : SnapshotSecret)
    (snapshotId protectorId salt nonce : String) :
    (secret.scheme crypto).associated snapshotId protectorId salt nonce =
      (secret.associatedFields snapshotId protectorId salt nonce).flatMap aadField := by
  cases secret <;> rfl

/-- The kind of a secret, and the credential it names. -/
inductive Binding where
  | recoveryWords
  | localCredential (credentialId : List UInt8)
  | passphrase
  deriving DecidableEq

def binding : SnapshotSecret → Binding
  | .recoveryWords _ => .recoveryWords
  | .localCredential credential => .localCredential credential.credentialId
  | .passphrase _ => .passphrase

theorem short_encode (credential : SnapshotLocalCredential) :
    Short (encode credential.credentialId) := by
  rw [Short, utf8ByteSize_encode, credential.sizes.1]
  decide

section Injective

variable {secret secret' : SnapshotSecret} {snapshotId snapshotId' protectorId protectorId' : String}

theorem short_associatedFields (hsnapshot : Short snapshotId) (hprotector : Short protectorId)
    {salt nonce : String} (hsalt : Short salt) (hnonce : Short nonce) :
    ∀ field ∈ secret.associatedFields snapshotId protectorId salt nonce, Short field := by
  have hcredential := short_encode
  cases secret <;>
    simp only [associatedFields, List.forall_mem_cons, List.not_mem_nil, false_imp_iff,
      implies_true, and_true, hsnapshot, hprotector, hsalt, hnonce, hcredential, true_and] <;>
    simp only [Short] <;> decide

theorem short_infoFields (hsnapshot : Short snapshotId) (hprotector : Short protectorId) :
    ∀ field ∈ secret.infoFields snapshotId protectorId, Short field := by
  have hcredential := short_encode
  cases secret <;>
    simp only [infoFields, List.forall_mem_cons, List.not_mem_nil, false_imp_iff, implies_true,
      and_true, hsnapshot, hprotector, hcredential] <;>
    simp only [Short] <;> decide

/-- The associated data tell apart the kinds, the credentials, the snapshots, the protectors,
the salts and the nonces. -/
theorem associatedFields_inj {salt salt' nonce nonce' : String}
    (h : secret.associatedFields snapshotId protectorId salt nonce =
      secret'.associatedFields snapshotId' protectorId' salt' nonce') :
    secret.binding = secret'.binding ∧ snapshotId = snapshotId' ∧ protectorId = protectorId' ∧
      salt = salt' ∧ nonce = nonce' := by
  cases secret <;> cases secret' <;>
    simp_all [associatedFields, binding, encode_injective.eq_iff]

/-- The context tells apart all that the derivation of a kind of secret depends on. -/
theorem derivation_inj {salt salt' : List UInt8} (hsnapshot : Short snapshotId)
    (hprotector : Short protectorId) (hsnapshot' : Short snapshotId')
    (hprotector' : Short protectorId')
    (h : secret.derivation snapshotId protectorId salt =
      secret'.derivation snapshotId' protectorId' salt') :
    secret = secret' ∧ salt = salt' ∧
      (secret.binding ≠ .passphrase → snapshotId = snapshotId' ∧ protectorId = protectorId') := by
  have hshort : ∀ field ∈ secret.infoFields snapshotId protectorId, Short field :=
    short_infoFields hsnapshot hprotector
  have hshort' : ∀ field ∈ secret'.infoFields snapshotId' protectorId', Short field :=
    short_infoFields hsnapshot' hprotector'
  have hfields := aadFields_inj hshort hshort'
  cases secret with
  | recoveryWords words =>
    cases secret' with
    | recoveryWords words' =>
      simp only [derivation, KeyDerivation.hkdf.injEq] at h
      have hsame := hfields h.2.2
      simp only [infoFields, List.cons.injEq, and_true, true_and] at hsame
      obtain ⟨hsalt, hentropy, -⟩ := h
      cases words
      cases words'
      cases hentropy
      exact ⟨rfl, hsalt, fun _ => hsame⟩
    | localCredential credential' =>
      simp only [derivation, KeyDerivation.hkdf.injEq] at h
      exact absurd (hfields h.2.2) (by simp [infoFields])
    | passphrase phrase' => cases h
  | localCredential credential =>
    cases secret' with
    | recoveryWords words' =>
      simp only [derivation, KeyDerivation.hkdf.injEq] at h
      exact absurd (hfields h.2.2) (by simp [infoFields])
    | localCredential credential' =>
      simp only [derivation, KeyDerivation.hkdf.injEq] at h
      have hsame := hfields h.2.2
      simp only [infoFields, List.cons.injEq, and_true, true_and] at hsame
      obtain ⟨hsalt, hbytes, -⟩ := h
      have hid := encode_injective hsame.2.2
      cases credential
      cases credential'
      cases hbytes
      cases hid
      exact ⟨rfl, hsalt, fun _ => ⟨hsame.1, hsame.2.1⟩⟩
    | passphrase phrase' => cases h
  | passphrase phrase =>
    cases secret' with
    | recoveryWords words' => cases h
    | localCredential credential' => cases h
    | passphrase phrase' =>
      simp only [derivation, KeyDerivation.argon2.injEq] at h
      have htext := utf8_injective h.1
      cases phrase
      cases phrase'
      cases htext
      exact ⟨rfl, h.2, fun hkind => absurd rfl hkind⟩

end Injective

end SnapshotSecret

/-! Wrapping and unwrapping by kind -/

section ByKind

variable (crypto : Cryptography) (snapshotId : String)

def SnapshotSecret.wrap (draw : Option Draw) (databaseKey : SnapshotKey) :
    SnapshotSecret → Except SnapshotProtectorError WrappedSnapshotKey
  | .recoveryWords words =>
    wrapSnapshotDatabaseKeyWithRecoveryWords crypto draw snapshotId databaseKey words
  | .localCredential credential =>
    wrapSnapshotDatabaseKeyWithLocalCredential crypto draw snapshotId databaseKey credential
  | .passphrase phrase =>
    wrapSnapshotDatabaseKeyWithPassphrase crypto draw snapshotId databaseKey phrase

def SnapshotSecret.unwrap (protector : WrappedSnapshotKey) :
    SnapshotSecret → Except SnapshotProtectorError SnapshotKey
  | .recoveryWords words => unwrapSnapshotDatabaseKey crypto snapshotId protector words
  | .localCredential credential =>
    unwrapSnapshotDatabaseKeyWithLocalCredential crypto snapshotId protector credential
  | .passphrase phrase => unwrapSnapshotDatabaseKeyWithPassphrase crypto snapshotId protector phrase

theorem SnapshotSecret.wrap_eq (draw : Option Draw) (databaseKey : SnapshotKey)
    (secret : SnapshotSecret) : secret.wrap crypto snapshotId draw databaseKey =
      Snapshot.wrap crypto (secret.scheme crypto) draw snapshotId databaseKey := by
  cases secret <;> rfl

theorem SnapshotSecret.unwrap_eq (protector : WrappedSnapshotKey) (secret : SnapshotSecret) :
    secret.unwrap crypto snapshotId protector =
      Snapshot.unwrap crypto (secret.scheme crypto) snapshotId protector := by
  cases secret <;> rfl

end ByKind

/-! What was wrapped -/

/-- A database key as it was wrapped once. -/
structure Wrapping where
  secret : SnapshotSecret
  snapshotId : String
  databaseKey : SnapshotKey
  draw : Draw
  identity : isSha256 snapshotId = true

namespace Wrapping

variable (crypto : Cryptography) (wrapping : Wrapping)

def protectorId : String := encode wrapping.draw.protectorId

def associated : List UInt8 :=
  (wrapping.secret.scheme crypto).associated wrapping.snapshotId wrapping.protectorId
    (Base64.encode wrapping.draw.salt) (Base64.encode wrapping.draw.nonce)

/-- What the wrapping sealed. -/
def box : Sealing.Box (List UInt8) (List UInt8) (List UInt8) (List UInt8) where
  key := (wrapping.secret.derivation wrapping.snapshotId wrapping.protectorId
    wrapping.draw.salt).key crypto
  nonce := wrapping.draw.nonce
  associated := wrapping.associated crypto
  message := wrapping.databaseKey.bytes

/-- The document the wrapping gave. -/
def document : WrappedSnapshotKey where
  formatVersion := wrappedKeyFormatVersion
  protectorId := wrapping.protectorId
  kind := (wrapping.secret.scheme crypto).kind
  keyDerivation := (wrapping.secret.scheme crypto).keyDerivation
  salt := Base64.encode wrapping.draw.salt
  wrappingCipher := wrappingCipherName
  nonce := Base64.encode wrapping.draw.nonce
  wrappedDatabaseKey := Base64.encode ((wrapping.box crypto).sealed crypto.encrypt)
  portable := (wrapping.secret.scheme crypto).portable
  credentialId := (wrapping.secret.scheme crypto).credentialId

theorem wrap_eq : wrapping.secret.wrap crypto wrapping.snapshotId (some wrapping.draw)
    wrapping.databaseKey = .ok (wrapping.document crypto) := by
  rw [SnapshotSecret.wrap_eq, Snapshot.wrap, wrapping.identity]
  simp only [document, Sealing.Box.sealed, box, ← SnapshotSecret.wrappingKey_eq]
  rfl

end Wrapping

/-- Keys that differ wherever what they are derived from differs, and encryption that opens
what the wrappings sealed and nothing else. -/
structure Cryptography.Ideal (crypto : Cryptography) (wrappings : Set Wrapping) : Prop where
  derives : Function.Injective (KeyDerivation.key crypto)
  seals : Sealing.Ideal crypto.encrypt crypto.decrypt ((Wrapping.box crypto) '' wrappings)
  tagged : ∀ key nonce associated message,
    (crypto.encrypt key nonce associated message).length = message.length + 16

section Ideal

variable {crypto : Cryptography} {wrappings : Set Wrapping}

theorem short_of_isSha256 {snapshotId : String} (h : isSha256 snapshotId = true) :
    Short snapshotId := by
  rw [Short, utf8ByteSize_of_isSha256 h]
  decide

theorem short_of_isHexadecimal {value : String} (h : isHexadecimal 32 value = true) :
    Short value := by
  rw [isHexadecimal, Bool.and_eq_true, beq_iff_eq] at h
  rw [Short, h.1]
  decide

theorem isHexadecimal_protectorId (wrapping : Wrapping) :
    isHexadecimal 32 wrapping.protectorId = true := by
  have hdigits := isHexadecimal_encode wrapping.draw.protectorId
  rw [wrapping.draw.sizes.1] at hdigits
  exact hdigits

theorem decodeExact_ok {size : ℕ} {value : String} {bytes : List UInt8} :
    decodeExact size value = .ok bytes ↔ value = Base64.encode bytes ∧ bytes.length = size := by
  rw [← Base64.decode_eq_some, decodeExact]
  cases hdecoded : Base64.decode value with
  | none => simp
  | some decoded =>
    by_cases hsize : decoded.length = size
    · simp only [hsize, if_true, Except.ok.injEq, Option.some_inj]
      constructor
      · rintro rfl
        exact ⟨rfl, hsize⟩
      · exact fun h => h.1
    · simp only [hsize, if_false, reduceCtorEq, Option.some_inj, false_iff, not_and]
      rintro rfl
      exact hsize

/-- The text of few bytes is short. -/
theorem short_base64 {bytes : List UInt8} (h : bytes.length ≤ 48) : Short (Base64.encode bytes) := by
  have hsymbols : ∀ c ∈ (Base64.encode bytes).toList, c.utf8Size = 1 := by
    intro c hc
    rw [Base64.encode, String.toList_ofList, List.mem_map] at hc
    obtain ⟨value, hvalue, rfl⟩ := hc
    exact Base64.utf8Size_symbol value (Base64.sextets_lt bytes value hvalue)
  have hlength := Base64.length_encode bytes
  rw [Short, ← String.ofList_toList (s := Base64.encode bytes), utf8ByteSize_ofList hsymbols, hlength]
  omega

/-- How a key is unwrapped. -/
theorem unwrap_ok {scheme : ProtectorScheme} {snapshotId : String} {protector : WrappedSnapshotKey}
    {databaseKey : SnapshotKey} :
    unwrap crypto scheme snapshotId protector = .ok databaseKey ↔
      isSha256 snapshotId = true ∧ validateWrappedSnapshotKey protector = .ok () ∧
        (protector.kind = scheme.kind ∧ protector.portable = scheme.portable ∧
          protector.credentialId = scheme.credentialId) ∧
        ∃ salt nonce ciphertext, decodeExact 32 protector.salt = .ok salt ∧
          decodeExact 24 protector.nonce = .ok nonce ∧
          decodeExact 48 protector.wrappedDatabaseKey = .ok ciphertext ∧
          crypto.decrypt (scheme.wrappingKey snapshotId protector.protectorId salt) nonce
            (scheme.associated snapshotId protector.protectorId protector.salt protector.nonce)
            ciphertext = some databaseKey.bytes := by
  unfold unwrap
  cases hidentity : isSha256 snapshotId with
  | false => simp
  | true =>
    by_cases hmatch : protector.kind ≠ scheme.kind ∨ protector.portable ≠ scheme.portable ∨
        protector.credentialId ≠ scheme.credentialId
    · have hother : ¬(protector.kind = scheme.kind ∧ protector.portable = scheme.portable ∧
          protector.credentialId = scheme.credentialId) := by tauto
      cases hvalid : validateWrappedSnapshotKey protector <;>
        simp [hmatch, hother, bind, Except.bind]
    · have hsame : protector.kind = scheme.kind ∧ protector.portable = scheme.portable ∧
          protector.credentialId = scheme.credentialId := by tauto
      simp only [Bool.not_true, Bool.false_eq_true, if_false, check_bind_ok, if_neg hmatch]
      simp only [bind_ok, hsame, and_self, true_and]
      refine and_congr_right fun _ => ?_
      refine exists_congr fun salt => ⟨?_, ?_⟩
      · rintro ⟨hsalt, nonce, hnonce, ciphertext, hciphertext, hopen⟩
        split at hopen
        · cases hopen
        · next plaintext hplaintext =>
          split at hopen
          · cases hopen
            exact ⟨nonce, ciphertext, hsalt, hnonce, hciphertext, hplaintext⟩
          · cases hopen
      · rintro ⟨nonce, ciphertext, hsalt, hnonce, hciphertext, hopen⟩
        refine ⟨hsalt, nonce, hnonce, ciphertext, hciphertext, ?_⟩
        rw [hopen]
        exact dif_pos databaseKey.size

theorem validateWrappedSnapshotKey_ok {protector : WrappedSnapshotKey} :
    validateWrappedSnapshotKey protector = .ok () ↔
      (protector.formatVersion = wrappedKeyFormatVersion ∧
        isHexadecimal 32 protector.protectorId = true ∧
        protector.wrappingCipher = wrappingCipherName ∧
        knownKind protector.kind protector.keyDerivation protector.portable
          protector.credentialId = true) ∧
      (∃ salt, decodeExact 32 protector.salt = .ok salt) ∧
        (∃ nonce, decodeExact 24 protector.nonce = .ok nonce) ∧
          ∃ ciphertext, decodeExact 48 protector.wrappedDatabaseKey = .ok ciphertext := by
  unfold validateWrappedSnapshotKey
  by_cases hform : protector.formatVersion ≠ wrappedKeyFormatVersion ∨
      !isHexadecimal 32 protector.protectorId ∨ protector.wrappingCipher ≠ wrappingCipherName ∨
      !knownKind protector.kind protector.keyDerivation protector.portable protector.credentialId
  · rw [if_pos hform]
    simp only [reduceCtorEq, false_iff]
    intro h
    simp [h.1] at hform
  · rw [if_neg hform]
    simp only [ne_eq, Bool.not_eq_true', not_or, not_not, Bool.not_eq_false] at hform
    simp only [hform, and_self, true_and, bind_ok, pure, Except.pure, and_true, exists_and_right]

/-- The kind of a protector fixes how its key is derived. -/
theorem keyDerivation_of_knownKind {kind keyDerivation keyDerivation' : String}
    {portable portable' : Bool} {credentialId credentialId' : Option String}
    (h : knownKind kind keyDerivation portable credentialId = true)
    (h' : knownKind kind keyDerivation' portable' credentialId' = true) :
    keyDerivation = keyDerivation' := by
  unfold knownKind at h h'
  split_ifs at h h' with hwords hcredential hphrase
  all_goals simp only [Bool.and_eq_true, beq_iff_eq] at h h'
  · rw [h.2, h'.2]
  · rw [h.1.2, h'.1.2]
  · rw [h.2, h'.2]

/-- A secret opens what it wrapped, for the snapshot it was wrapped for. -/
theorem unwrap_document (hideal : crypto.Ideal wrappings) {wrapping : Wrapping}
    (hwrapping : wrapping ∈ wrappings) :
    wrapping.secret.unwrap crypto wrapping.snapshotId (wrapping.document crypto) =
      .ok wrapping.databaseKey := by
  have hsalt : decodeExact 32 (wrapping.document crypto).salt = .ok wrapping.draw.salt :=
    decodeExact_encode wrapping.draw.sizes.2.1
  have hnonce : decodeExact 24 (wrapping.document crypto).nonce = .ok wrapping.draw.nonce :=
    decodeExact_encode wrapping.draw.sizes.2.2
  have hciphertext : decodeExact 48 (wrapping.document crypto).wrappedDatabaseKey =
      .ok ((wrapping.box crypto).sealed crypto.encrypt) := by
    apply decodeExact_encode
    rw [Sealing.Box.sealed, hideal.tagged, Wrapping.box, wrapping.databaseKey.size]
  rw [SnapshotSecret.unwrap_eq, unwrap_ok, validateWrappedSnapshotKey_ok]
  refine ⟨wrapping.identity, ⟨⟨rfl, isHexadecimal_protectorId wrapping, rfl,
    wrapping.secret.known crypto⟩, ⟨_, hsalt⟩, ⟨_, hnonce⟩, ⟨_, hciphertext⟩⟩, ⟨rfl, rfl, rfl⟩,
    _, _, _, hsalt, hnonce, hciphertext, ?_⟩
  rw [SnapshotSecret.wrappingKey_eq]
  exact hideal.seals.opens _ ⟨wrapping, hwrapping, rfl⟩

/-- What a secret opens, it wrapped: in this document, for this snapshot. -/
theorem unwrap_eq_ok (hideal : crypto.Ideal wrappings) {secret : SnapshotSecret}
    {snapshotId : String} {protector : WrappedSnapshotKey} {databaseKey : SnapshotKey} :
    secret.unwrap crypto snapshotId protector = .ok databaseKey ↔
      ∃ wrapping ∈ wrappings, wrapping.secret = secret ∧ wrapping.snapshotId = snapshotId ∧
        wrapping.databaseKey = databaseKey ∧ wrapping.document crypto = protector := by
  constructor
  · intro h
    rw [SnapshotSecret.unwrap_eq, unwrap_ok, validateWrappedSnapshotKey_ok] at h
    obtain ⟨hidentity, ⟨⟨hversion, hid, hcipher, hkind⟩, -⟩, hscheme, salt, nonce, ciphertext,
      hsalt, hnonce, hciphertext, hopen⟩ := h
    obtain ⟨box, ⟨wrapping, hwrapping, rfl⟩, hkey, hnonceBox, hassociated, hmessage, hsealed⟩ :=
      hideal.seals.decrypt_eq_some.mp hopen
    rw [decodeExact_ok] at hsalt hnonce hciphertext
    -- what the ciphertext is bound to
    have hsnapshot := short_of_isSha256 hidentity
    have hprotector := short_of_isHexadecimal hid
    have hsnapshot' := short_of_isSha256 wrapping.identity
    have hprotector' := short_of_isHexadecimal (isHexadecimal_protectorId wrapping)
    change (wrapping.secret.scheme crypto).associated _ _ _ _ = _ at hassociated
    rw [SnapshotSecret.associated_eq, SnapshotSecret.associated_eq] at hassociated
    have hfields := aadFields_inj
      (SnapshotSecret.short_associatedFields hsnapshot' hprotector'
        (short_base64 (by rw [wrapping.draw.sizes.2.1]; decide))
        (short_base64 (by rw [wrapping.draw.sizes.2.2]; decide)))
      (SnapshotSecret.short_associatedFields hsnapshot hprotector
        (hsalt.1 ▸ short_base64 (by rw [hsalt.2]; decide))
        (hnonce.1 ▸ short_base64 (by rw [hnonce.2]; decide))) hassociated
    obtain ⟨-, hsameSnapshot, hsameProtector, hsameSalt, hsameNonce⟩ :=
      SnapshotSecret.associatedFields_inj hfields
    -- what its key was derived from
    rw [SnapshotSecret.wrappingKey_eq] at hkey
    obtain ⟨hsecret, -, -⟩ := SnapshotSecret.derivation_inj hsnapshot' hprotector' hsnapshot
      hprotector (hideal.derives hkey)
    have hbytes : wrapping.databaseKey = databaseKey := by
      cases hkeys : wrapping.databaseKey
      cases databaseKey
      simp only [Wrapping.box, hkeys] at hmessage
      cases hmessage
      rfl
    have hderivation : (wrapping.secret.scheme crypto).keyDerivation = protector.keyDerivation := by
      have hknown := wrapping.secret.known crypto
      rw [hscheme.1, ← hsecret] at hkind
      exact keyDerivation_of_knownKind hknown hkind
    refine ⟨wrapping, hwrapping, hsecret, hsameSnapshot, hbytes, ?_⟩
    rw [show protector = ⟨_, _, _, _, _, _, _, _, _, _⟩ from rfl, Wrapping.document,
      WrappedSnapshotKey.mk.injEq]
    exact ⟨hversion.symm, hsameProtector, by rw [hsecret, hscheme.1], hderivation, hsameSalt,
      hcipher.symm, hsameNonce, by rw [hsealed, ← hciphertext.1], by rw [hsecret, hscheme.2.1],
      by rw [hsecret, hscheme.2.2]⟩
  · rintro ⟨wrapping, hwrapping, rfl, rfl, rfl, rfl⟩
    exact unwrap_document hideal hwrapping

end Ideal

end GreenBubbles.Snapshot
