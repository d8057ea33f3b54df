import GreenBubbles.Snapshot.Protector

/-! # Recoverable snapshots

The manifest of a snapshot, the contract it keeps, and what verifies and
unlocks a snapshot. SQLCipher and the length of a written manifest are
parameters.
-/
namespace GreenBubbles.Snapshot

open Library

inductive RecoverableSnapshotError where
  | invalidArgument (reason : String)
  | unsafePath (reason : String)
  | database (logicalPath reason : String)
  | integrity (reason : String)
  | io (reason : String)
  | json (reason : String)
  | sqlite (reason : String)
  | liveQuery (reason : String)
  | protector (error : SnapshotProtectorError)
  deriving DecidableEq

inductive SnapshotSourceMode where
  | liveEncrypted | stableAcquisitionSnapshot | recoverableSnapshot | decrypted
  deriving DecidableEq

structure SnapshotConsistency where
  guarantee : String
  databaseCount : ℕ
  crossDatabaseAtomic : Bool
  deriving DecidableEq

structure SnapshotProtection where
  databaseEncryption : String
  recoveryProtector : String
  independentOfWechatKey : Bool
  plaintextDatabaseFiles : Bool
  protectors : List WrappedSnapshotKey
  deriving DecidableEq

structure RecoverableSnapshotDatabase where
  relativePath : String
  byteCount : ℕ
  pageCount : ℕ
  sha256 : String
  sqliteIntegrityCheck : String
  encryptedAtRest : Bool
  deriving DecidableEq

structure RecoverableSnapshotManifest where
  schema : String
  formatVersion : ℕ
  snapshotId : String
  parentSnapshotId : Option String
  createdAtUnixMilliseconds : ℕ
  sourceIdentity : String
  sourceMode : SnapshotSourceMode
  consistency : SnapshotConsistency
  protection : SnapshotProtection
  recoveryVerified : Bool
  databases : List RecoverableSnapshotDatabase
  deriving DecidableEq

def recoverableSnapshotSchema : String := "greenbubbles.recoverable-snapshot.v1"
def recoverableSnapshotFormatVersion : ℕ := 1
def recoverableSnapshotWrappedSchema : String := "greenbubbles.recoverable-snapshot.v2"
def recoverableSnapshotWrappedFormatVersion : ℕ := 2
def maximumManifestBytes : ℕ := 8 * 1024 * 1024
def sqliteHeader : List UInt8 := Bytes.utf8 "SQLite format 3\x00"

/-- The names a path below the data directory is made of. -/
abbrev DatabasePath := List String

/-- Shared by all memberships of paths. -/
scoped instance : LawfulBEq DatabasePath := inferInstance

/-- A directory with a manifest and a data directory. -/
structure Generation where
  manifest : Option RecoverableSnapshotManifest
  files : List (DatabasePath × List UInt8)
  deriving DecidableEq

structure Environment where
  crypto : Cryptography
  /-- Opens a database under a key, checks its integrity and counts its pages. -/
  openDatabase : SnapshotKey → List UInt8 → Except String ℤ
  manifestBytes : RecoverableSnapshotManifest → ℕ

/-- A check of the source that ends in an error when its condition holds. -/
def refuseIf (condition : Bool) (error : RecoverableSnapshotError) :
    Except RecoverableSnapshotError Unit :=
  if condition then .error error else .ok ()

@[simp] theorem refuseIf_ok {condition : Bool} {error : RecoverableSnapshotError} :
    refuseIf condition error = .ok () ↔ condition = false := by
  cases condition <;> simp [refuseIf]

/-! Paths of databases -/

def extension (name : String) : Option String :=
  let reversed := name.toList.reverse
  let stem := (reversed.dropWhile (· ≠ '.')).drop 1
  if stem = [] then none else some (.ofList (reversed.takeWhile (· ≠ '.')).reverse)

def isDatabase (path : DatabasePath) : Bool := path.getLast?.bind extension == some "db"

/-- Empty names and single dots are skipped, except a dot in front. -/
def validateRelativePath (path : String) : Except RecoverableSnapshotError DatabasePath :=
  let names := (path.toList.splitOn '/').map String.ofList
  if path = "" then .error (.unsafePath "database relative path is empty")
  else if path.toList.head? = some '/' ∨ names.head? = some "." ∨ ".." ∈ names then
    .error (.unsafePath "database relative path is not confined to the snapshot")
  else .ok (names.filter fun name => name ≠ "" ∧ name ≠ ".")

def validatedManifestRelativePath (path : String) :
    Except RecoverableSnapshotError DatabasePath :=
  if '\\' ∈ path.toList ∨ '\x00' ∈ path.toList then
    .error (.integrity "manifest database path is malformed")
  else do
    let path ← validateRelativePath path
    if isDatabase path then .ok path
    else .error (.integrity "manifest contains a non-database data entry")

def pathString (path : DatabasePath) : String := "/".intercalate path

/-! The contract of a manifest -/

namespace RecoverableSnapshotManifest

variable (manifest : RecoverableSnapshotManifest)

def legacyProtection : Bool :=
  manifest.schema == recoverableSnapshotSchema &&
    manifest.formatVersion == recoverableSnapshotFormatVersion &&
    manifest.protection.recoveryProtector == "portable256BitRecoveryKey" &&
    manifest.protection.protectors.isEmpty

def wrappedProtection : Bool :=
  manifest.schema == recoverableSnapshotWrappedSchema &&
    manifest.formatVersion == recoverableSnapshotWrappedFormatVersion &&
    manifest.protection.recoveryProtector == "multiProtectorEnvelopeV1" &&
    !manifest.protection.protectors.isEmpty

def contractHolds : Bool :=
  (manifest.legacyProtection || manifest.wrappedProtection) && isSha256 manifest.snapshotId &&
    manifest.parentSnapshotId.all (fun parent => isSha256 parent && parent != manifest.snapshotId) &&
    manifest.recoveryVerified && manifest.protection.independentOfWechatKey &&
    !manifest.protection.plaintextDatabaseFiles &&
    manifest.protection.databaseEncryption == "sqlcipher4RawKey" &&
    (manifest.consistency.guarantee == "perDatabaseOnlineBackup" ||
      manifest.consistency.guarantee == "stableAcquisitionSnapshotConversion" ||
      manifest.consistency.guarantee == "encryptedDatabaseByteCopyRewrap") &&
    manifest.consistency.databaseCount == manifest.databases.length &&
    manifest.consistency.crossDatabaseAtomic == decide (manifest.databases.length ≤ 1) &&
    !manifest.databases.isEmpty

end RecoverableSnapshotManifest

def WrappedSnapshotKey.isRecoveryWords (protector : WrappedSnapshotKey) : Bool :=
  protector.kind == "bip39English24" && protector.portable

def WrappedSnapshotKey.isLocalCredential (protector : WrappedSnapshotKey) : Bool :=
  protector.kind == "localCredentialV1" && !protector.portable

def WrappedSnapshotKey.isPassphrase (protector : WrappedSnapshotKey) : Bool :=
  protector.kind == "argon2idPassphraseV1" && protector.portable

/-- Every protector is valid and has an identity of its own. -/
def checkProtectors (seen : List String) :
    List WrappedSnapshotKey → Except RecoverableSnapshotError Unit
  | [] => .ok ()
  | protector :: rest =>
    match validateWrappedSnapshotKey protector with
    | .error _ => .error (.integrity "recoverable snapshot contains an invalid key protector")
    | .ok () =>
      if protector.protectorId ∈ seen then
        .error (.integrity "recoverable snapshot contains duplicate key protectors")
      else checkProtectors (protector.protectorId :: seen) rest

def checkDatabases (seen : List DatabasePath) :
    List RecoverableSnapshotDatabase → Except RecoverableSnapshotError Unit
  | [] => .ok ()
  | database :: rest => do
    let path ← validatedManifestRelativePath database.relativePath
    if path ∈ seen ∨ database.byteCount = 0 ∨ database.pageCount = 0 ∨
        !isSha256 database.sha256 ∨ database.sqliteIntegrityCheck ≠ "ok" ∨
        !database.encryptedAtRest then
      .error (.integrity "recoverable snapshot database manifest entry is invalid")
    else checkDatabases (path :: seen) rest

def validateManifestContract (manifest : RecoverableSnapshotManifest) :
    Except RecoverableSnapshotError Unit :=
  if !manifest.contractHolds then
    .error (.integrity "recoverable snapshot manifest contract is invalid")
  else do
    if manifest.wrappedProtection then do
      checkProtectors [] manifest.protection.protectors
      refuseIf (!manifest.protection.protectors.any (·.isRecoveryWords))
        (.integrity "recoverable snapshot has no mandatory 24-word recovery protector")
    else .ok ()
    checkDatabases [] manifest.databases

/-! Verifying and unlocking -/

structure RecoverableSnapshotVerificationReport where
  schema : String
  formatVersion : ℕ
  snapshotId : String
  recoveryVerifiedWithoutWechatKey : Bool
  independentOfWechatKey : Bool
  encryptedAtRest : Bool
  databaseCount : ℕ
  totalDatabaseBytes : ℕ
  sqliteIntegrityVerified : Bool
  manifestHashesVerified : Bool
  inventoryComplete : Bool
  recoveryProtector : String
  protectorCount : ℕ
  portableRecoveryProtectorVerified : Bool
  localConvenienceProtectorCount : ℕ
  passphraseProtectorCount : ℕ
  deriving DecidableEq

/-- What verification reports of a manifest and the bytes it counted. -/
def RecoverableSnapshotManifest.report (manifest : RecoverableSnapshotManifest)
    (totalDatabaseBytes : ℕ) : RecoverableSnapshotVerificationReport where
  schema := manifest.schema
  formatVersion := manifest.formatVersion
  snapshotId := manifest.snapshotId
  recoveryVerifiedWithoutWechatKey := true
  independentOfWechatKey := manifest.protection.independentOfWechatKey
  encryptedAtRest := !manifest.protection.plaintextDatabaseFiles &&
    manifest.databases.all (·.encryptedAtRest)
  databaseCount := manifest.databases.length
  totalDatabaseBytes
  sqliteIntegrityVerified := true
  manifestHashesVerified := true
  inventoryComplete := true
  recoveryProtector := manifest.protection.recoveryProtector
  protectorCount := manifest.protection.protectors.length
  portableRecoveryProtectorVerified :=
    manifest.formatVersion == recoverableSnapshotFormatVersion ||
      manifest.protection.protectors.any (·.isRecoveryWords)
  localConvenienceProtectorCount := manifest.protection.protectors.countP (·.isLocalCredential)
  passphraseProtectorCount := manifest.protection.protectors.countP (·.isPassphrase)

section Reading

variable (env : Environment)

def loadManifest (generation : Generation) :
    Except RecoverableSnapshotError RecoverableSnapshotManifest :=
  match generation.manifest with
  | none => .error (.unsafePath "recoverable snapshot manifest is unavailable")
  | some manifest =>
    if env.manifestBytes manifest = 0 ∨ maximumManifestBytes < env.manifestBytes manifest then
      .error (.integrity "recoverable snapshot manifest size is outside safe limits")
    else .ok manifest

/-- A manifest as it was loaded and found to keep the contract. -/
def validManifest (generation : Generation) :
    Except RecoverableSnapshotError RecoverableSnapshotManifest := do
  let manifest ← loadManifest env generation
  validateManifestContract manifest
  return manifest

def inventorySnapshotDatabases (files : List (DatabasePath × List UInt8)) :
    Except RecoverableSnapshotError (List DatabasePath) :=
  if files.all (isDatabase ·.1) then .ok (files.map (·.1))
  else .error (.integrity "snapshot data tree contains an undeclared non-database file")

def verifyOneDatabase (files : List (DatabasePath × List UInt8)) (path : DatabasePath)
    (snapshotKey : SnapshotKey) : Except RecoverableSnapshotError RecoverableSnapshotDatabase :=
  if path = [] then .error (.unsafePath "database relative path is empty")
  else
    match files.lookup path with
    | none => .error (.unsafePath "snapshot database is unavailable")
    | some bytes =>
      if bytes.take 16 = sqliteHeader then
        .error (.database (pathString path) "database has a plaintext SQLite header")
      else
        match env.openDatabase snapshotKey bytes with
        | .error reason => .error (.database (pathString path) reason)
        | .ok pageCount =>
          if pageCount ≤ 0 then
            .error (.database (pathString path) "database contains no logical pages")
          else
            .ok
              { relativePath := pathString path
                byteCount := bytes.length
                pageCount := pageCount.toNat
                sha256 := Sha256.hexDigest bytes
                sqliteIntegrityCheck := "ok"
                encryptedAtRest := true }

/-- The bytes of the databases, each found as it was declared. -/
def verifyDatabases (files : List (DatabasePath × List UInt8)) (snapshotKey : SnapshotKey) :
    List RecoverableSnapshotDatabase → ℕ → Except RecoverableSnapshotError ℕ
  | [], total => .ok total
  | declared :: rest, total => do
    let path ← validatedManifestRelativePath declared.relativePath
    let verified ← verifyOneDatabase env files path snapshotKey
    if verified.byteCount ≠ declared.byteCount ∨ verified.pageCount ≠ declared.pageCount ∨
        verified.sha256 ≠ declared.sha256 ∨
        verified.sqliteIntegrityCheck ≠ declared.sqliteIntegrityCheck ∨
        !declared.encryptedAtRest then
      .error (.integrity
        ("database " ++ declared.relativePath ++ " disagrees with its recovery manifest"))
    else if 2 ^ 64 ≤ total + verified.byteCount then
      .error (.integrity "snapshot database byte total overflowed")
    else verifyDatabases files snapshotKey rest (total + verified.byteCount)

def verifyRecoverableSnapshot (generation : Generation) (snapshotKey : SnapshotKey) :
    Except RecoverableSnapshotError RecoverableSnapshotVerificationReport := do
  let manifest ← validManifest env generation
  let actualInventory ← inventorySnapshotDatabases generation.files
  let declaredInventory ←
    manifest.databases.mapM fun database => validatedManifestRelativePath database.relativePath
  refuseIf (!decide (actualInventory ⊆ declaredInventory ∧ declaredInventory ⊆ actualInventory))
    (.integrity "snapshot database inventory does not exactly match its manifest")
  let total ← verifyDatabases env generation.files snapshotKey manifest.databases 0
  return manifest.report total

def liftProtector {α : Type} : Except SnapshotProtectorError α → Except RecoverableSnapshotError α
  | .ok value => .ok value
  | .error error => .error (.protector error)

def unlockRecoverableSnapshotWithRecoveryWords (generation : Generation)
    (words : SnapshotRecoveryWords) : Except RecoverableSnapshotError SnapshotKey := do
  let manifest ← validManifest env generation
  if manifest.formatVersion ≠ recoverableSnapshotWrappedFormatVersion then
    .error (.invalidArgument "snapshot does not contain a BIP-39 recovery-word protector")
  else
    match manifest.protection.protectors.find? (·.isRecoveryWords) with
    | none => .error (.integrity "snapshot has no portable recovery-word protector")
    | some portable =>
      liftProtector (unwrapSnapshotDatabaseKey env.crypto manifest.snapshotId portable words)

def unlockRecoverableSnapshotWithLocalCredential (generation : Generation)
    (credential : SnapshotLocalCredential) : Except RecoverableSnapshotError SnapshotKey := do
  let manifest ← validManifest env generation
  if manifest.formatVersion ≠ recoverableSnapshotWrappedFormatVersion then
    .error (.invalidArgument "snapshot does not contain a local convenience protector")
  else
    match (manifest.protection.protectors.filter (·.isLocalCredential)).findSome? fun protector =>
        (unwrapSnapshotDatabaseKeyWithLocalCredential env.crypto manifest.snapshotId protector
          credential).toOption with
    | none => .error (.integrity "snapshot has no protector matching this local credential")
    | some snapshotKey => .ok snapshotKey

def unlockRecoverableSnapshotWithPassphrase (generation : Generation)
    (passphrase : SnapshotPassphrase) : Except RecoverableSnapshotError SnapshotKey := do
  let manifest ← validManifest env generation
  if manifest.formatVersion ≠ recoverableSnapshotWrappedFormatVersion then
    .error (.invalidArgument "snapshot does not contain an Argon2id passphrase protector")
  else
    match (manifest.protection.protectors.filter (·.isPassphrase)).findSome? fun protector =>
        (unwrapSnapshotDatabaseKeyWithPassphrase env.crypto manifest.snapshotId protector
          passphrase).toOption with
    | none => .error (.integrity "snapshot has no protector matching this passphrase")
    | some snapshotKey => .ok snapshotKey

/-- A snapshot verified under a key that a protector gave. -/
def verifyUnlocked (generation : Generation) (unlocked : Except RecoverableSnapshotError SnapshotKey)
    (present : RecoverableSnapshotVerificationReport → Bool) (message : String) :
    Except RecoverableSnapshotError RecoverableSnapshotVerificationReport := do
  let snapshotKey ← unlocked
  let report ← verifyRecoverableSnapshot env generation snapshotKey
  if report.formatVersion ≠ recoverableSnapshotWrappedFormatVersion ∨ !present report ∨
      !report.portableRecoveryProtectorVerified then
    .error (.integrity message)
  else .ok report

def verifyRecoverableSnapshotWithRecoveryWords (generation : Generation)
    (words : SnapshotRecoveryWords) :=
  verifyUnlocked env generation (unlockRecoverableSnapshotWithRecoveryWords env generation words)
    (·.protectorCount != 0)
    "portable recovery-word verification did not prove the wrapped snapshot contract"

def verifyRecoverableSnapshotWithLocalCredential (generation : Generation)
    (credential : SnapshotLocalCredential) :=
  verifyUnlocked env generation
    (unlockRecoverableSnapshotWithLocalCredential env generation credential)
    (·.localConvenienceProtectorCount != 0)
    "local convenience verification did not preserve portable recovery"

def verifyRecoverableSnapshotWithPassphrase (generation : Generation)
    (passphrase : SnapshotPassphrase) :=
  verifyUnlocked env generation (unlockRecoverableSnapshotWithPassphrase env generation passphrase)
    (·.passphraseProtectorCount != 0)
    "passphrase verification did not preserve mandatory 24-word recovery"

/-- The key a secret unlocks, whatever its kind. -/
def unlock (generation : Generation) :
    SnapshotSecret → Except RecoverableSnapshotError SnapshotKey
  | .recoveryWords words => unlockRecoverableSnapshotWithRecoveryWords env generation words
  | .localCredential credential =>
    unlockRecoverableSnapshotWithLocalCredential env generation credential
  | .passphrase passphrase => unlockRecoverableSnapshotWithPassphrase env generation passphrase

end Reading

end GreenBubbles.Snapshot
