import GreenBubbles.Snapshot.Manifest
import Mathlib.Logic.Function.Basic

/-! # Publishing snapshots

A snapshot is assembled in a staging directory, renamed to its output and
verified there. A new snapshot, a rewrap of the protectors and a rekey are
published alike. What the file system refuses is a fault of the step.
-/
namespace GreenBubbles.Snapshot

open Library

abbrev Path := List String

inductive Directory where
  | snapshots | quarantine
  deriving DecidableEq

/-- A generation directly below one of the two directories. -/
structure Place where
  directory : Directory
  name : String
  deriving DecidableEq

structure Layout where
  snapshots : Path
  quarantine : Path
  snapshotsDevice : ℕ
  quarantineDevice : ℕ

namespace Layout

variable (layout : Layout)

def root : Directory → Path
  | .snapshots => layout.snapshots
  | .quarantine => layout.quarantine

def device : Directory → ℕ
  | .snapshots => layout.snapshotsDevice
  | .quarantine => layout.quarantineDevice

def path (place : Place) : Path := layout.root place.directory ++ [place.name]

end Layout

/-- A generation and when it was published among all of them. -/
structure Held where
  serial : ℕ
  generation : Generation
  deriving DecidableEq

structure SnapshotStore where
  generations : Place → Option Held
  born : ℕ

namespace SnapshotStore

def empty : SnapshotStore := ⟨fun _ => none, 0⟩

variable (store : SnapshotStore)

def place (place : Place) (generation : Generation) : SnapshotStore where
  generations := Function.update store.generations place (some ⟨store.born, generation⟩)
  born := store.born + 1

def held (place : Place) : Except RecoverableSnapshotError Held :=
  match store.generations place with
  | none => .error (.unsafePath "recoverable snapshot directory is unavailable")
  | some held => .ok held

def taken (layout : Layout) (place : Place) : Bool :=
  (store.generations place).isSome || (layout.path place).isPrefixOf layout.snapshots ||
    (layout.path place).isPrefixOf layout.quarantine

end SnapshotStore

def validateNewOutputDirectory (layout : Layout) (store : SnapshotStore) (output : Place)
    (canonicalSource : Path) : Except RecoverableSnapshotError Unit :=
  if store.taken layout output then .error (.unsafePath "snapshot output already exists")
  else if canonicalSource.isPrefixOf (layout.path output) then
    .error (.unsafePath "snapshot output must be outside the live database root")
  else .ok ()

/-! Identities and protectors -/

/-- The clock as it is read for the identity and for the manifest. -/
structure Moment where
  identified : ℕ
  created : ℕ
  processId : ℕ

def littleEndian (count value : ℕ) : List UInt8 :=
  (List.range count).map fun place => .ofNat (value / 256 ^ place)

def generateSnapshotId (sourceIdentity : String) (databaseCount : ℕ) (moment : Moment) : String :=
  Sha256.hexDigest (Bytes.utf8 "greenbubbles-recoverable-snapshot-id-v1\x00" ++
    Bytes.utf8 sourceIdentity ++ littleEndian 8 moment.identified ++
    littleEndian 4 moment.processId ++ littleEndian 8 databaseCount)

inductive QueryDatabaseAccess where
  | liveEncrypted (key : SnapshotKey)
  | snapshotEncrypted (key : SnapshotKey)
  | decrypted

/-- What the generator of random bytes gave. -/
structure Draws where
  databaseKey : Option SnapshotKey
  recoveryWords : Option Draw
  localCredential : Option Draw
  passphrase : Option Draw

/-- The secrets a wrapped snapshot is protected by. -/
structure Protectors where
  words : SnapshotRecoveryWords
  localCredential : Option SnapshotLocalCredential
  passphrase : Option SnapshotPassphrase

def Protectors.secrets (protectors : Protectors) : List SnapshotSecret :=
  .recoveryWords protectors.words :: ((protectors.localCredential.map .localCredential).toList ++
    (protectors.passphrase.map .passphrase).toList)

/-- One protector for each secret. -/
def Protectors.wrap (crypto : Cryptography) (protectors : Protectors) (draws : Draws)
    (snapshotId : String) (databaseKey : SnapshotKey) :
    Except SnapshotProtectorError (List WrappedSnapshotKey) := do
  let portable ← wrapSnapshotDatabaseKeyWithRecoveryWords crypto draws.recoveryWords snapshotId
    databaseKey protectors.words
  let convenience ← protectors.localCredential.toList.mapM
    (wrapSnapshotDatabaseKeyWithLocalCredential crypto draws.localCredential snapshotId databaseKey)
  let phrase ← protectors.passphrase.toList.mapM
    (wrapSnapshotDatabaseKeyWithPassphrase crypto draws.passphrase snapshotId databaseKey)
  return portable :: (convenience ++ phrase)

inductive SnapshotOutputProtection where
  | legacyRawKey (key : SnapshotKey)
  | recoveryWords (protectors : Protectors)

structure PreparedSnapshotOutputProtection where
  schema : String
  formatVersion : ℕ
  databaseKey : SnapshotKey
  manifest : SnapshotProtection

def wrappedProtectionOf (protectors : List WrappedSnapshotKey) : SnapshotProtection where
  databaseEncryption := "sqlcipher4RawKey"
  recoveryProtector := "multiProtectorEnvelopeV1"
  independentOfWechatKey := true
  plaintextDatabaseFiles := false
  protectors

namespace SnapshotOutputProtection

def reusesSourceKey (sourceKey : SnapshotKey) : SnapshotOutputProtection → Bool
  | .legacyRawKey key => sourceKey.bytes == key.bytes
  | .recoveryWords protectors => sourceKey.bytes == protectors.words.entropy

def prepare (crypto : Cryptography) (draws : Draws) (snapshotId : String) :
    SnapshotOutputProtection → Except SnapshotProtectorError PreparedSnapshotOutputProtection
  | .legacyRawKey key => .ok
      { schema := recoverableSnapshotSchema
        formatVersion := recoverableSnapshotFormatVersion
        databaseKey := key
        manifest :=
          { databaseEncryption := "sqlcipher4RawKey"
            recoveryProtector := "portable256BitRecoveryKey"
            independentOfWechatKey := true
            plaintextDatabaseFiles := false
            protectors := [] } }
  | .recoveryWords protectors =>
    if !isSha256 snapshotId then .error .invalidProtector
    else
      match draws.databaseKey with
      | none => .error .randomGeneration
      | some databaseKey => do
        let wrapped ← protectors.wrap crypto draws snapshotId databaseKey
        return {
          schema := recoverableSnapshotWrappedSchema
          formatVersion := recoverableSnapshotWrappedFormatVersion
          databaseKey
          manifest := wrappedProtectionOf wrapped }

end SnapshotOutputProtection

/-! Publication -/

/-- What the file system refuses. Whatever fails ahead of the rename ends alike. A removal that
fails leaves some of the generation. -/
structure PublicationFaults where
  before : Option RecoverableSnapshotError
  rename : Option RecoverableSnapshotError
  sync : Option RecoverableSnapshotError
  reading : Option RecoverableSnapshotError
  remaining : Option (Bool × List DatabasePath)

def Generation.remains (generation : Generation) (kept : Bool × List DatabasePath) : Generation where
  manifest := if kept.1 then generation.manifest else none
  files := generation.files.filter (·.1 ∈ kept.2)

/-- A reading that a fault ends. -/
def attempt {α : Type} (fault : Option RecoverableSnapshotError)
    (result : Except RecoverableSnapshotError α) : Except RecoverableSnapshotError α :=
  match fault with
  | some error => .error error
  | none => result

def publish {α : Type} (store : SnapshotStore) (output : Place) (faults : PublicationFaults)
    (assembled : Except RecoverableSnapshotError (Generation × α))
    (verification : Generation → α → Except RecoverableSnapshotError Unit) :
    SnapshotStore × Except RecoverableSnapshotError Generation :=
  match attempt faults.before assembled with
  | .error error => (store, .error error)
  | .ok (generation, context) =>
    match faults.rename with
    | some error => (store, .error error)
    | none =>
      match faults.sync with
      | some error => (store.place output generation, .error error)
      | none =>
        match attempt faults.reading (verification generation context) with
        | .ok () => (store.place output generation, .ok generation)
        | .error error =>
          match faults.remaining with
          | none => (store, .error error)
          | some kept => (store.place output (generation.remains kept), .error error)

section Operations

variable (env : Environment) (layout : Layout) (store : SnapshotStore)

/-- A published snapshot is unlocked by each of its secrets. -/
def verifyProtectors (generation : Generation) (protectors : Protectors)
    (localMessage passphraseMessage : String) :
    Except RecoverableSnapshotError RecoverableSnapshotVerificationReport := do
  let portable ← verifyRecoverableSnapshotWithRecoveryWords env generation protectors.words
  protectors.localCredential.toList.forM fun credential => do
    let report ← verifyRecoverableSnapshotWithLocalCredential env generation credential
    refuseIf (report.snapshotId != portable.snapshotId) (.integrity localMessage)
  protectors.passphrase.toList.forM fun passphrase => do
    let report ← verifyRecoverableSnapshotWithPassphrase env generation passphrase
    refuseIf (report.snapshotId != portable.snapshotId) (.integrity passphraseMessage)
  return portable

/-! A new snapshot -/

/-- A source of databases as it was opened. -/
structure OpenedSource where
  root : Path
  identity : String
  databases : List DatabasePath
  copyDatabaseLogically : DatabasePath → SnapshotKey → Except RecoverableSnapshotError (List UInt8)

def requireCoreDatabase (databases : List DatabasePath) (expected : DatabasePath) :
    Except RecoverableSnapshotError Unit :=
  if expected ∈ databases then .ok ()
  else .error (.invalidArgument
    ("source is missing required core database " ++ pathString expected))

/-- A copy under the key of the snapshot, verified as it lies in the staging directory. -/
def copyDatabase (source : OpenedSource) (databaseKey : SnapshotKey) (path : DatabasePath) :
    Except RecoverableSnapshotError ((DatabasePath × List UInt8) × RecoverableSnapshotDatabase) := do
  let bytes ← source.copyDatabaseLogically path databaseKey
  let verified ← verifyOneDatabase env [(path, bytes)] path databaseKey
  return ((path, bytes), verified)

structure CreateRequest where
  access : QueryDatabaseAccess
  /-- The source is a stable acquisition snapshot. -/
  capture : Bool
  opened : Except RecoverableSnapshotError OpenedSource
  /-- The source is still what it was once the databases are copied. -/
  stable : Except RecoverableSnapshotError Unit
  output : Place
  protection : SnapshotOutputProtection

namespace CreateRequest

variable (request : CreateRequest)

def sourceMode : Except RecoverableSnapshotError SnapshotSourceMode :=
  let reused : RecoverableSnapshotError :=
    .invalidArgument "source and snapshot recovery protector inputs must be distinct"
  match request.access with
  | .liveEncrypted key =>
    if request.protection.reusesSourceKey key then .error reused
    else .ok (if request.capture then .stableAcquisitionSnapshot else .liveEncrypted)
  | .decrypted => .ok (if request.capture then .stableAcquisitionSnapshot else .decrypted)
  | .snapshotEncrypted key =>
    if request.capture then .error (.invalidArgument
      "stable capture conversion expects a WeChat key or explicit plaintext source")
    else if request.protection.reusesSourceKey key then .error reused
    else .ok .recoverableSnapshot

def guarantee : String :=
  if request.capture then "stableAcquisitionSnapshotConversion" else "perDatabaseOnlineBackup"

/-- What is staged, and the key of its databases. -/
def assemble (draws : Draws) (moment : Moment) :
    Except RecoverableSnapshotError (Generation × SnapshotKey) := do
  let sourceMode ← request.sourceMode
  let source ← request.opened
  refuseIf source.databases.isEmpty (.invalidArgument "source contains no regular .db files")
  requireCoreDatabase source.databases ["contact", "contact.db"]
  requireCoreDatabase source.databases ["session", "session.db"]
  validateNewOutputDirectory layout store request.output source.root
  let snapshotId := generateSnapshotId source.identity source.databases.length moment
  let prepared ← liftProtector (request.protection.prepare env.crypto draws snapshotId)
  let copied ← source.databases.mapM (copyDatabase env source prepared.databaseKey)
  request.stable
  let manifest : RecoverableSnapshotManifest :=
    { schema := prepared.schema
      formatVersion := prepared.formatVersion
      snapshotId
      parentSnapshotId := none
      createdAtUnixMilliseconds := moment.created
      sourceIdentity := source.identity
      sourceMode
      consistency :=
        { guarantee := request.guarantee
          databaseCount := copied.length
          crossDatabaseAtomic := copied.length ≤ 1 }
      protection := prepared.manifest
      recoveryVerified := true
      databases := copied.map (·.2) }
  return (⟨some manifest, copied.map (·.1)⟩, prepared.databaseKey)

def verification (generation : Generation) (databaseKey : SnapshotKey) :
    Except RecoverableSnapshotError Unit := do
  let report ←
    match request.protection with
    | .legacyRawKey _ => verifyRecoverableSnapshot env generation databaseKey
    | .recoveryWords protectors =>
      verifyProtectors env generation protectors
        "local and portable protectors resolved different snapshots"
        "passphrase and portable protectors resolved different snapshots"
  refuseIf (!report.recoveryVerifiedWithoutWechatKey)
    (.integrity "published snapshot did not pass recovery verification")

end CreateRequest

def createRecoverableSnapshot (request : CreateRequest) (draws : Draws) (moment : Moment)
    (faults : PublicationFaults) : SnapshotStore × Except RecoverableSnapshotError Generation :=
  publish store request.output faults (request.assemble env layout store draws moment)
    (request.verification env)

/-! The same databases under new protectors -/

structure RewrapRequest where
  source : Place
  existingSnapshotKey : SnapshotKey
  output : Place
  protectors : Protectors

/-- The bytes are as the manifest declares them. -/
def copyEncryptedDatabaseBytesUnchanged (files : List (DatabasePath × List UInt8))
    (database : RecoverableSnapshotDatabase) :
    Except RecoverableSnapshotError (DatabasePath × List UInt8) := do
  let path ← validatedManifestRelativePath database.relativePath
  match files.lookup path with
  | none => .error (.unsafePath "source snapshot database is unavailable")
  | some bytes =>
    if bytes.length ≠ database.byteCount then
      .error (.integrity "source database size changed before protector rewrap")
    else if Sha256.hexDigest bytes ≠ database.sha256 then
      .error (.integrity "encrypted database bytes changed during protector rewrap")
    else .ok (path, bytes)

namespace RewrapRequest

variable (request : RewrapRequest)

/-- The manifest of a rewrap of another one. -/
def manifest (source : RecoverableSnapshotManifest) (snapshotId : String) (created : ℕ)
    (protectors : List WrappedSnapshotKey) : RecoverableSnapshotManifest where
  schema := recoverableSnapshotWrappedSchema
  formatVersion := recoverableSnapshotWrappedFormatVersion
  snapshotId
  parentSnapshotId := some source.snapshotId
  createdAtUnixMilliseconds := created
  sourceIdentity := "snapshot:" ++ source.snapshotId
  sourceMode := .recoverableSnapshot
  consistency :=
    { guarantee := "encryptedDatabaseByteCopyRewrap"
      databaseCount := source.databases.length
      crossDatabaseAtomic := source.databases.length ≤ 1 }
  protection := wrappedProtectionOf protectors
  recoveryVerified := true
  databases := source.databases

def assemble (draws : Draws) (moment : Moment) :
    Except RecoverableSnapshotError (Generation × Unit) := do
  let held ← store.held request.source
  let source ← validManifest env held.generation
  refuseIf (source.formatVersion != recoverableSnapshotWrappedFormatVersion)
    (.invalidArgument "protector rewrap requires a format-2 snapshot")
  let verified ← verifyRecoverableSnapshot env held.generation request.existingSnapshotKey
  refuseIf
    (!verified.recoveryVerifiedWithoutWechatKey || !verified.portableRecoveryProtectorVerified)
    (.integrity "source snapshot did not pass independent recovery verification")
  validateNewOutputDirectory layout store request.output (layout.path request.source)
  let snapshotId := generateSnapshotId ("protector-rewrap:" ++ source.snapshotId)
    source.databases.length moment
  let protectors ← liftProtector
    (request.protectors.wrap env.crypto draws snapshotId request.existingSnapshotKey)
  let files ← source.databases.mapM (copyEncryptedDatabaseBytesUnchanged held.generation.files)
  let rewrapped := manifest source snapshotId moment.created protectors
  validateManifestContract rewrapped
  return (⟨some rewrapped, files⟩, ())

def verification (generation : Generation) : Except RecoverableSnapshotError Unit := do
  let _ ← verifyProtectors env generation request.protectors
    "new portable and local protectors resolved different snapshots"
    "new portable and passphrase protectors resolved different snapshots"

end RewrapRequest

def rewrapRecoverableSnapshotProtectors (request : RewrapRequest) (draws : Draws) (moment : Moment)
    (faults : PublicationFaults) : SnapshotStore × Except RecoverableSnapshotError Generation :=
  publish store request.output faults (request.assemble env layout store draws moment)
    fun generation _ => request.verification env generation

/-! The same databases under a new key -/

structure RekeyRequest where
  source : Place
  oldSnapshotKey : SnapshotKey
  output : Place
  newSnapshotKey : SnapshotKey
  opened : Except RecoverableSnapshotError OpenedSource

namespace RekeyRequest

variable (request : RekeyRequest)

def checks : Except RecoverableSnapshotError Unit := do
  refuseIf (request.oldSnapshotKey.bytes == request.newSnapshotKey.bytes)
    (.invalidArgument "old and new snapshot recovery key inputs must be distinct")
  let held ← store.held request.source
  let verified ← verifyRecoverableSnapshot env held.generation request.oldSnapshotKey
  refuseIf (!verified.recoveryVerifiedWithoutWechatKey)
    (.integrity "source snapshot did not pass recovery verification")
  let manifest ← validManifest env held.generation
  refuseIf (!manifest.recoveryVerified)
    (.integrity "snapshot manifest does not contain a successful recovery verification")

/-- The snapshot that is made of the data directory. -/
def create : CreateRequest where
  access := .snapshotEncrypted request.oldSnapshotKey
  capture := false
  opened := request.opened.map fun source =>
    { source with root := layout.path request.source ++ ["data"] }
  stable := .ok ()
  output := request.output
  protection := .legacyRawKey request.newSnapshotKey

end RekeyRequest

def rekeyRecoverableSnapshot (request : RekeyRequest) (draws : Draws) (moment : Moment)
    (faults : PublicationFaults) : SnapshotStore × Except RecoverableSnapshotError Generation :=
  match request.checks env store with
  | .error error => (store, .error error)
  | .ok () => createRecoverableSnapshot env layout store (request.create layout) draws moment faults

end Operations

end GreenBubbles.Snapshot
