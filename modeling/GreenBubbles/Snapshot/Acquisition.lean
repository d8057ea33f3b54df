import GreenBubbles.Digest
import GreenBubbles.Library.Base64
import GreenBubbles.Library.Framing

/-! # Acquisition snapshots

The manifest an acquisition writes, the evidence of what it copied and the
checks a manifest passes when it is loaded.
-/
namespace GreenBubbles.Snapshot

open Library Library.Bytes Library.Framing

inductive SnapshotFileRole where
  | database | writeAheadLog | sharedMemory
  deriving DecidableEq

structure SourceFileFingerprint where
  deviceId : ℕ
  fileId : ℕ
  byteCount : ℤ
  modifiedSeconds : ℤ
  modifiedNanoseconds : ℤ
  deriving DecidableEq

structure SnapshotSourceFileInventory where
  role : SnapshotFileRole
  fingerprint : SourceFileFingerprint
  contentSha256 : Option String
  deriving DecidableEq

structure SnapshotSourceSetInventory where
  sourceSetId : String
  logicalPath : String
  files : List SnapshotSourceFileInventory
  deriving DecidableEq

inductive SnapshotAcquisitionMode where
  | bootstrap | incremental | integrityScan
  deriving DecidableEq

structure SnapshotAcquisitionEvidence where
  formatVersion : ℕ
  mode : SnapshotAcquisitionMode
  previousSourceFingerprint : Option String
  reconciliationWindowSeconds : ℕ
  changedSourceSetIds : List String
  reconciliationSourceSetIds : List String
  deletedSourceSetIds : List String
  sourceSets : List SnapshotSourceSetInventory
  lastIntegrityScanAt : Option String
  deriving DecidableEq

structure PathReference where
  opaqueId : String
  path : Option String
  deriving DecidableEq

structure SnapshotEntry where
  source : PathReference
  sourceSetId : String
  logicalPath : String
  relativePath : String
  role : SnapshotFileRole
  fingerprint : SourceFileFingerprint
  sha256 : String
  deriving DecidableEq

inductive SnapshotAccountBindingEvidence where
  | selectedAccountDirectory
  deriving DecidableEq

structure SnapshotAccountBinding where
  formatVersion : ℕ
  accountId : String
  selfSourceIdentifierBase64 : String
  evidence : SnapshotAccountBindingEvidence
  deriving DecidableEq

structure ClientBuildFingerprint where
  formatVersion : ℕ
  bundleIdentifier : String
  marketingVersion : String
  buildVersion : String
  executableSha256 : String
  signingIdentifier : String
  teamIdentifier : String
  codeDirectorySha256 : String
  architectures : List String
  hardenedRuntime : Bool
  signatureValid : Bool
  deriving DecidableEq

structure SnapshotManifest where
  manifestFormatVersion : ℕ
  snapshotId : String
  createdAt : String
  sourceFingerprint : String
  accountBinding : Option SnapshotAccountBinding
  clientBuild : Option ClientBuildFingerprint
  acquisition : Option SnapshotAcquisitionEvidence
  entries : List SnapshotEntry
  deriving DecidableEq

/-- A check of the source that returns a manifest error when it fails. -/
def requireManifest (condition : Bool) (message : String) : Except RestoreError Unit :=
  if condition then .ok () else .error (.manifest message)

@[simp] theorem requireManifest_ok {condition : Bool} {message : String} :
    requireManifest condition message = .ok () ↔ condition = true := by
  cases condition <;> simp [requireManifest]

/-! Paths -/

def pathNames (path : String) : List (List Char) := path.toList.splitOn '/'

/-- Every component is a normal one. Empty names and single dots are no components, except a
dot in front. -/
def isConfined (path : String) : Bool :=
  path.toList.head? != some '/' && (pathNames path).head? != some ['.'] &&
    !(pathNames path).contains ['.', '.']

def validateLogicalPath (value : String) : Except RestoreError Unit :=
  if value = "" ∨ !isConfined value then .error (.unsafePath value) else .ok ()

theorem validateLogicalPath_ok {value : String} :
    validateLogicalPath value = .ok () ↔ value ≠ "" ∧ isConfined value = true := by
  simp [validateLogicalPath]

/-- The part of the path below the snapshot directory. -/
def SnapshotEntry.resolvedPath (entry : SnapshotEntry) : Except RestoreError Unit :=
  if isConfined entry.relativePath then .ok () else .error (.unsafePath entry.relativePath)

/-! Account bindings and client builds -/

def isLowerHex (value : String) (length : ℕ) : Bool :=
  value.utf8ByteSize == length &&
    value.toList.all fun c => ('0' ≤ c && c ≤ '9') || ('a' ≤ c && c ≤ 'f')

def isControl (c : Char) : Bool := c.toNat < 32 || (127 ≤ c.toNat && c.toNat < 160)

/-- A directory name as the account directory may have it. -/
def isSourceIdentifier (bytes : List UInt8) : Bool :=
  !bytes.isEmpty && bytes.length ≤ 255 &&
    (String.fromUTF8? ⟨bytes.toArray⟩).any fun value =>
      value != "." && value != ".." &&
        value.toList.all fun c => c != '/' && c != '\\' && !isControl c

def SnapshotAccountBinding.validate (binding : SnapshotAccountBinding) :
    Except RestoreError Unit :=
  requireManifest
    (binding.formatVersion == 1 && isLowerHex binding.accountId 64 &&
      (Base64.decodeStandard binding.selfSourceIdentifierBase64).any isSourceIdentifier)
    "snapshot account binding is incomplete or malformed"

def ClientBuildFingerprint.validate (build : ClientBuildFingerprint) : Except RestoreError Unit :=
  requireManifest
    (build.formatVersion == 1 && build.bundleIdentifier != "" && build.marketingVersion != "" &&
      build.buildVersion != "" && isSha256 build.executableSha256 &&
      build.signingIdentifier != "" && build.teamIdentifier != "" &&
      isSha256 build.codeDirectorySha256 && !build.architectures.isEmpty)
    "client-build fingerprint is incomplete or malformed"

/-! Fingerprints of the source -/

def SnapshotFileRole.name : SnapshotFileRole → String
  | .database => "database"
  | .writeAheadLog => "writeAheadLog"
  | .sharedMemory => "sharedMemory"

def SnapshotSourceFileInventory.fields (file : SnapshotSourceFileInventory) : List String :=
  [file.role.name, toString file.fingerprint.deviceId, toString file.fingerprint.fileId,
    toString file.fingerprint.byteCount, toString file.fingerprint.modifiedSeconds,
    toString file.fingerprint.modifiedNanoseconds, file.contentSha256.getD "missing"]

def fieldBytes (fields : List String) : List UInt8 :=
  fields.flatMap fun field => 0x1f :: utf8 field

def SnapshotSourceSetInventory.bytes (sourceSet : SnapshotSourceSetInventory) : List UInt8 :=
  utf8 sourceSet.sourceSetId ++ 0 :: utf8 sourceSet.logicalPath ++
    sourceSet.files.flatMap (fieldBytes ·.fields) ++ [0x1e]

def sourceInventoryBytes (sourceSets : List SnapshotSourceSetInventory) : List UInt8 :=
  sourceSets.flatMap (·.bytes)

def SnapshotAccountBindingEvidence.name : SnapshotAccountBindingEvidence → String
  | .selectedAccountDirectory => "selectedAccountDirectory"

def SnapshotAccountBinding.fields (binding : SnapshotAccountBinding) : List String :=
  ["accountBinding", toString binding.formatVersion, binding.accountId,
    binding.selfSourceIdentifierBase64, binding.evidence.name]

/-- What the source fingerprint hashes. -/
def fingerprintBytes (sourceSets : List SnapshotSourceSetInventory) :
    Option SnapshotAccountBinding → List UInt8
  | none => sourceInventoryBytes sourceSets
  | some binding => sourceInventoryBytes sourceSets ++ 0x1d :: fieldBytes binding.fields

def sourceInventoryFingerprint (sourceSets : List SnapshotSourceSetInventory) : String :=
  Sha256.hexDigest (fingerprintBytes sourceSets none)

def sourceInventoryFingerprintWithAccountBinding (sourceSets : List SnapshotSourceSetInventory)
    (binding : SnapshotAccountBinding) : String :=
  Sha256.hexDigest (fingerprintBytes sourceSets (some binding))

def toAsciiLowercase (c : Char) : Char :=
  if 'A' ≤ c ∧ c ≤ 'Z' then Char.ofNat (c.toNat + 32) else c

theorem toAsciiLowercase_hexDigit : ∀ value < 16,
    toAsciiLowercase (hexDigit value) = hexDigit value := by
  decide

def eqIgnoreAsciiCase (left right : String) : Bool :=
  left.toList.map toAsciiLowercase == right.toList.map toAsciiLowercase

/-! The evidence -/

namespace SnapshotAcquisitionEvidence

def selectedSourceSetIds (evidence : SnapshotAcquisitionEvidence) : List String :=
  evidence.changedSourceSetIds ++ evidence.reconciliationSourceSetIds

def isFullScan (evidence : SnapshotAcquisitionEvidence) : Bool :=
  evidence.mode == .bootstrap || evidence.mode == .integrityScan

end SnapshotAcquisitionEvidence

def sameMembers {α : Type} [DecidableEq α] (left right : List α) : Bool :=
  left.all (· ∈ right) && right.all (· ∈ left)

def disjointMembers (left right : List String) : Bool := left.all (· ∉ right)

/-- Adjacent values increase and none is empty. -/
def validateUniqueSorted (values : List String) (label : String) : Except RestoreError Unit :=
  requireManifest ((values.zip values.tail).all (fun pair => pair.1 < pair.2) && !values.contains "")
    (label ++ " must be nonempty, unique, and sorted")

def checkFiles (roles : List SnapshotFileRole) :
    List SnapshotSourceFileInventory → Except RestoreError Unit
  | [] => requireManifest (roles.contains .database) "source inventory set has no database"
  | file :: rest => do
    requireManifest (!roles.contains file.role) "source inventory contains a duplicate file role"
    requireManifest (file.contentSha256.any isSha256)
      "source inventory has no verified content digest"
    checkFiles (file.role :: roles) rest

def checkSourceSets (seen : List String) :
    List SnapshotSourceSetInventory → Except RestoreError Unit
  | [] => .ok ()
  | sourceSet :: rest => do
    requireManifest (sourceSet.sourceSetId != "" && !seen.contains sourceSet.sourceSetId)
      "source inventory contains a missing or duplicate source-set ID"
    validateLogicalPath sourceSet.logicalPath
    checkFiles [] sourceSet.files
    checkSourceSets (sourceSet.sourceSetId :: seen) rest

/-- The inventoried file an entry says it copied. -/
def inventoried (sourceSets : List SnapshotSourceSetInventory) (sourceSetId : String)
    (role : SnapshotFileRole) : Option SnapshotSourceFileInventory :=
  (sourceSets.find? (·.sourceSetId == sourceSetId)).bind fun sourceSet =>
    sourceSet.files.find? (·.role == role)

def SnapshotEntry.key (entry : SnapshotEntry) : String × SnapshotFileRole :=
  (entry.sourceSetId, entry.role)

def SnapshotEntry.agrees (entry : SnapshotEntry) (file : SnapshotSourceFileInventory) : Bool :=
  file.fingerprint == entry.fingerprint &&
    file.contentSha256.any fun digest => eqIgnoreAsciiCase digest entry.sha256

namespace SnapshotAcquisitionEvidence

variable (evidence : SnapshotAcquisitionEvidence)

def currentIds : List String := evidence.sourceSets.map (·.sourceSetId)

def checkMode : Except RestoreError Unit :=
  match evidence.mode with
  | .bootstrap =>
    requireManifest
      (evidence.previousSourceFingerprint.isNone &&
        sameMembers evidence.selectedSourceSetIds evidence.currentIds &&
        evidence.deletedSourceSetIds.isEmpty)
      "bootstrap acquisition must select the complete current inventory"
  | .integrityScan =>
    requireManifest
      (evidence.previousSourceFingerprint.any isSha256 &&
        sameMembers evidence.selectedSourceSetIds evidence.currentIds)
      "integrity scan must have a baseline and select every current source set"
  | .incremental =>
    requireManifest (evidence.previousSourceFingerprint.any isSha256)
      "incremental acquisition has no valid baseline fingerprint"

def checkEntries (keys : List (String × SnapshotFileRole)) :
    List SnapshotEntry → Except RestoreError Unit
  | [] => .ok ()
  | entry :: rest => do
    requireManifest (evidence.selectedSourceSetIds.contains entry.sourceSetId)
      "snapshot contains an unselected source set"
    requireManifest (!keys.contains entry.key) "snapshot contains a duplicate source-set file role"
    let file := inventoried evidence.sourceSets entry.sourceSetId entry.role
    requireManifest file.isSome "snapshot entry is absent from source inventory"
    requireManifest (file.any entry.agrees) "snapshot entry disagrees with source inventory"
    checkEntries (entry.key :: keys) rest

/-- The files of the selected sets. -/
def expectedKeys : List (String × SnapshotFileRole) :=
  (evidence.sourceSets.filter (·.sourceSetId ∈ evidence.selectedSourceSetIds)).flatMap
    fun sourceSet => sourceSet.files.map fun file => (sourceSet.sourceSetId, file.role)

def validate (manifest : SnapshotManifest) : Except RestoreError Unit := do
  requireManifest (evidence.formatVersion == 1 || evidence.formatVersion == 2)
    "unsupported acquisition evidence version"
  validateUniqueSorted evidence.changedSourceSetIds "changed source-set IDs"
  validateUniqueSorted evidence.reconciliationSourceSetIds "reconciliation source-set IDs"
  validateUniqueSorted evidence.deletedSourceSetIds "deleted source-set IDs"
  requireManifest
    (disjointMembers evidence.changedSourceSetIds evidence.reconciliationSourceSetIds)
    "changed and reconciliation source sets overlap"
  checkSourceSets [] evidence.sourceSets
  requireManifest (disjointMembers evidence.currentIds evidence.deletedSourceSetIds)
    "deleted source set is still present in current inventory"
  requireManifest (evidence.selectedSourceSetIds.all (· ∈ evidence.currentIds))
    "selected source set is missing from current inventory"
  evidence.checkMode
  evidence.checkEntries [] manifest.entries
  requireManifest (sameMembers (manifest.entries.map (·.key)) evidence.expectedKeys)
    "selected source inventory was not copied completely"
  requireManifest
    (eqIgnoreAsciiCase
      (match manifest.accountBinding with
        | none => sourceInventoryFingerprint evidence.sourceSets
        | some binding =>
          sourceInventoryFingerprintWithAccountBinding evidence.sourceSets binding)
      manifest.sourceFingerprint)
    "source inventory fingerprint does not match manifest"

end SnapshotAcquisitionEvidence

/-- The manifest once its file was read. -/
def SnapshotManifest.load (manifest : SnapshotManifest) : Except RestoreError SnapshotManifest := do
  let version := manifest.manifestFormatVersion
  requireManifest (1 ≤ version && version ≤ 4) ("unsupported format version " ++ toString version)
  requireManifest (!(version == 1 && manifest.clientBuild.isSome))
    "format-1 snapshot cannot contain client-build evidence"
  requireManifest (!(version < 3 && manifest.acquisition.isSome))
    "snapshot acquisition evidence requires format 3"
  requireManifest (!(version == 3 && manifest.acquisition.isNone))
    "format-3 snapshot requires acquisition evidence"
  requireManifest (!(version < 4 && manifest.accountBinding.isSome))
    "snapshot account binding requires format 4"
  requireManifest
    (!(version == 4 && (manifest.acquisition.isNone || manifest.accountBinding.isNone)))
    "format-4 snapshot requires acquisition and account-binding evidence"
  manifest.accountBinding.forM (·.validate)
  manifest.clientBuild.forM (·.validate)
  manifest.entries.forM fun entry => do
    entry.resolvedPath
    validateLogicalPath entry.logicalPath
  manifest.acquisition.forM (·.validate manifest)
  return manifest

/-! What the checks establish -/

/-- A source set as an inventory may have it. -/
structure SnapshotSourceSetInventory.WellFormed (sourceSet : SnapshotSourceSetInventory) :
    Prop where
  named : sourceSet.sourceSetId ≠ ""
  located : sourceSet.logicalPath ≠ "" ∧ isConfined sourceSet.logicalPath = true
  roles : (sourceSet.files.map (·.role)).Nodup
  digests : ∀ file ∈ sourceSet.files, file.contentSha256.any isSha256 = true
  database : .database ∈ sourceSet.files.map (·.role)

/-- No key comes twice, and none was seen before. -/
def Fresh {α κ : Type} (key : α → κ) (seen : List κ) (values : List α) : Prop :=
  (values.map key).Nodup ∧ ∀ a ∈ values, key a ∉ seen

theorem fresh_nil {α κ : Type} (key : α → κ) (seen : List κ) : Fresh key seen [] := by
  simp [Fresh]

theorem fresh_cons {α κ : Type} {key : α → κ} {seen : List κ} {a : α} {values : List α} :
    Fresh key seen (a :: values) ↔ key a ∉ seen ∧ Fresh key (key a :: seen) values := by
  rw [Fresh, Fresh, List.map_cons, List.nodup_cons, List.forall_mem_cons]
  simp only [List.mem_map, List.mem_cons, not_exists, not_and, not_or]
  constructor
  · intro h
    exact ⟨h.2.1, h.1.2, fun b hb => ⟨h.1.1 b hb, h.2.2 b hb⟩⟩
  · intro h
    exact ⟨⟨fun b hb => (h.2.2 b hb).1, h.2.1⟩, h.1, fun b hb => (h.2.2 b hb).2⟩

theorem checkFiles_ok {roles : List SnapshotFileRole}
    {files : List SnapshotSourceFileInventory} :
    checkFiles roles files = .ok () ↔
      Fresh (·.role) roles files ∧ (∀ file ∈ files, file.contentSha256.any isSha256 = true) ∧
        (.database ∈ roles ∨ .database ∈ files.map (·.role)) := by
  induction files generalizing roles with
  | nil => simp [checkFiles, fresh_nil]
  | cons file files ih =>
    rw [fresh_cons]
    simp only [checkFiles, check_bind_ok, requireManifest_ok, ih, List.map_cons,
      List.forall_mem_cons, Bool.not_eq_true', List.contains_eq_mem, decide_eq_false_iff_not]
    rw [List.mem_cons, List.mem_cons]
    tauto

theorem checkSourceSets_ok {seen : List String} {sourceSets : List SnapshotSourceSetInventory} :
    checkSourceSets seen sourceSets = .ok () ↔
      Fresh (·.sourceSetId) seen sourceSets ∧ ∀ sourceSet ∈ sourceSets, sourceSet.WellFormed := by
  induction sourceSets generalizing seen with
  | nil => simp [checkSourceSets, fresh_nil]
  | cons sourceSet sourceSets ih =>
    have hset : sourceSet.WellFormed ↔ sourceSet.sourceSetId ≠ "" ∧
        validateLogicalPath sourceSet.logicalPath = .ok () ∧
          checkFiles [] sourceSet.files = .ok () := by
      rw [validateLogicalPath_ok, checkFiles_ok]
      constructor
      · intro h
        exact ⟨h.named, h.located, ⟨h.roles, fun _ _ => List.not_mem_nil⟩, h.digests,
          .inr h.database⟩
      · intro h
        exact ⟨h.1, h.2.1, h.2.2.1.1, h.2.2.2.1, h.2.2.2.2.resolve_left List.not_mem_nil⟩
    rw [fresh_cons, List.forall_mem_cons, hset]
    simp only [checkSourceSets, check_bind_ok, requireManifest_ok, ih, Bool.and_eq_true,
      bne_iff_ne, Bool.not_eq_true', List.contains_eq_mem, decide_eq_false_iff_not]
    tauto

theorem checkEntries_ok {evidence : SnapshotAcquisitionEvidence}
    {keys : List (String × SnapshotFileRole)} {entries : List SnapshotEntry} :
    evidence.checkEntries keys entries = .ok () ↔
      Fresh (·.key) keys entries ∧
        ∀ entry ∈ entries, entry.sourceSetId ∈ evidence.selectedSourceSetIds ∧
          (inventoried evidence.sourceSets entry.sourceSetId entry.role).any entry.agrees = true := by
  induction entries generalizing keys with
  | nil => simp [SnapshotAcquisitionEvidence.checkEntries, fresh_nil]
  | cons entry entries ih =>
    rw [fresh_cons, List.forall_mem_cons]
    simp only [SnapshotAcquisitionEvidence.checkEntries, check_bind_ok, requireManifest_ok, ih,
      Bool.not_eq_true', List.contains_eq_mem, decide_eq_true_eq, decide_eq_false_iff_not]
    cases inventoried evidence.sourceSets entry.sourceSetId entry.role with
    | none => simp
    | some file =>
      simp only [Option.isSome_some, true_and]
      tauto

end GreenBubbles.Snapshot
