import GreenBubbles.Follow.Publication
import GreenBubbles.Sync.Changes

/-! # Following published archives

A follower applies the archive of the current handoff to its replica and then notes in a
state file what it has applied. A call that is interrupted between the two is made up for by
the next one.
-/
namespace GreenBubbles.Follow

open Archive Library Replica Sync

structure ReplicaFollowState where
  formatVersion : ℕ
  replicaId : String
  generation : ℕ
  handoffSha256 : String
  sourceFingerprint : String
  checkpointRevision : String
  deriving DecidableEq

inductive ReplicaFollowOutcome where
  | bootstrapped
  | synchronized
  | alreadyApplied
  deriving DecidableEq

/-- What following asks of the status of a replica. -/
structure ReplicaStatus where
  replicaId : String
  accountId : Option String
  currentSourceFingerprint : Option String
  restorationComplete : Option Bool
  checkpointRevision : Option String
  deriving DecidableEq

/-- The state file and the replica. -/
structure Follower where
  followState : Option ReplicaFollowState
  replica : ReplicaStore

/-- What the readers of an archive make of its ledgers. -/
structure FollowReader extends ArchiveReader where
  records : ArchiveFiles → ReplicaArchive
  ledgers : LedgerReader
  archiveRevisionDigest : RestorationReport → RestorationCoverage → String

def checkStatus (store : ReplicaStore) : Except RestoreError Unit :=
  match store.identity with
  | none => .ok ()
  | some identity => do
    require (identity.accountId != "" && identity.currentSourceFingerprint.any (· != "") &&
        decide (0 < identity.updatedAtUnixNanoseconds) &&
        decide (identity.updatedAtUnixNanoseconds < 2 ^ 128))
      "replica identity or checkpoint revision is invalid"
    match store.tables.coverageState with
    | none => .ok ()
    | some stored => do
      require (stored.report.accountId == identity.accountId &&
          identity.currentSourceFingerprint == some stored.report.sourceFingerprint)
        "replica identity disagrees with its restoration coverage"
      require (stored.report.selfParticipantId == identity.selfParticipantId)
        "replica account-holder binding disagrees with its coverage state"

def replicaStatus (store : ReplicaStore) : Except RestoreError ReplicaStatus := do
  checkStatus store
  return {
    replicaId := store.replicaId
    accountId := store.identity.map (·.accountId)
    currentSourceFingerprint := store.identity.bind (·.currentSourceFingerprint)
    restorationComplete := store.identity.bind (·.restorationComplete)
    checkpointRevision :=
      store.identity.map fun identity => toString identity.updatedAtUnixNanoseconds }

def loadFollowState : Option ReplicaFollowState → Except RestoreError (Option ReplicaFollowState)
  | none => .ok none
  | some state => do
    require (state.formatVersion == 1 && validReplicaId state.replicaId && state.generation != 0 &&
        isSha256 state.handoffSha256 && state.sourceFingerprint != "" &&
        (parseU128 state.checkpointRevision).isSome) "replica follow state is malformed"
    return some state

/-- Whether the handoff is the one that was applied last. -/
def alreadyApplied (loaded : LoadedHandoff) (before : ReplicaStatus) :
    Option ReplicaFollowState → Except RestoreError Bool
  | none => .ok false
  | some state => do
    require (state.replicaId == before.replicaId)
      "replica follow state belongs to a replacement replica"
    require (!(decide (loaded.value.generation < state.generation) ||
        (loaded.value.generation == state.generation && loaded.sha256 != state.handoffSha256)))
      "replica handoff is a rollback or generation equivocation"
    if loaded.value.generation = state.generation then do
      require (before.currentSourceFingerprint == some state.sourceFingerprint &&
          before.checkpointRevision == some state.checkpointRevision)
        "replica checkpoint diverged from the applied follow state"
      return true
    else return false

variable (reader : FollowReader)

def requireAbsolute (path : String) : Except RestoreError Unit :=
  if isAbsolute path then .ok ()
  else .error (.unsafePath "replica handoff archive path must be absolute")

/-- The archive of the handoff as it is applied, with the checks that come before. -/
def openHandoff (disk : Disk) (loaded : LoadedHandoff) : Except RestoreError ReplicaArchive := do
  requireAbsolute loaded.value.archiveDirectory
  match disk.archiveAt loaded.value.archiveDirectory with
  | none => .error missingFile
  | some files => do
    let (report, reportSha256, sealed) ← inspectArchive reader.toArchiveReader files
    require (report.sourceFingerprint == loaded.value.sourceFingerprint &&
        reportSha256 == loaded.value.reportSha256 &&
        sealed.sha256 == loaded.value.archiveSealSha256 &&
        sealed.fileCount == loaded.value.archiveFileCount &&
        sealed.byteCount == loaded.value.archiveByteCount)
      "replica handoff no longer matches its restoration report"
    return { reader.records files with report }

/-- The seal is checked again when the archive has been applied. -/
def checkSeal (disk : Disk) (loaded : LoadedHandoff) : Except RestoreError Unit :=
  match disk.archiveAt loaded.value.archiveDirectory with
  | none => .error missingFile
  | some files => do
    let sealed ← archiveSeal files
    require (sealed.sha256 == loaded.value.archiveSealSha256 &&
        sealed.fileCount == loaded.value.archiveFileCount &&
        sealed.byteCount == loaded.value.archiveByteCount)
      "published restoration archive changed during replica application"

/-- A replica is bootstrapped, adopted when nothing says what was applied to it, or
synchronized. -/
def applyHandoff (store : ReplicaStore) (application : Application)
    (prior : Option ReplicaFollowState) (before : ReplicaStatus) :
    Except RestoreError (ReplicaFollowOutcome × ReplicaStore) :=
  if before.accountId.isNone then do
    let after ← store.bootstrap reader.ledgers application
    return (.bootstrapped, after)
  else if prior.isNone then do
    let matching ← store.matchesAuthoritativeArchive reader.archiveRevisionDigest application.archive
    require matching "existing replica cannot be adopted without an exact replica-eligible archive"
    return (.synchronized, store)
  else do
    let after ← store.synchronize reader.ledgers reader.archiveRevisionDigest application
    return (.synchronized, after)

/-- What is noted when the archive has been applied. -/
def appliedState (loaded : LoadedHandoff) (archive : ReplicaArchive)
    (before after : ReplicaStatus) : Except RestoreError ReplicaFollowState :=
  match after.checkpointRevision with
  | none => .error (.integrity "replica follow did not commit a checkpoint")
  | some checkpointRevision => do
    require (after.replicaId == before.replicaId &&
        after.currentSourceFingerprint == some loaded.value.sourceFingerprint &&
        after.accountId == some archive.report.accountId)
      "replica follow result does not match the published archive"
    return {
      formatVersion := 1
      replicaId := after.replicaId
      generation := loaded.value.generation
      handoffSha256 := loaded.sha256
      sourceFingerprint := loaded.value.sourceFingerprint
      checkpointRevision }

/-- The clock and the free storage of a call. -/
structure FollowCall where
  preflight : Except RestoreError Unit
  started : ℕ
  committed : ℕ

def FollowCall.application (call : FollowCall) (archive : ReplicaArchive) : Application where
  archive
  preflight := call.preflight
  started := call.started
  committed := call.committed

/-- The archives may have changed when the handoff has been applied. -/
def followReplicaOnce (disk later : Disk) (call : FollowCall) :
    Durable Follower RestoreError ReplicaFollowOutcome := do
  let follower ← Durable.read
  let loaded ← Durable.check (loadHandoff disk)
  let archive ← Durable.check (openHandoff reader disk loaded)
  let before ← Durable.check (replicaStatus follower.replica)
  let prior ← Durable.check (loadFollowState follower.followState)
  let applied ← Durable.check (alreadyApplied loaded before prior)
  if applied then return .alreadyApplied
  else do
    let result ← Durable.check
      (applyHandoff reader follower.replica (call.application archive) prior before)
    Durable.modify fun follower => { follower with replica := result.2 }
    let after ← Durable.check (replicaStatus result.2)
    Durable.check (checkSeal later loaded)
    let state ← Durable.check (appliedState loaded archive before after)
    Durable.modify fun follower => { follower with followState := some state }
    return result.1

end GreenBubbles.Follow
