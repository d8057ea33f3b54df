import GreenBubbles.Sync.Acceptance
import GreenBubbles.Sync.Stream

/-! # Replicas over time

A replica is bootstrapped once and synchronized ever after. Whatever fails leaves it
as it was. Opening, encrypting and migrating the file are left out; what the storage
has room for is given with each application of an archive.
-/
namespace GreenBubbles.Sync

open Std Archive Library Upserts Replay

structure ReplicaIdentity where
  accountId : String
  currentSourceFingerprint : Option String
  restorationComplete : Option Bool
  updatedAtUnixNanoseconds : ℕ
  selfParticipantId : Option String
  deriving DecidableEq

structure ReplicaStore where
  replicaId : String
  identity : Option ReplicaIdentity
  sourceCheckpoint : Option String
  tables : ReplicaTables
  changeLog : List ReplicaChange

def ReplicaStore.new (replicaId : String) : ReplicaStore where
  replicaId
  identity := none
  sourceCheckpoint := none
  tables := .empty
  changeLog := []

/-- An audited archive that is to be applied: what the check of the storage comes to,
and the clock when the transaction begins and ends. -/
structure Application where
  archive : ReplicaArchive
  preflight : Except RestoreError Unit
  started : ℕ
  committed : ℕ

def replicaServingEligible (report : RestorationReport) : Bool :=
  report.replicaMutationEligible ||
    (report.archiveScope == .diagnosticSubset && decide (5 ≤ report.formatVersion) &&
      report.databaseCoverage.any fun coverage =>
        coverage.isValid && coverage.attemptedSourceSetIds == coverage.snapshotSourceSetIds)

def replicaIneligibleScope (report : RestorationReport) : String :=
  match report.archiveScope with
  | .authoritative | .partialDatabaseCoverage => "invalidDatabaseCoverage"
  | .incrementalFragment => "incrementalFragment"
  | .diagnosticSubset => "diagnosticSubset"

def requireAuthoritativeArchive (report : RestorationReport) : Except RestoreError Unit :=
  if report.replicaMutationEligible then .ok ()
  else .error (.integrity ("replica mutation requires an independently audited replica-eligible " ++
    "archive; archive scope is " ++ replicaIneligibleScope report))

def requireServingArchive (report : RestorationReport) : Except RestoreError Unit :=
  if replicaServingEligible report then .ok ()
  else .error (.integrity ("replica bootstrap requires an audited archive that accounts for every " ++
    "source database as fresh or explicitly unavailable; archive scope is " ++
      replicaIneligibleScope report))

def requireCompatibleSelfParticipant (existing incoming : Option String) : Except RestoreError Unit :=
  if existing.any (fun value => some value != incoming) || (existing.isSome && incoming.isNone) then
    .error (.integrity "replica belongs to a different account holder")
  else .ok ()

/-- A partial archive may not drop the records of a database that is still there. -/
def ensurePartialDatabaseTransitionIsLossless (previousReport : RestorationReport)
    (previousCoverage : RestorationCoverage) (incomingReport : RestorationReport) :
    Except RestoreError Unit :=
  if incomingReport.archiveScope ≠ .partialDatabaseCoverage then .ok ()
  else match incomingReport.databaseCoverage with
    | none =>
      .error (.integrity "partial replica synchronization has no database coverage evidence")
    | some incoming =>
      let previousIncluded : SourceSets := match previousReport.databaseCoverage with
        | some coverage => coverage.includedSourceSetIds
        | none => .ofList (previousCoverage.allTables.map (·.sourceSetId))
      let currentInventory : SourceSets := .ofList incoming.snapshotSourceSetIds
      if previousIncluded.toList.any fun sourceSet => currentInventory.contains sourceSet &&
          !incoming.includedSourceSetIds.contains sourceSet then
        .error (.integrity ("partial replica synchronization would discard records from an " ++
          "unavailable database; merge it with the previous archive first"))
      else .ok ()

/-- The log of a bootstrap has one entry, which concerns the checkpoint. -/
def bootstrapChange (application : Application) (log : List ReplicaChange) : ReplicaChange where
  sequence := nextSequence log
  sourceFingerprint := application.archive.report.sourceFingerprint
  changeKind := .bootstrap
  entityKind := none
  entityId := application.archive.report.sourceFingerprint
  conversationId := none
  recordSha256 := none
  observedAtUnixNanoseconds := application.committed

namespace ReplicaStore

variable (reader : LedgerReader)
  (archiveRevisionDigest : RestorationReport → RestorationCoverage → String)
  (store : ReplicaStore) (application : Application)

def importArchiveTransactionally : Except RestoreError ReplicaStore := do
  if store.identity.isSome then throw (.sqlite "UNIQUE constraint failed")
  let report := application.archive.report
  let tables ← importArchive reader application.archive
  return { store with
    identity := some
      { accountId := report.accountId
        currentSourceFingerprint := some report.sourceFingerprint
        restorationComplete := some report.completion.fullRestorationAchieved
        updatedAtUnixNanoseconds := application.committed
        selfParticipantId := report.selfParticipantId }
    sourceCheckpoint := some report.sourceFingerprint
    tables
    changeLog := store.changeLog ++ [bootstrapChange application store.changeLog] }

/-- Whether the archive may be the first one of this replica. -/
def requireUnclaimed : Except RestoreError Unit :=
  match store.identity with
  | none => .ok ()
  | some identity =>
    if identity.accountId != application.archive.report.accountId then
      .error (.integrity "replica belongs to a different account")
    else requireCompatibleSelfParticipant identity.selfParticipantId
      application.archive.report.selfParticipantId

def bootstrap : Except RestoreError ReplicaStore := do
  let report := application.archive.report
  requireServingArchive report
  store.requireUnclaimed application
  if store.sourceCheckpoint == some report.sourceFingerprint then
    if store.identity.map (·.selfParticipantId) != some report.selfParticipantId then
      throw (.integrity ("an existing checkpoint cannot acquire a new account-holder binding " ++
        "through idempotent bootstrap; use synchronization"))
    return store
  if store.sourceCheckpoint.isSome then
    throw (.integrity ("replica is already bootstrapped from another checkpoint; use " ++
      "synchronization"))
  application.preflight
  store.importArchiveTransactionally reader application

def reconcileArchiveTransactionally (identity : ReplicaIdentity) :
    Except RestoreError ReplicaStore := do
  let report := application.archive.report
  let state ← reconcileArchive reader application.archive application.started store.tables
    store.changeLog
  return { store with
    identity := some
      { identity with
        currentSourceFingerprint := some report.sourceFingerprint
        restorationComplete := some report.completion.fullRestorationAchieved
        updatedAtUnixNanoseconds :=
          max application.committed (identity.updatedAtUnixNanoseconds + 1)
        selfParticipantId := report.selfParticipantId }
    sourceCheckpoint := some report.sourceFingerprint
    tables := state.tables
    changeLog := state.changeLog }

/-- Whether the stored state comes from an archive of the same revision. -/
def unchangedRevision (archive : ReplicaArchive) : Bool :=
  store.tables.coverageState.any fun stored =>
    archiveRevisionDigest stored.report stored.coverage ==
      archiveRevisionDigest archive.report archive.coverage

def requireLossless (archive : ReplicaArchive) : Except RestoreError Unit :=
  match store.tables.coverageState with
  | none => .ok ()
  | some stored =>
    ensurePartialDatabaseTransitionIsLossless stored.report stored.coverage archive.report

def synchronize : Except RestoreError ReplicaStore := do
  let archive := application.archive
  requireAuthoritativeArchive archive.report
  match store.identity with
  | none => .error (.integrity "replica must be bootstrapped before synchronization")
  | some identity =>
    requireAccount archive.report.accountId identity.accountId
    requireCompatibleSelfParticipant identity.selfParticipantId archive.report.selfParticipantId
    match identity.currentSourceFingerprint with
    | none => .error (.integrity "replica has no authoritative source checkpoint")
    | some previousFingerprint =>
      store.requireLossless archive
      if previousFingerprint == archive.report.sourceFingerprint &&
          store.unchangedRevision archiveRevisionDigest archive then
        return store
      application.preflight
      store.reconcileArchiveTransactionally reader application identity

/-- Whether a synchronization with the archive would find nothing to do. -/
def matchesAuthoritativeArchive (archive : ReplicaArchive) : Except RestoreError Bool := do
  requireAuthoritativeArchive archive.report
  match store.identity with
  | none => return false
  | some identity =>
    if identity.accountId != archive.report.accountId ||
        identity.currentSourceFingerprint != some archive.report.sourceFingerprint ||
        identity.selfParticipantId != archive.report.selfParticipantId then
      return false
    return store.unchangedRevision archiveRevisionDigest archive

end ReplicaStore

inductive ReplicaCommand where
  | bootstrap (application : Application)
  | synchronize (application : Application)

namespace ReplicaCommand

def archive : ReplicaCommand → ReplicaArchive
  | .bootstrap application => application.archive
  | .synchronize application => application.archive

variable (reader : LedgerReader)
  (archiveRevisionDigest : RestorationReport → RestorationCoverage → String)

def apply (store : ReplicaStore) : ReplicaCommand → Except RestoreError ReplicaStore
  | .bootstrap application => store.bootstrap reader application
  | .synchronize application => store.synchronize reader archiveRevisionDigest application

/-- What a command that fails has begun is rolled back. -/
def run (store : ReplicaStore) (command : ReplicaCommand) : ReplicaStore :=
  match command.apply reader archiveRevisionDigest store with
  | .ok after => after
  | .error _ => store

/-- A new replica after some commands. -/
def runAll (replicaId : String) (commands : List ReplicaCommand) : ReplicaStore :=
  commands.foldl (run reader archiveRevisionDigest) (.new replicaId)

end ReplicaCommand

end GreenBubbles.Sync
