import GreenBubbles.Archive.Coverage

/-! # Restoration reports

The report of an archive: its acquisition evidence, the freshness evidence of
its databases, its integrity counters and its completion flags.
-/
namespace GreenBubbles.Archive

open Std

abbrev SourceSets := ExtTreeSet String

inductive SnapshotAcquisitionMode where
  | bootstrap
  | incremental
  | integrityScan
  deriving DecidableEq

structure SnapshotSourceSetInventory where
  sourceSetId : String
  logicalPath : String
  deriving DecidableEq

structure SnapshotAcquisitionEvidence where
  mode : SnapshotAcquisitionMode
  previousSourceFingerprint : Option String
  changedSourceSetIds : List String
  reconciliationSourceSetIds : List String
  deletedSourceSetIds : List String
  sourceSets : List SnapshotSourceSetInventory
  deriving DecidableEq

namespace SnapshotAcquisitionEvidence

def selectedSourceSetIds (acquisition : SnapshotAcquisitionEvidence) : SourceSets :=
  .ofList (acquisition.changedSourceSetIds ++ acquisition.reconciliationSourceSetIds)

def inventory (acquisition : SnapshotAcquisitionEvidence) : SourceSets :=
  .ofList (acquisition.sourceSets.map (·.sourceSetId))

end SnapshotAcquisitionEvidence

structure RestorationUnavailableDatabase where
  sourceSetId : String
  logicalPath : String
  storageFamily : String
  databaseByteCount : ℕ
  writeAheadLogByteCount : ℕ
  reason : String
  deriving DecidableEq

/-- Database-level freshness evidence. Records preserved from an earlier
generation must never be presented as freshly restored from the current snapshot. -/
structure RestorationDatabaseCoverage where
  formatVersion : ℕ
  totalDatabaseCount : ℕ
  attemptedDatabaseCount : ℕ
  restoredDatabaseCount : ℕ
  unavailableDatabaseCount : ℕ
  preservedStaleDatabaseCount : ℕ
  authoritativeDatabaseCoverage : Bool
  snapshotSourceSetIds : List String
  attemptedSourceSetIds : List String
  freshSourceSetIds : List String
  unavailableSourceSetIds : List String
  preservedStaleSourceSetIds : List String
  unavailableDatabases : List RestorationUnavailableDatabase
  deriving DecidableEq

/-- Nonempty identifiers in strictly increasing order. -/
def sortedUnique (values : List String) : Bool :=
  values.all (fun value => !value.isEmpty) && decide (values.Pairwise (· < ·))

namespace RestorationDatabaseCoverage

def includedSourceSetIds (coverage : RestorationDatabaseCoverage) : SourceSets :=
  .ofList (coverage.freshSourceSetIds ++ coverage.preservedStaleSourceSetIds)

def isValid (coverage : RestorationDatabaseCoverage) : Bool :=
  let snapshot : SourceSets := .ofList coverage.snapshotSourceSetIds
  let attempted : SourceSets := .ofList coverage.attemptedSourceSetIds
  let fresh : SourceSets := .ofList coverage.freshSourceSetIds
  let unavailable : SourceSets := .ofList coverage.unavailableSourceSetIds
  let stale : SourceSets := .ofList coverage.preservedStaleSourceSetIds
  let unavailableDetails : SourceSets :=
    .ofList (coverage.unavailableDatabases.map (·.sourceSetId))
  coverage.formatVersion == 1 &&
    sortedUnique coverage.snapshotSourceSetIds &&
    sortedUnique coverage.attemptedSourceSetIds &&
    sortedUnique coverage.freshSourceSetIds &&
    sortedUnique coverage.unavailableSourceSetIds &&
    sortedUnique coverage.preservedStaleSourceSetIds &&
    coverage.totalDatabaseCount == snapshot.size &&
    coverage.attemptedDatabaseCount == attempted.size &&
    coverage.restoredDatabaseCount == fresh.size &&
    coverage.unavailableDatabaseCount == unavailable.size &&
    coverage.preservedStaleDatabaseCount == stale.size &&
    attempted.toList.all (snapshot.contains ·) &&
    fresh.toList.all (attempted.contains ·) &&
    unavailable.toList.all (attempted.contains ·) &&
    stale.toList.all (unavailable.contains ·) &&
    coverage.unavailableDatabases.length == unavailableDetails.size &&
    decide ((coverage.unavailableDatabases.map (·.sourceSetId)).Pairwise (· < ·)) &&
    unavailableDetails == unavailable &&
    coverage.unavailableDatabases.all (fun database =>
      !database.logicalPath.isEmpty && !database.storageFamily.isEmpty &&
        !database.reason.isEmpty) &&
    fresh.toList.all (fun sourceSet => !unavailable.contains sourceSet) &&
    fresh.size + unavailable.size == attempted.size &&
    coverage.authoritativeDatabaseCoverage ==
      (attempted == snapshot && unavailable.isEmpty)

end RestorationDatabaseCoverage

inductive RestorationMediaPhase where
  | resolved
  | deferred
  deriving DecidableEq

inductive RestorationArchiveScope where
  | authoritative
  | partialDatabaseCoverage
  | incrementalFragment
  | diagnosticSubset
  deriving DecidableEq

inductive AccountHolderBindingEvidence where
  | snapshotManifest
  | legacyAccountRoot
  deriving DecidableEq

structure RestorationIntegrity where
  databaseCount : ℕ
  messageTableCount : ℕ
  messageCandidateGapCount : ℕ
  observedTableRowCount : ℕ
  tableRoleCounts : ExtTreeMap String ℕ
  tableClassificationReasonCounts : ExtTreeMap String ℕ
  sourceRowCount : ℕ
  restoredRowCount : ℕ
  rejectedRowCount : ℕ
  duplicateCanonicalIdCount : ℕ
  unknownPayloadCount : ℕ
  unknownPayloadReasonCounts : ExtTreeMap String ℕ
  semanticGapCount : ℕ
  semanticGapReasonCounts : ExtTreeMap String ℕ
  logicalTypeCounts : ExtTreeMap String ℕ
  logicalSubTypeCounts : ExtTreeMap String ℕ
  messageSchemaCounts : ExtTreeMap String ℕ
  artifactReferenceCount : ℕ
  uniqueArtifactCount : ℕ
  downloadedArtifactCount : ℕ
  materializedArtifactCount : ℕ
  missingArtifactCount : ℕ
  ambiguousArtifactCount : ℕ
  corruptArtifactCount : ℕ
  unsafeArtifactCount : ℕ
  decodedArtifactCount : ℕ
  artifactDecodeGapCount : ℕ
  accountRootUnavailableArtifactCount : ℕ
  relationshipReferenceCount : ℕ
  resolvedRelationshipCount : ℕ
  unresolvedRelationshipCount : ℕ
  absentRelationshipTargetCount : ℕ
  missingRelationshipIdentifierCount : ℕ
  ambiguousRelationshipCount : ℕ
  orderingBasisCounts : ExtTreeMap String ℕ
  directionCounts : ExtTreeMap String ℕ
  directionConflictCount : ℕ
  conversationCount : ℕ
  participantCount : ℕ
  groupMemberCount : ℕ
  entitySourceRowCount : ℕ
  entityDecodeGapCount : ℕ
  missingLocalProfileCount : ℕ
  unresolvedConversationCount : ℕ
  cachedMomentCount : ℕ
  cachedMomentInteractionCount : ℕ
  cachedSurfaceSemanticGapCount : ℕ
  cachedSurfaceOmittedRowCount : ℕ
  deriving DecidableEq

/-- The integrity of an archive without records. -/
def RestorationIntegrity.empty : RestorationIntegrity where
  databaseCount := 0
  messageTableCount := 0
  messageCandidateGapCount := 0
  observedTableRowCount := 0
  tableRoleCounts := ∅
  tableClassificationReasonCounts := ∅
  sourceRowCount := 0
  restoredRowCount := 0
  rejectedRowCount := 0
  duplicateCanonicalIdCount := 0
  unknownPayloadCount := 0
  unknownPayloadReasonCounts := ∅
  semanticGapCount := 0
  semanticGapReasonCounts := ∅
  logicalTypeCounts := ∅
  logicalSubTypeCounts := ∅
  messageSchemaCounts := ∅
  artifactReferenceCount := 0
  uniqueArtifactCount := 0
  downloadedArtifactCount := 0
  materializedArtifactCount := 0
  missingArtifactCount := 0
  ambiguousArtifactCount := 0
  corruptArtifactCount := 0
  unsafeArtifactCount := 0
  decodedArtifactCount := 0
  artifactDecodeGapCount := 0
  accountRootUnavailableArtifactCount := 0
  relationshipReferenceCount := 0
  resolvedRelationshipCount := 0
  unresolvedRelationshipCount := 0
  absentRelationshipTargetCount := 0
  missingRelationshipIdentifierCount := 0
  ambiguousRelationshipCount := 0
  orderingBasisCounts := ∅
  directionCounts := ∅
  directionConflictCount := 0
  conversationCount := 0
  participantCount := 0
  groupMemberCount := 0
  entitySourceRowCount := 0
  entityDecodeGapCount := 0
  missingLocalProfileCount := 0
  unresolvedConversationCount := 0
  cachedMomentCount := 0
  cachedMomentInteractionCount := 0
  cachedSurfaceSemanticGapCount := 0
  cachedSurfaceOmittedRowCount := 0

def RestorationIntegrity.rowEquationHolds (integrity : RestorationIntegrity) : Bool :=
  integrity.sourceRowCount ==
    wrappingAdd 64 integrity.restoredRowCount integrity.rejectedRowCount

structure RestorationCompletion where
  rowEquationHolds : Bool
  zeroRejectedRows : Bool
  canonicalIdentitiesUnique : Bool
  semanticMessageCoverageComplete : Bool
  directionsComplete : Bool
  entityCoverageComplete : Bool
  relationshipCoverageComplete : Bool
  artifactVerificationComplete : Bool
  artifactDecodingComplete : Bool
  fullRestorationAchieved : Bool
  deriving DecidableEq

def RestorationCompletion.evaluate (integrity : RestorationIntegrity) : RestorationCompletion :=
  let rowEquationHolds := integrity.rowEquationHolds
  let zeroRejectedRows := integrity.rejectedRowCount == 0
  let canonicalIdentitiesUnique := integrity.duplicateCanonicalIdCount == 0
  let semanticMessageCoverageComplete :=
    integrity.semanticGapCount == 0 && integrity.messageCandidateGapCount == 0
  let directionsComplete :=
    integrity.directionCounts.getD "unknown" 0 == 0 && integrity.directionConflictCount == 0
  let entityCoverageComplete :=
    integrity.entityDecodeGapCount == 0 && integrity.unresolvedConversationCount == 0
  let relationshipCoverageComplete :=
    integrity.missingRelationshipIdentifierCount == 0 &&
      integrity.ambiguousRelationshipCount == 0 &&
      integrity.unresolvedRelationshipCount == integrity.absentRelationshipTargetCount
  let artifactVerificationComplete :=
    integrity.ambiguousArtifactCount == 0 && integrity.corruptArtifactCount == 0 &&
      integrity.unsafeArtifactCount == 0 && integrity.accountRootUnavailableArtifactCount == 0
  let artifactDecodingComplete := integrity.artifactDecodeGapCount == 0
  { rowEquationHolds
    zeroRejectedRows
    canonicalIdentitiesUnique
    semanticMessageCoverageComplete
    directionsComplete
    entityCoverageComplete
    relationshipCoverageComplete
    artifactVerificationComplete
    artifactDecodingComplete
    fullRestorationAchieved :=
      rowEquationHolds && zeroRejectedRows && canonicalIdentitiesUnique &&
        semanticMessageCoverageComplete && directionsComplete && entityCoverageComplete &&
        relationshipCoverageComplete && artifactVerificationComplete &&
        artifactDecodingComplete && integrity.cachedSurfaceOmittedRowCount == 0 }

structure RestorationReport where
  formatVersion : ℕ
  accountId : String
  selfParticipantId : Option String
  accountBindingEvidence : Option AccountHolderBindingEvidence
  sourceFingerprint : String
  productionCompatible : Bool
  acquisition : Option SnapshotAcquisitionEvidence
  archiveScope : RestorationArchiveScope
  databaseCoverage : Option RestorationDatabaseCoverage
  mediaPhase : RestorationMediaPhase
  integrity : RestorationIntegrity
  completion : RestorationCompletion
  deriving DecidableEq

/-- Whether an audited archive may be applied to a replica. A partial archive
must account for every database of the snapshot as fresh or unavailable. -/
def RestorationReport.replicaMutationEligible (report : RestorationReport) : Bool :=
  match report.archiveScope with
  | .authoritative =>
    report.databaseCoverage.all fun coverage =>
      coverage.isValid && coverage.authoritativeDatabaseCoverage
  | .partialDatabaseCoverage =>
    decide (5 ≤ report.formatVersion) &&
      report.databaseCoverage.any fun coverage =>
        coverage.isValid && !coverage.authoritativeDatabaseCoverage &&
          coverage.attemptedSourceSetIds == coverage.snapshotSourceSetIds
  | .incrementalFragment | .diagnosticSubset => false

/-- An archive directory: its report and every ledger beside it. -/
structure RestorationArchive where
  report : RestorationReport
  coverage : RestorationCoverage
  messages : List CanonicalMessage
  conversations : List CanonicalConversation
  participants : List CanonicalParticipant
  artifacts : List CanonicalArtifact
  rejections : List RejectedRow
  cachedSurfaces : Option CachedSurfaces
  deriving DecidableEq

end GreenBubbles.Archive
