import GreenBubbles.Merge.Tables

/-! # Integrity counters of a merged archive -/
namespace GreenBubbles.Merge

open Std Archive

variable (sha256 : List UInt8 → String)

/-- A table's schema fingerprint, or the digest of its lower-cased columns. -/
def messageSchemaIdentity (table : MessageTableCoverage) : String :=
  table.schemaFingerprint.getD
    (sha256 (utf8 (String.intercalate "\u001f" (table.columns.map String.toLower))))

def orderingBasisName : MessageOrderingBasis → String
  | .sortSequence => "sortSequence"
  | .serverId => "serverId"
  | .createdAt => "createdAt"
  | .localId => "localId"
  | .hybridSourceFallback => "hybridSourceFallback"

def directionName : MessageDirection → String
  | .incoming => "incoming"
  | .outgoing => "outgoing"
  | .unknown => "unknown"

def missingAvailability : ArtifactAvailability → Bool
  | .notDownloaded | .remoteOnly | .expired | .deleted | .metadataMissing
  | .accountRootUnavailable => true
  | _ => false

def artifactDecodeGap (artifact : CanonicalArtifact) : Bool :=
  (artifact.availability == .downloaded || artifact.availability == .materializedFromDatabase ||
    artifact.availability == .ambiguous) &&
  (artifact.decodeState == .keyUnavailable || artifact.decodeState == .unsupported ||
    artifact.decodeState == .failed)

def calculateIntegrity (databaseCount : ℕ) (messages : List CanonicalMessage)
    (artifacts : List CanonicalArtifact) (conversations : List CanonicalConversation)
    (participants : List CanonicalParticipant) (rejections : List RejectedRow)
    (coverage : RestorationCoverage) (cachedSurfaces : Option CachedSurfaces) :
    RestorationIntegrity :=
  let relationships := messages.flatMap (·.relationships)
  let inState (state : RelationshipResolutionState) :=
    relationships.countP (·.resolutionState = state)
  let available (availability : ArtifactAvailability) :=
    artifacts.countP (·.availability = availability)
  { databaseCount := databaseCount
    messageTableCount := coverage.messageTables.length
    messageCandidateGapCount :=
      coverage.allTables.countP (·.role = .unhandledMessageCandidate)
    observedTableRowCount := wrappingSum 64 (coverage.allTables.filterMap (·.sourceRowCount))
    tableRoleCounts := countKeys (coverage.allTables.map (·.role.wireName))
    tableClassificationReasonCounts :=
      countKeys (coverage.allTables.map (·.classificationReason))
    sourceRowCount := wrappingSum 64 (coverage.messageTables.map (·.sourceRowCount))
    restoredRowCount := messages.length
    rejectedRowCount := rejections.length
    duplicateCanonicalIdCount := 0
    unknownPayloadCount := (messages.filterMap unknownReason).length
    unknownPayloadReasonCounts := countUnknownReasons messages
    semanticGapCount := messages.countP (·.semanticDecodeState ≠ .complete)
    semanticGapReasonCounts := countSemanticGaps messages
    logicalTypeCounts := countKeys (messages.map logicalTypeKey)
    logicalSubTypeCounts := countKeys (messages.map subTypeKey)
    messageSchemaCounts := countKeys (coverage.messageTables.map (messageSchemaIdentity sha256))
    artifactReferenceCount := (messages.flatMap (·.artifactReferences)).length
    uniqueArtifactCount := artifacts.length
    downloadedArtifactCount := available .downloaded
    materializedArtifactCount := available .materializedFromDatabase
    missingArtifactCount := artifacts.countP (missingAvailability ·.availability)
    ambiguousArtifactCount := available .ambiguous
    corruptArtifactCount := available .corrupt
    unsafeArtifactCount := available .unsafePath
    decodedArtifactCount := artifacts.countP (·.decodeState = .decoded)
    artifactDecodeGapCount := artifacts.countP artifactDecodeGap
    accountRootUnavailableArtifactCount := available .accountRootUnavailable
    relationshipReferenceCount := relationships.length
    resolvedRelationshipCount := inState .resolved
    unresolvedRelationshipCount := relationships.countP (·.resolutionState ≠ .resolved)
    absentRelationshipTargetCount := inState .targetNotPresentLocally
    missingRelationshipIdentifierCount := inState .referenceIdentifierMissing
    ambiguousRelationshipCount := inState .ambiguous
    orderingBasisCounts := countKeys (messages.map (orderingBasisName ·.orderingBasis))
    directionCounts := countKeys (messages.map (directionName ·.direction))
    directionConflictCount := messages.countP
      (·.directionEvidence = .senderAccountConflictWithExplicitSourceColumn)
    conversationCount := conversations.length
    participantCount := participants.length
    groupMemberCount := (conversations.flatMap (·.memberships)).countP (·.role = .member)
    entitySourceRowCount := (conversations.flatMap (·.sourceRecords)).length +
      (participants.flatMap (·.sourceRecords)).length
    entityDecodeGapCount := conversations.countP (·.entityDecodeState ≠ .complete)
    missingLocalProfileCount := participants.countP (·.localProfileState = .missingLocalRecord)
    unresolvedConversationCount := conversations.countP (·.kind = .unresolved)
    cachedMomentCount := (cachedSurfaces.map (·.moments.length)).getD 0
    cachedMomentInteractionCount := (cachedSurfaces.map (·.interactions.length)).getD 0
    cachedSurfaceSemanticGapCount :=
      (cachedSurfaces.map (·.coverage.semanticGapCount)).getD 0
    cachedSurfaceOmittedRowCount :=
      (cachedSurfaces.map (·.coverage.omittedRowCount)).getD 0 }

end GreenBubbles.Merge
