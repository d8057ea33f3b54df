import Mathlib.Data.String.Basic
import Std.Data.ExtTreeMap
import Std.Data.ExtTreeSet
import GreenBubbles.Basic

/-! # Archive ledgers

The canonical records an archive stores, one structure per ledger. Ordered maps
and sets of the source are the extensional trees of the standard library; a
`u64` is a natural number and an `i64` an integer.
-/
namespace GreenBubbles.Archive

open Std

/-- A value as SQLite stored it; a real keeps its binary representation. -/
inductive RawSQLiteValue where
  | null
  | integer (value : ℤ)
  | real (bits : BitVec 64)
  | textBase64 (value : String)
  | blobBase64 (value : String)
  deriving DecidableEq

inductive MessageDirection where
  | incoming
  | outgoing
  | unknown
  deriving DecidableEq

inductive DirectionEvidence where
  | explicitSourceColumn
  | senderMatchesConversation
  | senderDiffersFromConversation
  | senderMatchesAccount
  | senderDiffersFromAccount
  | senderAccountConflictWithExplicitSourceColumn
  | unresolved
  deriving DecidableEq

inductive MessageOrderingBasis where
  | sortSequence
  | serverId
  | createdAt
  | localId
  | hybridSourceFallback
  deriving DecidableEq

inductive RelationshipResolutionState where
  | pending
  | resolved
  | targetNotPresentLocally
  | referenceIdentifierMissing
  | ambiguous
  deriving DecidableEq

inductive MessageRelationshipKind where
  | quote
  | reply
  | recall
  | edit
  | reaction
  | mergedChild
  | unknown
  deriving DecidableEq

structure MessageRelationship where
  kind : MessageRelationshipKind
  targetCanonicalId : Option String
  targetServerId : Option ℤ
  targetLocalId : Option ℤ
  resolved : Bool
  resolutionState : RelationshipResolutionState
  rawReferenceBase64 : Option String
  deriving DecidableEq

inductive ArtifactRole where
  | original
  | highResolution
  | thumbnail
  | voicePayload
  | videoPayload
  | videoPoster
  | filePayload
  | stickerPayload
  | auxiliary
  | unknown
  deriving DecidableEq

structure MessageArtifactReference where
  artifactId : String
  role : ArtifactRole
  preferred : Bool
  deriving DecidableEq

/-- A decoded payload is kept as the text of its JSON value. -/
inductive TypedPayload where
  | decoded (value : String)
  | unknown (reason : String)
  deriving DecidableEq

inductive SemanticDecodeState where
  | complete
  | partial_
  | unknownType
  | failed
  | missingType
  deriving DecidableEq

structure CanonicalMessage where
  canonicalId : String
  accountId : String
  sourceSetId : String
  sourceLogicalPath : String
  sourceTableId : String
  sourceTableName : String
  sourceRowId : ℤ
  conversationId : String
  conversationSourceIdentifierBase64 : String
  senderId : Option String
  senderSourceIdentifierBase64 : Option String
  localId : Option ℤ
  serverId : Option ℤ
  sortSequence : Option ℤ
  createdAtUnix : Option ℤ
  conversationOrdinal : ℕ
  orderingBasis : MessageOrderingBasis
  rawType : Option ℤ
  logicalType : Option ℕ
  subType : Option ℕ
  status : Option ℤ
  direction : MessageDirection
  directionEvidence : DirectionEvidence
  contentBase64 : Option String
  packedInfoBase64 : Option String
  compressionType : Option ℤ
  rawColumns : ExtTreeMap String RawSQLiteValue
  typedPayload : TypedPayload
  semanticDecodeState : SemanticDecodeState
  semanticGapReason : Option String
  relationships : List MessageRelationship
  artifactReferences : List MessageArtifactReference
  deriving DecidableEq

inductive ArtifactKind where
  | image
  | animatedImage
  | voice
  | video
  | document
  | thumbnail
  | richMedia
  | unknown
  deriving DecidableEq

inductive ArtifactAvailability where
  | downloaded
  | materializedFromDatabase
  | notDownloaded
  | remoteOnly
  | expired
  | deleted
  | corrupt
  | ambiguous
  | metadataMissing
  | unsafePath
  | accountRootUnavailable
  deriving DecidableEq

inductive ArtifactDecodeState where
  | notRequired
  | decoded
  | keyUnavailable
  | unsupported
  | failed
  deriving DecidableEq

/-- `roles` holds every role the artifact serves across all referencing
messages; an archive written before it existed leaves it empty, which stands
for exactly `role`. -/
structure CanonicalArtifact where
  artifactId : String
  kind : ArtifactKind
  role : ArtifactRole
  roles : List ArtifactRole
  availability : ArtifactAvailability
  sourceMd5 : Option String
  sourceLocalPath : Option String
  accountRelativePath : Option String
  sourceByteCount : Option ℕ
  sourceDeviceId : Option ℕ
  sourceFileId : Option ℕ
  sourceModifiedSeconds : Option ℤ
  sourceModifiedNanoseconds : Option ℤ
  sourceSha256 : Option String
  detectedFormat : Option String
  materializedLocalPath : Option String
  decodedLocalPath : Option String
  decodedByteCount : Option ℕ
  decodedSha256 : Option String
  decodedFormat : Option String
  decodeState : ArtifactDecodeState
  verificationDetail : Option String
  sourceResourceSetId : Option String
  sourceResourceLogicalPath : Option String
  sourceResourceTableId : Option String
  sourceResourceTableName : Option String
  sourceResourceRowId : Option ℤ
  deriving DecidableEq

structure EntitySourceRecord where
  sourceSetId : String
  sourceLogicalPath : String
  sourceTableId : String
  sourceTableName : String
  sourceRowId : ℤ
  rawColumns : ExtTreeMap String RawSQLiteValue
  deriving DecidableEq

inductive LocalProfileState where
  | hydrated
  | missingLocalRecord
  deriving DecidableEq

structure CanonicalParticipant where
  participantId : String
  accountId : String
  sourceIdentifierBase64 : String
  aliasBase64 : Option String
  remarkBase64 : Option String
  nicknameBase64 : Option String
  displayNameBase64 : Option String
  localProfileState : LocalProfileState
  conversationIds : List String
  sourceRecords : List EntitySourceRecord
  deriving DecidableEq

inductive ConversationKind where
  | direct
  | group
  | business
  | chatbot
  | system
  | unresolved
  deriving DecidableEq

inductive EntityDecodeState where
  | complete
  | rawOnly
  | failed
  deriving DecidableEq

inductive ConversationMembershipRole where
  | directPeer
  | owner
  | member
  | observedSender
  deriving DecidableEq

/-- The declaration order of the roles. -/
def ConversationMembershipRole.rank : ConversationMembershipRole → ℕ
  | .directPeer => 0
  | .owner => 1
  | .member => 2
  | .observedSender => 3

theorem ConversationMembershipRole.rank_injective : Function.Injective rank := by
  intro left right h
  cases left <;> cases right <;> first | rfl | cases h

structure ConversationMembership where
  participantId : String
  role : ConversationMembershipRole
  displayNameBase64 : Option String
  deriving DecidableEq

structure CanonicalConversation where
  conversationId : String
  accountId : String
  sourceIdentifierBase64 : String
  kind : ConversationKind
  participantIds : List String
  memberships : List ConversationMembership
  ownerParticipantId : Option String
  entityDecodeState : EntityDecodeState
  sourceRecords : List EntitySourceRecord
  deriving DecidableEq

structure RejectedRow where
  sourceSetId : String
  sourceTableId : String
  sourceRowId : Option ℤ
  reason : String
  deriving DecidableEq

structure CanonicalCachedMoment where
  canonicalId : String
  accountId : String
  sourceSetId : String
  sourceLogicalPath : String
  sourceTableId : String
  sourceTableName : String
  sourceRowId : ℤ
  timelineId : RawSQLiteValue
  authorId : Option String
  authorSourceIdentifierBase64 : Option String
  createdAtUnix : Option ℤ
  contentType : Option ℤ
  contentDescriptionBase64 : Option String
  titleBase64 : Option String
  descriptionBase64 : Option String
  contentUrlBase64 : Option String
  mediaCount : ℕ
  likeCount : ℕ
  commentCount : ℕ
  rawContentBase64 : Option String
  rawPackInfoBase64 : Option String
  rawColumns : ExtTreeMap String RawSQLiteValue
  semanticDecodeState : SemanticDecodeState
  semanticGapReason : Option String
  observedAt : String
  deriving DecidableEq

inductive CachedMomentInteractionKind where
  | comment
  | like
  | unknown
  deriving DecidableEq

structure CanonicalCachedMomentInteraction where
  canonicalId : String
  accountId : String
  sourceSetId : String
  sourceLogicalPath : String
  sourceTableId : String
  sourceTableName : String
  sourceRowId : ℤ
  localId : Option ℤ
  feedId : RawSQLiteValue
  createdAtUnix : Option ℤ
  kind : CachedMomentInteractionKind
  rawType : Option ℤ
  fromParticipantId : Option String
  fromSourceIdentifierBase64 : Option String
  fromNicknameBase64 : Option String
  toParticipantId : Option String
  toSourceIdentifierBase64 : Option String
  toNicknameBase64 : Option String
  contentBase64 : Option String
  rawColumns : ExtTreeMap String RawSQLiteValue
  observedAt : String
  deriving DecidableEq

end GreenBubbles.Archive
