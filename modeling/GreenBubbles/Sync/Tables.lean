import GreenBubbles.Archive.Report
import GreenBubbles.Library.Base64
import GreenBubbles.Library.Json
import GreenBubbles.Library.Ordered
import GreenBubbles.Library.Sha256

/-! # The tables of a replica

Six tables keep the records of one account, each under its identity; four more
hold rows that belong to one of them and go with it. A record is stored as its
canonical text. Who reads such a text is a parameter. Rows that reference one
parent are kept together under it, in the order of their ordinals.
-/
namespace GreenBubbles.Sync

open Std Archive Library Library.Ordered

inductive EntityKind where
  | conversation
  | participant
  | artifact
  | message
  | cachedMoment
  | cachedMomentInteraction
  deriving DecidableEq

structure ConversationColumns where
  kind : ConversationKind
  entityDecodeState : EntityDecodeState
  participantCount : ℕ
  deriving DecidableEq

structure ParticipantColumns where
  localProfileState : LocalProfileState
  deriving DecidableEq

structure ArtifactColumns where
  kind : ArtifactKind
  role : ArtifactRole
  availability : ArtifactAvailability
  sourceSha256 : Option String
  decodedSha256 : Option String
  deriving DecidableEq

structure MessageColumns where
  conversationId : String
  senderId : Option String
  conversationOrdinal : ℕ
  createdAtUnix : Option ℤ
  direction : MessageDirection
  logicalType : Option ℕ
  subType : Option ℕ
  semanticDecodeState : SemanticDecodeState
  searchText : String
  deriving DecidableEq

/-- The place of a message, which no two of them share. -/
def MessageColumns.position (columns : MessageColumns) : String × ℕ :=
  (columns.conversationId, columns.conversationOrdinal)

structure CachedMomentColumns where
  authorId : Option String
  createdAtUnix : Option ℤ
  contentType : Option ℤ
  deriving DecidableEq

structure CachedMomentInteractionColumns where
  createdAtUnix : Option ℤ
  interactionKind : CachedMomentInteractionKind
  fromParticipantId : Option String
  toParticipantId : Option String
  deriving DecidableEq

namespace EntityKind

abbrev Record : EntityKind → Type
  | .conversation => CanonicalConversation
  | .participant => CanonicalParticipant
  | .artifact => CanonicalArtifact
  | .message => CanonicalMessage
  | .cachedMoment => CanonicalCachedMoment
  | .cachedMomentInteraction => CanonicalCachedMomentInteraction

abbrev Columns : EntityKind → Type
  | .conversation => ConversationColumns
  | .participant => ParticipantColumns
  | .artifact => ArtifactColumns
  | .message => MessageColumns
  | .cachedMoment => CachedMomentColumns
  | .cachedMomentInteraction => CachedMomentInteractionColumns

def identifier : (kind : EntityKind) → kind.Record → String
  | .conversation, record => record.conversationId
  | .participant, record => record.participantId
  | .artifact, record => record.artifactId
  | .message, record => record.canonicalId
  | .cachedMoment, record => record.canonicalId
  | .cachedMomentInteraction, record => record.canonicalId

/-- An artifact names no account. -/
def accountId : (kind : EntityKind) → kind.Record → Option String
  | .conversation, record => some record.accountId
  | .participant, record => some record.accountId
  | .artifact, _ => none
  | .message, record => some record.accountId
  | .cachedMoment, record => some record.accountId
  | .cachedMomentInteraction, record => some record.accountId

end EntityKind

/-! What is stored of a record -/

def checkedI64 (value : ℕ) : Except RestoreError ℕ :=
  if value < 2 ^ 63 then .ok value
  else .error (.integrity "replica count exceeds SQLite range")

/-- Raw source text is not searched. -/
def unsearchedField (field : Option String) : Bool := field == some "raw_xml" || field == some "raw"

mutual

def collectSearchStrings (field : Option String) : Json → List String
  | .str text => if unsearchedField field || text.isEmpty then [] else [text]
  | .arr elements => if unsearchedField field then [] else collectElements field elements
  | .obj members => if unsearchedField field then [] else collectMembers members
  | _ => []

def collectElements (field : Option String) : List Json → List String
  | [] => []
  | value :: values => collectSearchStrings field value ++ collectElements field values

def collectMembers : List (String × Json) → List String
  | [] => []
  | (name, value) :: members => collectSearchStrings (some name) value ++ collectMembers members

end

/-- How texts of records and of typed payloads are read. -/
structure LedgerReader where
  read : (kind : EntityKind) → String → Except RestoreError kind.Record
  payload : String → Json

structure RecordRow (kind : EntityKind) where
  columns : kind.Columns
  recordSha256 : String
  recordJson : String

attribute [ext] RecordRow

/-- A row of the full-text index. -/
structure FullTextRow where
  conversationId : String
  searchText : String
  deriving DecidableEq

structure RelationshipRow where
  ordinal : ℕ
  kind : MessageRelationshipKind
  targetCanonicalId : Option String
  resolved : Bool
  relationship : MessageRelationship
  deriving DecidableEq

structure ArtifactLinkRow where
  ordinal : ℕ
  artifactId : String
  role : ArtifactRole
  preferred : Bool
  deriving DecidableEq

namespace LedgerReader

variable (reader : LedgerReader)

def messageSearchText (message : CanonicalMessage) : String :=
  let values := match message.typedPayload with
    | .decoded text => collectSearchStrings none (reader.payload text)
    | .unknown _ => []
  let content := (message.contentBase64.bind Base64.decodeStandard).bind fun bytes =>
    String.fromUTF8? ⟨bytes.toArray⟩
  "\n".intercalate (values ++ (content.filter (!values.contains ·)).toList)

def columns : (kind : EntityKind) → kind.Record → Except RestoreError kind.Columns
  | .conversation, record => do
    return ⟨record.kind, record.entityDecodeState, ← checkedI64 record.participantIds.length⟩
  | .participant, record => .ok ⟨record.localProfileState⟩
  | .artifact, record =>
    .ok ⟨record.kind, record.role, record.availability, record.sourceSha256, record.decodedSha256⟩
  | .message, record => do
    let conversationOrdinal ← checkedI64 record.conversationOrdinal
    return {
      conversationId := record.conversationId
      senderId := record.senderId
      conversationOrdinal
      createdAtUnix := record.createdAtUnix
      direction := record.direction
      logicalType := record.logicalType
      subType := record.subType
      semanticDecodeState := record.semanticDecodeState
      searchText := reader.messageSearchText record }
  | .cachedMoment, record => .ok ⟨record.authorId, record.createdAtUnix, record.contentType⟩
  | .cachedMomentInteraction, record =>
    .ok ⟨record.createdAtUnix, record.kind, record.fromParticipantId, record.toParticipantId⟩

def row (kind : EntityKind) (record : kind.Record) (text : String) :
    Except RestoreError (RecordRow kind) := do
  return ⟨← reader.columns kind record, Sha256.hexDigest (Bytes.utf8 text), text⟩

end LedgerReader

/-- References a message makes in a way that can be indexed. -/
def relationshipReferenceIsIndexable (relationship : MessageRelationship) : Bool :=
  relationship.resolved == (relationship.resolutionState == .resolved) &&
    if relationship.resolved then relationship.targetCanonicalId.any (!·.isEmpty)
    else relationship.targetCanonicalId.isNone

def relationshipRows (message : CanonicalMessage) : List RelationshipRow :=
  (message.relationships.zipIdx.filter fun (relationship, _) =>
    relationshipReferenceIsIndexable relationship).map fun (relationship, ordinal) =>
      ⟨ordinal, relationship.kind, relationship.targetCanonicalId, relationship.resolved,
        relationship⟩

/-- The references that name an artifact none before them names. -/
def firstReferences (seen : List String) :
    List (MessageArtifactReference × ℕ) → List (MessageArtifactReference × ℕ)
  | [] => []
  | (reference, ordinal) :: references =>
    if reference.artifactId.isEmpty || seen.contains reference.artifactId then
      firstReferences seen references
    else (reference, ordinal) :: firstReferences (reference.artifactId :: seen) references

def artifactRows (message : CanonicalMessage) : List ArtifactLinkRow :=
  (firstReferences [] message.artifactReferences.zipIdx).map fun (reference, ordinal) =>
    ⟨ordinal, reference.artifactId, reference.role, reference.preferred⟩

def fullTextRow (columns : MessageColumns) : FullTextRow :=
  ⟨columns.conversationId, columns.searchText⟩

structure CoverageState where
  report : RestorationReport
  coverage : RestorationCoverage
  deriving DecidableEq

structure ReplicaTables where
  records : (kind : EntityKind) → ExtTreeMap String (RecordRow kind)
  conversationParticipant : ExtTreeMap String (List ConversationMembership)
  messageFts : ExtTreeMap String (List FullTextRow)
  messageRelationship : ExtTreeMap String (List RelationshipRow)
  messageArtifact : ExtTreeMap String (List ArtifactLinkRow)
  cachedSurfaceState : Option CachedSurfaceCoverage
  coverageState : Option CoverageState

attribute [ext] ReplicaTables

namespace ReplicaTables

def empty : ReplicaTables where
  records _ := ∅
  conversationParticipant := ∅
  messageFts := ∅
  messageRelationship := ∅
  messageArtifact := ∅
  cachedSurfaceState := none
  coverageState := none

variable (tables : ReplicaTables)

def setRecord (kind : EntityKind) (identifier : String) (row : RecordRow kind) : ReplicaTables :=
  { tables with
    records := Function.update tables.records kind ((tables.records kind).insert identifier row) }

def ordinalTaken (identifier : String) (position : String × ℕ) : Bool :=
  (tables.records .message).toList.any fun (other, row) =>
    other != identifier && row.columns.position == position

/-- The constraints a written row has to meet, besides its primary key. -/
def checkConstraints : (kind : EntityKind) → String → RecordRow kind → Except RestoreError Unit
  | .message, identifier, row =>
    if tables.ordinalTaken identifier row.columns.position then
      .error (.sqlite "UNIQUE constraint failed")
    else if !(tables.records .conversation).contains row.columns.conversationId then
      .error (.sqlite "FOREIGN KEY constraint failed")
    else .ok ()
  | _, _, _ => .ok ()

/-- A message is indexed with its row. -/
def index : (kind : EntityKind) → String → RecordRow kind → ReplicaTables
  | .message, identifier, row =>
    let rows := tables.messageFts.getD identifier [] ++ [fullTextRow row.columns]
    { tables with messageFts := tables.messageFts.insert identifier rows }
  | _, _, _ => tables

def unindex : EntityKind → String → ReplicaTables
  | .message, identifier => { tables with messageFts := tables.messageFts.erase identifier }
  | _, _ => tables

def insertRecord (kind : EntityKind) (identifier : String) (row : RecordRow kind) :
    Except RestoreError ReplicaTables := do
  if (tables.records kind).contains identifier then
    throw (.sqlite "UNIQUE constraint failed")
  tables.checkConstraints kind identifier row
  return (tables.setRecord kind identifier row).index kind identifier row

def updateRecord (kind : EntityKind) (identifier : String) (row : RecordRow kind) :
    Except RestoreError ReplicaTables := do
  tables.checkConstraints kind identifier row
  return ((tables.setRecord kind identifier row).unindex kind identifier).index kind identifier row

/-- No member has one role twice, and all members are listed. -/
def insertMemberships (conversation : String) (memberships : List ConversationMembership) :
    Except RestoreError ReplicaTables :=
  if !decide (memberships.map fun membership => (membership.participantId, membership.role)).Nodup
  then .error (.sqlite "UNIQUE constraint failed")
  else if !memberships.all fun membership =>
      (tables.records .participant).contains membership.participantId then
    .error (.sqlite "FOREIGN KEY constraint failed")
  else .ok { tables with conversationParticipant :=
    tables.conversationParticipant.insert conversation memberships }

def listedLinks (message : CanonicalMessage) : List ArtifactLinkRow :=
  (artifactRows message).filter fun link => (tables.records .artifact).contains link.artifactId

/-- What a message links to, in place of what it linked to before. -/
def replaceMessageLinks (message : CanonicalMessage) : ReplicaTables :=
  { tables with
    messageRelationship :=
      tables.messageRelationship.insert message.canonicalId (relationshipRows message)
    messageArtifact := tables.messageArtifact.insert message.canonicalId
      (tables.listedLinks message) }

/-- Only a message links to other records. -/
def link : (kind : EntityKind) → kind.Record → ReplicaTables
  | .message, record => tables.replaceMessageLinks record
  | _, _ => tables

/-- Deletes a record and every row that references it; the index has no references. -/
def deleteRecord : EntityKind → String → ReplicaTables
  | .conversation, identifier =>
    let kept := (tables.records .message).filter fun _ row =>
      row.columns.conversationId != identifier
    { tables with
      records := Function.update (Function.update tables.records .conversation
        ((tables.records .conversation).erase identifier)) .message kept
      conversationParticipant := tables.conversationParticipant.erase identifier
      messageRelationship := tables.messageRelationship.filter fun source _ => kept.contains source
      messageArtifact := tables.messageArtifact.filter fun source _ => kept.contains source }
  | .participant, identifier =>
    { tables with
      records := Function.update tables.records .participant
        ((tables.records .participant).erase identifier)
      conversationParticipant := tables.conversationParticipant.map fun _ memberships =>
        memberships.filter (·.participantId != identifier) }
  | .artifact, identifier =>
    { tables with
      records := Function.update tables.records .artifact
        ((tables.records .artifact).erase identifier)
      messageArtifact := tables.messageArtifact.map fun _ links =>
        links.filter (·.artifactId != identifier) }
  | .message, identifier =>
    { tables with
      records := Function.update tables.records .message
        ((tables.records .message).erase identifier)
      messageRelationship := tables.messageRelationship.erase identifier
      messageArtifact := tables.messageArtifact.erase identifier }
  | .cachedMoment, identifier =>
    { tables with
      records := Function.update tables.records .cachedMoment
        ((tables.records .cachedMoment).erase identifier) }
  | .cachedMomentInteraction, identifier =>
    { tables with
      records := Function.update tables.records .cachedMomentInteraction
        ((tables.records .cachedMomentInteraction).erase identifier) }

end ReplicaTables

end GreenBubbles.Sync
