import GreenBubbles.Archive.Records
import GreenBubbles.Library.Base64
import GreenBubbles.Library.Json
import GreenBubbles.Library.Paging
import GreenBubbles.Library.Sha256
import GreenBubbles.Library.Sql

/-! # Searching the replica's messages

The message table as SQLite stores it, the query a filter stands for and the
scan that turns its rows into a page. A column may hold a value of any storage
class; the decoder of stored records and the reader of cursor texts are parameters.
-/
namespace GreenBubbles.Replica

open Library Library.Bytes Library.Sql
open Archive (CanonicalMessage MessageDirection)

def minimumI64 : ℤ := -9223372036854775808
def maximumI64 : ℤ := 9223372036854775807

/-- A row of the message table, with the columns a search reads. -/
structure MessageRow where
  accountId : SqlValue
  canonicalId : SqlValue
  conversationId : SqlValue
  senderId : SqlValue
  conversationOrdinal : SqlValue
  createdAtUnix : SqlValue
  direction : SqlValue
  logicalType : SqlValue
  subType : SqlValue
  recordJson : SqlValue
  deriving DecidableEq

/-- Table rows under the constraints of their schema. -/
structure MessageTable where
  rows : List MessageRow
  required : ∀ row ∈ rows, row.accountId ≠ .null ∧ row.canonicalId ≠ .null ∧
    row.conversationId ≠ .null ∧ row.conversationOrdinal ≠ .null
  bounded : ∀ row ∈ rows, ∀ ordinal, row.conversationOrdinal = .integer ordinal →
    ordinal ≤ maximumI64
  primaryKey : (rows.map fun row => (row.accountId.key, row.canonicalId.key)).Nodup
  ordinals : (rows.map fun row =>
    (row.accountId.key, row.conversationId.key, row.conversationOrdinal.key)).Nodup

/-- A row of the relationship table. -/
structure RelationshipRow where
  accountId : SqlValue
  sourceCanonicalId : SqlValue
  targetCanonicalId : SqlValue

/-- A row of the table that links messages to artifacts. -/
structure ArtifactLinkRow where
  accountId : SqlValue
  canonicalId : SqlValue

/-- What a full-text query comes to. A statement on a missing index is not
prepared; a malformed query fails at its first row. -/
inductive FullTextResult where
  | matches (hits : List (SqlValue × SqlValue))
  | unavailable
  | failed

structure ReplicaIdentity where
  accountId : String
  currentSourceFingerprint : Option String
  updatedAtUnixNanoseconds : String

/-- What a search reads of an opened replica. -/
structure MessageStore where
  identity : Option ReplicaIdentity
  replicaId : String
  messages : MessageTable
  relationships : List RelationshipRow
  artifactLinks : List ArtifactLinkRow
  fullText : String → FullTextResult

structure ReplicaMessageFilter where
  conversationId : Option String
  senderId : Option String
  direction : Option MessageDirection
  logicalType : Option ℕ
  subType : Option ℕ
  notBeforeUnix : Option ℤ
  notAfterUnix : Option ℤ
  replyTargetCanonicalId : Option String
  hasAttachment : Option Bool
  fullTextQuery : Option String
  deriving DecidableEq

structure ReplicaMessageCursor where
  formatVersion : ℕ
  accountId : String
  replicaId : String
  sourceFingerprint : String
  checkpointRevision : String
  filterSha256 : String
  afterSortTime : ℤ
  afterConversationId : String
  afterConversationOrdinal : ℕ
  afterCanonicalId : String
  deriving DecidableEq

attribute [ext] ReplicaMessageCursor

namespace ReplicaMessageCursor

def toJson (cursor : ReplicaMessageCursor) : Json :=
  .obj
    [("formatVersion", .int cursor.formatVersion),
     ("accountId", .str cursor.accountId),
     ("replicaId", .str cursor.replicaId),
     ("sourceFingerprint", .str cursor.sourceFingerprint),
     ("checkpointRevision", .str cursor.checkpointRevision),
     ("filterSha256", .str cursor.filterSha256),
     ("afterSortTime", .int cursor.afterSortTime),
     ("afterConversationId", .str cursor.afterConversationId),
     ("afterConversationOrdinal", .int cursor.afterConversationOrdinal),
     ("afterCanonicalId", .str cursor.afterCanonicalId)]

def encode (cursor : ReplicaMessageCursor) : String := Base64.encode (utf8 cursor.toJson.toText)

theorem encode_injective : Function.Injective encode := by
  intro left right h
  have hjson : left.toJson = right.toJson :=
    Json.toText_inj (utf8_injective (Base64.encode_injective h))
  simpa [toJson, ReplicaMessageCursor.ext_iff, and_assoc] using hjson

/-- A reader of cursor texts that reads back every text a cursor is written as. -/
structure Decoder where
  decode : String → Except RestoreError ReplicaMessageCursor
  decode_encode : ∀ cursor, decode (encode cursor) = .ok cursor

end ReplicaMessageCursor

structure ReplicaMessagePage where
  accountId : String
  sourceFingerprint : String
  checkpointRevision : String
  items : List CanonicalMessage
  nextCursor : Option String
  omittedItemCount : ℕ
  limitationCodes : List String

def directionName : MessageDirection → String
  | .incoming => "incoming"
  | .outgoing => "outgoing"
  | .unknown => "unknown"

/-- A decimal `u128` with an optional plus sign. -/
def parseU128 (text : String) : Option ℕ :=
  let digits := match text.toList with
    | '+' :: rest => rest
    | characters => characters
  if digits = [] ∨ digits.any (fun c => !c.isDigit) then none
  else
    let value := Nat.ofDigitChars 10 digits 0
    if value < 2 ^ 128 then some value else none

namespace ReplicaMessageFilter

def toJson (filter : ReplicaMessageFilter) : Json :=
  let optional {α : Type} (make : α → Json) (value : Option α) : Json :=
    (value.map make).getD .null
  .obj
    [("conversationId", optional .str filter.conversationId),
     ("senderId", optional .str filter.senderId),
     ("direction", optional (fun direction => .str (directionName direction)) filter.direction),
     ("logicalType", optional (fun value => .int value) filter.logicalType),
     ("subType", optional (fun value => .int value) filter.subType),
     ("notBeforeUnix", optional .int filter.notBeforeUnix),
     ("notAfterUnix", optional .int filter.notAfterUnix),
     ("replyTargetCanonicalId", optional .str filter.replyTargetCanonicalId),
     ("hasAttachment", optional .bool filter.hasAttachment),
     ("fullTextQuery", optional .str filter.fullTextQuery)]

def sha256 (filter : ReplicaMessageFilter) : String := Sha256.hexDigest (utf8 filter.toJson.toText)

def validateIdentifier (name : String) (value : Option String) : Except RestoreError Unit :=
  require (value.all fun value => value != "" && value.utf8ByteSize ≤ 512)
    (name ++ " filter must be between 1 and 512 bytes")

def validate (filter : ReplicaMessageFilter) : Except RestoreError Unit := do
  require (!(filter.notBeforeUnix.any fun start => filter.notAfterUnix.any fun last => last < start))
    "message query has an inverted time range"
  require (filter.fullTextQuery.all fun query => query != "" && query.utf8ByteSize ≤ 4096)
    "full-text query must be between 1 and 4096 bytes"
  validateIdentifier "conversation" filter.conversationId
  validateIdentifier "sender" filter.senderId
  validateIdentifier "reply target" filter.replyTargetCanonicalId

end ReplicaMessageFilter

namespace MessageStore

structure Checkpoint where
  accountId : String
  sourceFingerprint : String
  revision : String
  deriving DecidableEq

def currentReplicaCheckpoint (store : MessageStore) : Except RestoreError Checkpoint :=
  match store.identity with
  | none => .error (.sqlite "query returned no rows")
  | some identity =>
    match identity.currentSourceFingerprint.filter (· ≠ "") with
    | none => .error (.integrity "replica has no authoritative source checkpoint")
    | some fingerprint =>
      if identity.accountId = "" ∨
          (parseU128 identity.updatedAtUnixNanoseconds).all (fun revision => revision = 0) then
        .error (.integrity "replica checkpoint identity or revision is invalid")
      else .ok ⟨identity.accountId, fingerprint, identity.updatedAtUnixNanoseconds⟩

def readReplicaId (store : MessageStore) : Except RestoreError String := do
  require (store.replicaId.utf8ByteSize == 32 && store.replicaId.toList.all isAsciiHexDigit)
    "replica generation identity is invalid"
  return store.replicaId

end MessageStore

abbrev RowKey := SqlKey ×ₗ SqlKey ×ₗ SqlKey ×ₗ SqlKey

namespace MessageRow

/-- `COALESCE(created_at_unix, -9223372036854775808)` -/
def sortTime (row : MessageRow) : SqlValue := row.createdAtUnix.coalesce (.integer minimumI64)

def key (row : MessageRow) : RowKey :=
  toLex (row.sortTime.key, toLex (row.conversationId.key,
    toLex (row.conversationOrdinal.key, row.canonicalId.key)))

/-- The condition on the columns a filter leaves open or compares. -/
def matchesColumns (filter : ReplicaMessageFilter) (row : MessageRow) : Bool :=
  filter.conversationId.all (fun value => row.conversationId.equals (.text value)) &&
    filter.senderId.all (fun value => row.senderId.equals (.text value)) &&
    filter.direction.all (fun value => row.direction.equals (.text (directionName value))) &&
    filter.logicalType.all (fun value => row.logicalType.equals (.integer value)) &&
    filter.subType.all (fun value => row.subType.equals (.integer value)) &&
    filter.notBeforeUnix.all (fun value => (SqlValue.integer value).equals row.createdAtUnix ||
      (SqlValue.integer value).precedes row.createdAtUnix) &&
    filter.notAfterUnix.all (fun value => row.createdAtUnix.equals (.integer value) ||
      row.createdAtUnix.precedes (.integer value))

/-- The conditions on linked tables, and on the hits of a full-text query. -/
def matchesLinks (store : MessageStore) (filter : ReplicaMessageFilter)
    (hits : Option (List (SqlValue × SqlValue))) (row : MessageRow) : Bool :=
  filter.replyTargetCanonicalId.all (fun target => store.relationships.any fun relationship =>
      relationship.accountId.equals row.accountId &&
        relationship.sourceCanonicalId.equals row.canonicalId &&
        relationship.targetCanonicalId.equals (.text target)) &&
    filter.hasAttachment.all (fun attached => attached == store.artifactLinks.any fun link =>
      link.accountId.equals row.accountId && link.canonicalId.equals row.canonicalId) &&
    hits.all (fun hits => hits.any fun hit =>
      hit.1.equals row.accountId && hit.2.equals row.canonicalId)

def isMatch (store : MessageStore) (accountId : String) (filter : ReplicaMessageFilter)
    (hits : Option (List (SqlValue × SqlValue))) (row : MessageRow) : Bool :=
  row.accountId.equals (.text accountId) && row.matchesColumns filter &&
    row.matchesLinks store filter hits

/-- The condition that continues after a cursor. -/
def isAfter (cursor : ReplicaMessageCursor) (row : MessageRow) : Bool :=
  let time := SqlValue.integer cursor.afterSortTime
  let conversation := SqlValue.text cursor.afterConversationId
  let ordinal := SqlValue.integer cursor.afterConversationOrdinal
  time.precedes row.sortTime ||
    (time.equals row.sortTime && conversation.precedes row.conversationId) ||
    (time.equals row.sortTime && conversation.equals row.conversationId &&
      ordinal.precedes row.conversationOrdinal) ||
    (time.equals row.sortTime && conversation.equals row.conversationId &&
      ordinal.equals row.conversationOrdinal &&
      (SqlValue.text cursor.afterCanonicalId).precedes row.canonicalId)

end MessageRow

/-- The indexed columns a cursor is made from. -/
structure MessageIdentity where
  createdAtUnix : Option ℤ
  conversationId : String
  conversationOrdinal : ℕ
  canonicalId : String
  deriving DecidableEq

namespace MessageRow

/-- A negative ordinal is read as zero. -/
def readIdentity (row : MessageRow) : Option MessageIdentity := do
  let createdAtUnix ← row.createdAtUnix.getNullable SqlValue.getInteger
  let conversationId ← row.conversationId.getText
  let conversationOrdinal ← row.conversationOrdinal.getInteger
  let canonicalId ← row.canonicalId.getText
  return ⟨createdAtUnix, conversationId, conversationOrdinal.toNat, canonicalId⟩

variable (decode : List UInt8 → Option CanonicalMessage) (accountId : String)

/-- The stored record, if it decodes and agrees with the indexed columns. -/
def readRecord (row : MessageRow) (identity : MessageIdentity) : Option CanonicalMessage := do
  let bytes ← row.recordJson.getBlob
  let message ← decode bytes
  if message.accountId ≠ accountId ∨ message.canonicalId = "" ∨ message.conversationId = "" ∨
      message.canonicalId ≠ identity.canonicalId ∨
      message.conversationId ≠ identity.conversationId ∨
      message.conversationOrdinal ≠ identity.conversationOrdinal ∨
      message.createdAtUnix ≠ identity.createdAtUnix then none
  else some message

end MessageRow

structure Scan where
  items : List CanonicalMessage
  omittedItemCount : ℕ
  lastScannedIdentity : Option MessageIdentity
  hasMore : Bool
  scannedCount : ℕ

section Query

variable (cursors : ReplicaMessageCursor.Decoder) (decode : List UInt8 → Option CanonicalMessage)
  (accountId : String) (limit : ℕ)

/-- The loop over the rows of a query; a row that is an error of the query itself is `none`. -/
def scanRows : Scan → List (Option MessageRow) → Scan
  | scan, [] => scan
  | scan, row :: rows =>
    let scan := { scan with scannedCount := scan.scannedCount + 1 }
    match row.bind fun row => row.readIdentity.map fun identity => (row, identity) with
    | none => scanRows { scan with omittedItemCount := scan.omittedItemCount + 1 } rows
    | some (row, identity) =>
      let scan := { scan with lastScannedIdentity := some identity }
      match row.readRecord decode accountId identity with
      | none => scanRows { scan with omittedItemCount := scan.omittedItemCount + 1 } rows
      | some message =>
        let scan := { scan with items := scan.items ++ [message] }
        if scan.items.length = limit then { scan with hasMore := true } else scanRows scan rows

def pageLimit (requestedLimit : ℕ) : ℕ := min (max requestedLimit 1) 1000

/-- More rows are scanned than are shown, so that damaged rows do not shrink a page. -/
def scanLimit (limit : ℕ) : ℕ := min (limit * 8 + 1) 8001

/-- What the full-text part of a filter selects, if it has one. -/
def fullTextHits (store : MessageStore) (filter : ReplicaMessageFilter) :
    Option FullTextResult :=
  filter.fullTextQuery.map store.fullText

def selectRows (store : MessageStore) (accountId : String) (filter : ReplicaMessageFilter)
    (hits : Option (List (SqlValue × SqlValue))) (cursor : Option ReplicaMessageCursor) :
    List MessageRow :=
  orderBy MessageRow.key (store.messages.rows.filter fun row =>
    row.isMatch store accountId filter hits && cursor.all fun cursor => row.isAfter cursor)

/-- The rows of the statement, or nothing where it cannot be prepared. -/
def queryRows (store : MessageStore) (accountId : String) (filter : ReplicaMessageFilter)
    (cursor : Option ReplicaMessageCursor) (count : ℕ) : Option (List (Option MessageRow)) :=
  match fullTextHits store filter with
  | some .unavailable => none
  | some .failed => some [none]
  | some (.matches hits) =>
    some (((selectRows store accountId filter (some hits) cursor).take count).map some)
  | none => some (((selectRows store accountId filter none cursor).take count).map some)

/-- A cursor is honoured in the checkpoint and for the filter it was issued in. -/
def acceptCursor (checkpoint : MessageStore.Checkpoint) (replicaId filterSha256 : String)
    (cursor : ReplicaMessageCursor) : Except RestoreError Unit :=
  require (cursor.formatVersion == 2 && cursor.accountId == checkpoint.accountId &&
      cursor.replicaId == replicaId && cursor.sourceFingerprint == checkpoint.sourceFingerprint &&
      cursor.checkpointRevision == checkpoint.revision && cursor.filterSha256 == filterSha256)
    "message cursor belongs to another replica checkpoint or query"

def issueCursor (checkpoint : MessageStore.Checkpoint) (replicaId filterSha256 : String)
    (identity : MessageIdentity) : ReplicaMessageCursor where
  formatVersion := 2
  accountId := checkpoint.accountId
  replicaId
  sourceFingerprint := checkpoint.sourceFingerprint
  checkpointRevision := checkpoint.revision
  filterSha256
  afterSortTime := identity.createdAtUnix.getD minimumI64
  afterConversationId := identity.conversationId
  afterConversationOrdinal := identity.conversationOrdinal
  afterCanonicalId := identity.canonicalId

def decodeCursor : Option String → Except RestoreError (Option ReplicaMessageCursor)
  | none => .ok none
  | some text => (cursors.decode text).map some

def scanPage (rows : List (Option MessageRow)) : Scan :=
  let scan := scanRows decode accountId limit ⟨[], 0, none, false, 0⟩ rows
  if scan.items.length < limit ∧ scan.scannedCount = scanLimit limit ∧
      scan.lastScannedIdentity.isSome then { scan with hasMore := true }
  else scan

def searchReplicaMessages (store : MessageStore) (filter : ReplicaMessageFilter)
    (cursor : Option String) (requestedLimit : ℕ) : Except RestoreError ReplicaMessagePage := do
  filter.validate
  let checkpoint ← store.currentReplicaCheckpoint
  let replicaId ← store.readReplicaId
  let decoded ← decodeCursor cursors cursor
  decoded.toList.forM (acceptCursor checkpoint replicaId filter.sha256)
  require (decoded.all fun cursor => cursor.afterConversationOrdinal ≤ maximumI64)
    "replica count exceeds SQLite range"
  let limit := pageLimit requestedLimit
  match queryRows store checkpoint.accountId filter decoded (scanLimit limit) with
  | none =>
    return ⟨checkpoint.accountId, checkpoint.sourceFingerprint, checkpoint.revision, [], none, 0,
      ["replicaMessageQueryUnavailable"]⟩
  | some rows =>
    let scan := scanPage decode checkpoint.accountId limit rows
    let next := if scan.hasMore then
        scan.lastScannedIdentity.map fun identity =>
          (issueCursor checkpoint replicaId filter.sha256 identity).encode
      else none
    return ⟨checkpoint.accountId, checkpoint.sourceFingerprint, checkpoint.revision, scan.items,
      next, scan.omittedItemCount,
      if 0 < scan.omittedItemCount then ["malformedReplicaMessageOmitted"] else []⟩

end Query

/-- A commit never takes a revision the replica had, whatever the clock says. -/
def nextCheckpointRevision (store : MessageStore) (now : ℕ) : Except RestoreError ℕ :=
  match store.identity with
  | none => .error (.sqlite "query returned no rows")
  | some identity =>
    match parseU128 identity.updatedAtUnixNanoseconds with
    | none => .error (.integrity "replica checkpoint revision is invalid")
    | some previous => .ok (max now (saturatingAdd 128 previous 1))

end GreenBubbles.Replica
