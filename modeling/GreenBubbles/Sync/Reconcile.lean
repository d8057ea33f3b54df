import GreenBubbles.Sync.Tables

/-! # Bootstrap and synchronization

A bootstrap fills empty tables from the ledgers of an archive. A synchronization
goes through the same ledgers, writes the records that are new or differ, deletes
the ones it has not seen and logs each change. Either is one transaction.
Progress reports and the list of synchronizations are left out.
-/
namespace GreenBubbles.Sync

open Std Archive Library

structure CachedArchiveInputs where
  moments : List String
  interactions : List String
  coverage : CachedSurfaceCoverage

/-- An archive as a replica reads it: every ledger as the canonical texts of its
records. The verdict is what the checks of an artifact and its files come to. -/
structure ReplicaArchive where
  report : RestorationReport
  coverage : RestorationCoverage
  conversations : List String
  participants : List String
  artifacts : List String
  messages : List String
  cached : Option CachedArchiveInputs
  artifactVerdict : CanonicalArtifact → Except RestoreError Unit

namespace ReplicaArchive

def ledger (archive : ReplicaArchive) : EntityKind → List String
  | .conversation => archive.conversations
  | .participant => archive.participants
  | .artifact => archive.artifacts
  | .message => archive.messages
  | .cachedMoment => (archive.cached.map (·.moments)).getD []
  | .cachedMomentInteraction => (archive.cached.map (·.interactions)).getD []

/-- How many records the report counts; without cached surfaces none is read. -/
def expectedRecordCount (archive : ReplicaArchive) : EntityKind → ℕ
  | .conversation => archive.report.integrity.conversationCount
  | .participant => archive.report.integrity.participantCount
  | .artifact => archive.report.integrity.uniqueArtifactCount
  | .message => archive.report.integrity.restoredRowCount
  | .cachedMoment => (archive.cached.map fun _ => archive.report.integrity.cachedMomentCount).getD 0
  | .cachedMomentInteraction =>
    (archive.cached.map fun _ => archive.report.integrity.cachedMomentInteractionCount).getD 0

end ReplicaArchive

def requireAccount (actual expected : String) : Except RestoreError Unit :=
  if actual != expected then
    .error (.integrity "archive record crossed the account isolation boundary")
  else .ok ()

section Ledgers

variable (archive : ReplicaArchive) {σ : Type}

def forEachRecord (kind : EntityKind) (body : σ → String → Except RestoreError σ) (state : σ) :
    Except RestoreError σ := do
  let state ← (archive.ledger kind).foldlM body state
  if (archive.ledger kind).length != archive.expectedRecordCount kind then
    throw (.integrity "replica import inventory changed")
  return state

end Ledgers

/-! The change log -/

inductive ChangeKind where
  | bootstrap
  | added
  | changed
  | removed
  deriving DecidableEq

/-- A row of the change log. Only a bootstrap concerns no record. -/
structure ReplicaChange where
  sequence : ℕ
  sourceFingerprint : String
  changeKind : ChangeKind
  entityKind : Option EntityKind
  entityId : String
  conversationId : Option String
  recordSha256 : Option String
  observedAtUnixNanoseconds : ℕ
  deriving DecidableEq

structure SyncCounts where
  added : ℕ
  changed : ℕ
  removed : ℕ
  omittedRelationshipReferences : ℕ
  omittedArtifactReferences : ℕ
  deriving DecidableEq

/-- What a transaction works on. -/
structure SyncState where
  tables : ReplicaTables
  changeLog : List ReplicaChange
  seen : EntityKind → ExtTreeSet String
  changedConversations : ExtTreeSet String
  counts : SyncCounts

def nextSequence (changeLog : List ReplicaChange) : ℕ :=
  (changeLog.getLast?.map (·.sequence)).getD 0 + 1

/-- The conversation a change is logged under. -/
def changeConversation : (kind : EntityKind) → kind.Record → Option String
  | .conversation, record => some record.conversationId
  | .message, record => some record.conversationId
  | _, _ => none

section Import

variable (reader : LedgerReader) (archive : ReplicaArchive)

def importRecord (kind : EntityKind) (tables : ReplicaTables) (text : String) :
    Except RestoreError ReplicaTables := do
  let record ← reader.read kind text
  (kind.accountId record).forM (requireAccount · archive.report.accountId)
  let row ← reader.row kind record text
  let tables ← tables.insertRecord kind (kind.identifier record) row
  return tables.link kind record

def importMemberships (tables : ReplicaTables) (text : String) :
    Except RestoreError ReplicaTables := do
  let conversation ← reader.read .conversation text
  tables.insertMemberships conversation.conversationId conversation.memberships

def finish (tables : ReplicaTables) : ReplicaTables :=
  { tables with
    cachedSurfaceState := archive.cached.map (·.coverage)
    coverageState := some ⟨archive.report, archive.coverage⟩ }

/-- The tables after a bootstrap. -/
def importArchive : Except RestoreError ReplicaTables := do
  let tables ← forEachRecord archive .conversation (importRecord reader archive .conversation) .empty
  let tables ← forEachRecord archive .participant (importRecord reader archive .participant) tables
  let tables ← forEachRecord archive .conversation (importMemberships reader) tables
  let tables ← forEachRecord archive .artifact (importRecord reader archive .artifact) tables
  let tables ← forEachRecord archive .message (importRecord reader archive .message) tables
  let tables ← forEachRecord archive .cachedMoment (importRecord reader archive .cachedMoment) tables
  let tables ← forEachRecord archive .cachedMomentInteraction
    (importRecord reader archive .cachedMomentInteraction) tables
  return finish archive tables

end Import

namespace SyncState

variable (state : SyncState)

def markSeen (kind : EntityKind) (identifier : String) : Except RestoreError SyncState :=
  if (state.seen kind).contains identifier then .error (.sqlite "UNIQUE constraint failed")
  else .ok { state with
    seen := Function.update state.seen kind ((state.seen kind).insert identifier) }

def count (changeKind : ChangeKind) : SyncCounts :=
  match changeKind with
  | .added => { state.counts with added := state.counts.added + 1 }
  | .changed => { state.counts with changed := state.counts.changed + 1 }
  | .removed => { state.counts with removed := state.counts.removed + 1 }
  | .bootstrap => state.counts

def recordChange (sourceFingerprint : String) (observedAt : ℕ) (changeKind : ChangeKind)
    (kind : EntityKind) (identifier : String) (conversation : Option String) (digest : String) :
    SyncState :=
  { state with
    counts := state.count changeKind
    changeLog := state.changeLog ++
      [{ sequence := nextSequence state.changeLog
         sourceFingerprint
         changeKind
         entityKind := some kind
         entityId := identifier
         conversationId := conversation
         recordSha256 := some digest
         observedAtUnixNanoseconds := observedAt }] }

/-- The links of a written message, with the references they leave out. -/
def linkMessage (message : CanonicalMessage) : SyncState :=
  { state with
    tables := state.tables.replaceMessageLinks message
    counts :=
      { state.counts with
        omittedRelationshipReferences := saturatingAdd 64 state.counts.omittedRelationshipReferences
          (message.relationships.length - (relationshipRows message).length)
        omittedArtifactReferences := saturatingAdd 64 state.counts.omittedArtifactReferences
          (message.artifactReferences.length - (state.tables.listedLinks message).length) } }

/-- What follows the writing of a record. -/
def afterWrite : (kind : EntityKind) → kind.Record → SyncState
  | .conversation, record =>
    { state with
      changedConversations := state.changedConversations.insert record.conversationId }
  | .message, record => state.linkMessage record
  | _, _ => state

end SyncState

section Reconcile

variable (reader : LedgerReader) (archive : ReplicaArchive) (observedAt : ℕ)

/-- Only a written artifact is checked again. -/
def checkWritten : (kind : EntityKind) → kind.Record → Except RestoreError Unit
  | .artifact, record => archive.artifactVerdict record
  | _, _ => .ok ()

def writeRecord (kind : EntityKind) (state : SyncState) (record : kind.Record) (text : String)
    (changeKind : ChangeKind) : Except RestoreError SyncState := do
  checkWritten archive kind record
  let row ← reader.row kind record text
  let identifier := kind.identifier record
  let tables ← (if changeKind = .added then state.tables.insertRecord kind identifier row
    else state.tables.updateRecord kind identifier row : Except RestoreError ReplicaTables)
  return ({ state with tables }.afterWrite kind record).recordChange archive.report.sourceFingerprint
    observedAt changeKind kind identifier (changeConversation kind record) row.recordSha256

def reconcileRecord (kind : EntityKind) (state : SyncState) (text : String) :
    Except RestoreError SyncState := do
  let record ← reader.read kind text
  (kind.accountId record).forM (requireAccount · archive.report.accountId)
  let state ← state.markSeen kind (kind.identifier record)
  match (state.tables.records kind)[kind.identifier record]? with
  | none => writeRecord reader archive observedAt kind state record text .added
  | some existing =>
    if existing.recordSha256 == Sha256.hexDigest (Bytes.utf8 text) && existing.recordJson == text
    then return state
    else writeRecord reader archive observedAt kind state record text .changed

def reconcileMemberships (state : SyncState) (text : String) : Except RestoreError SyncState := do
  let conversation ← reader.read .conversation text
  if !state.changedConversations.contains conversation.conversationId then return state
  let tables ← state.tables.insertMemberships conversation.conversationId conversation.memberships
  return { state with tables }

/-- The conversation a removal is logged under. -/
def removedConversation : (kind : EntityKind) → String → RecordRow kind → Option String
  | .conversation, identifier, _ => some identifier
  | .message, _, row => some row.columns.conversationId
  | _, _, _ => none

def removeRecord (kind : EntityKind) (state : SyncState) (entry : String × RecordRow kind) :
    SyncState :=
  let logged := state.recordChange archive.report.sourceFingerprint observedAt .removed kind entry.1
    (removedConversation kind entry.1 entry.2) entry.2.recordSha256
  { logged with tables := (logged.tables.unindex kind entry.1).deleteRecord kind entry.1 }

/-- The records a synchronization has not seen, in the order of their identities. -/
def missing (kind : EntityKind) (state : SyncState) : List (String × RecordRow kind) :=
  (state.tables.records kind).toList.filter fun entry => !(state.seen kind).contains entry.1

def removeMissing (kind : EntityKind) (state : SyncState) : SyncState :=
  (missing kind state).foldl (removeRecord archive observedAt kind) state

def start (tables : ReplicaTables) (changeLog : List ReplicaChange) : SyncState where
  tables
  changeLog
  seen _ := ∅
  changedConversations := ∅
  counts := ⟨0, 0, 0, 0, 0⟩

/-- Every ledger is gone through once, and the memberships of changed conversations after
the participants. -/
def reconcileLedgers (state : SyncState) : Except RestoreError SyncState := do
  let record := fun kind => reconcileRecord reader archive observedAt kind
  let state ← forEachRecord archive .conversation (record .conversation) state
  let state ← forEachRecord archive .participant (record .participant) state
  let state ← forEachRecord archive .conversation (reconcileMemberships reader) state
  let state ← forEachRecord archive .artifact (record .artifact) state
  let state ← forEachRecord archive .message (record .message) state
  let state ← forEachRecord archive .cachedMoment (record .cachedMoment) state
  forEachRecord archive .cachedMomentInteraction (record .cachedMomentInteraction) state

/-- The order in which missing records are removed. -/
def removalOrder : List EntityKind :=
  [.message, .artifact, .conversation, .participant, .cachedMoment, .cachedMomentInteraction]

def removeAllMissing (state : SyncState) : SyncState :=
  removalOrder.foldl (fun state kind => removeMissing archive observedAt kind state) state

/-- The transaction of a synchronization. -/
def reconcileArchive (tables : ReplicaTables) (changeLog : List ReplicaChange) :
    Except RestoreError SyncState := do
  let state ← reconcileLedgers reader archive observedAt (start tables changeLog)
  let state := removeAllMissing archive observedAt state
  return { state with tables := finish archive state.tables }

end Reconcile

end GreenBubbles.Sync
