import GreenBubbles.Archive.Records
import GreenBubbles.Connector.Journal
import GreenBubbles.LiveQuery.CorpusScan
import Mathlib.Data.Finset.Sort

/-! # The policy of the direct connector

What a policy opens for whom, what the live query answers and what the
connector replies.
-/
namespace GreenBubbles.Direct

open Archive (ConversationKind EntityDecodeState MessageDirection)
open Connector (ConnectorDestination ToolSourceDatabaseFreshness)
open LiveQuery (QueryWarning)

def directConnectorFormatVersion : ℕ := 1
def maxDirectCursorBytes : ℕ := 16 * 1024
def maxCrossSearchConversationsPerPage : ℕ := 32
def maxPageLimit : ℕ := 500
def maxSearchLimit : ℕ := 200

/-! The policy -/

inductive ToolCapability where
  | listConversations
  | readRecentMessages
  | searchMessages
  | createDraft
  deriving DecidableEq

inductive ToolMessageField where
  | sender
  | createdAt
  | direction
  | messageType
  | content
  | attachments
  | relationships
  deriving DecidableEq

inductive ToolDataDestination where
  | localModel
  | remoteModel
  deriving DecidableEq

structure ConversationToolScope where
  capabilities : Finset ToolCapability
  messageFields : Finset ToolMessageField
  notBeforeUnix : Option ℤ
  notAfterUnix : Option ℤ
  allowRemoteModel : Bool
  deriving DecidableEq

/-- The scopes are a map: they are ordered by conversation. -/
structure ToolAuthorizationPolicy where
  accountId : String
  createdFromSourceFingerprint : String
  conversationScopes : List (String × ConversationToolScope)
  maximumResultCount : ℕ
  maximumMessageSummaryBytes : ℕ
  accountNamed : accountId ≠ ""
  scopesOrdered : conversationScopes.Pairwise (·.1 < ·.1)
  resultsAllowed : 0 < maximumResultCount

def ToolDataDestination.of : ConnectorDestination → ToolDataDestination
  | .localOnly => .localModel
  | .remoteModel => .remoteModel

/-- The scope permits a capability for the destination of a request. -/
def ConversationToolScope.permits (scope : ConversationToolScope) (capability : ToolCapability)
    (destination : ConnectorDestination) : Bool :=
  decide (capability ∈ scope.capabilities) &&
    (decide (ToolDataDestination.of destination ≠ .remoteModel) || scope.allowRemoteModel)

def includesTimestamp (scope : ConversationToolScope) (timestamp : ℤ) : Bool :=
  scope.notBeforeUnix.all (· ≤ timestamp) && scope.notAfterUnix.all (timestamp ≤ ·)

/-! The live query -/

inductive QuerySourceMode where
  | liveEncrypted
  | snapshotEncrypted
  | decrypted
  deriving DecidableEq

structure LiveQuerySource where
  mode : QuerySourceMode
  identity : String
  accountHolderSourceId : Option String

inductive LiveQueryError where
  | conversationSelection (message : String)
  | invalidArgument (message : String)
  | unsafeSource (message : String)
  | database (message : String)
  | invalidCursor (message : String)
  | notFound (message : String)
  | searchUnavailable (message : String)
  | responseTooLarge (maximumBytes : ℕ)
  deriving DecidableEq

/-- The content of a message as it was decoded; a number is its text. -/
inductive ContentValue where
  | null
  | bool (value : Bool)
  | number (text : String)
  | string (value : String)
  | array (elements : List ContentValue)
  | object (members : List (String × ContentValue))

structure ConversationItem where
  id : String
  displayName : Option String

/-- What a message and a search hit have in common. -/
structure MessageEnvelope where
  id : String
  conversationId : String
  sortSequence : ℤ
  messageType : ℕ
  messageSubtype : ℕ
  sender : String
  senderDisplayName : Option String
  createdAtUnix : ℤ

structure MessageItem extends MessageEnvelope where
  content : ContentValue
  contentTruncated : Bool

structure SearchItem extends MessageEnvelope where
  snippet : String
  snippetTruncated : Bool

structure QueryPage (α : Type) where
  items : List α
  nextCursor : Option String
  warnings : List QueryWarning

/-- What the databases of the source answer to the queries of the connector. -/
structure LiveQueries where
  findConversations : List String → Except LiveQueryError (String → Option ConversationItem)
  listMessagesInTimeRange : (conversationId : String) → (limit : ℕ) → (cursor : Option String) →
    (notBeforeUnix notAfterUnix : Option ℤ) → Except LiveQueryError (QueryPage MessageItem)
  searchMessagesInTimeRange : (query conversationId : String) → (limit : ℕ) →
    (cursor : Option String) → (notBeforeUnix notAfterUnix : Option ℤ) →
    Except LiveQueryError (QueryPage SearchItem)
  getMessage : (conversationId canonicalId : String) → Except LiveQueryError MessageItem
  getSearchResultMessage : (conversationId canonicalId : String) →
    Except LiveQueryError MessageItem

/-! Requests -/

/-- Of the operations that stay on the replica connector only the conversation is read. -/
inductive ConnectorOperation where
  | capabilities
  | status
  | coverage
  | getChanges
  | getCachedMoments
  | listConversations (cursor : Option String) (limit : Option ℕ)
  | searchMessages (query : String) (conversationId cursor : Option String) (limit : Option ℕ)
  | getMessages (conversationId : String) (cursor : Option String) (limit : Option ℕ)
  | getMessage (canonicalId : String)
  | getArtifact (conversationId : String)
  | resolveContact
  | resolveConversation (conversationId : String)
  | createMessageDraft (conversationId : String)
  | createReplyDraft (conversationId : String)
  | createAttachmentDraft (conversationId : String)
  | previewAction
  | bootstrap
  | synchronize
  | refresh
  deriving DecidableEq

structure ConnectorRequest where
  apiVersion : String
  requestId : String
  requesterId : String
  destination : ConnectorDestination
  operation : ConnectorOperation

def operationName : ConnectorOperation → String
  | .capabilities => "capabilities"
  | .status => "status"
  | .coverage => "coverage"
  | .getChanges => "getChanges"
  | .getCachedMoments => "getCachedMoments"
  | .listConversations .. => "listConversations"
  | .searchMessages .. => "searchMessages"
  | .getMessages .. => "getMessages"
  | .getMessage _ => "getMessage"
  | .getArtifact _ => "getArtifact"
  | .resolveContact => "resolveContact"
  | .resolveConversation _ => "resolveConversation"
  | .createMessageDraft _ => "createMessageDraft"
  | .createReplyDraft _ => "createReplyDraft"
  | .createAttachmentDraft _ => "createAttachmentDraft"
  | .previewAction => "previewAction"
  | .bootstrap => "bootstrap"
  | .synchronize => "synchronize"
  | .refresh => "refresh"

def operationConversation : ConnectorOperation → Option String
  | .getMessages conversationId _ _ => some conversationId
  | .getArtifact conversationId => some conversationId
  | .resolveConversation conversationId => some conversationId
  | .createMessageDraft conversationId => some conversationId
  | .createReplyDraft conversationId => some conversationId
  | .createAttachmentDraft conversationId => some conversationId
  | .searchMessages _ conversationId _ _ => conversationId
  | _ => none

/-! Replies -/

inductive ConnectorErrorCode where
  | invalidRequest
  | unauthorized
  | notFound
  | unavailable
  | conflict
  | integrityFailure
  deriving DecidableEq

structure ConnectorErrorBody where
  code : ConnectorErrorCode
  message : String
  retryable : Bool
  deriving DecidableEq

def invalid (message : String) : ConnectorErrorBody := ⟨.invalidRequest, message, false⟩

def unauthorized (message : String) : ConnectorErrorBody := ⟨.unauthorized, message, false⟩

def notFound (message : String) : ConnectorErrorBody := ⟨.notFound, message, false⟩

def unavailable (code message : String) : ConnectorErrorBody :=
  ⟨.unavailable, code ++ ": " ++ message, false⟩

def restoreErrorText : RestoreError → String
  | .manifest message => "snapshot manifest is missing or invalid: " ++ message
  | .unsafePath path => "unsafe path in snapshot manifest: " ++ path
  | .integrity message => "snapshot entry failed integrity verification: " ++ message
  | .io message => "I/O error: " ++ message
  | .json message => "JSON error: " ++ message
  | .sqlite message => "SQLite error: " ++ message
  | .panicked message => message

def integrityError (error : RestoreError) : ConnectorErrorBody :=
  ⟨.integrityFailure, restoreErrorText error, false⟩

def queryError : LiveQueryError → ConnectorErrorBody
  | .conversationSelection message => invalid message
  | .invalidArgument message => invalid message
  | .invalidCursor message => invalid message
  | .notFound message => notFound message
  | .searchUnavailable message => unavailable "searchUnavailable" message
  | .unsafeSource message => integrityError (.unsafePath message)
  | .database message => unavailable "directQueryFailed" message
  | .responseTooLarge _ =>
    unavailable "responseTooLarge" "bounded query response exceeded its safety limit"

/-- No failure of a query is a refusal. -/
theorem queryError_code (error : LiveQueryError) : (queryError error).code ≠ .unauthorized := by
  cases error <;> simp [queryError, invalid, notFound, unavailable, integrityError]

structure CapabilityState where
  available : Bool
  enabled : Bool
  reasonCode : String
  reason : String

structure ConnectorCapabilities where
  formatVersion : ℕ
  apiVersion : String
  connectorVersion : String
  accountId : Option String
  selfParticipantId : Option String
  passiveRead : CapabilityState
  cachedMomentsRead : CapabilityState
  authenticatedActiveRead : CapabilityState
  draft : CapabilityState
  textSend : CapabilityState
  replySend : CapabilityState
  fileSend : CapabilityState
  operations : List (String × CapabilityState)
  enabledConversationCount : ℕ
  localOnly : Bool

structure DirectConnectorStatus where
  formatVersion : ℕ
  apiVersion : String
  connectorVersion : String
  sourceMode : QuerySourceMode
  sourceIdentity : String
  policyCreatedFromSourceFingerprint : String
  enabledConversationCount : ℕ
  locallyEnabledOperationCount : ℕ
  remotelyEnabledConversationCount : ℕ
  ordinaryReadsUseDirectSqlite : Bool

structure ConnectorConversationView where
  conversationId : String
  kind : ConversationKind
  participantCount : ℕ
  entityDecodeState : EntityDecodeState
  sourceDatabaseFreshness : ToolSourceDatabaseFreshness
  humanLabel : String
  capabilities : Finset ToolCapability
  messageFields : Finset ToolMessageField
  notBeforeUnix : Option ℤ
  notAfterUnix : Option ℤ

structure ConnectorConversationList where
  accountId : String
  conversations : List ConnectorConversationView
  nextCursor : Option String
  omittedConversationCount : ℕ
  limitationCodes : List String

/-- Artifacts and relationships are never released, so their lists are left out. -/
structure MinimizedMessage where
  canonicalId : String
  conversationId : String
  sourceDatabaseFreshness : ToolSourceDatabaseFreshness
  senderId : Option String
  senderDisplayName : Option String
  isAccountHolder : Option Bool
  createdAtUnix : Option ℤ
  conversationOrdinal : ℕ
  direction : Option MessageDirection
  logicalType : Option ℕ
  subType : Option ℕ
  payloadKind : Option String
  payloadSummary : Option String
  payloadSummaryTruncated : Option Bool

structure ConnectorMessagePage where
  accountId : String
  sourceFingerprint : String
  messages : List MinimizedMessage
  nextCursor : Option String
  omittedMessageCount : ℕ
  limitationCodes : List String

inductive ConnectorResult where
  | capabilities (value : ConnectorCapabilities)
  | directStatus (value : DirectConnectorStatus)
  | conversations (value : ConnectorConversationList)
  | messages (value : ConnectorMessagePage)
  | message (value : Option MinimizedMessage)

def releasedBodyBytes (messages : List MinimizedMessage) : ℕ :=
  (messages.filterMap (·.payloadSummary)).map String.utf8ByteSize |>.sum

structure ConnectorResponse where
  apiVersion : String
  requestId : String
  ok : Bool
  result : Option ConnectorResult
  error : Option ConnectorErrorBody

def connectorResponse (requestId : String) :
    Except ConnectorErrorBody ConnectorResult → ConnectorResponse
  | .ok result => ⟨Connector.connectorApiVersion, requestId, true, some result, none⟩
  | .error failure => ⟨Connector.connectorApiVersion, requestId, false, none, some failure⟩

end GreenBubbles.Direct
