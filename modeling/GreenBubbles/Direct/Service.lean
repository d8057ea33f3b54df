import GreenBubbles.Connector.Append
import GreenBubbles.Direct.Projection
import GreenBubbles.Library.Outcomes

/-! # The direct connector

Every operation decides, projects and audits at its own place. The state is the
journal; an audit that is asked for with a question mark fails the request, one
whose result is dropped does not.
-/
namespace GreenBubbles.Direct

open Library Library.Bytes Library.Outcomes
open Archive (ConversationKind EntityDecodeState)
open Connector (ConnectorAuditEvent ConnectorAuditOutcome ConnectorDestination Journal SerdeJson
  appendOwnerOnlyConnectorEvent)
open LiveQuery (CursorReader)

/-! Codes are released in the order of texts -/

scoped instance textsTransitive : IsTrans String (· ≤ ·) := inferInstance
scoped instance textsAntisymmetric : Std.Antisymm ((· ≤ ·) : String → String → Prop) := inferInstance
scoped instance textsTotal : Std.Total ((· ≤ ·) : String → String → Prop) := inferInstance

/-- What the connector leaves to libraries. -/
structure DirectLibraries where
  serde : SerdeJson
  cursors : CursorReader
  /-- The text of an optional name in a message to a developer. -/
  debugText : Option String → String
  isGroupChat : String → Bool

/-- A service as it is opened. -/
structure DirectConnectorService where
  source : LiveQuerySource
  policy : ToolAuthorizationPolicy
  policySha256 : String
  accountBound : policy.accountId = source.identity
  fingerprintBound : policy.createdFromSourceFingerprint = source.identity
  enabled : policy.conversationScopes ≠ []
  readsOnly : ∀ entry ∈ policy.conversationScopes, ToolCapability.createDraft ∉ entry.2.capabilities

/-- A request, the moment of its audit and what the databases answer meanwhile. -/
structure Arrival where
  request : ConnectorRequest
  moment : ℕ
  live : LiveQueries

abbrev Handler := EStateM ConnectorErrorBody Journal

variable (libs : DirectLibraries) (service : DirectConnectorService) (arrival : Arrival)

/-! Auditing -/

def outcomeDebugText : ConnectorAuditOutcome → String
  | .completed => "Completed"
  | .denied => "Denied"

def auditIdentity (operation : String) (conversationId : Option String)
    (outcome : ConnectorAuditOutcome) : String :=
  service.policy.accountId ++ ":" ++ arrival.request.requesterId ++ ":" ++
    arrival.request.requestId ++ ":" ++ operation ++ ":" ++ libs.debugText conversationId ++ ":" ++
    outcomeDebugText outcome ++ ":" ++ toString arrival.moment

def auditEvent (operation : String) (conversationId : Option String)
    (outcome : ConnectorAuditOutcome)
    (returnedItemCount releasedBodyByteCount requestBodyByteCount : ℕ) : ConnectorAuditEvent where
  formatVersion := 2
  eventId := Sha256.hexDigest
    (utf8 (auditIdentity libs service arrival operation conversationId outcome))
  observedAtUnixNanoseconds := arrival.moment
  accountId := service.policy.accountId
  requesterId := arrival.request.requesterId
  requestId := arrival.request.requestId
  operation
  stage := .request
  conversationId
  destination := arrival.request.destination
  outcome
  returnedItemCount
  releasedBodyByteCount
  requestBodyByteCount
  draftId := none
  policyDecisionId := none
  previousEventSha256 := none
  eventSha256 := ""

def audit (operation : String) (conversationId : Option String) (outcome : ConnectorAuditOutcome)
    (returnedItemCount releasedBodyByteCount requestBodyByteCount : ℕ) : Handler Unit :=
  EStateM.adaptExcept integrityError
    (appendOwnerOnlyConnectorEvent libs.serde
      (auditEvent libs service arrival operation conversationId outcome returnedItemCount
        releasedBodyByteCount requestBodyByteCount))

def auditMetadata (operation : String) : Handler Unit :=
  audit libs service arrival operation none .completed 1 0 0

/-- The scope of a conversation, where it permits the capability. -/
def permittedScope (conversationId : String) (capability : ToolCapability) :
    Option ConversationToolScope :=
  (service.policy.conversationScopes.lookup conversationId).filter
    (·.permits capability arrival.request.destination)

def authorize (conversationId : String) (capability : ToolCapability) (operation : String) :
    Handler ConversationToolScope :=
  match permittedScope service arrival conversationId capability with
  | some scope => return scope
  | none => do
    ignore (audit libs service arrival operation (some conversationId) .denied 0 0 0)
    throw (unauthorized "operation is outside the authorized conversation or destination scope")

/-! What the connector says of itself -/

def DirectConnectorService.capabilities : ConnectorCapabilities :=
  let read : CapabilityState :=
    { available := true
      enabled := true
      reasonCode := "directReadOnlySqlite"
      reason := "Bounded policy-scoped reads use the selected WeChat SQLite source directly" }
  let replicaOnly : CapabilityState :=
    { available := false
      enabled := false
      reasonCode := "replicaOnlyOperation"
      reason := "This surface is intentionally retained on the encrypted replica connector" }
  { formatVersion := directConnectorFormatVersion
    apiVersion := Connector.connectorApiVersion
    connectorVersion := Connector.connectorVersion
    accountId := some service.policy.accountId
    selfParticipantId := none
    passiveRead := read
    cachedMomentsRead := replicaOnly
    authenticatedActiveRead := replicaOnly
    draft := replicaOnly
    textSend := replicaOnly
    replySend := replicaOnly
    fileSend := replicaOnly
    operations :=
      [("bootstrap", replicaOnly), ("capabilities", read), ("coverage", replicaOnly),
       ("createAttachmentDraft", replicaOnly), ("createMessageDraft", replicaOnly),
       ("createReplyDraft", replicaOnly), ("getArtifact", replicaOnly),
       ("getCachedMoments", replicaOnly), ("getChanges", replicaOnly), ("getMessage", read),
       ("getMessages", read), ("listConversations", read), ("previewAction", replicaOnly),
       ("refresh", replicaOnly), ("resolveContact", replicaOnly),
       ("resolveConversation", replicaOnly), ("searchMessages", read), ("status", read),
       ("synchronize", replicaOnly)]
    enabledConversationCount := service.policy.conversationScopes.length
    localOnly := true }

def DirectConnectorService.status : DirectConnectorStatus :=
  let scopes := service.policy.conversationScopes.map (·.2)
  { formatVersion := directConnectorFormatVersion
    apiVersion := Connector.connectorApiVersion
    connectorVersion := Connector.connectorVersion
    sourceMode := service.source.mode
    sourceIdentity := service.source.identity
    policyCreatedFromSourceFingerprint := service.policy.createdFromSourceFingerprint
    enabledConversationCount := scopes.length
    locallyEnabledOperationCount :=
      (scopes.map fun scope => (scope.capabilities.erase .createDraft).card).sum
    remotelyEnabledConversationCount := scopes.countP (·.allowRemoteModel)
    ordinaryReadsUseDirectSqlite := true }

/-! Conversations -/

/-- Between one and what the policy allows, and no more than the query takes. -/
def boundedLimit (requested maximum : ℕ) : ℕ :=
  min (max 1 (min requested service.policy.maximumResultCount)) maximum

def directConversationShape (conversationId : String) : ConversationKind × ℕ :=
  if libs.isGroupChat conversationId then (.group, 0)
  else if conversationId.startsWith "gh_" then (.business, 1)
  else (.direct, 1)

def directConversationLabel (item : ConversationItem) : String :=
  (item.displayName.filter (· != "")).getD item.id

/-- The state of a conversation's metadata, its label and the limitation that goes with them. -/
def conversationMetadata (conversationId : String) :
    Option ConversationItem → EntityDecodeState × String × Option String
  | some item =>
    if item.displayName.isSome then (.complete, directConversationLabel item, none)
    else (.rawOnly, directConversationLabel item, some "directContactDisplayNameUnavailable")
  | none => (.failed, conversationId, some "unavailableConversationMetadataSynthesized")

def conversationView (item : Option ConversationItem) (conversationId : String)
    (scope : ConversationToolScope) : ConnectorConversationView :=
  let (kind, participantCount) := directConversationShape libs conversationId
  let (entityDecodeState, humanLabel, _) := conversationMetadata conversationId item
  { conversationId
    kind
    participantCount
    entityDecodeState
    sourceDatabaseFreshness := .fresh
    humanLabel
    capabilities := scope.capabilities
    messageFields := scope.messageFields
    notBeforeUnix := scope.notBeforeUnix
    notAfterUnix := scope.notAfterUnix }

/-- The conversations that may be listed behind the given one. -/
def listable (after : Option String) : List (String × ConversationToolScope) :=
  service.policy.conversationScopes.filter fun entry =>
    entry.2.permits .listConversations arrival.request.destination &&
      after.all (decide <| · < entry.1)

def listConversations (cursor : Option String) (requestedLimit : ℕ) :
    Handler ConnectorConversationList := do
  let after ← ofExcept (decodeConnectorConversationCursor libs.cursors service.source.identity
    service.policySha256 arrival.request.destination cursor)
  let limit := boundedLimit service requestedLimit maxPageLimit
  let found := (listable service arrival after).take (limit + 1)
  let selected := found.take limit
  let metadata ← ofExcept
    ((arrival.live.findConversations (selected.map (·.1))).mapError queryError)
  let conversations := selected.map fun entry =>
    conversationView libs (metadata entry.1) entry.1 entry.2
  let limitationCodes := insert "directConversationMembershipUnavailable"
    (selected.filterMap fun entry =>
      (conversationMetadata entry.1 (metadata entry.1)).2.2).toFinset
  let nextCursor :=
    if limit < found.length then
      selected.getLast?.map fun entry => encodeConnectorConversationCursor service.source.identity
        service.policySha256 arrival.request.destination entry.1
    else none
  audit libs service arrival "listConversations" none .completed conversations.length 0 0
  return {
    accountId := service.policy.accountId
    conversations
    nextCursor
    omittedConversationCount := 0
    limitationCodes := limitationCodes.sort (· ≤ ·) }

/-! Pages of messages -/

def readBinding (kind : String) (querySha256 : Option String) : CursorBinding where
  kind
  sourceIdentity := service.source.identity
  policySha256 := service.policySha256
  destination := arrival.request.destination
  querySha256

/-- The cursor of a page, around the cursor of the query. -/
def pageCursor (binding : CursorBinding) (conversationId : String) :
    Option String → Except ConnectorErrorBody (Option String)
  | none => .ok none
  | some inner => (encodeReadCursor binding conversationId (some inner)).map some

/-- A page is audited before its cursor is encoded. -/
def releasePage {α : Type} (operation conversationId : String) (scope : ConversationToolScope)
    (binding : CursorBinding) (requestBodyByteCount : ℕ) (project : α → MinimizedMessage)
    (page : QueryPage α) : Handler ConnectorMessagePage := do
  let limitationCodes :=
    warningCodes page.warnings ∪ directProjectionLimitations service.source scope
  let messages := page.items.map project
  audit libs service arrival operation (some conversationId) .completed messages.length
    (releasedBodyBytes messages) requestBodyByteCount
  let nextCursor ← ofExcept (pageCursor binding conversationId page.nextCursor)
  return {
    accountId := service.policy.accountId
    sourceFingerprint := service.source.identity
    messages
    nextCursor
    omittedMessageCount := omittedWarningCount page.warnings
    limitationCodes := limitationCodes.sort (· ≤ ·) }

/-- One page of a conversation: its messages, or the hits of a search in it. -/
def readPage {α : Type} (operation conversationId kind : String) (querySha256 : Option String)
    (capability : ToolCapability) (cursor : Option String) (requestBodyByteCount : ℕ)
    (project : ConversationToolScope → α → MinimizedMessage)
    (query : ConversationToolScope → Option String → Except LiveQueryError (QueryPage α)) :
    Handler ConnectorMessagePage := do
  let scope ← authorize libs service arrival conversationId capability operation
  let binding := readBinding service arrival kind querySha256
  let decoded ← ofExcept (decodeReadCursor libs.cursors binding (some conversationId) cursor)
  let page ← ofExcept ((query scope (decoded.bind (·.innerCursor))).mapError queryError)
  releasePage libs service arrival operation conversationId scope binding requestBodyByteCount
    (project scope) page

def getMessages (conversationId : String) (cursor : Option String) (requestedLimit : ℕ) :
    Handler ConnectorMessagePage :=
  readPage libs service arrival "getMessages" conversationId "messages" none .readRecentMessages
    cursor 0 (projectMessage service.source service.policy) fun scope inner =>
      arrival.live.listMessagesInTimeRange conversationId
        (boundedLimit service requestedLimit maxPageLimit) inner scope.notBeforeUnix
        scope.notAfterUnix

def searchScoped (query conversationId : String) (cursor : Option String) (limit : ℕ) :
    Handler ConnectorMessagePage :=
  readPage libs service arrival "searchMessages" conversationId "searchScoped"
    (some (directQueryDigest query)) .searchMessages cursor query.utf8ByteSize
    (projectSearchHit service.source service.policy) fun scope inner =>
      arrival.live.searchMessagesInTimeRange query conversationId limit inner scope.notBeforeUnix
        scope.notAfterUnix

/-- What a search across conversations has found so far. -/
structure AcrossPage where
  messages : List MinimizedMessage
  limitationCodes : Finset String
  omittedMessageCount : ℕ
  nextCursor : Option String

/-- One conversation's page added to what has been found. -/
def AcrossPage.extended (found : AcrossPage) (scope : ConversationToolScope)
    (page : QueryPage SearchItem) : AcrossPage where
  messages := found.messages ++ page.items.map (projectSearchHit service.source service.policy scope)
  limitationCodes := found.limitationCodes ∪ warningCodes page.warnings ∪
    directProjectionLimitations service.source scope
  omittedMessageCount :=
    saturatingAdd 64 found.omittedMessageCount (omittedWarningCount page.warnings)
  nextCursor := found.nextCursor

/-- The conversations are searched in turn until the page is full, enough of them
are scanned or one of them goes on. -/
def searchAcross (binding : CursorBinding) (query : String) (limit : ℕ) :
    List (String × ConversationToolScope) → (innerCursor : Option String) → (scanned : ℕ) →
    AcrossPage → Except ConnectorErrorBody AcrossPage
  | [], _, _, found => .ok found
  | (identifier, scope) :: rest, innerCursor, scanned, found =>
    if found.messages.length < limit ∧ scanned < maxCrossSearchConversationsPerPage then do
      let remaining := limit - found.messages.length
      let page ← (arrival.live.searchMessagesInTimeRange query identifier remaining innerCursor
        scope.notBeforeUnix scope.notAfterUnix).mapError queryError
      let found := found.extended service scope page
      match page.nextCursor with
      | some nativeNext => do
        let cursor ← encodeReadCursor binding identifier (some nativeNext)
        return { found with nextCursor := some cursor }
      | none =>
        match rest with
        | [] => return { found with nextCursor := none }
        | (following, _) :: _ => do
          let cursor ← encodeReadCursor binding following none
          searchAcross binding query limit rest none (scanned + 1)
            { found with nextCursor := some cursor }
    else .ok found

/-- The conversations a search goes through, from the one its cursor names. -/
def searchFrom (searchable : List (String × ConversationToolScope)) :
    Option DirectReadCursor → Except ConnectorErrorBody (List (String × ConversationToolScope))
  | none => .ok searchable
  | some decoded =>
    match searchable.dropWhile (·.1 != decoded.conversationId) with
    | [] => .error (invalid "search cursor conversation is not enabled by the current policy")
    | remaining => .ok remaining

def searchable : List (String × ConversationToolScope) :=
  service.policy.conversationScopes.filter
    (·.2.permits .searchMessages arrival.request.destination)

def searchEverywhere (query : String) (cursor : Option String) (limit : ℕ) :
    Handler ConnectorMessagePage := do
  if (searchable service arrival).isEmpty then
    throw (unauthorized "no conversation permits message search for this destination")
  let binding := readBinding service arrival "searchAcross" (some (directQueryDigest query))
  let decoded ← ofExcept (decodeReadCursor libs.cursors binding none cursor)
  let remaining ← ofExcept (searchFrom (searchable service arrival) decoded)
  let found ← ofExcept (searchAcross service arrival binding query limit remaining
    (decoded.bind (·.innerCursor)) 0
    { messages := []
      limitationCodes := {"directCrossConversationSearchOrderedByConversation"}
      omittedMessageCount := 0
      nextCursor := none })
  audit libs service arrival "searchMessages" none .completed found.messages.length
    (releasedBodyBytes found.messages) query.utf8ByteSize
  return {
    accountId := service.policy.accountId
    sourceFingerprint := service.source.identity
    messages := found.messages
    nextCursor := found.nextCursor
    omittedMessageCount := found.omittedMessageCount
    limitationCodes := found.limitationCodes.sort (· ≤ ·) }

def searchMessages (query : String) (conversationId cursor : Option String) (requestedLimit : ℕ) :
    Handler ConnectorMessagePage :=
  let limit := boundedLimit service requestedLimit maxSearchLimit
  match conversationId with
  | some conversationId => searchScoped libs service arrival query conversationId cursor limit
  | none => searchEverywhere libs service arrival query cursor limit

/-! One message -/

/-- A message is released, refused or not found by the first conversation that
does not pass its identity on. -/
def releaseMessage (conversationId : String) (scope : ConversationToolScope)
    (resource : Except LiveQueryError MessageItem) (next : Handler (Option MinimizedMessage)) :
    Handler (Option MinimizedMessage) :=
  match resource with
  | .ok item =>
    if includesTimestamp scope item.createdAtUnix then do
      let result := projectMessage service.source service.policy scope item
      let released := (result.payloadSummary.map String.utf8ByteSize).getD 0
      audit libs service arrival "getMessage" (some conversationId) .completed 1 released 0
      return some result
    else throw (unauthorized "message is outside the authorized time range")
  | .error (.invalidCursor _) => next
  | .error (.notFound _) => return none
  | .error error => throw (queryError error)

/-- The conversations of the policy are asked in turn. -/
def askConversations (capability : ToolCapability)
    (lookup : String → Except LiveQueryError MessageItem) :
    List (String × ConversationToolScope) → Handler (Option MinimizedMessage) →
    Handler (Option MinimizedMessage)
  | [], next => next
  | (conversationId, scope) :: rest, next =>
    if scope.permits capability arrival.request.destination then
      releaseMessage libs service arrival conversationId scope (lookup conversationId)
        (askConversations capability lookup rest next)
    else askConversations capability lookup rest next

/-- A message of the conversation, or a hit of a search in it. -/
def searchResource (canonicalId conversationId : String) : Except LiveQueryError MessageItem :=
  match arrival.live.getMessage conversationId canonicalId with
  | .error (.invalidCursor _) => arrival.live.getSearchResultMessage conversationId canonicalId
  | resource => resource

def getMessage (canonicalId : String) : Handler (Option MinimizedMessage) :=
  let scopes := service.policy.conversationScopes
  askConversations libs service arrival .readRecentMessages
    (arrival.live.getMessage · canonicalId) scopes <|
  askConversations libs service arrival .searchMessages
    (searchResource arrival canonicalId) scopes do
  ignore (audit libs service arrival "getMessage" none .denied 0 0 0)
  throw (unauthorized
    "message identity is outside the authorized conversation or destination scope")

/-! Dispatch -/

def validateRequest (request : ConnectorRequest) : Except ConnectorErrorBody Unit := do
  invalidUnless (request.apiVersion == Connector.connectorApiVersion)
    "unsupported connector API version"
  invalidUnless (request.requestId != "" && request.requestId.utf8ByteSize ≤ 256)
    "request ID must be between 1 and 256 bytes"
  invalidUnless (request.requesterId != "" && request.requesterId.utf8ByteSize ≤ 256)
    "requester ID must be between 1 and 256 bytes"

def refuseReplicaOnly : Handler ConnectorResult := do
  ignore (audit libs service arrival (operationName arrival.request.operation)
    (operationConversation arrival.request.operation) .denied 0 0 0)
  throw (unavailable "replicaOnlyOperation" ("this operation remains on the encrypted replica " ++
    "connector; the direct connector serves only ordinary SQLite reads"))

def dispatch : Handler ConnectorResult := do
  ofExcept (validateRequest arrival.request)
  match arrival.request.operation with
  | .capabilities => do
    auditMetadata libs service arrival "capabilities"
    return .capabilities service.capabilities
  | .status => do
    auditMetadata libs service arrival "status"
    return .directStatus service.status
  | .listConversations cursor limit =>
    .conversations <$> listConversations libs service arrival cursor (limit.getD 100)
  | .getMessages conversationId cursor limit =>
    .messages <$> getMessages libs service arrival conversationId cursor (limit.getD 20)
  | .searchMessages query conversationId cursor limit =>
    .messages <$> searchMessages libs service arrival query conversationId cursor (limit.getD 20)
  | .getMessage canonicalId =>
    .message <$> getMessage libs service arrival canonicalId
  | _ => refuseReplicaOnly libs service arrival

/-- The reply and the journal it leaves. -/
def handle (journal : Journal) : ConnectorResponse × Journal :=
  let (result, after) := outcome (dispatch libs service arrival) journal
  (connectorResponse arrival.request.requestId result, after)

end GreenBubbles.Direct
