import GreenBubbles.LiveQuery.Cursors

/-! # Where a cursor is accepted

The operations of the live query check the cursors they are given, and so does
the list of conversations of the connector. What is checked is read from the
cursor alone, so a cursor has one place; it is accepted there where it is short
enough to be decoded at all.
-/
namespace GreenBubbles.LiveQuery

open Library Library.Bytes

structure LiveQuerySource where
  identity : String
  /-- Half of the digest of the path, the device and the access. -/
  identity_form : ∃ digest : List UInt8, digest.length = 16 ∧
    identity = "sha256:" ++ Bytes.encode digest

/-- Domain and value are separated by a zero byte. -/
def digestText (domain value : String) : String := Sha256.hexDigest (utf8 domain ++ 0 :: utf8 value)

def conversationDigest (conversation : String) : String :=
  digestText "greenbubbles-conversation-v1" conversation

def searchQueryDigest (query : String) : String := digestText "greenbubbles-search-query-v1" query

def searchConversationDigest (conversation : String) : String :=
  digestText "greenbubbles-search-conversation-v1" conversation

inductive ContactKind where
  | accountHolder
  | person
  | group
  | official
  | service
  | unknown
  deriving DecidableEq

def ContactKind.asStr : ContactKind → String
  | .accountHolder => "accountHolder"
  | .person => "person"
  | .group => "group"
  | .official => "official"
  | .service => "service"
  | .unknown => "unknown"

structure MessageKey where
  sortSequence : Int64
  createTime : Int64
  serverId : Int64
  shardId : UInt32
  rowId : Int64

structure SearchKey where
  createTime : Int64
  sortSequence : Int64
  messageLocalId : Int64
  tableOrdinal : UInt32
  rowId : Int64

/-! The cursors that are minted -/

def contactCursor (source : LiveQuerySource) (kind : Option ContactKind) (includeDetails : Bool)
    (identifier : String) : ContactCursor :=
  { version := cursorFormatVersion
    kind := "contacts.list"
    sourceIdentity := source.identity
    contactKind := kind.map ContactKind.asStr
    includeDetails := includeDetails
    identifier := identifier }

def conversationCursor (source : LiveQuerySource) (sortTimestamp : Int64) (username : String) :
    ConversationCursor :=
  { version := cursorFormatVersion
    kind := "conversations.list"
    sourceIdentity := source.identity
    sortTimestamp := sortTimestamp
    username := username }

def messageCursor (source : LiveQuerySource) (conversationDigest kind : String)
    (key : MessageKey) : MessageCursor :=
  { version := cursorFormatVersion
    kind := kind
    sourceIdentity := source.identity
    conversationDigest := conversationDigest
    sortSequence := key.sortSequence
    createTime := key.createTime
    serverId := key.serverId
    shardId := key.shardId
    rowId := key.rowId }

def searchCursor (source : LiveQuerySource) (queryDigest : String)
    (conversationDigest : Option String) (kind : String) (key : SearchKey) : SearchCursor :=
  { version := cursorFormatVersion
    kind := kind
    sourceIdentity := source.identity
    queryDigest := queryDigest
    conversationDigest := conversationDigest
    createTime := key.createTime
    sortSequence := key.sortSequence
    messageLocalId := key.messageLocalId
    tableOrdinal := key.tableOrdinal
    rowId := key.rowId }

def fallbackSearchCursor (source : LiveQuerySource) (queryDigest : String)
    (conversationDigest : Option String) (conversationId : String)
    (innerMessageCursor : Option String) : FallbackSearchCursor :=
  { version := cursorFormatVersion
    kind := fallbackSearchCursorKind
    sourceIdentity := source.identity
    queryDigest := queryDigest
    conversationDigest := conversationDigest
    conversationId := conversationId
    innerMessageCursor := innerMessageCursor }

def connectorConversationCursor (sourceIdentity policySha256 : String)
    (destination : ConnectorDestination) (afterConversationId : String) :
    ConnectorConversationCursor :=
  { version := 1
    sourceIdentity := sourceIdentity
    policySha256 := policySha256
    destination := destination
    afterConversationId := afterConversationId }

/-- A cursor or an identity that an answer holds, with what it was made from. -/
inductive Minted where
  | contact (kind : Option ContactKind) (includeDetails : Bool) (identifier : String)
  | conversation (sortTimestamp : Int64) (username : String)
  | message (conversation : String) (key : MessageKey)
  | messageIdentity (conversation : String) (key : MessageKey)
  | search (query : String) (conversation : Option String) (key : SearchKey)
  | searchIdentity (query conversation : String) (key : SearchKey)
  /-- The conversation is the one of the filter, where there is a filter. -/
  | fallbackSearch (query : String) (filtered : Bool) (conversationId : String)
    (innerMessageCursor : Option String)
  | connector (sourceIdentity policySha256 : String) (destination : ConnectorDestination)
    (afterConversationId : String)

def conversationFilter (filtered : Bool) (conversationId : String) : Option String :=
  if filtered then some conversationId else none

def Minted.json (source : LiveQuerySource) : Minted → Json
  | .contact kind includeDetails identifier =>
    (contactCursor source kind includeDetails identifier).toJson
  | .conversation sortTimestamp username => (conversationCursor source sortTimestamp username).toJson
  | .message conversationId key =>
    (messageCursor source (conversationDigest conversationId) "messages.list" key).toJson
  | .messageIdentity conversationId key =>
    (messageCursor source (conversationDigest conversationId) "message.identity" key).toJson
  | .search query conversationId key =>
    (searchCursor source (searchQueryDigest query) (conversationId.map searchConversationDigest)
      "messages.search" key).toJson
  | .searchIdentity query conversationId key =>
    (searchCursor source (searchQueryDigest query) (some (searchConversationDigest conversationId))
      "message.search.identity" key).toJson
  | .fallbackSearch query filtered conversationId innerMessageCursor =>
    (fallbackSearchCursor source (searchQueryDigest query)
      ((conversationFilter filtered conversationId).map searchConversationDigest) conversationId
      innerMessageCursor).toJson
  | .connector sourceIdentity policySha256 destination afterConversationId =>
    (connectorConversationCursor sourceIdentity policySha256 destination
      afterConversationId).toJson

def Minted.encode (source : LiveQuerySource) (minted : Minted) : String :=
  encodeCursor (minted.json source)

/-! The validators -/

def validateContactCursor (source : LiveQuerySource) (kind : Option ContactKind)
    (includeDetails : Bool) (cursor : ContactCursor) : Except LiveQueryError ContactCursor := do
  check
    (cursor.version == cursorFormatVersion
      && cursor.kind == "contacts.list"
      && cursor.sourceIdentity == source.identity
      && cursor.contactKind == kind.map ContactKind.asStr
      && cursor.includeDetails == includeDetails
      && cursor.identifier != ""
      && cursor.identifier.utf8ByteSize ≤ maxConversationIdBytes)
    (.invalidCursor "cursor does not belong to this contact filter and source")
  return cursor

def validateConversationCursor (source : LiveQuerySource) (cursor : ConversationCursor) :
    Except LiveQueryError ConversationCursor := do
  check
    (cursor.version == cursorFormatVersion
      && cursor.kind == "conversations.list"
      && cursor.sourceIdentity == source.identity
      && cursor.username != ""
      && cursor.username.utf8ByteSize ≤ maxConversationIdBytes)
    (.invalidCursor "cursor does not belong to this operation and source")
  return cursor

def validateMessageCursor (source : LiveQuerySource) (conversationDigest : String)
    (cursor : MessageCursor) : Except LiveQueryError MessageCursor := do
  check
    (cursor.version == cursorFormatVersion
      && cursor.kind == "messages.list"
      && cursor.sourceIdentity == source.identity
      && cursor.conversationDigest == conversationDigest)
    (.invalidCursor "cursor does not belong to this operation, source, and conversation")
  return cursor

def MessageCursor.key (cursor : MessageCursor) : MessageKey :=
  { sortSequence := cursor.sortSequence
    createTime := cursor.createTime
    serverId := cursor.serverId
    shardId := cursor.shardId
    rowId := cursor.rowId }

def validateMessageIdentity (source : LiveQuerySource) (conversationDigest : String)
    (identity : MessageCursor) : Except LiveQueryError MessageKey := do
  check
    (identity.version == cursorFormatVersion
      && identity.kind == "message.identity"
      && identity.sourceIdentity == source.identity
      && identity.conversationDigest == conversationDigest)
    (.invalidCursor "message identity does not belong to this source and conversation")
  return identity.key

def SearchCursor.key (cursor : SearchCursor) : SearchKey :=
  { createTime := cursor.createTime
    sortSequence := cursor.sortSequence
    messageLocalId := cursor.messageLocalId
    tableOrdinal := cursor.tableOrdinal
    rowId := cursor.rowId }

def validateSearchCursor (source : LiveQuerySource) (queryDigest : String)
    (conversationDigest : Option String) (cursor : SearchCursor) :
    Except LiveQueryError SearchCursor := do
  check
    (cursor.version == cursorFormatVersion
      && cursor.kind == "messages.search"
      && cursor.sourceIdentity == source.identity
      && cursor.queryDigest == queryDigest
      && cursor.conversationDigest == conversationDigest)
    (.invalidCursor "cursor does not belong to this search, source, and conversation filter")
  return cursor

/-- The check at the start of `get_search_result_message`. -/
def validateSearchResult (source : LiveQuerySource) (conversationDigest : String)
    (cursor : SearchCursor) : Except LiveQueryError SearchCursor := do
  check
    (cursor.version == cursorFormatVersion
      && cursor.kind == "message.search.identity"
      && cursor.sourceIdentity == source.identity
      && cursor.conversationDigest == some conversationDigest)
    (.invalidCursor "search result identity does not belong to this source and conversation")
  return cursor

def validateFallbackSearchCursor (source : LiveQuerySource) (queryDigest : String)
    (conversation conversationDigest : Option String) (cursor : FallbackSearchCursor) :
    Except LiveQueryError FallbackSearchCursor := do
  check
    (cursor.version == cursorFormatVersion
      && cursor.kind == fallbackSearchCursorKind
      && cursor.sourceIdentity == source.identity
      && cursor.queryDigest == queryDigest
      && cursor.conversationDigest == conversationDigest
      && cursor.conversationId != ""
      && cursor.conversationId.utf8ByteSize ≤ maxConversationIdBytes
      && conversation.all (fun expected => cursor.conversationId == expected)
      && cursor.innerMessageCursor.all
        (fun value => value != "" && value.utf8ByteSize ≤ maxCursorBytes))
    (.invalidCursor
      "fallback search cursor does not belong to this query, source, and conversation")
  return cursor

section Validators

variable {source : LiveQuerySource} {queryDigest conversationDigest : String}

@[simp] theorem validateContactCursor_ok {kind : Option ContactKind} {includeDetails : Bool}
    {cursor result : ContactCursor} :
    validateContactCursor source kind includeDetails cursor = .ok result ↔
      cursor.version = cursorFormatVersion ∧ cursor.kind = "contacts.list" ∧
      cursor.sourceIdentity = source.identity ∧
      cursor.contactKind = kind.map ContactKind.asStr ∧
      cursor.includeDetails = includeDetails ∧ cursor.identifier ≠ "" ∧
      cursor.identifier.utf8ByteSize ≤ maxConversationIdBytes ∧ cursor = result := by
  simp [validateContactCursor, bind_ok, pure, Except.pure, and_assoc]

@[simp] theorem validateConversationCursor_ok {cursor result : ConversationCursor} :
    validateConversationCursor source cursor = .ok result ↔
      cursor.version = cursorFormatVersion ∧ cursor.kind = "conversations.list" ∧
      cursor.sourceIdentity = source.identity ∧ cursor.username ≠ "" ∧
      cursor.username.utf8ByteSize ≤ maxConversationIdBytes ∧ cursor = result := by
  simp [validateConversationCursor, bind_ok, pure, Except.pure, and_assoc]

@[simp] theorem validateMessageCursor_ok {cursor result : MessageCursor} :
    validateMessageCursor source conversationDigest cursor = .ok result ↔
      cursor.version = cursorFormatVersion ∧ cursor.kind = "messages.list" ∧
      cursor.sourceIdentity = source.identity ∧ cursor.conversationDigest = conversationDigest ∧
      cursor = result := by
  simp [validateMessageCursor, bind_ok, pure, Except.pure, and_assoc]

@[simp] theorem validateMessageIdentity_ok {identity : MessageCursor} {result : MessageKey} :
    validateMessageIdentity source conversationDigest identity = .ok result ↔
      identity.version = cursorFormatVersion ∧ identity.kind = "message.identity" ∧
      identity.sourceIdentity = source.identity ∧
      identity.conversationDigest = conversationDigest ∧ identity.key = result := by
  simp [validateMessageIdentity, bind_ok, pure, Except.pure, and_assoc]

@[simp] theorem validateSearchCursor_ok {filter : Option String} {cursor result : SearchCursor} :
    validateSearchCursor source queryDigest filter cursor = .ok result ↔
      cursor.version = cursorFormatVersion ∧ cursor.kind = "messages.search" ∧
      cursor.sourceIdentity = source.identity ∧ cursor.queryDigest = queryDigest ∧
      cursor.conversationDigest = filter ∧ cursor = result := by
  simp [validateSearchCursor, bind_ok, pure, Except.pure, and_assoc]

@[simp] theorem validateSearchResult_ok {cursor result : SearchCursor} :
    validateSearchResult source conversationDigest cursor = .ok result ↔
      cursor.version = cursorFormatVersion ∧ cursor.kind = "message.search.identity" ∧
      cursor.sourceIdentity = source.identity ∧
      cursor.conversationDigest = some conversationDigest ∧ cursor = result := by
  simp [validateSearchResult, bind_ok, pure, Except.pure, and_assoc]

@[simp] theorem validateFallbackSearchCursor_ok {conversation filter : Option String}
    {cursor result : FallbackSearchCursor} :
    validateFallbackSearchCursor source queryDigest conversation filter cursor = .ok result ↔
      cursor.version = cursorFormatVersion ∧ cursor.kind = fallbackSearchCursorKind ∧
      cursor.sourceIdentity = source.identity ∧ cursor.queryDigest = queryDigest ∧
      cursor.conversationDigest = filter ∧ cursor.conversationId ≠ "" ∧
      cursor.conversationId.utf8ByteSize ≤ maxConversationIdBytes ∧
      (∀ expected ∈ conversation, cursor.conversationId = expected) ∧
      (∀ value ∈ cursor.innerMessageCursor, value ≠ "" ∧ value.utf8ByteSize ≤ maxCursorBytes) ∧
      cursor = result := by
  have hall : ∀ (value : Option String) (p : String → Bool),
      value.all p = true ↔ ∀ text, value = some text → p text = true := by
    intro value p
    cases value <;> simp
  simp [validateFallbackSearchCursor, bind_ok, pure, Except.pure, and_assoc, hall]

end Validators

def connectorDecodeErrors : DecodeErrors :=
  { outside := .invalid "conversation cursor is empty or outside safe limits"
    base64 := .invalid "conversation cursor is not valid base64url"
    bytes := .invalid "conversation cursor is outside safe limits"
    structureInvalid := .invalid "conversation cursor structure is invalid" }

/-- The identifier after which the connector goes on. -/
def decodeConnectorConversationCursor (reader : CursorReader)
    (sourceIdentity policySha256 : String) (destination : ConnectorDestination) (value : String) :
    Except LiveQueryError String := do
  let cursor ← decodeWith connectorDecodeErrors reader ConnectorConversationCursor.fromJson value
  check
    (cursor.version == 1
      && cursor.sourceIdentity == sourceIdentity
      && cursor.policySha256 == policySha256
      && cursor.destination == destination
      && cursor.afterConversationId != "")
    (.invalid "conversation cursor does not belong to this source, policy, and destination")
  return cursor.afterConversationId

def rankCursorOffset (reader : CursorReader) (token : String) (minimumSelfMessages : UInt64) :
    Except LiveQueryError UInt64 := do
  let cursor ← decodeCursor reader RankCursor.fromJson token
  check (cursor.version == cursorFormatVersion && cursor.kind == "conversations.rank")
    (.invalidCursor "cursor is not a chats rank cursor")
  check (cursor.minimumSelfMessages == minimumSelfMessages)
    (.invalidCursor "rank cursor does not match --minimum-self-messages")
  return cursor.offset

@[simp] theorem decodeConnectorConversationCursor_ok {reader : CursorReader}
    {sourceIdentity policySha256 value result : String} {destination : ConnectorDestination} :
    decodeConnectorConversationCursor reader sourceIdentity policySha256 destination value =
        .ok result ↔
      ∃ cursor, decodeWith connectorDecodeErrors reader ConnectorConversationCursor.fromJson value =
          .ok cursor ∧
        cursor.version = 1 ∧ cursor.sourceIdentity = sourceIdentity ∧
        cursor.policySha256 = policySha256 ∧ cursor.destination = destination ∧
        cursor.afterConversationId ≠ "" ∧ cursor.afterConversationId = result := by
  simp [decodeConnectorConversationCursor, bind_ok, pure, Except.pure, and_assoc]

@[simp] theorem rankCursorOffset_ok {reader : CursorReader} {token : String}
    {minimumSelfMessages result : UInt64} :
    rankCursorOffset reader token minimumSelfMessages = .ok result ↔
      ∃ cursor, decodeCursor reader RankCursor.fromJson token = .ok cursor ∧
        cursor.version = cursorFormatVersion ∧ cursor.kind = "conversations.rank" ∧
        cursor.minimumSelfMessages = minimumSelfMessages ∧ cursor.offset = result := by
  simp [rankCursorOffset, bind_ok, pure, Except.pure, and_assoc]

/-! The places a cursor can be given to -/

/-- An operation of the live query with its filter; queries are trimmed already. -/
inductive Operation where
  | listContacts (kind : Option ContactKind) (includeDetails : Bool)
  | listConversations
  | listMessages (conversation : String)
  | getMessage (conversation : String)
  | searchMessages (query : String) (conversation : Option String)
  | getSearchResult (conversation : String)

inductive Place where
  | live (source : LiveQuerySource) (operation : Operation)
  | rank (minimumSelfMessages : UInt64)
  | connector (sourceIdentity policySha256 : String) (destination : ConnectorDestination)

/-- Where an operation goes on. -/
inductive Position where
  | contact (identifier : String)
  | conversation (sortTimestamp : Int64) (username : String)
  | message (key : MessageKey)
  | search (key : SearchKey)
  | fallbackSearch (conversationId : String) (innerMessageCursor : Option String)
  | rank (offset : UInt64)
  | connector (afterConversationId : String)

def Operation.accept (reader : CursorReader) (source : LiveQuerySource) (value : String) :
    Operation → Except LiveQueryError Position
  | .listContacts kind includeDetails => do
    let cursor ← decodeCursor reader ContactCursor.fromJson value
    let cursor ← validateContactCursor source kind includeDetails cursor
    return .contact cursor.identifier
  | .listConversations => do
    let cursor ← decodeCursor reader ConversationCursor.fromJson value
    let cursor ← validateConversationCursor source cursor
    return .conversation cursor.sortTimestamp cursor.username
  | .listMessages conversation => do
    let cursor ← decodeCursor reader MessageCursor.fromJson value
    let cursor ← validateMessageCursor source (conversationDigest conversation) cursor
    return .message cursor.key
  | .getMessage conversation => do
    let identity ← decodeCursor reader MessageCursor.fromJson value
    let key ← validateMessageIdentity source (conversationDigest conversation) identity
    return .message key
  | .searchMessages query conversation => do
    let kind ← decodeCursor reader cursorKind value
    if kind = fallbackSearchCursorKind then
      let cursor ← decodeCursor reader FallbackSearchCursor.fromJson value
      let cursor ← validateFallbackSearchCursor source (searchQueryDigest query) conversation
        (conversation.map searchConversationDigest) cursor
      return .fallbackSearch cursor.conversationId cursor.innerMessageCursor
    else
      let cursor ← decodeCursor reader SearchCursor.fromJson value
      let cursor ← validateSearchCursor source (searchQueryDigest query)
        (conversation.map searchConversationDigest) cursor
      return .search cursor.key
  | .getSearchResult conversation => do
    let cursor ← decodeCursor reader SearchCursor.fromJson value
    let cursor ← validateSearchResult source (searchConversationDigest conversation) cursor
    return .search cursor.key

def Place.accept (reader : CursorReader) (value : String) : Place → Except LiveQueryError Position
  | .live source operation => operation.accept reader source value
  | .rank minimumSelfMessages => do
    let offset ← rankCursorOffset reader value minimumSelfMessages
    return .rank offset
  | .connector sourceIdentity policySha256 destination => do
    let after ← decodeConnectorConversationCursor reader sourceIdentity policySha256 destination
      value
    return .connector after

/-- The operation, source and filter a cursor is minted by. -/
def Minted.place (source : LiveQuerySource) : Minted → Place
  | .contact kind includeDetails _ => .live source (.listContacts kind includeDetails)
  | .conversation _ _ => .live source .listConversations
  | .message conversationId _ => .live source (.listMessages conversationId)
  | .messageIdentity conversationId _ => .live source (.getMessage conversationId)
  | .search query conversationId _ => .live source (.searchMessages query conversationId)
  | .searchIdentity _ conversationId _ => .live source (.getSearchResult conversationId)
  | .fallbackSearch query filtered conversationId _ =>
    .live source (.searchMessages query (conversationFilter filtered conversationId))
  | .connector sourceIdentity policySha256 destination _ =>
    .connector sourceIdentity policySha256 destination

/-- The row a cursor is minted from. -/
def Minted.position : Minted → Position
  | .contact _ _ identifier => .contact identifier
  | .conversation sortTimestamp username => .conversation sortTimestamp username
  | .message _ key => .message key
  | .messageIdentity _ key => .message key
  | .search _ _ key => .search key
  | .searchIdentity _ _ key => .search key
  | .fallbackSearch _ _ conversationId innerMessageCursor =>
    .fallbackSearch conversationId innerMessageCursor
  | .connector _ _ _ afterConversationId => .connector afterConversationId

/-! One cursor names one place -/

/-- A place with digests for its query and its conversation. -/
inductive Mark where
  | contacts (sourceIdentity : String) (kind : Option ContactKind) (includeDetails : Bool)
  | conversations (sourceIdentity : String)
  | messages (sourceIdentity conversationDigest : String)
  | message (sourceIdentity conversationDigest : String)
  | search (sourceIdentity queryDigest : String) (conversationDigest : Option String)
  | searchResult (sourceIdentity conversationDigest : String)
  | rank (minimumSelfMessages : UInt64)
  | connector (sourceIdentity policySha256 : String) (destination : ConnectorDestination)

def Place.mark : Place → Mark
  | .live source (.listContacts kind includeDetails) =>
    .contacts source.identity kind includeDetails
  | .live source .listConversations => .conversations source.identity
  | .live source (.listMessages conversation) =>
    .messages source.identity (conversationDigest conversation)
  | .live source (.getMessage conversation) =>
    .message source.identity (conversationDigest conversation)
  | .live source (.searchMessages query conversation) =>
    .search source.identity (searchQueryDigest query) (conversation.map searchConversationDigest)
  | .live source (.getSearchResult conversation) =>
    .searchResult source.identity (searchConversationDigest conversation)
  | .rank minimumSelfMessages => .rank minimumSelfMessages
  | .connector sourceIdentity policySha256 destination =>
    .connector sourceIdentity policySha256 destination

def contactKindNamed (name : String) : Option ContactKind :=
  [ContactKind.accountHolder, .person, .group, .official, .service, .unknown].find?
    (·.asStr == name)

@[simp] theorem contactKindNamed_asStr (kind : ContactKind) :
    contactKindNamed kind.asStr = some kind := by
  cases kind <;> decide

/-- The mark of a cursor, by its kind; the cursor of the connector has none. -/
def markOf (members : Members) : Option Mark :=
  match asText (member members "kind") with
  | none => do
    return .connector (← asText (member members "sourceIdentity"))
      (← asText (member members "policySha256"))
      (← asText (member members "destination") >>= destinationNamed)
  | some kind =>
    if kind = "conversations.rank" then do
      return .rank (← asSize (member members "minimumSelfMessages"))
    else do
      let sourceIdentity ← asText (member members "sourceIdentity")
      if kind = "contacts.list" then
        let name ← asOptionalText (member members "contactKind")
        return .contacts sourceIdentity (name.bind contactKindNamed)
          (← asFlag (member members "includeDetails"))
      else if kind = "conversations.list" then
        return .conversations sourceIdentity
      else if kind = "messages.list" then
        return .messages sourceIdentity (← asText (member members "conversationDigest"))
      else if kind = "message.identity" then
        return .message sourceIdentity (← asText (member members "conversationDigest"))
      else if kind = "message.search.identity" then
        return .searchResult sourceIdentity (← asText (member members "conversationDigest"))
      else
        return .search sourceIdentity (← asText (member members "queryDigest"))
          (← asOptionalText (member members "conversationDigest"))

end GreenBubbles.LiveQuery
