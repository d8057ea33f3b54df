import GreenBubbles.Direct.Policy
import GreenBubbles.LiveQuery.Acceptance

/-! # What the direct connector releases

A message keeps the fields its scope grants. A cursor of the live query travels
inside a cursor of the connector, which is bound to the source, the policy, the
destination and the query.
-/
namespace GreenBubbles.Direct

open Library Library.Bytes
open Archive (MessageDirection)
open Connector (ConnectorDestination ToolSourceDatabaseFreshness)
open LiveQuery (CursorReader QueryWarning asOptionalText asText asUnsigned member objectMembers
  optionalText unsignedJson)

/-! Summaries -/

/-- As many whole characters as there is room for. -/
def fitting : ℕ → List Char → List Char
  | _, [] => []
  | room, c :: rest => if c.utf8Size ≤ room then c :: fitting (room - c.utf8Size) rest else []

/-- The text is cut at the last boundary of characters that fits. -/
def truncateUtf8 (value : String) (maximumBytes : ℕ) : String × Bool :=
  if value.utf8ByteSize ≤ maximumBytes then (value, false)
  else (String.ofList (fitting maximumBytes value.toList), true)

def allowedFields : List String :=
  ["sub_type", "title", "des", "url", "file_ext", "file_size", "reply_text", "refer_sender",
    "refer_content", "refer_type", "amount_desc", "pay_memo", "pay_sub_type"]

def fieldText (name : String) : ContentValue → Option String
  | .string value => some (name ++ "=" ++ value)
  | .number text => some (name ++ "=" ++ text)
  | .bool value => some (name ++ "=" ++ if value then "true" else "false")
  | _ => none

def payloadText : ContentValue → Option String
  | .string value => some value
  | .object fields =>
    let values := allowedFields.filterMap fun name =>
      (fields.find? (·.1 == name)).bind fun field => fieldText name field.2
    if values.isEmpty then none else some ("; ".intercalate values)
  | _ => none

/-- The kind of a payload, its summary and whether the summary is cut. -/
def summarizeDecodedPayload (value : ContentValue) (maximumBytes : ℕ) :
    String × Option String × Bool :=
  match value with
  | .object ((kind, content) :: _) =>
    match payloadText content with
    | none => (kind, none, false)
    | some summary =>
      let (summary, truncated) := truncateUtf8 summary maximumBytes
      (kind, some summary, truncated)
  | _ => ("decoded", none, false)

/-! Projections -/

structure ReleasedPayload where
  kind : Option String
  summary : Option String
  truncated : Option Bool

variable (source : LiveQuerySource) (policy : ToolAuthorizationPolicy)
  (scope : ConversationToolScope)

def projectEnvelope (message : MessageEnvelope) (payload : ReleasedPayload) : MinimizedMessage :=
  let senderReleased := decide (ToolMessageField.sender ∈ scope.messageFields)
  let rawSender := if message.sender = "" then none else some message.sender
  let boundAccountHolder :=
    rawSender.bind fun sender => source.accountHolderSourceId.map (sender == ·)
  let isAccountHolder := if senderReleased then boundAccountHolder else none
  { canonicalId := message.id
    conversationId := message.conversationId
    sourceDatabaseFreshness := .fresh
    senderId := if senderReleased then rawSender else none
    senderDisplayName :=
      if senderReleased then
        if isAccountHolder = some true then some "You"
        else message.senderDisplayName.filter (· != "")
      else none
    isAccountHolder
    createdAtUnix :=
      if ToolMessageField.createdAt ∈ scope.messageFields then some message.createdAtUnix else none
    conversationOrdinal := message.sortSequence.toNat
    direction :=
      if ToolMessageField.direction ∈ scope.messageFields then
        boundAccountHolder.map fun isSelf =>
          if isSelf then MessageDirection.outgoing else MessageDirection.incoming
      else none
    logicalType :=
      if ToolMessageField.messageType ∈ scope.messageFields then some message.messageType else none
    subType :=
      if ToolMessageField.messageType ∈ scope.messageFields then some message.messageSubtype
      else none
    payloadKind := payload.kind
    payloadSummary := payload.summary
    payloadSummaryTruncated := payload.truncated }

def projectMessage (message : MessageItem) : MinimizedMessage :=
  projectEnvelope source scope message.toMessageEnvelope
    (if ToolMessageField.content ∈ scope.messageFields then
      let (kind, summary, truncated) :=
        summarizeDecodedPayload message.content policy.maximumMessageSummaryBytes
      ⟨some kind, summary, some (truncated || message.contentTruncated)⟩
    else ⟨none, none, none⟩)

def projectSearchHit (hit : SearchItem) : MinimizedMessage :=
  let (snippet, snippetTruncated) := truncateUtf8 hit.snippet policy.maximumMessageSummaryBytes
  projectEnvelope source scope hit.toMessageEnvelope
    (if ToolMessageField.content ∈ scope.messageFields then
      ⟨some "searchSnippet", some snippet, some (hit.snippetTruncated || snippetTruncated)⟩
    else ⟨none, none, none⟩)

/-! Limitations -/

def warningCodes (warnings : List QueryWarning) : Finset String :=
  (warnings.map fun warning => "directQuery." ++ warning.code).toFinset

def omittedWarningCount (warnings : List QueryWarning) : ℕ :=
  wrappingSum 64 ((warnings.filter fun warning =>
    ["messageRowDecodeFailed", "shardRowReadFailed", "shardQueryFailed"].contains
      warning.code).map fun warning => warning.count.getD 1)

def directProjectionLimitations : Finset String :=
  (if ToolMessageField.direction ∈ scope.messageFields ∧ source.accountHolderSourceId = none then
    {"directDirectionUnavailable"} else ∅) ∪
  (if ToolMessageField.attachments ∈ scope.messageFields then
    {"directAttachmentReferencesUnavailable"} else ∅) ∪
  (if ToolMessageField.relationships ∈ scope.messageFields then
    {"directRelationshipReferencesUnavailable"} else ∅)

/-! Cursors -/

structure DirectReadCursor where
  version : UInt32
  kind : String
  sourceIdentity : String
  policySha256 : String
  destination : LiveQuery.ConnectorDestination
  conversationId : String
  querySha256 : Option String
  innerCursor : Option String

namespace DirectReadCursor

def toJson (cursor : DirectReadCursor) : Json :=
  .obj
    [("version", unsignedJson cursor.version),
     ("kind", .str cursor.kind),
     ("sourceIdentity", .str cursor.sourceIdentity),
     ("policySha256", .str cursor.policySha256),
     ("destination", .str (LiveQuery.destinationName cursor.destination)),
     ("conversationId", .str cursor.conversationId),
     ("querySha256", optionalText cursor.querySha256),
     ("innerCursor", optionalText cursor.innerCursor)]

def fromJson (json : Json) : Option DirectReadCursor := do
  let members ← objectMembers
    ["version", "kind", "sourceIdentity", "policySha256", "destination", "conversationId",
      "querySha256", "innerCursor"] json
  return {
    version := ← asUnsigned (member members "version")
    kind := ← asText (member members "kind")
    sourceIdentity := ← asText (member members "sourceIdentity")
    policySha256 := ← asText (member members "policySha256")
    destination := ← asText (member members "destination") >>= LiveQuery.destinationNamed
    conversationId := ← asText (member members "conversationId")
    querySha256 := ← asOptionalText (member members "querySha256")
    innerCursor := ← asOptionalText (member members "innerCursor") }

theorem fromJson_toJson (cursor : DirectReadCursor) : fromJson cursor.toJson = some cursor := by
  simp [fromJson, toJson, objectMembers]

end DirectReadCursor

def cursorDestination : ConnectorDestination → LiveQuery.ConnectorDestination
  | .localOnly => .localOnly
  | .remoteModel => .remoteModel

/-- What a cursor of the connector is bound to. -/
structure CursorBinding where
  kind : String
  sourceIdentity : String
  policySha256 : String
  destination : ConnectorDestination
  querySha256 : Option String

def encodeReadCursor (binding : CursorBinding) (conversationId : String)
    (innerCursor : Option String) : Except ConnectorErrorBody String :=
  let cursor : DirectReadCursor :=
    { version := 1
      kind := binding.kind
      sourceIdentity := binding.sourceIdentity
      policySha256 := binding.policySha256
      destination := cursorDestination binding.destination
      conversationId
      querySha256 := binding.querySha256
      innerCursor }
  let bytes := utf8 cursor.toJson.toText
  if maxDirectCursorBytes < bytes.length then
    .error (invalid "direct connector cursor exceeds its safety limit")
  else .ok (Base64.encode bytes)

def DirectReadCursor.belongs (cursor : DirectReadCursor) (binding : CursorBinding)
    (expectedConversationId : Option String) : Bool :=
  cursor.version == 1 && cursor.kind == binding.kind &&
  cursor.sourceIdentity == binding.sourceIdentity &&
  cursor.policySha256 == binding.policySha256 &&
  cursor.destination == cursorDestination binding.destination &&
  cursor.conversationId != "" && decide (cursor.conversationId.utf8ByteSize ≤ 4096) &&
  cursor.querySha256 == binding.querySha256 &&
  expectedConversationId.all (cursor.conversationId == ·) &&
  cursor.innerCursor.all fun inner => inner != "" && decide (inner.utf8ByteSize ≤ 8192)

def invalidUnless (condition : Bool) (message : String) : Except ConnectorErrorBody Unit :=
  if condition then .ok () else .error (invalid message)

def orInvalid {α : Type} (value : Option α) (message : String) : Except ConnectorErrorBody α :=
  match value with
  | some value => .ok value
  | none => .error (invalid message)

def decodeReadCursor (reader : CursorReader) (binding : CursorBinding)
    (expectedConversationId : Option String) :
    Option String → Except ConnectorErrorBody (Option DirectReadCursor)
  | none => .ok none
  | some value => do
    invalidUnless (value != "" && value.utf8ByteSize ≤ maxDirectCursorBytes * 2)
      "direct connector cursor is outside safe limits"
    let bytes ← orInvalid (reader.base64 value) "direct connector cursor is not valid base64url"
    invalidUnless (bytes.length ≤ maxDirectCursorBytes)
      "direct connector cursor is outside safe limits"
    let cursor ← orInvalid (reader.json bytes >>= DirectReadCursor.fromJson)
      "direct connector cursor structure is invalid"
    invalidUnless (cursor.belongs binding expectedConversationId)
      "direct connector cursor does not belong to this source, policy, destination, and query"
    return some cursor

def encodeConnectorConversationCursor (sourceIdentity policySha256 : String)
    (destination : ConnectorDestination) (afterConversationId : String) : String :=
  let cursor : LiveQuery.ConnectorConversationCursor :=
    { version := 1
      sourceIdentity
      policySha256
      destination := cursorDestination destination
      afterConversationId }
  LiveQuery.encodeCursor cursor.toJson

def decodeConnectorConversationCursor (reader : CursorReader) (sourceIdentity policySha256 : String)
    (destination : ConnectorDestination) :
    Option String → Except ConnectorErrorBody (Option String)
  | none => .ok none
  | some value =>
    match LiveQuery.decodeConnectorConversationCursor reader sourceIdentity policySha256
        (cursorDestination destination) value with
    | .ok after => .ok (some after)
    | .error (.invalidCursor message) => .error (invalid message)
    | .error (.invalid message) => .error (invalid message)

def directQueryDigest (query : String) : String :=
  let trimmed := (query.toList.dropWhile Send.isWhiteSpace).rdropWhile Send.isWhiteSpace
  Sha256.hexDigest (utf8 ("greenbubbles-direct-connector-search-v1\x00" ++ String.ofList trimmed))

/-! No cursor is refused for lack of authorization -/

theorem invalidUnless_code {condition : Bool} {message : String} {error : ConnectorErrorBody}
    (h : invalidUnless condition message = .error error) : error.code = .invalidRequest := by
  cases condition with
  | false => exact congrArg _ (Except.error.inj h).symm
  | true => cases h

theorem orInvalid_code {α : Type} {value : Option α} {message : String} {error : ConnectorErrorBody}
    (h : orInvalid value message = .error error) : error.code = .invalidRequest := by
  cases value with
  | none => exact congrArg _ (Except.error.inj h).symm
  | some value => cases h

theorem bind_error {ε α β : Type} {x : Except ε α} {f : α → Except ε β} {error : ε} :
    x >>= f = .error error ↔ x = .error error ∨ ∃ a, x = .ok a ∧ f a = .error error := by
  cases x <;> simp [bind, Except.bind]

theorem encodeReadCursor_code {binding : CursorBinding} {conversationId : String}
    {innerCursor : Option String} {error : ConnectorErrorBody}
    (h : encodeReadCursor binding conversationId innerCursor = .error error) :
    error.code = .invalidRequest := by
  simp only [encodeReadCursor] at h
  split at h
  · exact congrArg _ (Except.error.inj h).symm
  · cases h

theorem decodeReadCursor_code {reader : CursorReader} {binding : CursorBinding}
    {expectedConversationId value : Option String} {error : ConnectorErrorBody}
    (h : decodeReadCursor reader binding expectedConversationId value = .error error) :
    error.code = .invalidRequest := by
  cases value with
  | none => cases h
  | some value =>
    simp only [decodeReadCursor, bind_error] at h
    rcases h with h | ⟨-, -, h | ⟨bytes, -, h | ⟨-, -, h | ⟨cursor, -, h | ⟨-, -, h⟩⟩⟩⟩⟩
    · exact invalidUnless_code h
    · exact orInvalid_code h
    · exact invalidUnless_code h
    · exact orInvalid_code h
    · exact invalidUnless_code h
    · cases h

theorem decodeConnectorConversationCursor_code {reader : CursorReader}
    {sourceIdentity policySha256 : String} {destination : ConnectorDestination}
    {value : Option String} {error : ConnectorErrorBody}
    (h : decodeConnectorConversationCursor reader sourceIdentity policySha256 destination value =
      .error error) : error.code = .invalidRequest := by
  cases value with
  | none => cases h
  | some value =>
    simp only [decodeConnectorConversationCursor] at h
    split at h
    · cases h
    · exact congrArg _ (Except.error.inj h).symm
    · exact congrArg _ (Except.error.inj h).symm

end GreenBubbles.Direct
