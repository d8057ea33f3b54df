import GreenBubbles.Digest
import GreenBubbles.Library.Base64
import GreenBubbles.Library.Json

/-! # Cursors of the live query

A page ends with a cursor: the place it stopped at as JSON, in base64. All
cursors and the identities of messages share one codec and one limit. The
decoder of base64 and the parser of JSON are parameters.
-/
namespace GreenBubbles.LiveQuery

open Library Library.Bytes

def cursorFormatVersion : UInt32 := 1
def maxCursorBytes : ℕ := 4096
def maxConversationIdBytes : ℕ := 4096
def fallbackSearchCursorKind : String := "messages.search.fallback"

inductive LiveQueryError where
  | invalidCursor (message : String)
  /-- The answer of the connector. -/
  | invalid (message : String)
  deriving DecidableEq

def check (condition : Bool) (error : LiveQueryError) : Except LiveQueryError Unit :=
  if condition then .ok () else .error error

@[simp] theorem check_ok {condition : Bool} {error : LiveQueryError} {result : Unit} :
    check condition error = .ok result ↔ condition = true := by
  cases condition <;> simp [check]

def orElse {α : Type} (value : Option α) (error : LiveQueryError) : Except LiveQueryError α :=
  match value with
  | some value => .ok value
  | none => .error error

@[simp] theorem orElse_ok {α : Type} {value : Option α} {error : LiveQueryError} {result : α} :
    orElse value error = .ok result ↔ value = some result := by
  cases value <;> simp [orElse]

/-! Members of a JSON object -/

abbrev Members := List (String × Json)

def member (members : Members) (name : String) : Option Json :=
  (members.find? (·.1 == name)).map (·.2)

@[simp] theorem member_nil (name : String) : member [] name = none := rfl

@[simp] theorem member_cons (first name : String) (value : Json) (rest : Members) :
    member ((first, value) :: rest) name = if first == name then some value else member rest name := by
  cases h : first == name <;> simp [member, h]

/-- An object whose members are all known, none of them twice, or an array of their values. -/
def objectMembers (known : List String) : Json → Option Members
  | .obj members =>
    if members.all (fun member => known.contains member.1) && decide (members.map (·.1)).Nodup then
      some members
    else none
  | .arr elements => if elements.length = known.length then some (known.zip elements) else none
  | _ => none

theorem objectMembers_obj {known : List String} {fields members : Members}
    (h : objectMembers known (.obj fields) = some members) : members = fields ∧
      ∀ member ∈ fields, member.1 ∈ known := by
  rw [objectMembers] at h
  split_ifs at h with hknown
  simp only [Bool.and_eq_true, List.all_eq_true, List.contains_iff_mem] at hknown
  exact ⟨(Option.some.inj h).symm, hknown.1⟩

/-- The members a structure names occur once; others are let through. -/
def looseMembers (named : List String) : Json → Option Members
  | .obj members =>
    if named.all (fun name => (members.filter (·.1 == name)).length ≤ 1) then some members else none
  | .arr elements => if elements.length = named.length then some (named.zip elements) else none
  | _ => none

theorem looseMembers_obj {named : List String} {fields members : Members}
    (h : looseMembers named (.obj fields) = some members) : members = fields := by
  rw [looseMembers] at h
  split_ifs at h
  exact (Option.some.inj h).symm

def asText : Option Json → Option String
  | some (.str value) => some value
  | _ => none

/-- An optional member may be null or missing. -/
def asOptionalText : Option Json → Option (Option String)
  | some (.str value) => some (some value)
  | some .null => some none
  | none => some none
  | _ => none

def asFlag : Option Json → Option Bool
  | some (.bool value) => some value
  | _ => none

/-- A number is read where it fits its type. -/
def asInteger : Option Json → Option Int64
  | some (.int value) =>
    if (Int64.ofInt value).toInt = value then some (Int64.ofInt value) else none
  | _ => none

def asUnsigned : Option Json → Option UInt32
  | some (.int value) =>
    if ((UInt32.ofNat value.toNat).toNat : ℤ) = value then some (UInt32.ofNat value.toNat) else none
  | _ => none

def asSize : Option Json → Option UInt64
  | some (.int value) =>
    if ((UInt64.ofNat value.toNat).toNat : ℤ) = value then some (UInt64.ofNat value.toNat) else none
  | _ => none

def optionalText (value : Option String) : Json := (value.map .str).getD .null

def unsignedJson (value : UInt32) : Json := .int value.toNat

def integerJson (value : Int64) : Json := .int value.toInt

@[simp] theorem asText_none : asText none = none := rfl

@[simp] theorem asText_str (value : String) : asText (some (.str value)) = some value := rfl

@[simp] theorem asOptionalText_optionalText (value : Option String) :
    asOptionalText (some (optionalText value)) = some value := by
  cases value <;> rfl

theorem asText_of_optional {json : Option Json} {value : String}
    (h : asOptionalText json = some (some value)) : asText json = some value := by
  unfold asOptionalText at h
  split at h <;> simp_all [asText]

@[simp] theorem asFlag_bool (value : Bool) : asFlag (some (.bool value)) = some value := rfl

@[simp] theorem asUnsigned_unsignedJson (value : UInt32) :
    asUnsigned (some (unsignedJson value)) = some value := by
  simp [unsignedJson, asUnsigned]

@[simp] theorem asInteger_integerJson (value : Int64) :
    asInteger (some (integerJson value)) = some value := by
  simp [integerJson, asInteger]

/-! The cursors -/

structure ConversationCursor where
  version : UInt32
  kind : String
  sourceIdentity : String
  sortTimestamp : Int64
  username : String

structure ContactCursor where
  version : UInt32
  kind : String
  sourceIdentity : String
  contactKind : Option String
  includeDetails : Bool
  identifier : String

structure MessageCursor where
  version : UInt32
  kind : String
  sourceIdentity : String
  conversationDigest : String
  sortSequence : Int64
  createTime : Int64
  serverId : Int64
  shardId : UInt32
  rowId : Int64

structure SearchCursor where
  version : UInt32
  kind : String
  sourceIdentity : String
  queryDigest : String
  conversationDigest : Option String
  createTime : Int64
  sortSequence : Int64
  messageLocalId : Int64
  tableOrdinal : UInt32
  rowId : Int64

structure FallbackSearchCursor where
  version : UInt32
  kind : String
  sourceIdentity : String
  queryDigest : String
  conversationDigest : Option String
  conversationId : String
  innerMessageCursor : Option String

inductive ConnectorDestination where
  | localOnly
  | remoteModel
  deriving DecidableEq

structure ConnectorConversationCursor where
  version : UInt32
  sourceIdentity : String
  policySha256 : String
  destination : ConnectorDestination
  afterConversationId : String

/-- The cursor of the ranking of conversations, which names no source. -/
structure RankCursor where
  version : UInt32
  kind : String
  offset : UInt64
  minimumSelfMessages : UInt64

namespace ConversationCursor

def toJson (cursor : ConversationCursor) : Json :=
  .obj
    [("version", unsignedJson cursor.version),
     ("kind", .str cursor.kind),
     ("sourceIdentity", .str cursor.sourceIdentity),
     ("sortTimestamp", integerJson cursor.sortTimestamp),
     ("username", .str cursor.username)]

def fromJson (json : Json) : Option ConversationCursor := do
  let members ← objectMembers
    ["version", "kind", "sourceIdentity", "sortTimestamp", "username"] json
  return {
    version := ← asUnsigned (member members "version")
    kind := ← asText (member members "kind")
    sourceIdentity := ← asText (member members "sourceIdentity")
    sortTimestamp := ← asInteger (member members "sortTimestamp")
    username := ← asText (member members "username") }

theorem fromJson_toJson (cursor : ConversationCursor) : fromJson cursor.toJson = some cursor := by
  simp [fromJson, toJson, objectMembers]

end ConversationCursor

namespace ContactCursor

def toJson (cursor : ContactCursor) : Json :=
  .obj
    [("version", unsignedJson cursor.version),
     ("kind", .str cursor.kind),
     ("sourceIdentity", .str cursor.sourceIdentity),
     ("contactKind", optionalText cursor.contactKind),
     ("includeDetails", .bool cursor.includeDetails),
     ("identifier", .str cursor.identifier)]

def fromJson (json : Json) : Option ContactCursor := do
  let members ← objectMembers
    ["version", "kind", "sourceIdentity", "contactKind", "includeDetails", "identifier"] json
  return {
    version := ← asUnsigned (member members "version")
    kind := ← asText (member members "kind")
    sourceIdentity := ← asText (member members "sourceIdentity")
    contactKind := ← asOptionalText (member members "contactKind")
    includeDetails := ← asFlag (member members "includeDetails")
    identifier := ← asText (member members "identifier") }

theorem fromJson_toJson (cursor : ContactCursor) : fromJson cursor.toJson = some cursor := by
  simp [fromJson, toJson, objectMembers]

end ContactCursor

namespace MessageCursor

def toJson (cursor : MessageCursor) : Json :=
  .obj
    [("version", unsignedJson cursor.version),
     ("kind", .str cursor.kind),
     ("sourceIdentity", .str cursor.sourceIdentity),
     ("conversationDigest", .str cursor.conversationDigest),
     ("sortSequence", integerJson cursor.sortSequence),
     ("createTime", integerJson cursor.createTime),
     ("serverId", integerJson cursor.serverId),
     ("shardId", unsignedJson cursor.shardId),
     ("rowId", integerJson cursor.rowId)]

def fromJson (json : Json) : Option MessageCursor := do
  let members ← objectMembers
    ["version", "kind", "sourceIdentity", "conversationDigest", "sortSequence", "createTime",
      "serverId", "shardId", "rowId"] json
  return {
    version := ← asUnsigned (member members "version")
    kind := ← asText (member members "kind")
    sourceIdentity := ← asText (member members "sourceIdentity")
    conversationDigest := ← asText (member members "conversationDigest")
    sortSequence := ← asInteger (member members "sortSequence")
    createTime := ← asInteger (member members "createTime")
    serverId := ← asInteger (member members "serverId")
    shardId := ← asUnsigned (member members "shardId")
    rowId := ← asInteger (member members "rowId") }

theorem fromJson_toJson (cursor : MessageCursor) : fromJson cursor.toJson = some cursor := by
  simp [fromJson, toJson, objectMembers]

end MessageCursor

namespace SearchCursor

def toJson (cursor : SearchCursor) : Json :=
  .obj
    [("version", unsignedJson cursor.version),
     ("kind", .str cursor.kind),
     ("sourceIdentity", .str cursor.sourceIdentity),
     ("queryDigest", .str cursor.queryDigest),
     ("conversationDigest", optionalText cursor.conversationDigest),
     ("createTime", integerJson cursor.createTime),
     ("sortSequence", integerJson cursor.sortSequence),
     ("messageLocalId", integerJson cursor.messageLocalId),
     ("tableOrdinal", unsignedJson cursor.tableOrdinal),
     ("rowId", integerJson cursor.rowId)]

def fromJson (json : Json) : Option SearchCursor := do
  let members ← objectMembers
    ["version", "kind", "sourceIdentity", "queryDigest", "conversationDigest", "createTime",
      "sortSequence", "messageLocalId", "tableOrdinal", "rowId"] json
  return {
    version := ← asUnsigned (member members "version")
    kind := ← asText (member members "kind")
    sourceIdentity := ← asText (member members "sourceIdentity")
    queryDigest := ← asText (member members "queryDigest")
    conversationDigest := ← asOptionalText (member members "conversationDigest")
    createTime := ← asInteger (member members "createTime")
    sortSequence := ← asInteger (member members "sortSequence")
    messageLocalId := ← asInteger (member members "messageLocalId")
    tableOrdinal := ← asUnsigned (member members "tableOrdinal")
    rowId := ← asInteger (member members "rowId") }

theorem fromJson_toJson (cursor : SearchCursor) : fromJson cursor.toJson = some cursor := by
  simp [fromJson, toJson, objectMembers]

end SearchCursor

namespace FallbackSearchCursor

def toJson (cursor : FallbackSearchCursor) : Json :=
  .obj
    [("version", unsignedJson cursor.version),
     ("kind", .str cursor.kind),
     ("sourceIdentity", .str cursor.sourceIdentity),
     ("queryDigest", .str cursor.queryDigest),
     ("conversationDigest", optionalText cursor.conversationDigest),
     ("conversationId", .str cursor.conversationId),
     ("innerMessageCursor", optionalText cursor.innerMessageCursor)]

def fromJson (json : Json) : Option FallbackSearchCursor := do
  let members ← objectMembers
    ["version", "kind", "sourceIdentity", "queryDigest", "conversationDigest", "conversationId",
      "innerMessageCursor"] json
  return {
    version := ← asUnsigned (member members "version")
    kind := ← asText (member members "kind")
    sourceIdentity := ← asText (member members "sourceIdentity")
    queryDigest := ← asText (member members "queryDigest")
    conversationDigest := ← asOptionalText (member members "conversationDigest")
    conversationId := ← asText (member members "conversationId")
    innerMessageCursor := ← asOptionalText (member members "innerMessageCursor") }

theorem fromJson_toJson (cursor : FallbackSearchCursor) : fromJson cursor.toJson = some cursor := by
  simp [fromJson, toJson, objectMembers]

end FallbackSearchCursor

def destinationName : ConnectorDestination → String
  | .localOnly => "local"
  | .remoteModel => "remoteModel"

def destinationNamed : String → Option ConnectorDestination
  | "local" => some .localOnly
  | "remoteModel" => some .remoteModel
  | _ => none

@[simp] theorem destinationNamed_name (destination : ConnectorDestination) :
    destinationNamed (destinationName destination) = some destination := by
  cases destination <;> rfl

theorem destinationName_of_named {name : String} {destination : ConnectorDestination}
    (h : destinationNamed name = some destination) : name = destinationName destination := by
  unfold destinationNamed at h
  split at h
  · obtain rfl := Option.some.inj h
    rfl
  · obtain rfl := Option.some.inj h
    rfl
  · cases h

namespace ConnectorConversationCursor

def toJson (cursor : ConnectorConversationCursor) : Json :=
  .obj
    [("version", unsignedJson cursor.version),
     ("sourceIdentity", .str cursor.sourceIdentity),
     ("policySha256", .str cursor.policySha256),
     ("destination", .str (destinationName cursor.destination)),
     ("afterConversationId", .str cursor.afterConversationId)]

def fromJson (json : Json) : Option ConnectorConversationCursor := do
  let members ← objectMembers
    ["version", "sourceIdentity", "policySha256", "destination", "afterConversationId"] json
  return {
    version := ← asUnsigned (member members "version")
    sourceIdentity := ← asText (member members "sourceIdentity")
    policySha256 := ← asText (member members "policySha256")
    destination := ← asText (member members "destination") >>= destinationNamed
    afterConversationId := ← asText (member members "afterConversationId") }

theorem fromJson_toJson (cursor : ConnectorConversationCursor) :
    fromJson cursor.toJson = some cursor := by
  simp [fromJson, toJson, objectMembers]

end ConnectorConversationCursor

namespace RankCursor

def fromJson (json : Json) : Option RankCursor := do
  let members ← looseMembers ["version", "kind", "offset", "minimumSelfMessages"] json
  return {
    version := ← asUnsigned (member members "version")
    kind := ← asText (member members "kind")
    offset := ← asSize (member members "offset")
    minimumSelfMessages := ← asSize (member members "minimumSelfMessages") }

end RankCursor

/-- The kind of a cursor, read whatever else the cursor holds. -/
def cursorKind (json : Json) : Option String := do
  let members ← looseMembers ["kind"] json
  asText (member members "kind")

/-! The codec -/

/-- What the libraries for base64 and JSON read. -/
structure CursorReader where
  base64 : String → Option (List UInt8)
  base64_encode : ∀ bytes, base64 (Base64.encode bytes) = some bytes
  json : List UInt8 → Option Json
  json_text : ∀ value : Json, json (utf8 value.toText) = some value

/-- The errors of a decoder: its limit, its base64, the limit of the bytes, its JSON. -/
structure DecodeErrors where
  outside : LiveQueryError
  base64 : LiveQueryError
  bytes : LiveQueryError
  structureInvalid : LiveQueryError

def encodeCursor (json : Json) : String := Base64.encode (utf8 json.toText)

def decodeWith {α : Type} (errors : DecodeErrors) (reader : CursorReader)
    (fromJson : Json → Option α) (value : String) : Except LiveQueryError α := do
  check (value != "" && value.utf8ByteSize ≤ maxCursorBytes) errors.outside
  let bytes ← orElse (reader.base64 value) errors.base64
  check (bytes.length ≤ maxCursorBytes) errors.bytes
  orElse (reader.json bytes >>= fromJson) errors.structureInvalid

def decodeCursor {α : Type} (reader : CursorReader) (fromJson : Json → Option α) (value : String) :
    Except LiveQueryError α :=
  decodeWith
    { outside := .invalidCursor "cursor is empty or outside safe limits"
      base64 := .invalidCursor "cursor is not valid base64url"
      bytes := .invalidCursor "decoded cursor is outside safe limits"
      structureInvalid := .invalidCursor "cursor structure is invalid" }
    reader fromJson value

theorem utf8ByteSize_encode (bytes : List UInt8) :
    (Base64.encode bytes).utf8ByteSize = (4 * bytes.length + 2) / 3 := by
  rw [← Base64.length_encode, Base64.encode, utf8ByteSize_ofList, String.toList_ofList]
  intro c hc
  rcases List.mem_map.mp hc with ⟨value, hvalue, rfl⟩
  exact Base64.utf8Size_symbol value (Base64.sextets_lt bytes value hvalue)

/-- A cursor is read back exactly where its JSON takes 3072 bytes at most. -/
theorem decodeWith_encodeCursor {α : Type} (errors : DecodeErrors) (reader : CursorReader)
    (fromJson : Json → Option α) (json : Json) {cursor : α} :
    decodeWith errors reader fromJson (encodeCursor json) = .ok cursor ↔
      Json.byteCount json.render ≤ 3072 ∧ fromJson json = some cursor := by
  have hsize : (encodeCursor json).utf8ByteSize = (4 * Json.byteCount json.render + 2) / 3 := by
    rw [encodeCursor, utf8ByteSize_encode, Json.byteCount_toText]
  have hempty : encodeCursor json ≠ "" := by
    intro h
    have hpos := List.length_pos_of_ne_nil (Json.utf8_toText_ne_nil json)
    rw [Json.byteCount_toText] at hpos
    rw [h, String.utf8ByteSize_empty] at hsize
    omega
  have hbytes : reader.base64 (encodeCursor json) = some (utf8 json.toText) :=
    reader.base64_encode _
  rw [decodeWith, hbytes]
  simp only [bind_ok, check_ok, exists_and_left, exists_const, orElse_ok, Option.some.injEq,
    exists_eq_left', reader.json_text, Option.bind_eq_bind, Option.bind_some, Bool.and_eq_true,
    bne_iff_ne, decide_eq_true_eq, hsize, Json.byteCount_toText, maxCursorBytes, ne_eq, hempty,
    not_false_eq_true, true_and]
  constructor
  · rintro ⟨hlimit, -, hread⟩
    exact ⟨by omega, hread⟩
  · rintro ⟨hlimit, hread⟩
    exact ⟨by omega, by omega, hread⟩

end GreenBubbles.LiveQuery
