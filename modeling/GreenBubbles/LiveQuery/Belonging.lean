import GreenBubbles.LiveQuery.Acceptance

/-! # Cursors belong to one place

No validator takes a cursor of another place: what it compares is read from the
members of the cursor, and these name the place. The place itself takes the
cursor where its JSON is short enough.
-/
namespace GreenBubbles.LiveQuery

open Library Library.Bytes

/-! The members a cursor is read from -/

section Members

variable {members : Members}

theorem ContactCursor.members_of_fromJson {cursor : ContactCursor}
    (h : ContactCursor.fromJson (.obj members) = some cursor) :
    asText (member members "kind") = some cursor.kind ∧
      asText (member members "sourceIdentity") = some cursor.sourceIdentity ∧
      asOptionalText (member members "contactKind") = some cursor.contactKind ∧
      asFlag (member members "includeDetails") = some cursor.includeDetails := by
  simp only [fromJson, Option.bind_eq_bind, Option.bind_eq_some_iff, Option.pure_def,
    Option.some.injEq] at h
  obtain ⟨fields, hfields, version, -, kind, hkind, source, hsource, contactKind, hcontact, details,
    hdetails, identifier, -, rfl⟩ := h
  obtain rfl := (objectMembers_obj hfields).1
  exact ⟨hkind, hsource, hcontact, hdetails⟩

theorem ConversationCursor.members_of_fromJson {cursor : ConversationCursor}
    (h : ConversationCursor.fromJson (.obj members) = some cursor) :
    asText (member members "kind") = some cursor.kind ∧
      asText (member members "sourceIdentity") = some cursor.sourceIdentity := by
  simp only [fromJson, Option.bind_eq_bind, Option.bind_eq_some_iff, Option.pure_def,
    Option.some.injEq] at h
  obtain ⟨fields, hfields, version, -, kind, hkind, source, hsource, timestamp, -, username, -,
    rfl⟩ := h
  obtain rfl := (objectMembers_obj hfields).1
  exact ⟨hkind, hsource⟩

theorem MessageCursor.members_of_fromJson {cursor : MessageCursor}
    (h : MessageCursor.fromJson (.obj members) = some cursor) :
    asText (member members "kind") = some cursor.kind ∧
      asText (member members "sourceIdentity") = some cursor.sourceIdentity ∧
      asText (member members "conversationDigest") = some cursor.conversationDigest := by
  simp only [fromJson, Option.bind_eq_bind, Option.bind_eq_some_iff, Option.pure_def,
    Option.some.injEq] at h
  obtain ⟨fields, hfields, version, -, kind, hkind, source, hsource, digest, hdigest, -, -, -, -, -,
    -, -, -, -, -, rfl⟩ := h
  obtain rfl := (objectMembers_obj hfields).1
  exact ⟨hkind, hsource, hdigest⟩

theorem SearchCursor.members_of_fromJson {cursor : SearchCursor}
    (h : SearchCursor.fromJson (.obj members) = some cursor) :
    asText (member members "kind") = some cursor.kind ∧
      asText (member members "sourceIdentity") = some cursor.sourceIdentity ∧
      asText (member members "queryDigest") = some cursor.queryDigest ∧
      asOptionalText (member members "conversationDigest") = some cursor.conversationDigest := by
  simp only [fromJson, Option.bind_eq_bind, Option.bind_eq_some_iff, Option.pure_def,
    Option.some.injEq] at h
  obtain ⟨fields, hfields, version, -, kind, hkind, source, hsource, query, hquery, conversation,
    hconversation, -, -, -, -, -, -, -, -, -, -, rfl⟩ := h
  obtain rfl := (objectMembers_obj hfields).1
  exact ⟨hkind, hsource, hquery, hconversation⟩

theorem FallbackSearchCursor.members_of_fromJson {cursor : FallbackSearchCursor}
    (h : FallbackSearchCursor.fromJson (.obj members) = some cursor) :
    asText (member members "kind") = some cursor.kind ∧
      asText (member members "sourceIdentity") = some cursor.sourceIdentity ∧
      asText (member members "queryDigest") = some cursor.queryDigest ∧
      asOptionalText (member members "conversationDigest") = some cursor.conversationDigest := by
  simp only [fromJson, Option.bind_eq_bind, Option.bind_eq_some_iff, Option.pure_def,
    Option.some.injEq] at h
  obtain ⟨fields, hfields, version, -, kind, hkind, source, hsource, query, hquery, conversation,
    hconversation, -, -, -, -, rfl⟩ := h
  obtain rfl := (objectMembers_obj hfields).1
  exact ⟨hkind, hsource, hquery, hconversation⟩

theorem RankCursor.members_of_fromJson {cursor : RankCursor}
    (h : RankCursor.fromJson (.obj members) = some cursor) :
    asText (member members "kind") = some cursor.kind ∧
      asSize (member members "minimumSelfMessages") = some cursor.minimumSelfMessages := by
  simp only [fromJson, Option.bind_eq_bind, Option.bind_eq_some_iff, Option.pure_def,
    Option.some.injEq] at h
  obtain ⟨fields, hfields, version, -, kind, hkind, offset, -, minimum, hminimum, rfl⟩ := h
  obtain rfl := looseMembers_obj hfields
  exact ⟨hkind, hminimum⟩

/-- The cursor of the connector has no kind. -/
theorem ConnectorConversationCursor.members_of_fromJson {cursor : ConnectorConversationCursor}
    (h : ConnectorConversationCursor.fromJson (.obj members) = some cursor) :
    member members "kind" = none ∧
      asText (member members "sourceIdentity") = some cursor.sourceIdentity ∧
      asText (member members "policySha256") = some cursor.policySha256 ∧
      asText (member members "destination") = some (destinationName cursor.destination) := by
  simp only [fromJson, Option.bind_eq_bind, Option.bind_eq_some_iff, Option.pure_def,
    Option.some.injEq] at h
  obtain ⟨fields, hfields, version, -, source, hsource, policy, hpolicy, destination,
    ⟨name, hname, hdestination⟩, after, -, rfl⟩ := h
  obtain ⟨rfl, hknown⟩ := objectMembers_obj hfields
  obtain rfl := destinationName_of_named hdestination
  refine ⟨?_, hsource, hpolicy, hname⟩
  rw [member, Option.map_eq_none_iff, List.find?_eq_none]
  intro field hfield hkind
  have hmember := hknown field hfield
  rw [beq_iff_eq.mp hkind] at hmember
  exact absurd hmember (by decide)

/-! What is accepted names its place -/

variable {reader : CursorReader} {position : Position}

theorem decodeCursor_encodeCursor {α : Type} {fromJson : Json → Option α} {json : Json}
    {cursor : α} : decodeCursor reader fromJson (encodeCursor json) = .ok cursor ↔
      Json.byteCount json.render ≤ 3072 ∧ fromJson json = some cursor :=
  decodeWith_encodeCursor _ reader fromJson json

theorem markOf_operation {source : LiveQuerySource} {operation : Operation}
    (h : operation.accept reader source (encodeCursor (.obj members)) = .ok position) :
    markOf members = some (Place.mark (.live source operation)) := by
  cases operation with
  | listContacts kind includeDetails =>
    simp only [Operation.accept, bind_ok, decodeCursor_encodeCursor, validateContactCursor_ok] at h
    obtain ⟨cursor, ⟨-, hcursor⟩, -, ⟨-, hkind, hsource, hcontact, hdetails, -⟩, -⟩ := h
    obtain ⟨hmkind, hmsource, hmcontact, hmdetails⟩ := ContactCursor.members_of_fromJson hcursor
    rw [hkind] at hmkind
    rw [hsource] at hmsource
    rw [hcontact] at hmcontact
    rw [hdetails] at hmdetails
    cases kind <;> simp [markOf, Place.mark, hmkind, hmsource, hmcontact, hmdetails]
  | listConversations =>
    simp only [Operation.accept, bind_ok, decodeCursor_encodeCursor,
      validateConversationCursor_ok] at h
    obtain ⟨cursor, ⟨-, hcursor⟩, -, ⟨-, hkind, hsource, -⟩, -⟩ := h
    obtain ⟨hmkind, hmsource⟩ := ConversationCursor.members_of_fromJson hcursor
    rw [hkind] at hmkind
    rw [hsource] at hmsource
    simp [markOf, Place.mark, hmkind, hmsource]
  | listMessages conversation =>
    simp only [Operation.accept, bind_ok, decodeCursor_encodeCursor, validateMessageCursor_ok] at h
    obtain ⟨cursor, ⟨-, hcursor⟩, -, ⟨-, hkind, hsource, hdigest, -⟩, -⟩ := h
    obtain ⟨hmkind, hmsource, hmdigest⟩ := MessageCursor.members_of_fromJson hcursor
    rw [hkind] at hmkind
    rw [hsource] at hmsource
    rw [hdigest] at hmdigest
    simp [markOf, Place.mark, hmkind, hmsource, hmdigest]
  | getMessage conversation =>
    simp only [Operation.accept, bind_ok, decodeCursor_encodeCursor, validateMessageIdentity_ok] at h
    obtain ⟨cursor, ⟨-, hcursor⟩, -, ⟨-, hkind, hsource, hdigest, -⟩, -⟩ := h
    obtain ⟨hmkind, hmsource, hmdigest⟩ := MessageCursor.members_of_fromJson hcursor
    rw [hkind] at hmkind
    rw [hsource] at hmsource
    rw [hdigest] at hmdigest
    simp [markOf, Place.mark, hmkind, hmsource, hmdigest]
  | searchMessages query conversation =>
    simp only [Operation.accept, bind_ok, decodeCursor_encodeCursor] at h
    obtain ⟨kind, -, h⟩ := h
    split_ifs at h
    · simp only [bind_ok, decodeCursor_encodeCursor, validateFallbackSearchCursor_ok] at h
      obtain ⟨cursor, ⟨-, hcursor⟩, -, ⟨-, hkind, hsource, hquery, hconversation, -⟩, -⟩ := h
      obtain ⟨hmkind, hmsource, hmquery, hmconversation⟩ :=
        FallbackSearchCursor.members_of_fromJson hcursor
      rw [hkind] at hmkind
      rw [hsource] at hmsource
      rw [hquery] at hmquery
      rw [hconversation] at hmconversation
      simp [markOf, Place.mark, hmkind, hmsource, hmquery, hmconversation, fallbackSearchCursorKind]
    · simp only [bind_ok, decodeCursor_encodeCursor, validateSearchCursor_ok] at h
      obtain ⟨cursor, ⟨-, hcursor⟩, -, ⟨-, hkind, hsource, hquery, hconversation, -⟩, -⟩ := h
      obtain ⟨hmkind, hmsource, hmquery, hmconversation⟩ :=
        SearchCursor.members_of_fromJson hcursor
      rw [hkind] at hmkind
      rw [hsource] at hmsource
      rw [hquery] at hmquery
      rw [hconversation] at hmconversation
      simp [markOf, Place.mark, hmkind, hmsource, hmquery, hmconversation]
  | getSearchResult conversation =>
    simp only [Operation.accept, bind_ok, decodeCursor_encodeCursor, validateSearchResult_ok] at h
    obtain ⟨cursor, ⟨-, hcursor⟩, -, ⟨-, hkind, hsource, hconversation, -⟩, -⟩ := h
    obtain ⟨hmkind, hmsource, -, hmconversation⟩ := SearchCursor.members_of_fromJson hcursor
    rw [hkind] at hmkind
    rw [hsource] at hmsource
    rw [hconversation] at hmconversation
    simp [markOf, Place.mark, hmkind, hmsource, asText_of_optional hmconversation]

theorem markOf_accept {place : Place}
    (h : place.accept reader (encodeCursor (.obj members)) = .ok position) :
    markOf members = some place.mark := by
  cases place with
  | live source operation => exact markOf_operation h
  | rank minimumSelfMessages =>
    simp only [Place.accept, bind_ok, rankCursorOffset_ok, decodeCursor_encodeCursor] at h
    obtain ⟨offset, ⟨cursor, ⟨-, hcursor⟩, -, hkind, hminimum, -⟩, -⟩ := h
    obtain ⟨hmkind, hmminimum⟩ := RankCursor.members_of_fromJson hcursor
    rw [hkind] at hmkind
    rw [hminimum] at hmminimum
    simp [markOf, Place.mark, hmkind, hmminimum]
  | connector sourceIdentity policySha256 destination =>
    simp only [Place.accept, bind_ok, decodeConnectorConversationCursor_ok,
      decodeWith_encodeCursor] at h
    obtain ⟨after, ⟨cursor, ⟨-, hcursor⟩, -, hsource, hpolicy, hdestination, -⟩, -⟩ := h
    obtain ⟨hmkind, hmsource, hmpolicy, hmdestination⟩ :=
      ConnectorConversationCursor.members_of_fromJson hcursor
    rw [hsource] at hmsource
    rw [hpolicy] at hmpolicy
    rw [hdestination] at hmdestination
    simp [markOf, Place.mark, hmkind, hmsource, hmpolicy, hmdestination]

end Members

/-! How long the cursors are -/

theorem escapedSize_encode (bytes : List UInt8) :
    Json.escapedSize (Bytes.encode bytes) = 2 * bytes.length := by
  have hdigit : ∀ value < 16, Json.byteCount (Json.escape (hexDigit value)) = 1 := by decide
  rw [Json.escapedSize, Bytes.encode, String.toList_ofList]
  induction bytes with
  | nil => rfl
  | cons byte bytes ih =>
    have hbyte : byte.toNat < 256 := byte.toNat_lt
    simp only [List.flatMap_cons, List.flatMap_append, List.flatMap_nil, List.append_nil,
      Json.byteCount_append, hdigit (byte.toNat / 16) (by omega), hdigit (byte.toNat % 16) (by omega),
      ih, List.length_cons]
    omega

@[simp] theorem escapedSize_digestText (domain value : String) :
    Json.escapedSize (digestText domain value) = 64 := by
  rw [digestText, Sha256.hexDigest, escapedSize_encode, Sha256.length_hash]

@[simp] theorem escapedSize_identity (source : LiveQuerySource) :
    Json.escapedSize source.identity = 39 := by
  obtain ⟨digest, hlength, hidentity⟩ := source.identity_form
  have happend : ∀ first second : String, Json.escapedSize (first ++ second) =
      Json.escapedSize first + Json.escapedSize second := by
    intro first second
    simp only [Json.escapedSize, String.toList_append, List.flatMap_append, Json.byteCount_append]
  have hstarts : Json.escapedSize "sha256:" = 7 := by decide
  rw [hidentity, happend, escapedSize_encode, hlength, hstarts]

/-- The bytes of an optional string, or of the word null. -/
def optionalSize (value : Option String) : ℕ := (value.map (Json.escapedSize · + 2)).getD 4

def flagSize (value : Bool) : ℕ := if value then 4 else 5

def decimalSize (value : Int64) : ℕ := (Json.renderInt value.toInt).length

@[simp] theorem byteCount_text (value : String) :
    Json.byteCount (Json.render (.str value)) = Json.escapedSize value + 2 :=
  Json.byteCount_renderString_eq value

@[simp] theorem byteCount_optionalText (value : Option String) :
    Json.byteCount (Json.render (optionalText value)) = optionalSize value := by
  cases value with
  | none => decide
  | some value => exact byteCount_text value

@[simp] theorem byteCount_flag (value : Bool) :
    Json.byteCount (Json.render (.bool value)) = flagSize value := by
  cases value <;> decide

@[simp] theorem byteCount_version :
    Json.byteCount (Json.render (unsignedJson cursorFormatVersion)) = 1 := by decide

@[simp] theorem byteCount_integer (value : Int64) :
    Json.byteCount (Json.render (integerJson value)) = decimalSize value :=
  Json.byteCount_renderInt value.toInt

theorem length_digits_le {value count : ℕ} (hcount : 0 < count) (h : value < 10 ^ count) :
    (Nat.toDigits 10 value).length ≤ count :=
  (Nat.length_toDigits_le_iff (by decide) hcount).mpr h

theorem decimalSize_le (value : Int64) : decimalSize value ≤ 20 := by
  have hlow := value.le_toInt
  have hhigh := value.toInt_lt
  rw [decimalSize]
  cases hvalue : value.toInt with
  | ofNat digits =>
    rw [hvalue, Int.ofNat_eq_natCast] at hhigh
    have hsmall : digits < 10 ^ 20 := by omega
    exact length_digits_le (by decide) hsmall
  | negSucc digits =>
    rw [hvalue] at hlow
    have hsmall : digits + 1 < 10 ^ 19 := by omega
    have hlength := length_digits_le (by decide) hsmall
    rw [Json.renderInt, List.length_cons]
    omega

theorem byteCount_unsigned_le (value : UInt32) :
    Json.byteCount (Json.render (unsignedJson value)) ≤ 10 := by
  have hvalue : value.toNat < 10 ^ 10 := Nat.lt_trans value.toNat_lt (by decide)
  exact (Json.byteCount_renderInt value.toNat).trans_le (length_digits_le (by decide) hvalue)

/-- The condition under which a cursor is accepted where it was minted: the row is named,
and its identifier leaves room for the rest of the cursor. -/
def Minted.Fits : Minted → Prop
  | .contact kind includeDetails identifier =>
    identifier ≠ "" ∧
      144 + optionalSize (kind.map ContactKind.asStr) + flagSize includeDetails +
        Json.escapedSize identifier ≤ 3072
  | .conversation sortTimestamp username =>
    username ≠ "" ∧ 131 + decimalSize sortTimestamp + Json.escapedSize username ≤ 3072
  | .message _ _ => True
  | .messageIdentity _ _ => True
  | .search _ _ _ => True
  | .searchIdentity _ _ _ => True
  | .fallbackSearch _ filtered conversationId innerMessageCursor =>
    conversationId ≠ "" ∧ innerMessageCursor ≠ some "" ∧
      251 + (if filtered then 66 else 4) + Json.escapedSize conversationId +
        optionalSize innerMessageCursor ≤ 3072
  | .connector sourceIdentity policySha256 destination afterConversationId =>
    afterConversationId ≠ "" ∧
      93 + Json.escapedSize sourceIdentity + Json.escapedSize policySha256 +
        Json.escapedSize (destinationName destination) + Json.escapedSize afterConversationId ≤ 3072

/-- The names of the members. -/
theorem escapedSize_names :
    Json.escapedSize "version" = 7 ∧ Json.escapedSize "kind" = 4 ∧
    Json.escapedSize "sourceIdentity" = 14 ∧ Json.escapedSize "sortTimestamp" = 13 ∧
    Json.escapedSize "username" = 8 ∧ Json.escapedSize "contactKind" = 11 ∧
    Json.escapedSize "includeDetails" = 14 ∧ Json.escapedSize "identifier" = 10 ∧
    Json.escapedSize "conversationDigest" = 18 ∧ Json.escapedSize "sortSequence" = 12 ∧
    Json.escapedSize "createTime" = 10 ∧ Json.escapedSize "serverId" = 8 ∧
    Json.escapedSize "shardId" = 7 ∧ Json.escapedSize "rowId" = 5 ∧
    Json.escapedSize "queryDigest" = 11 ∧ Json.escapedSize "messageLocalId" = 14 ∧
    Json.escapedSize "tableOrdinal" = 12 ∧ Json.escapedSize "conversationId" = 14 ∧
    Json.escapedSize "innerMessageCursor" = 18 ∧ Json.escapedSize "policySha256" = 12 ∧
    Json.escapedSize "destination" = 11 ∧
    Json.escapedSize "afterConversationId" = 19 := by decide

theorem escapedSize_kinds :
    Json.escapedSize "contacts.list" = 13 ∧ Json.escapedSize "conversations.list" = 18 ∧
    Json.escapedSize "messages.list" = 13 ∧ Json.escapedSize "message.identity" = 16 ∧
    Json.escapedSize "messages.search" = 15 ∧ Json.escapedSize "message.search.identity" = 23 ∧
    Json.escapedSize fallbackSearchCursorKind = 24 := by decide

theorem byteCount_contact (source : LiveQuerySource) (kind : Option ContactKind)
    (includeDetails : Bool) (identifier : String) :
    Json.byteCount (Minted.json source (.contact kind includeDetails identifier)).render =
      144 + optionalSize (kind.map ContactKind.asStr) + flagSize includeDetails +
        Json.escapedSize identifier := by
  rw [Minted.json, contactCursor, ContactCursor.toJson, Json.byteCount_obj]
  simp only [Json.memberSize, List.map_cons, List.map_nil, List.sum_cons, List.sum_nil,
    byteCount_text, byteCount_optionalText, byteCount_flag, byteCount_version, escapedSize_identity,
    escapedSize_names, escapedSize_kinds]
  omega

theorem byteCount_conversation (source : LiveQuerySource) (sortTimestamp : Int64)
    (username : String) :
    Json.byteCount (Minted.json source (.conversation sortTimestamp username)).render =
      131 + decimalSize sortTimestamp + Json.escapedSize username := by
  rw [Minted.json, conversationCursor, ConversationCursor.toJson, Json.byteCount_obj]
  simp only [Json.memberSize, List.map_cons, List.map_nil, List.sum_cons, List.sum_nil,
    byteCount_text, byteCount_integer, byteCount_version, escapedSize_identity,
    escapedSize_names, escapedSize_kinds]
  omega

theorem byteCount_fallbackSearch (source : LiveQuerySource) (query : String) (filtered : Bool)
    (conversationId : String) (inner : Option String) :
    Json.byteCount (Minted.json source (.fallbackSearch query filtered conversationId inner)).render =
      251 + (if filtered then 66 else 4) + Json.escapedSize conversationId + optionalSize inner := by
  have hfilter : optionalSize
      ((conversationFilter filtered conversationId).map searchConversationDigest) =
        if filtered then 66 else 4 := by
    cases filtered with
    | false => rfl
    | true => simp [conversationFilter, optionalSize, searchConversationDigest]
  rw [Minted.json, fallbackSearchCursor, FallbackSearchCursor.toJson, Json.byteCount_obj]
  simp only [Json.memberSize, List.map_cons, List.map_nil, List.sum_cons, List.sum_nil,
    byteCount_text, byteCount_optionalText, byteCount_version, escapedSize_identity,
    escapedSize_names, escapedSize_kinds, searchQueryDigest, escapedSize_digestText, hfilter]
  omega

theorem byteCount_connector (source : LiveQuerySource) (sourceIdentity policySha256 : String)
    (destination : ConnectorDestination) (after : String) :
    Json.byteCount
        (Minted.json source (.connector sourceIdentity policySha256 destination after)).render =
      93 + Json.escapedSize sourceIdentity + Json.escapedSize policySha256 +
        Json.escapedSize (destinationName destination) + Json.escapedSize after := by
  have hversion : Json.byteCount (Json.render (unsignedJson 1)) = 1 := by decide
  rw [Minted.json, connectorConversationCursor, ConnectorConversationCursor.toJson,
    Json.byteCount_obj]
  simp only [Json.memberSize, List.map_cons, List.map_nil, List.sum_cons, List.sum_nil,
    byteCount_text, hversion, escapedSize_names]
  omega

/-- Five numbers and two digests always leave room. -/
theorem byteCount_messageCursor (source : LiveQuerySource) (conversation kind : String)
    (key : MessageKey) (hkind : Json.escapedSize kind ≤ 24) :
    Json.byteCount
      (messageCursor source (conversationDigest conversation) kind key).toJson.render ≤ 3072 := by
  have hsequence := decimalSize_le key.sortSequence
  have htime := decimalSize_le key.createTime
  have hserver := decimalSize_le key.serverId
  have hshard := byteCount_unsigned_le key.shardId
  have hrow := decimalSize_le key.rowId
  rw [messageCursor, MessageCursor.toJson, Json.byteCount_obj]
  simp only [Json.memberSize, List.map_cons, List.map_nil, List.sum_cons, List.sum_nil,
    byteCount_text, byteCount_integer, byteCount_version, escapedSize_identity,
    escapedSize_names, conversationDigest, escapedSize_digestText]
  omega

theorem byteCount_searchCursor (source : LiveQuerySource) (query : String)
    (conversation : Option String) (kind : String) (key : SearchKey)
    (hkind : Json.escapedSize kind ≤ 24) :
    Json.byteCount
      (searchCursor source (searchQueryDigest query) (conversation.map searchConversationDigest)
        kind key).toJson.render ≤ 3072 := by
  have hfilter : optionalSize (conversation.map searchConversationDigest) ≤ 66 := by
    cases conversation <;> simp [optionalSize, searchConversationDigest]
  have htime := decimalSize_le key.createTime
  have hsequence := decimalSize_le key.sortSequence
  have hlocal := decimalSize_le key.messageLocalId
  have hordinal := byteCount_unsigned_le key.tableOrdinal
  have hrow := decimalSize_le key.rowId
  rw [searchCursor, SearchCursor.toJson, Json.byteCount_obj]
  simp only [Json.memberSize, List.map_cons, List.map_nil, List.sum_cons, List.sum_nil,
    byteCount_text, byteCount_optionalText, byteCount_integer, byteCount_version,
    escapedSize_identity, escapedSize_names, searchQueryDigest, escapedSize_digestText]
  omega

/-! Where a cursor is accepted -/

/-- A cursor is accepted where it was minted, goes on at its row, and is accepted by no
operation, source or filter that its digests tell from its own. -/
def Belongs (reader : CursorReader) (source : LiveQuerySource) (minted : Minted) : Prop :=
  (minted.place source).accept reader (minted.encode source) = .ok minted.position ∧
    ∀ (place : Place) (position : Position), place.accept reader (minted.encode source) = .ok position →
      place.mark = (minted.place source).mark

theorem markOf_minted (source : LiveQuerySource) (minted : Minted) :
    ∃ members, minted.json source = .obj members ∧
      markOf members = some (minted.place source).mark := by
  cases minted with
  | contact kind includeDetails identifier =>
    refine ⟨_, rfl, ?_⟩
    cases kind <;> simp [markOf, Place.mark, Minted.place, contactCursor]
  | conversation sortTimestamp username =>
    exact ⟨_, rfl, by simp [markOf, Place.mark, Minted.place, conversationCursor]⟩
  | message conversation key =>
    exact ⟨_, rfl, by simp [markOf, Place.mark, Minted.place, messageCursor]⟩
  | messageIdentity conversation key =>
    exact ⟨_, rfl, by simp [markOf, Place.mark, Minted.place, messageCursor]⟩
  | search query conversation key =>
    exact ⟨_, rfl, by simp [markOf, Place.mark, Minted.place, searchCursor]⟩
  | searchIdentity query conversation key =>
    exact ⟨_, rfl, by
      simp [markOf, Place.mark, Minted.place, searchCursor, optionalText]⟩
  | fallbackSearch query filtered conversationId inner =>
    exact ⟨_, rfl, by
      simp [markOf, Place.mark, Minted.place, fallbackSearchCursor, fallbackSearchCursorKind]⟩
  | connector sourceIdentity policySha256 destination after =>
    exact ⟨_, rfl, by
      simp [markOf, Place.mark, Minted.place, connectorConversationCursor]⟩

/-- Nothing but the place of a cursor takes it, however long it is. -/
theorem mark_of_accept {reader : CursorReader} {source : LiveQuerySource} {minted : Minted}
    {place : Place} {position : Position}
    (h : place.accept reader (minted.encode source) = .ok position) :
    place.mark = (minted.place source).mark := by
  obtain ⟨members, hjson, hmark⟩ := markOf_minted source minted
  rw [Minted.encode, hjson] at h
  rw [markOf_accept h] at hmark
  exact Option.some.inj hmark

section Accepted

variable (reader : CursorReader) (source : LiveQuerySource)

theorem accept_contact (kind : Option ContactKind) (includeDetails : Bool) (identifier : String) :
    (Place.live source (.listContacts kind includeDetails)).accept reader
        (Minted.encode source (.contact kind includeDetails identifier)) =
        .ok (.contact identifier) ↔
      Minted.Fits (.contact kind includeDetails identifier) := by
  have hread : ContactCursor.fromJson (Minted.json source (.contact kind includeDetails identifier)) =
      some (contactCursor source kind includeDetails identifier) := ContactCursor.fromJson_toJson _
  have hbytes := Json.utf8ByteSize_le_escapedSize identifier
  simp only [Place.accept, Operation.accept, Minted.encode, bind_ok, decodeCursor_encodeCursor,
    byteCount_contact, hread, validateContactCursor_ok, Minted.Fits]
  constructor
  · rintro ⟨cursor, ⟨hsize, hcursor⟩, result, ⟨-, -, -, -, -, hname, -, -⟩, -⟩
    obtain rfl := Option.some.inj hcursor
    exact ⟨hname, hsize⟩
  · rintro ⟨hname, hsize⟩
    have hlimit : identifier.utf8ByteSize ≤ maxConversationIdBytes := by
      rw [maxConversationIdBytes]
      omega
    exact ⟨_, ⟨hsize, rfl⟩, _, ⟨rfl, rfl, rfl, rfl, rfl, hname, hlimit, rfl⟩, rfl⟩

theorem accept_conversation (sortTimestamp : Int64) (username : String) :
    (Place.live source .listConversations).accept reader
        (Minted.encode source (.conversation sortTimestamp username)) =
        .ok (.conversation sortTimestamp username) ↔
      Minted.Fits (.conversation sortTimestamp username) := by
  have hread : ConversationCursor.fromJson
      (Minted.json source (.conversation sortTimestamp username)) =
      some (conversationCursor source sortTimestamp username) := ConversationCursor.fromJson_toJson _
  have hbytes := Json.utf8ByteSize_le_escapedSize username
  simp only [Place.accept, Operation.accept, Minted.encode, bind_ok, decodeCursor_encodeCursor,
    byteCount_conversation, hread, validateConversationCursor_ok, Minted.Fits]
  constructor
  · rintro ⟨cursor, ⟨hsize, hcursor⟩, result, ⟨-, -, -, hname, -, -⟩, -⟩
    obtain rfl := Option.some.inj hcursor
    exact ⟨hname, hsize⟩
  · rintro ⟨hname, hsize⟩
    have hlimit : username.utf8ByteSize ≤ maxConversationIdBytes := by
      rw [maxConversationIdBytes]
      omega
    exact ⟨_, ⟨hsize, rfl⟩, _, ⟨rfl, rfl, rfl, hname, hlimit, rfl⟩, rfl⟩

theorem accept_message (conversation : String) (key : MessageKey) :
    (Place.live source (.listMessages conversation)).accept reader
      (Minted.encode source (.message conversation key)) = .ok (.message key) := by
  have hsize := byteCount_messageCursor source conversation "messages.list" key (by decide)
  simp only [Place.accept, Operation.accept, Minted.encode, Minted.json, bind_ok,
    decodeCursor_encodeCursor, MessageCursor.fromJson_toJson, validateMessageCursor_ok]
  exact ⟨_, ⟨hsize, rfl⟩, _, ⟨rfl, rfl, rfl, rfl, rfl⟩, rfl⟩

theorem accept_messageIdentity (conversation : String) (key : MessageKey) :
    (Place.live source (.getMessage conversation)).accept reader
      (Minted.encode source (.messageIdentity conversation key)) = .ok (.message key) := by
  have hsize := byteCount_messageCursor source conversation "message.identity" key (by decide)
  simp only [Place.accept, Operation.accept, Minted.encode, Minted.json, bind_ok,
    decodeCursor_encodeCursor, MessageCursor.fromJson_toJson, validateMessageIdentity_ok]
  exact ⟨_, ⟨hsize, rfl⟩, _, ⟨rfl, rfl, rfl, rfl, rfl⟩, rfl⟩

theorem accept_search (query : String) (conversation : Option String) (key : SearchKey) :
    (Place.live source (.searchMessages query conversation)).accept reader
      (Minted.encode source (.search query conversation key)) = .ok (.search key) := by
  have hsize := byteCount_searchCursor source query conversation "messages.search" key (by decide)
  have hkind : cursorKind (Minted.json source (.search query conversation key)) =
      some "messages.search" := by
    simp [cursorKind, Minted.json, searchCursor, SearchCursor.toJson, looseMembers]
  have hother : "messages.search" ≠ fallbackSearchCursorKind := by decide
  simp only [Place.accept, Operation.accept, Minted.encode, bind_ok, decodeCursor_encodeCursor,
    hkind]
  refine ⟨_, ⟨hsize, rfl⟩, ?_⟩
  simp only [if_neg hother, bind_ok, decodeCursor_encodeCursor, Minted.json,
    SearchCursor.fromJson_toJson, validateSearchCursor_ok]
  exact ⟨_, ⟨hsize, rfl⟩, _, ⟨rfl, rfl, rfl, rfl, rfl, rfl⟩, rfl⟩

theorem accept_searchIdentity (query conversation : String) (key : SearchKey) :
    (Place.live source (.getSearchResult conversation)).accept reader
      (Minted.encode source (.searchIdentity query conversation key)) = .ok (.search key) := by
  have hsize := byteCount_searchCursor source query (some conversation) "message.search.identity" key
    (by decide)
  simp only [Place.accept, Operation.accept, Minted.encode, Minted.json, bind_ok,
    decodeCursor_encodeCursor, SearchCursor.fromJson_toJson, validateSearchResult_ok]
  exact ⟨_, ⟨hsize, rfl⟩, _, ⟨rfl, rfl, rfl, rfl, rfl⟩, rfl⟩

theorem accept_fallbackSearch (query : String) (filtered : Bool) (conversationId : String)
    (inner : Option String) :
    (Place.live source (.searchMessages query (conversationFilter filtered conversationId))).accept
        reader (Minted.encode source (.fallbackSearch query filtered conversationId inner)) =
        .ok (.fallbackSearch conversationId inner) ↔
      Minted.Fits (.fallbackSearch query filtered conversationId inner) := by
  have hread : FallbackSearchCursor.fromJson
      (Minted.json source (.fallbackSearch query filtered conversationId inner)) =
      some (fallbackSearchCursor source (searchQueryDigest query)
        ((conversationFilter filtered conversationId).map searchConversationDigest) conversationId
        inner) := FallbackSearchCursor.fromJson_toJson _
  have hkind : cursorKind
      (Minted.json source (.fallbackSearch query filtered conversationId inner)) =
      some fallbackSearchCursorKind := by
    simp [cursorKind, Minted.json, fallbackSearchCursor, FallbackSearchCursor.toJson, looseMembers]
  have hbytes := Json.utf8ByteSize_le_escapedSize conversationId
  simp only [Place.accept, Operation.accept, Minted.encode, bind_ok, decodeCursor_encodeCursor,
    byteCount_fallbackSearch, hkind, Minted.Fits]
  constructor
  · rintro ⟨kind, ⟨hsize, hk⟩, h⟩
    obtain rfl := Option.some.inj hk
    simp only [if_pos, bind_ok, decodeCursor_encodeCursor, hread,
      validateFallbackSearchCursor_ok] at h
    obtain ⟨cursor, ⟨-, hcursor⟩, -, ⟨-, -, -, -, -, hname, -, -, hinner, -⟩, -⟩ := h
    obtain rfl := Option.some.inj hcursor
    exact ⟨hname, fun hempty => (hinner "" hempty).1 rfl, hsize⟩
  · rintro ⟨hname, hinner, hsize⟩
    have hlimit : conversationId.utf8ByteSize ≤ maxConversationIdBytes := by
      rw [maxConversationIdBytes]
      omega
    have hfilter : ∀ expected ∈ conversationFilter filtered conversationId,
        conversationId = expected := by
      cases filtered with
      | false => exact fun _ h => absurd h (by simp [conversationFilter])
      | true => exact fun _ h => Option.some.inj h
    have hinnerLimit : ∀ value ∈ inner, value ≠ "" ∧ value.utf8ByteSize ≤ maxCursorBytes := by
      rintro value rfl
      have hvalue := Json.utf8ByteSize_le_escapedSize value
      refine ⟨fun hempty => hinner (by rw [hempty]), ?_⟩
      rw [optionalSize, Option.map_some, Option.getD_some] at hsize
      rw [maxCursorBytes]
      omega
    refine ⟨_, ⟨hsize, rfl⟩, ?_⟩
    simp only [if_pos, bind_ok, decodeCursor_encodeCursor, byteCount_fallbackSearch, hread,
      validateFallbackSearchCursor_ok]
    exact ⟨_, ⟨hsize, rfl⟩, _,
      ⟨rfl, rfl, rfl, rfl, rfl, hname, hlimit, hfilter, hinnerLimit, rfl⟩, rfl⟩

theorem accept_connector (sourceIdentity policySha256 : String)
    (destination : ConnectorDestination) (after : String) :
    (Place.connector sourceIdentity policySha256 destination).accept reader
        (Minted.encode source (.connector sourceIdentity policySha256 destination after)) =
        .ok (.connector after) ↔
      Minted.Fits (.connector sourceIdentity policySha256 destination after) := by
  have hread : ConnectorConversationCursor.fromJson
      (Minted.json source (.connector sourceIdentity policySha256 destination after)) =
      some (connectorConversationCursor sourceIdentity policySha256 destination after) :=
    ConnectorConversationCursor.fromJson_toJson _
  simp only [Place.accept, Minted.encode, bind_ok, decodeConnectorConversationCursor_ok,
    decodeWith_encodeCursor, byteCount_connector, hread, Minted.Fits]
  constructor
  · rintro ⟨result, ⟨cursor, ⟨hsize, hcursor⟩, -, -, -, -, hname, -⟩, -⟩
    obtain rfl := Option.some.inj hcursor
    exact ⟨hname, hsize⟩
  · rintro ⟨hname, hsize⟩
    exact ⟨_, ⟨_, ⟨hsize, rfl⟩, rfl, rfl, rfl, rfl, hname, rfl⟩, rfl⟩

end Accepted

theorem accept_own_iff (reader : CursorReader) (source : LiveQuerySource) (minted : Minted) :
    (minted.place source).accept reader (minted.encode source) = .ok minted.position ↔
      minted.Fits := by
  cases minted with
  | contact kind includeDetails identifier =>
    exact accept_contact reader source kind includeDetails identifier
  | conversation sortTimestamp username =>
    exact accept_conversation reader source sortTimestamp username
  | message conversation key =>
    exact iff_of_true (accept_message reader source conversation key) trivial
  | messageIdentity conversation key =>
    exact iff_of_true (accept_messageIdentity reader source conversation key) trivial
  | search query conversation key =>
    exact iff_of_true (accept_search reader source query conversation key) trivial
  | searchIdentity query conversation key =>
    exact iff_of_true (accept_searchIdentity reader source query conversation key) trivial
  | fallbackSearch query filtered conversationId inner =>
    exact accept_fallbackSearch reader source query filtered conversationId inner
  | connector sourceIdentity policySha256 destination after =>
    exact accept_connector reader source sourceIdentity policySha256 destination after

/-- Every cursor is accepted by its own place alone, and by that one exactly where its row has
a name that leaves room for the rest of the cursor. -/
theorem cursors_belong_iff (reader : CursorReader) (source : LiveQuerySource) (minted : Minted) :
    Belongs reader source minted ↔ minted.Fits := by
  rw [← accept_own_iff reader source minted]
  constructor
  · rintro ⟨haccept, -⟩
    exact haccept
  · intro haccept
    exact ⟨haccept, fun _ _ hplace => mark_of_accept hplace⟩

/-- A reader that reads what the codec writes and nothing else. -/
noncomputable def exactReader : CursorReader where
  base64 := Function.partialInv Base64.encode
  base64_encode := Function.partialInv_left Base64.encode_injective
  json := Function.partialInv fun value => utf8 value.toText
  json_text := Function.partialInv_left fun _ _ h => Json.toText_inj (utf8_injective h)

def emptySource : LiveQuerySource where
  identity := "sha256:" ++ Bytes.encode (List.replicate 16 0)
  identity_form := ⟨List.replicate 16 0, List.length_replicate, rfl⟩

/-- An identifier of letters only. -/
def letters (count : ℕ) : String := String.ofList (List.replicate count 'a')

theorem eq_of_mem_letters {count : ℕ} {c : Char} (h : c ∈ (letters count).toList) : c = 'a' := by
  rw [letters, String.toList_ofList] at h
  exact List.eq_of_mem_replicate h

theorem escapedSize_letters (count : ℕ) : Json.escapedSize (letters count) = count := by
  have hplain : (letters count).toList.all Json.plain = true := by
    rw [List.all_eq_true]
    intro c hc
    rw [eq_of_mem_letters hc]
    decide
  rw [Json.escapedSize_plain hplain, letters, utf8ByteSize_ofList, List.length_replicate]
  intro c hc
  rw [List.eq_of_mem_replicate hc]
  decide

/-- The list of contacts returns identifiers of 4096 bytes, but its own cursor after one of
3000 bytes is outside the limit of the decoder. -/
theorem long_contact_cursor_rejected :
    letters 3000 ≠ "" ∧ (letters 3000).utf8ByteSize ≤ maxConversationIdBytes ∧
      '\x00' ∉ (letters 3000).toList ∧
      ¬ Belongs exactReader emptySource (.contact none false (letters 3000)) := by
  have hsize := escapedSize_letters 3000
  have hbytes := Json.utf8ByteSize_le_escapedSize (letters 3000)
  refine ⟨?_, ?_, ?_, ?_⟩
  · intro hempty
    have hzero : Json.escapedSize "" = 0 := by decide
    rw [hempty, hzero] at hsize
    omega
  · rw [maxConversationIdBytes]
    omega
  · intro hnul
    exact absurd (eq_of_mem_letters hnul) (by decide)
  · rintro ⟨haccept, -⟩
    have hfits := ((accept_own_iff _ _ _).mp haccept).2
    omega

end GreenBubbles.LiveQuery
