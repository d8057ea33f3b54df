import GreenBubbles.Direct.Across

/-! # Delivery of what the pages name

The identity of a message is checked against one conversation after the other.
Only its own takes it, so that a message which a page names is delivered; and the
pages name everything, as long as the cursors behind them can be read back.
-/
namespace GreenBubbles.Direct

open Library Library.Bytes Library.Outcomes Library.Paging
open Connector (ConnectorDestination)
open LiveQuery (CursorReader Minted)

/-! Identities -/

/-- What the message databases hold at the place that an identity names. -/
structure MessageRows where
  messageAt : (conversationId : String) → LiveQuery.MessageKey → Except LiveQueryError MessageItem
  searchResultAt : (conversationId : String) → LiveQuery.SearchKey →
    Except LiveQueryError MessageItem

def cursorError : LiveQuery.LiveQueryError → LiveQueryError
  | .invalidCursor message => .invalidCursor message
  | .invalid message => .invalidArgument message

def validateConversationId (conversationId : String) : Except LiveQueryError Unit :=
  if conversationId = "" ∨ LiveQuery.maxConversationIdBytes < conversationId.utf8ByteSize ∨
      '\x00' ∈ conversationId.toList then
    .error (.invalidArgument "conversation identifier is empty or outside safe limits")
  else .ok ()

section Lookups

variable (reader : CursorReader) (source : LiveQuery.LiveQuerySource) (rows : MessageRows)
  (conversationId : String)

def getLiveMessage (messageId : String) : Except LiveQueryError MessageItem := do
  validateConversationId conversationId
  let identity ← (LiveQuery.decodeCursor reader LiveQuery.MessageCursor.fromJson
    messageId).mapError cursorError
  let key ← (LiveQuery.validateMessageIdentity source
    (LiveQuery.conversationDigest conversationId) identity).mapError cursorError
  rows.messageAt conversationId key

/-- A message that was found by a search keeps the identity it was found by. -/
def getSearchResultMessage (searchResultId : String) : Except LiveQueryError MessageItem := do
  validateConversationId conversationId
  let cursor ← (LiveQuery.decodeCursor reader LiveQuery.SearchCursor.fromJson
    searchResultId).mapError cursorError
  let cursor ← (LiveQuery.validateSearchResult source
    (LiveQuery.searchConversationDigest conversationId) cursor).mapError cursorError
  let item ← rows.searchResultAt conversationId cursor.key
  return { item with id := searchResultId }

end Lookups

section Identities

variable {reader : CursorReader} {source : LiveQuery.LiveQuerySource} {rows : MessageRows}
  {conversationId : String}

theorem validateConversationId_ok (h : ValidConversationId conversationId) :
    validateConversationId conversationId = .ok () := by
  apply if_neg
  rintro (hempty | hlong | hnul)
  · exact h.1 hempty
  · exact absurd h.2.1 (Nat.not_le.mpr hlong)
  · exact h.2.2 hnul

theorem decodeCursor_error {α : Type} {fromJson : Json → Option α} {value : String}
    {error : LiveQuery.LiveQueryError}
    (h : LiveQuery.decodeCursor reader fromJson value = .error error) :
    ∃ message, error = .invalidCursor message := by
  simp only [LiveQuery.decodeCursor, LiveQuery.decodeWith, bind_error, LiveQuery.check,
    LiveQuery.orElse] at h
  rcases h with h | ⟨-, -, h | ⟨bytes, -, h | ⟨-, -, h⟩⟩⟩
  · split at h <;> cases h
    exact ⟨_, rfl⟩
  · split at h <;> cases h
    exact ⟨_, rfl⟩
  · split at h <;> cases h
    exact ⟨_, rfl⟩
  · split at h <;> cases h
    exact ⟨_, rfl⟩

theorem check_error {condition : Bool} {message : String} {error : LiveQuery.LiveQueryError}
    (h : LiveQuery.check condition (.invalidCursor message) = .error error) :
    error = .invalidCursor message := by
  cases condition with
  | false => exact (Except.error.inj h).symm
  | true => cases h

/-- The identity of a message is looked up in its own conversation. -/
theorem getLiveMessage_own (hvalid : ValidConversationId conversationId)
    (key : LiveQuery.MessageKey) :
    getLiveMessage reader source rows conversationId
        (Minted.encode source (.messageIdentity conversationId key)) =
      rows.messageAt conversationId key := by
  have haccept := LiveQuery.accept_messageIdentity reader source conversationId key
  simp only [LiveQuery.Place.accept, LiveQuery.Operation.accept, bind_ok] at haccept
  obtain ⟨identity, hidentity, key', hkey, hposition⟩ := haccept
  have hsame : key' = key := by
    injection hposition with hposition
    injection hposition
  simp only [getLiveMessage, validateConversationId_ok hvalid, hidentity, hkey, hsame,
    Except.mapError, bind, Except.bind]

/-- An identity that a conversation does not take is passed on. -/
theorem getLiveMessage_passes (hvalid : ValidConversationId conversationId) {value : String}
    (h : ∀ position, (LiveQuery.Place.live source (.getMessage conversationId)).accept reader
      value ≠ .ok position) :
    ∃ message, getLiveMessage reader source rows conversationId value =
      .error (.invalidCursor message) := by
  simp only [getLiveMessage, validateConversationId_ok hvalid, bind, Except.bind]
  cases hidentity : LiveQuery.decodeCursor reader LiveQuery.MessageCursor.fromJson value with
  | error error =>
    obtain ⟨message, rfl⟩ := decodeCursor_error hidentity
    exact ⟨message, rfl⟩
  | ok identity =>
    cases hkey : LiveQuery.validateMessageIdentity source
        (LiveQuery.conversationDigest conversationId) identity with
    | error error =>
      have hfailed := hkey
      rw [LiveQuery.validateMessageIdentity, bind_error] at hfailed
      rcases hfailed with hfailed | ⟨-, -, hfailed⟩
      · rw [check_error hfailed] at hkey
        simp only [Except.mapError, hkey, cursorError]
        exact ⟨_, rfl⟩
      · cases hfailed
    | ok key =>
      refine absurd ?_ (h (.message key))
      simp [LiveQuery.Place.accept, LiveQuery.Operation.accept, hidentity, hkey, bind, Except.bind,
        pure, Except.pure]

theorem getSearchResultMessage_own (hvalid : ValidConversationId conversationId) (query : String)
    (key : LiveQuery.SearchKey) {item : MessageItem}
    (hitem : rows.searchResultAt conversationId key = .ok item) :
    getSearchResultMessage reader source rows conversationId
        (Minted.encode source (.searchIdentity query conversationId key)) =
      .ok { item with id := Minted.encode source (.searchIdentity query conversationId key) } := by
  have haccept := LiveQuery.accept_searchIdentity reader source query conversationId key
  simp only [LiveQuery.Place.accept, LiveQuery.Operation.accept, bind_ok] at haccept
  obtain ⟨cursor, hcursor, cursor', hcursor', hposition⟩ := haccept
  have hsame : cursor'.key = key := by
    injection hposition with hposition
    injection hposition
  simp only [getSearchResultMessage, validateConversationId_ok hvalid, hcursor, hcursor', hsame,
    hitem, Except.mapError, bind, Except.bind, pure, Except.pure]

theorem getSearchResultMessage_passes (hvalid : ValidConversationId conversationId) {value : String}
    (h : ∀ position, (LiveQuery.Place.live source (.getSearchResult conversationId)).accept reader
      value ≠ .ok position) :
    ∃ message, getSearchResultMessage reader source rows conversationId value =
      .error (.invalidCursor message) := by
  simp only [getSearchResultMessage, validateConversationId_ok hvalid, bind, Except.bind]
  cases hcursor : LiveQuery.decodeCursor reader LiveQuery.SearchCursor.fromJson value with
  | error error =>
    obtain ⟨message, rfl⟩ := decodeCursor_error hcursor
    exact ⟨message, rfl⟩
  | ok cursor =>
    cases hcursor' : LiveQuery.validateSearchResult source
        (LiveQuery.searchConversationDigest conversationId) cursor with
    | error error =>
      have hfailed := hcursor'
      rw [LiveQuery.validateSearchResult, bind_error] at hfailed
      rcases hfailed with hfailed | ⟨-, -, hfailed⟩
      · rw [check_error hfailed] at hcursor'
        simp only [Except.mapError, hcursor', cursorError]
        exact ⟨_, rfl⟩
      · cases hfailed
    | ok cursor' =>
      refine absurd ?_ (h (.search cursor'.key))
      simp [LiveQuery.Place.accept, LiveQuery.Operation.accept, hcursor, hcursor', bind,
        Except.bind, pure, Except.pure]

end Identities

/-! The conversation that decides -/

section Deciding

variable {arrival : Arrival} {capability : ToolCapability}
  {lookup : String → Except LiveQueryError MessageItem}
  {scopes : List (String × ConversationToolScope)}

/-- The conversation of a message decides on it where the others pass its identity on. -/
theorem decisiveAmong_own (hordered : scopes.Pairwise (·.1 < ·.1))
    {entry : String × ConversationToolScope}
    (hentry : entry ∈ scopes.filter (·.2.permits capability arrival.request.destination))
    {item : MessageItem} (hown : lookup entry.1 = .ok item)
    (hothers : ∀ other ∈ scopes.filter (·.2.permits capability arrival.request.destination),
      other.1 ≠ entry.1 → ∃ message, lookup other.1 = .error (.invalidCursor message)) :
    decisiveAmong arrival capability lookup scopes = some (entry.1, entry.2, .ok item) := by
  obtain ⟨hmem, hpermits⟩ := List.mem_filter.mp hentry
  induction scopes with
  | nil => cases hmem
  | cons first rest ih =>
    rw [List.pairwise_cons] at hordered
    by_cases hfirst : first = entry
    · subst hfirst
      simp [decisiveAmong, hpermits, hown]
    · have hrest : entry ∈ rest := by
        rcases List.mem_cons.mp hmem with hsame | hrest
        · exact absurd hsame.symm hfirst
        · exact hrest
      have hne : first.1 ≠ entry.1 := (hordered.1 entry hrest).ne
      have hlater := ih hordered.2 (List.mem_filter.mpr ⟨hrest, hpermits⟩)
        (fun other hother => hothers other (by
          rw [List.mem_filter] at hother ⊢
          exact ⟨List.mem_cons_of_mem _ hother.1, hother.2⟩)) hrest
      by_cases hasked : first.2.permits capability arrival.request.destination = true
      · obtain ⟨message, hmessage⟩ :=
          hothers first (List.mem_filter.mpr ⟨List.mem_cons_self, hasked⟩) hne
        rw [decisiveAmong] at hlater ⊢
        rw [List.findSome?_cons]
        simpa [hasked, hmessage] using hlater
      · rw [decisiveAmong] at hlater ⊢
        rw [List.findSome?_cons]
        simpa [hasked] using hlater

theorem decisiveAmong_none
    (h : ∀ other ∈ scopes.filter (·.2.permits capability arrival.request.destination),
      ∃ message, lookup other.1 = .error (.invalidCursor message)) :
    decisiveAmong arrival capability lookup scopes = none := by
  rw [decisiveAmong, List.findSome?_eq_none_iff]
  intro other hother
  by_cases hasked : other.2.permits capability arrival.request.destination = true
  · obtain ⟨message, hmessage⟩ := h other (List.mem_filter.mpr ⟨hother, hasked⟩)
    simp [hasked, hmessage]
  · simp [hasked]

end Deciding

/-- A message within its times that a conversation decides on is delivered. -/
theorem reply_of_decisive {libs : DirectLibraries} {service : DirectConnectorService}
    {destination : ConnectorDestination} {live : LiveQueries} (asking : Asking libs service)
    {canonicalId : String} {entry : String × ConversationToolScope} {item : MessageItem}
    (hdecisive : decisive service (asking.arrival destination live (.getMessage canonicalId))
      canonicalId = some (entry.1, entry.2, .ok item))
    (htime : includesTimestamp entry.2 item.createdAtUnix = true) :
    asking.reply destination live (.getMessage canonicalId) =
      .ok (.message (some (projectMessage service.source service.policy entry.2 item))) := by
  have haudit := fun bytes => @audit_outcome libs service (asking.arrival destination live
    (.getMessage canonicalId)) asking.journal (asking.valid _ _ _) asking.writes "getMessage" rfl
    (some entry.1) .completed 1 bytes 0
  rw [asking.reply_getMessage, getMessage_eq, hdecisive]
  simp only [releaseMessage, htime, if_true]
  rw [outcome_bind_ok (haudit _)]
  rfl

/-! What is read -/

/-- A message is the one that a hit stands for. -/
structure SameMessage (hit : SearchItem) (item : MessageItem) : Prop where
  conversation : item.conversationId = hit.conversationId
  sequence : item.sortSequence = hit.sortSequence
  time : item.createdAtUnix = hit.createdAtUnix

/-- A hit has the identity of a message, or that of its place in the search index. -/
inductive HitIdentity (source : LiveQuery.LiveQuerySource) (rows : MessageRows)
    (conversationId : String) (hit : SearchItem) : Prop
  | message (key : LiveQuery.MessageKey) (item : MessageItem)
      (hid : hit.id = Minted.encode source (.messageIdentity conversationId key))
      (hrow : rows.messageAt conversationId key = .ok item) (hitem : item.id = hit.id)
      (hsame : SameMessage hit item)
  | indexed (terms : String) (key : LiveQuery.SearchKey)
      (hid : hit.id = Minted.encode source (.searchIdentity terms conversationId key))

/-- The conversations that are asked for a message. -/
def asked (service : DirectConnectorService) (destination : ConnectorDestination) :
    List (String × ConversationToolScope) :=
  authorized service destination .readRecentMessages ++
    authorized service destination .searchMessages

theorem read_asked {service : DirectConnectorService} {destination : ConnectorDestination}
    {entry : String × ConversationToolScope}
    (h : entry ∈ authorized service destination .readRecentMessages) :
    entry ∈ asked service destination :=
  List.mem_append_left _ h

theorem search_asked {service : DirectConnectorService} {destination : ConnectorDestination}
    {entry : String × ConversationToolScope}
    (h : entry ∈ authorized service destination .searchMessages) :
    entry ∈ asked service destination :=
  List.mem_append_right _ h

variable (libs : DirectLibraries) (service : DirectConnectorService)
  (destination : ConnectorDestination) (query : String)

/-- Databases that do not change, whose pages are exhaustive for every conversation that the
policy opens to the destination. -/
structure Corpus where
  live : LiveQueries
  source : LiveQuery.LiveQuerySource
  rows : MessageRows
  messages : String → List MessageItem
  hits : String → List SearchItem
  messagePages : String → ℕ
  hitPages : String → ℕ
  identity : source.identity = service.source.identity
  checked : live.Checked
  described : ∀ identifiers : List String, identifiers.length ≤ maxPageLimit →
    (∀ identifier ∈ identifiers, ValidConversationId identifier) →
    ∃ metadata, live.findConversations identifiers = .ok metadata
  getMessage : live.getMessage = getLiveMessage libs.cursors source rows
  getSearchResultMessage :
    live.getSearchResultMessage = getSearchResultMessage libs.cursors source rows
  messagesExhaustive : ∀ entry ∈ authorized service destination .readRecentMessages,
    Drains (listedPage live service entry) (messagePages entry.1) none (messages entry.1)
  hitsExhaustive : ∀ entry ∈ authorized service destination .searchMessages,
    SearchDrains service live query hits hitPages entry
  messagesTimely : ∀ entry ∈ authorized service destination .readRecentMessages,
    ∀ item ∈ messages entry.1, includesTimestamp entry.2 item.createdAtUnix = true
  hitsTimely : ∀ entry ∈ authorized service destination .searchMessages,
    ∀ hit ∈ hits entry.1, includesTimestamp entry.2 hit.createdAtUnix = true
  messagesNamed : ∀ entry ∈ authorized service destination .readRecentMessages,
    ∀ item ∈ messages entry.1, ∃ key,
      item.id = Minted.encode source (.messageIdentity entry.1 key) ∧
        rows.messageAt entry.1 key = .ok item
  hitsNamed : ∀ entry ∈ authorized service destination .searchMessages,
    ∀ hit ∈ hits entry.1, HitIdentity source rows entry.1 hit
  /-- The digests tell the conversations that are read or searched apart. -/
  distinct : ∀ entry ∈ asked service destination, ∀ other ∈ asked service destination,
    LiveQuery.conversationDigest entry.1 = LiveQuery.conversationDigest other.1 ∨
      LiveQuery.searchConversationDigest entry.1 = LiveQuery.searchConversationDigest other.1 →
    entry.1 = other.1

variable {libs service destination query}

/-- The pages cover what the policy opens, and deliver it by the identities they show. -/
structure Covers (corpus : Corpus libs service destination query) : Prop where
  conversations : ∃ pages, Drains (@conversationPage libs service destination corpus.live) pages
    none ((authorized service destination .listConversations).map (·.1))
  messages : ∀ entry ∈ authorized service destination .readRecentMessages, ∃ pages,
    Drains (@messagePage libs service destination corpus.live (.getMessages entry.1)) pages none
      ((corpus.messages entry.1).map (projectMessage service.source service.policy entry.2))
  inConversation : ∀ entry ∈ authorized service destination .searchMessages, ∃ pages,
    Drains (@messagePage libs service destination corpus.live (.searchMessages query (some entry.1)))
      pages none (releasedHits service corpus.hits entry)
  across : authorized service destination .searchMessages ≠ [] → ∃ pages,
    Drains (@messagePage libs service destination corpus.live (.searchMessages query none)) pages
      none ((authorized service destination .searchMessages).flatMap
        (releasedHits service corpus.hits))
  messagesDelivered : ∀ entry ∈ authorized service destination .readRecentMessages,
    ∀ item ∈ corpus.messages entry.1, ∀ asking : Asking libs service,
      asking.reply destination corpus.live (.getMessage item.id) =
        .ok (.message (some (projectMessage service.source service.policy entry.2 item)))
  hitsDelivered : ∀ entry ∈ authorized service destination .searchMessages,
    ∀ released ∈ releasedHits service corpus.hits entry, ∀ asking : Asking libs service,
      ∃ message, asking.reply destination corpus.live (.getMessage released.canonicalId) =
          .ok (.message (some message)) ∧ message.canonicalId = released.canonicalId ∧
        message.conversationId = released.conversationId ∧
        message.conversationOrdinal = released.conversationOrdinal

/-- The identifiers of the policy leave room for the cursors behind them, and what the search
index names is there. -/
structure Followable (corpus : Corpus libs service destination query) : Prop where
  described : ∀ entry ∈ authorized service destination .listConversations,
    ValidConversationId entry.1
  listed : ∀ conversationId,
    Passed (·.1) (authorized service destination .listConversations) conversationId →
      ConversationCursorFits service destination conversationId
  messages : ∀ entry ∈ authorized service destination .readRecentMessages, ∀ inner,
    Visited (listedPage corpus.live service entry) (some inner) →
      CursorFits (requestBinding service destination "messages" none) entry.1 (some inner)
  inConversation : ∀ entry ∈ authorized service destination .searchMessages, ∀ inner,
    Visited (hitPage corpus.live service query entry) (some inner) →
      CursorFits (requestBinding service destination "searchScoped"
        (some (directQueryDigest query))) entry.1 (some inner)
  across : ∀ entry ∈ authorized service destination .searchMessages, ∀ inner,
    Visited (hitPage corpus.live service query entry) (some inner) →
      CursorFits (acrossBinding service destination query) entry.1 (some inner)
  following : ∀ entry ∈ (authorized service destination .searchMessages).tail,
    CursorFits (acrossBinding service destination query) entry.1 none
  indexed : ∀ entry ∈ authorized service destination .searchMessages,
    ∀ hit ∈ corpus.hits entry.1, ∀ terms key,
      hit.id = Minted.encode corpus.source (.searchIdentity terms entry.1 key) →
      ∃ item, corpus.rows.searchResultAt entry.1 key = .ok item ∧ SameMessage hit item

namespace Corpus

theorem read_valid (corpus : Corpus libs service destination query)
    {entry : String × ConversationToolScope}
    (hentry : entry ∈ authorized service destination .readRecentMessages) :
    ValidConversationId entry.1 := by
  have hdrains := corpus.messagesExhaustive entry hentry
  cases hpages : corpus.messagePages entry.1 with
  | zero =>
    rw [hpages] at hdrains
    exact hdrains.elim
  | succ pages =>
    rw [hpages] at hdrains
    obtain ⟨page, rest, hpage, -, -⟩ :=
      hdrains (pageSize service (by decide : 0 < maxPageLimit) 1)
    rw [listedPage] at hpage
    cases hquery : corpus.live.listMessagesInTimeRange entry.1
        (pageSize service (by decide : 0 < maxPageLimit) 1).1 none entry.2.notBeforeUnix
        entry.2.notAfterUnix with
    | error error =>
      rw [hquery] at hpage
      cases hpage
    | ok answer => exact (corpus.checked.messages hquery).1

theorem search_valid (corpus : Corpus libs service destination query)
    {entry : String × ConversationToolScope}
    (hentry : entry ∈ authorized service destination .searchMessages) :
    ValidConversationId entry.1 := by
  have hleft : Left service corpus.live query corpus.hits corpus.hitPages [entry] none _ _ :=
    .mk .start (corpus.hitsExhaustive entry hentry)
  exact (hleft.valid corpus.checked).1

variable {corpus : Corpus libs service destination query}
  {entry other : String × ConversationToolScope}

/-- No other conversation takes the identity of a message. -/
theorem message_passes (hentry : entry ∈ asked service destination)
    (hother : other ∈ asked service destination) (hne : other.1 ≠ entry.1)
    (key : LiveQuery.MessageKey) (position : LiveQuery.Position) :
    (LiveQuery.Place.live corpus.source (.getMessage other.1)).accept libs.cursors
      (Minted.encode corpus.source (.messageIdentity entry.1 key)) ≠ .ok position := by
  intro haccept
  have hmark := LiveQuery.mark_of_accept haccept
  simp only [LiveQuery.Place.mark, Minted.place, LiveQuery.Mark.message.injEq] at hmark
  exact hne (corpus.distinct other hother entry hentry (.inl hmark.2))

/-- No other conversation takes the identity of a search result. -/
theorem searchResult_passes (hentry : entry ∈ asked service destination)
    (hother : other ∈ asked service destination) (hne : other.1 ≠ entry.1) (terms : String)
    (key : LiveQuery.SearchKey) (position : LiveQuery.Position) :
    (LiveQuery.Place.live corpus.source (.getSearchResult other.1)).accept libs.cursors
      (Minted.encode corpus.source (.searchIdentity terms entry.1 key)) ≠ .ok position := by
  intro haccept
  have hmark := LiveQuery.mark_of_accept haccept
  simp only [LiveQuery.Place.mark, Minted.place, LiveQuery.Mark.searchResult.injEq] at hmark
  exact hne (corpus.distinct other hother entry hentry (.inr hmark.2))

/-- The identity of a search result is not that of a message, and the other way round. -/
theorem kinds_pass (conversationId conversationId' terms : String) (key : LiveQuery.SearchKey)
    (key' : LiveQuery.MessageKey) (position : LiveQuery.Position) :
    (LiveQuery.Place.live corpus.source (.getMessage conversationId)).accept libs.cursors
        (Minted.encode corpus.source (.searchIdentity terms conversationId' key)) ≠ .ok position ∧
      (LiveQuery.Place.live corpus.source (.getSearchResult conversationId)).accept libs.cursors
        (Minted.encode corpus.source (.messageIdentity conversationId' key')) ≠ .ok position := by
  constructor
  · intro haccept
    have hmark := LiveQuery.mark_of_accept haccept
    simp [LiveQuery.Place.mark, Minted.place] at hmark
  · intro haccept
    have hmark := LiveQuery.mark_of_accept haccept
    simp [LiveQuery.Place.mark, Minted.place] at hmark

/-- A message of a conversation that may be read decides on its identity. -/
theorem decisive_read (hentry : entry ∈ authorized service destination .readRecentMessages)
    {item : MessageItem} {key : LiveQuery.MessageKey}
    (hrow : corpus.rows.messageAt entry.1 key = .ok item) {arrival : Arrival}
    (hdestination : arrival.request.destination = destination) (hlive : arrival.live = corpus.live) :
    decisiveAmong arrival .readRecentMessages
        (arrival.live.getMessage · (Minted.encode corpus.source (.messageIdentity entry.1 key)))
        service.policy.conversationScopes = some (entry.1, entry.2, .ok item) := by
  subst hdestination
  apply decisiveAmong_own service.policy.scopesOrdered hentry
  · rw [hlive, corpus.getMessage, getLiveMessage_own (corpus.read_valid hentry), hrow]
  · intro other hother hne
    rw [hlive, corpus.getMessage]
    exact getLiveMessage_passes (corpus.read_valid hother)
      (message_passes (read_asked hentry) (read_asked hother) hne key)

theorem scopes_inj (hentry : entry ∈ service.policy.conversationScopes)
    (hother : other ∈ service.policy.conversationScopes) (hsame : entry.1 = other.1) :
    entry = other := by
  have hnodup : (service.policy.conversationScopes.map (·.1)).Nodup := by
    rw [List.Nodup, List.pairwise_map]
    exact service.policy.scopesOrdered.imp fun hless => hless.ne
  exact List.inj_on_of_nodup_map hnodup hentry hother hsame

/-- What a conversation that may be searched answers an identity with. -/
theorem searchResource_passes {arrival : Arrival} (hlive : arrival.live = corpus.live)
    (hother : other ∈ authorized service destination .searchMessages) {value : String}
    (hmessage : ∀ position, (LiveQuery.Place.live corpus.source (.getMessage other.1)).accept
      libs.cursors value ≠ .ok position)
    (hresult : ∀ position, (LiveQuery.Place.live corpus.source (.getSearchResult other.1)).accept
      libs.cursors value ≠ .ok position) :
    ∃ message, searchResource arrival value other.1 = .error (.invalidCursor message) := by
  obtain ⟨first, hfirst⟩ := getLiveMessage_passes (corpus.search_valid hother) hmessage
  rw [searchResource, hlive, corpus.getMessage, corpus.getSearchResultMessage, hfirst]
  exact getSearchResultMessage_passes (corpus.search_valid hother) hresult

/-- The conversation of a hit decides on its identity. -/
theorem decisive_hit (hentry : entry ∈ authorized service destination .searchMessages)
    {hit : SearchItem} (hhit : hit ∈ corpus.hits entry.1)
    (hindexed : ∀ terms key,
      hit.id = Minted.encode corpus.source (.searchIdentity terms entry.1 key) →
      ∃ item, corpus.rows.searchResultAt entry.1 key = .ok item ∧ SameMessage hit item)
    {arrival : Arrival} (hdestination : arrival.request.destination = destination)
    (hlive : arrival.live = corpus.live) : ∃ item : MessageItem,
      decisive service arrival hit.id = some (entry.1, entry.2, .ok item) ∧ item.id = hit.id ∧
        SameMessage hit item := by
  have hmem := (List.mem_filter.mp hentry).1
  have hvalid := corpus.search_valid hentry
  cases corpus.hitsNamed entry hentry hit hhit with
  | message key item hid hrow hitem hsame =>
    refine ⟨item, ?_, hitem, hsame⟩
    rw [decisive, hid]
    by_cases hread : entry ∈ authorized service destination .readRecentMessages
    · rw [decisive_read hread hrow hdestination hlive]
      rfl
    · have hnone : decisiveAmong arrival .readRecentMessages
          (arrival.live.getMessage ·
            (Minted.encode corpus.source (.messageIdentity entry.1 key)))
          service.policy.conversationScopes = none := by
        subst hdestination
        apply decisiveAmong_none
        intro other hother
        have hne : other.1 ≠ entry.1 := by
          intro hsame
          rw [scopes_inj (List.mem_filter.mp hother).1 hmem hsame] at hother
          exact hread hother
        rw [hlive, corpus.getMessage]
        exact getLiveMessage_passes (corpus.read_valid hother)
          (message_passes (search_asked hentry) (read_asked hother) hne key)
      rw [hnone, Option.none_or]
      subst hdestination
      apply decisiveAmong_own service.policy.scopesOrdered hentry
      · rw [searchResource, hlive, corpus.getMessage, getLiveMessage_own hvalid, hrow]
      · intro other hother hne
        exact searchResource_passes hlive hother
          (message_passes (search_asked hentry) (search_asked hother) hne key)
          (fun position => (kinds_pass other.1 entry.1 "" ⟨0, 0, 0, 0, 0⟩ key position).2)
  | indexed terms key hid =>
    obtain ⟨item, hrow, hsame⟩ := hindexed terms key hid
    refine ⟨{ item with id := hit.id }, ?_, rfl, ⟨hsame.conversation, hsame.sequence, hsame.time⟩⟩
    have hkinds := fun conversationId position => (@kinds_pass libs service destination query corpus
      conversationId entry.1 terms key ⟨0, 0, 0, 0, 0⟩ position).1
    rw [decisive, hid]
    subst hdestination
    rw [decisiveAmong_none, Option.none_or]
    · apply decisiveAmong_own service.policy.scopesOrdered hentry
      · obtain ⟨message, hmessage⟩ := @getLiveMessage_passes libs.cursors corpus.source corpus.rows
          entry.1 hvalid _ (hkinds entry.1)
        rw [searchResource, hlive, corpus.getMessage, corpus.getSearchResultMessage, hmessage]
        exact getSearchResultMessage_own hvalid terms key hrow
      · intro other hother hne
        exact searchResource_passes hlive hother (hkinds other.1)
          (searchResult_passes (search_asked hentry) (search_asked hother) hne terms key)
    · intro other hother
      rw [hlive, corpus.getMessage]
      exact getLiveMessage_passes (corpus.read_valid hother) (hkinds other.1)

end Corpus

/-- A page of the list is answered only where its cursor is read. -/
theorem decoded_of_conversationPage {live : LiveQueries} {asking : Asking libs service}
    {cursor : Option String} {page : Page String String}
    (h : conversationPage destination live asking cursor = .ok page) :
    ∃ after, decodeConnectorConversationCursor libs.cursors service.source.identity
      service.policySha256 destination cursor = .ok after := by
  rw [conversationPage, asking.reply_listConversations, listConversations,
    outcome_bind_ofExcept] at h
  cases hdecode : decodeConnectorConversationCursor libs.cursors service.source.identity
      service.policySha256 destination cursor with
  | ok after => exact ⟨after, rfl⟩
  | error error =>
    have hdecode' : decodeConnectorConversationCursor libs.cursors service.source.identity
        service.policySha256 (asking.arrival destination live
          (.listConversations cursor asking.limit)).request.destination cursor = .error error :=
      hdecode
    rw [hdecode'] at h
    cases h

/-- A cursor that is read back is short enough. -/
theorem size_of_decoded {conversationId : String} {after : Option String}
    (h : decodeConnectorConversationCursor libs.cursors service.source.identity
      service.policySha256 destination (some (encodeConnectorConversationCursor
        service.source.identity service.policySha256 destination conversationId)) = .ok after) :
    Json.escapedSize conversationId ≤ 3072 := by
  have hminted : encodeConnectorConversationCursor service.source.identity service.policySha256
      destination conversationId = LiveQuery.encodeCursor (Minted.json LiveQuery.emptySource
        (.connector service.source.identity service.policySha256 (cursorDestination destination)
          conversationId)) := rfl
  rw [decodeConnectorConversationCursor, hminted] at h
  split at h
  · next result hresult =>
    rw [LiveQuery.decodeConnectorConversationCursor_ok] at hresult
    obtain ⟨cursor, hcursor, -⟩ := hresult
    rw [LiveQuery.decodeWith_encodeCursor, LiveQuery.byteCount_connector] at hcursor
    omega
  · cases h
  · cases h

theorem sampleIdentity_named : sampleIdentity ≠ "" := by decide

theorem fifty_allowed : 0 < 50 := by decide

def listingScope : ConversationToolScope where
  capabilities := {.listConversations}
  messageFields := ∅
  notBeforeUnix := none
  notAfterUnix := none
  allowRemoteModel := false

/-- Two conversations that may be listed, the first with an identifier of 4000 bytes. -/
def longService : DirectConnectorService where
  source :=
    { mode := .decrypted
      identity := sampleIdentity
      accountHolderSourceId := none }
  policy :=
    { accountId := sampleIdentity
      createdFromSourceFingerprint := sampleIdentity
      conversationScopes :=
        [(LiveQuery.letters 4000, listingScope), ("b", listingScope)]
      maximumResultCount := 50
      maximumMessageSummaryBytes := 4096
      accountNamed := sampleIdentity_named
      scopesOrdered := by
        rw [List.pairwise_pair]
        apply String.lt_iff_toList_lt.mpr
        rw [LiveQuery.letters, String.toList_ofList, List.replicate_succ]
        exact List.Lex.rel (by decide)
      resultsAllowed := fifty_allowed }
  policySha256 := String.ofList (List.replicate 64 'a')
  accountBound := rfl
  fingerprintBound := rfl
  enabled := List.cons_ne_nil _ _
  readsOnly := by
    intro entry hentry
    simp only [List.mem_cons, List.not_mem_nil, or_false] at hentry
    rcases hentry with rfl | rfl <;> decide

theorem long_unread : authorized longService .localOnly .readRecentMessages = [] ∧
    authorized longService .localOnly .searchMessages = [] := by
  have hread : listingScope.permits .readRecentMessages .localOnly = false := by decide
  have hsearch : listingScope.permits .searchMessages .localOnly = false := by decide
  simp [authorized, longService, hread, hsearch]

/-- The source that the policy belongs to. -/
def sampleSource : LiveQuery.LiveQuerySource where
  identity := sampleIdentity
  identity_form := ⟨[0x01, 0x23, 0x45, 0x67, 0x89, 0xab, 0xcd, 0xef, 0x01, 0x23, 0x45, 0x67, 0x89,
    0xab, 0xcd, 0xef], rfl, by decide⟩

/-- Databases whose conversations are described, but not read. -/
noncomputable def longCorpus : Corpus sampleLibraries longService .localOnly "hello" where
  live :=
    { findConversations := fun _ => .ok fun _ => none
      listMessagesInTimeRange := fun _ _ _ _ _ => .error (.database "no message shard")
      searchMessagesInTimeRange := fun _ _ _ _ _ _ => .error (.database "no message shard")
      getMessage := getLiveMessage sampleLibraries.cursors sampleSource
        ⟨fun _ _ => .error (.notFound ""), fun _ _ => .error (.notFound "")⟩
      getSearchResultMessage := getSearchResultMessage sampleLibraries.cursors sampleSource
        ⟨fun _ _ => .error (.notFound ""), fun _ _ => .error (.notFound "")⟩ }
  source := sampleSource
  rows := ⟨fun _ _ => .error (.notFound ""), fun _ _ => .error (.notFound "")⟩
  messages _ := []
  hits _ := []
  messagePages _ := 0
  hitPages _ := 0
  identity := rfl
  checked := ⟨nofun, nofun⟩
  described _ _ _ := ⟨_, rfl⟩
  getMessage := rfl
  getSearchResultMessage := rfl
  messagesExhaustive := by simp [long_unread]
  hitsExhaustive := by simp [long_unread]
  messagesTimely _ _ := nofun
  hitsTimely _ _ := nofun
  messagesNamed _ _ := nofun
  hitsNamed _ _ := nofun
  distinct := by simp [asked, long_unread]

/-- Two names, the time of a request, no journal yet and pages of one conversation. -/
noncomputable def oneByOne (service : DirectConnectorService) : Asking sampleLibraries service where
  requestId := "request"
  requesterId := "requester"
  moment := 1700000000000000000
  limit := some 1
  journal := none
  requestNamed := by decide
  requesterNamed := by decide
  journalHeld := ⟨.initial, Connector.kept_empty _ _, rfl⟩

def openScope : ConversationToolScope where
  capabilities := {.listConversations, .readRecentMessages, .searchMessages}
  messageFields := {.content}
  notBeforeUnix := none
  notAfterUnix := none
  allowRemoteModel := false

/-- One conversation, which may be listed, read and searched. -/
def openService : DirectConnectorService where
  source :=
    { mode := .decrypted
      identity := sampleIdentity
      accountHolderSourceId := none }
  policy :=
    { accountId := sampleIdentity
      createdFromSourceFingerprint := sampleIdentity
      conversationScopes := [("friend", openScope)]
      maximumResultCount := 50
      maximumMessageSummaryBytes := 4096
      accountNamed := sampleIdentity_named
      scopesOrdered := List.pairwise_singleton _ _
      resultsAllowed := fifty_allowed }
  policySha256 := String.ofList (List.replicate 64 'a')
  accountBound := rfl
  fingerprintBound := rfl
  enabled := List.cons_ne_nil _ _
  readsOnly := by decide

def openMessage : MessageItem :=
  { sampleMessage with
    id := Minted.encode sampleSource (.messageIdentity "friend" ⟨1700000000000, 1700000000, 1, 0, 1⟩) }

def openHit : SearchItem :=
  { openMessage.toMessageEnvelope with
    snippet := "hello"
    snippetTruncated := false }

/-- The databases take no cursor, since all there is fits on a page. -/
def onePage {α : Type} (items : List α) (conversationId : String) (cursor : Option String) :
    Except LiveQueryError (QueryPage α) :=
  if conversationId = "friend" ∧ cursor = none then .ok ⟨items, none, []⟩
  else .error (.invalidCursor "cursor structure is invalid")

theorem onePage_ok {α : Type} {items : List α} {conversationId : String} {cursor : Option String}
    {page : QueryPage α} (h : onePage items conversationId cursor = .ok page) :
    conversationId = "friend" ∧ cursor = none ∧ page = ⟨items, none, []⟩ := by
  by_cases hfirst : conversationId = "friend" ∧ cursor = none
  · rw [onePage, if_pos hfirst] at h
    exact ⟨hfirst.1, hfirst.2, (Except.ok.inj h).symm⟩
  · rw [onePage, if_neg hfirst] at h
    cases h

theorem friend_valid : ValidConversationId "friend" := ⟨by decide, by decide, by decide⟩

theorem open_authorized (capability : ToolCapability)
    (h : openScope.permits capability .localOnly = true) :
    authorized openService .localOnly capability = [("friend", openScope)] := by
  simp [authorized, openService, h]

def openRows : MessageRows where
  messageAt _ _ := .ok openMessage
  searchResultAt _ _ := .error (.notFound "")

noncomputable def openQueries : LiveQueries where
  findConversations _ := .ok fun _ => none
  listMessagesInTimeRange conversationId _ cursor _ _ := onePage [openMessage] conversationId cursor
  searchMessagesInTimeRange _ conversationId _ cursor _ _ :=
    onePage [openHit] conversationId cursor
  getMessage := getLiveMessage sampleLibraries.cursors sampleSource openRows
  getSearchResultMessage := getSearchResultMessage sampleLibraries.cursors sampleSource openRows

noncomputable def openCorpus : Corpus sampleLibraries openService .localOnly "hello" where
  live := openQueries
  source := sampleSource
  rows := openRows
  messages _ := [openMessage]
  hits _ := [openHit]
  messagePages _ := 1
  hitPages _ := 1
  identity := rfl
  checked := by
    constructor
    · intro conversationId limit cursor notBefore notAfter page hpage
      obtain ⟨rfl, rfl, -⟩ := onePage_ok hpage
      exact ⟨friend_valid, nofun⟩
    · intro query conversationId limit cursor notBefore notAfter page hpage
      obtain ⟨rfl, rfl, -⟩ := onePage_ok hpage
      exact ⟨friend_valid, nofun⟩
  described _ _ _ := ⟨_, rfl⟩
  getMessage := rfl
  getSearchResultMessage := rfl
  messagesExhaustive := by
    rw [open_authorized _ (by decide)]
    intro entry hentry size
    rw [List.mem_singleton] at hentry
    subst hentry
    exact ⟨⟨[openMessage], none⟩, [], rfl, rfl, rfl⟩
  hitsExhaustive := by
    rw [open_authorized _ (by decide)]
    intro entry hentry size
    rw [List.mem_singleton] at hentry
    subst hentry
    exact ⟨⟨[openHit], none⟩, [], rfl, rfl, rfl⟩
  messagesTimely := by
    rw [open_authorized _ (by decide)]
    intro entry hentry item hitem
    rw [List.mem_singleton] at hentry
    subst hentry
    rfl
  hitsTimely := by
    rw [open_authorized _ (by decide)]
    intro entry hentry hit hhit
    rw [List.mem_singleton] at hentry
    subst hentry
    rfl
  messagesNamed := by
    rw [open_authorized _ (by decide)]
    intro entry hentry item hitem
    rw [List.mem_singleton] at hentry hitem
    subst hentry hitem
    exact ⟨_, rfl, rfl⟩
  hitsNamed := by
    rw [open_authorized _ (by decide)]
    intro entry hentry hit hhit
    rw [List.mem_singleton] at hentry hhit
    subst hentry hhit
    exact .message _ openMessage rfl rfl rfl ⟨rfl, rfl, rfl⟩
  distinct := by
    rw [asked, open_authorized _ (by decide), open_authorized _ (by decide)]
    intro entry hentry other hother _
    simp only [List.mem_append, List.mem_singleton, or_self] at hentry hother
    rw [hentry, hother]

theorem openMessages_unvisited {entry : String × ConversationToolScope} {inner : String} :
    ¬ Visited (listedPage openQueries openService entry) (some inner) := by
  intro h
  cases h with
  | @next cursor size items next hvisited hpage =>
    rw [listedPage] at hpage
    cases hquery : openQueries.listMessagesInTimeRange entry.1 size.1 cursor entry.2.notBeforeUnix
        entry.2.notAfterUnix with
    | error error =>
      rw [hquery] at hpage
      cases hpage
    | ok answer =>
      obtain ⟨-, -, rfl⟩ := onePage_ok hquery
      rw [hquery] at hpage
      cases hpage

theorem openHits_unvisited {entry : String × ConversationToolScope} {inner : String} :
    ¬ Visited (hitPage openQueries openService "hello" entry) (some inner) := by
  intro h
  cases h with
  | @next cursor size items next hvisited hpage =>
    rw [hitPage] at hpage
    cases hquery : openQueries.searchMessagesInTimeRange "hello" entry.1 size.1 cursor
        entry.2.notBeforeUnix entry.2.notAfterUnix with
    | error error =>
      rw [hquery] at hpage
      cases hpage
    | ok answer =>
      obtain ⟨-, -, rfl⟩ := onePage_ok hquery
      rw [hquery] at hpage
      cases hpage

end GreenBubbles.Direct
