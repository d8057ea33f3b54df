import GreenBubbles.Direct.Journal
import GreenBubbles.Library.Draining

/-! # Following the pages of the connector

The pages of an operation over databases that do not change. Each page may be
asked for in its own way; what the pages show together is compared with what the
policy opens.
-/
namespace GreenBubbles.Direct

open Library Library.Bytes Library.Outcomes Library.Paging
open Connector (ConnectorDestination Journal)
open LiveQuery (CursorReader)

/-! How a page is asked for -/

/-- Who asks for a page, when, how long it may be and which journal the connector keeps. -/
structure Asking (libs : DirectLibraries) (service : DirectConnectorService) where
  requestId : String
  requesterId : String
  moment : ℕ
  limit : Option ℕ
  journal : Journal
  requestNamed : requestId ≠ "" ∧ requestId.utf8ByteSize ≤ 256
  requesterNamed : requesterId ≠ "" ∧ requesterId.utf8ByteSize ≤ 256
  journalHeld : ∃ log, Holds libs service journal log

variable {libs : DirectLibraries} {service : DirectConnectorService}

namespace Asking

variable (asking : Asking libs service) (destination : ConnectorDestination) (live : LiveQueries)
  (operation : ConnectorOperation)

def arrival : Arrival where
  request :=
    { apiVersion := Connector.connectorApiVersion
      requestId := asking.requestId
      requesterId := asking.requesterId
      destination
      operation }
  moment := asking.moment
  live

/-- What the connector replies. -/
def reply : Except ConnectorErrorBody ConnectorResult :=
  (outcome (dispatch libs service (asking.arrival destination live operation)) asking.journal).1

theorem valid : validateRequest (asking.arrival destination live operation).request = .ok () := by
  simp [validateRequest, arrival, invalidUnless, asking.requestNamed, asking.requesterNamed, bind,
    Except.bind]

theorem writes : Writes libs asking.journal := by
  obtain ⟨log, hlog⟩ := asking.journalHeld
  exact hlog.writes

theorem reply_listConversations (cursor : Option String) (limit : Option ℕ) :
    asking.reply destination live (.listConversations cursor limit) =
      (outcome (listConversations libs service
        (asking.arrival destination live (.listConversations cursor limit)) cursor
        (limit.getD 100)) asking.journal).1.map .conversations := by
  rw [reply, dispatch, outcome_bind_ofExcept, asking.valid]
  exact congrArg Prod.fst (outcome_map _ _ _)

theorem reply_getMessages (conversationId : String) (cursor : Option String) (limit : Option ℕ) :
    asking.reply destination live (.getMessages conversationId cursor limit) =
      (outcome (getMessages libs service
        (asking.arrival destination live (.getMessages conversationId cursor limit))
        conversationId cursor (limit.getD 20)) asking.journal).1.map .messages := by
  rw [reply, dispatch, outcome_bind_ofExcept, asking.valid]
  exact congrArg Prod.fst (outcome_map _ _ _)

theorem reply_searchMessages (query : String) (conversationId cursor : Option String)
    (limit : Option ℕ) :
    asking.reply destination live (.searchMessages query conversationId cursor limit) =
      (outcome (searchMessages libs service
        (asking.arrival destination live (.searchMessages query conversationId cursor limit))
        query conversationId cursor (limit.getD 20)) asking.journal).1.map .messages := by
  rw [reply, dispatch, outcome_bind_ofExcept, asking.valid]
  exact congrArg Prod.fst (outcome_map _ _ _)

theorem reply_getMessage (canonicalId : String) :
    asking.reply destination live (.getMessage canonicalId) =
      (outcome (getMessage libs service
        (asking.arrival destination live (.getMessage canonicalId)) canonicalId)
        asking.journal).1.map .message := by
  rw [reply, dispatch, outcome_bind_ofExcept, asking.valid]
  exact congrArg Prod.fst (outcome_map _ _ _)

end Asking

/-! Pages -/

section Pages

variable (destination : ConnectorDestination) (live : LiveQueries)

def ConnectorResult.conversationPage : ConnectorResult → Page String String
  | .conversations list => ⟨list.conversations.map (·.conversationId), list.nextCursor⟩
  | _ => ⟨[], none⟩

def ConnectorResult.messagePage : ConnectorResult → Page MinimizedMessage String
  | .messages page => ⟨page.messages, page.nextCursor⟩
  | _ => ⟨[], none⟩

/-- The conversations that are listed on a page. -/
def conversationPage (asking : Asking libs service) (cursor : Option String) :
    Except ConnectorErrorBody (Page String String) :=
  (asking.reply destination live (.listConversations cursor asking.limit)).map
    ConnectorResult.conversationPage

/-- A page of messages, of an operation that is given a cursor and a limit. -/
def messagePage (operation : Option String → Option ℕ → ConnectorOperation)
    (asking : Asking libs service) (cursor : Option String) :
    Except ConnectorErrorBody (Page MinimizedMessage String) :=
  (asking.reply destination live (operation cursor asking.limit)).map ConnectorResult.messagePage

/-- The sizes of the pages that the connector asks the databases for. -/
def PageSize (service : DirectConnectorService) (maximum : ℕ) : Type :=
  {size : ℕ // 0 < size ∧ size ≤ min service.policy.maximumResultCount maximum}

def QueryPage.toPage {α : Type} (page : QueryPage α) : Page α String :=
  ⟨page.items, page.nextCursor⟩

/-- The messages of a conversation within the times of its scope. -/
def listedPage (service : DirectConnectorService) (entry : String × ConversationToolScope)
    (size : PageSize service maxPageLimit) (cursor : Option String) :
    Except LiveQueryError (Page MessageItem String) :=
  (live.listMessagesInTimeRange entry.1 size.1 cursor entry.2.notBeforeUnix
    entry.2.notAfterUnix).map QueryPage.toPage

/-- The hits of a search in a conversation within the times of its scope. -/
def hitPage (service : DirectConnectorService) (query : String)
    (entry : String × ConversationToolScope) (size : PageSize service maxSearchLimit)
    (cursor : Option String) : Except LiveQueryError (Page SearchItem String) :=
  (live.searchMessagesInTimeRange query entry.1 size.1 cursor entry.2.notBeforeUnix
    entry.2.notAfterUnix).map QueryPage.toPage

end Pages

theorem boundedLimit_bounds {maximum : ℕ} (hmaximum : 0 < maximum) (requested : ℕ) :
    0 < boundedLimit service requested maximum ∧
      boundedLimit service requested maximum ≤ min service.policy.maximumResultCount maximum := by
  have hresults := service.policy.resultsAllowed
  rw [boundedLimit]
  omega

/-- The size of the page that a request comes to. -/
def pageSize (service : DirectConnectorService) {maximum : ℕ} (hmaximum : 0 < maximum)
    (requested : ℕ) : PageSize service maximum :=
  ⟨boundedLimit service requested maximum, boundedLimit_bounds hmaximum requested⟩

/-! Cursors of messages -/

section Cursors

variable (binding : CursorBinding) (conversationId : String) (innerCursor : Option String)

def readCursor : DirectReadCursor where
  version := 1
  kind := binding.kind
  sourceIdentity := binding.sourceIdentity
  policySha256 := binding.policySha256
  destination := cursorDestination binding.destination
  conversationId
  querySha256 := binding.querySha256
  innerCursor

def readCursorText : String :=
  Base64.encode (utf8 (readCursor binding conversationId innerCursor).toJson.toText)

/-- The cursor around a cursor of the databases stays within the limit of the connector. -/
def CursorFits : Prop :=
  (utf8 (readCursor binding conversationId innerCursor).toJson.toText).length ≤
    maxDirectCursorBytes

end Cursors

/-- What the databases can be asked about. -/
def ValidConversationId (conversationId : String) : Prop :=
  conversationId ≠ "" ∧ conversationId.utf8ByteSize ≤ LiveQuery.maxConversationIdBytes ∧
    '\x00' ∉ conversationId.toList

/-- What the databases take for a cursor. -/
def ValidCursor (cursor : String) : Prop :=
  cursor ≠ "" ∧ cursor.utf8ByteSize ≤ LiveQuery.maxCursorBytes

variable {binding : CursorBinding} {conversationId : String} {innerCursor : Option String}

theorem encodeReadCursor_fits (h : CursorFits binding conversationId innerCursor) :
    encodeReadCursor binding conversationId innerCursor =
      .ok (readCursorText binding conversationId innerCursor) :=
  if_neg (Nat.not_lt.mpr h)

theorem pageCursor_fits (h : ∀ inner, innerCursor = some inner →
      CursorFits binding conversationId (some inner)) :
    pageCursor binding conversationId innerCursor =
      .ok (innerCursor.map fun inner => readCursorText binding conversationId (some inner)) := by
  cases innerCursor with
  | none => rfl
  | some inner => rw [pageCursor, encodeReadCursor_fits (h inner rfl)]; rfl

/-- The connector reads back the cursors it mints. -/
theorem decodeReadCursor_minted (reader : CursorReader)
    (hfits : CursorFits binding conversationId innerCursor)
    (hconversation : ValidConversationId conversationId)
    (hinner : ∀ inner, innerCursor = some inner → ValidCursor inner)
    {expected : Option String}
    (hexpected : ∀ value, expected = some value → conversationId = value) :
    decodeReadCursor reader binding expected
        (some (readCursorText binding conversationId innerCursor)) =
      .ok (some (readCursor binding conversationId innerCursor)) := by
  have hbelongs :
      (readCursor binding conversationId innerCursor).belongs binding expected = true := by
    have hshort := hconversation.2.1
    rw [LiveQuery.maxConversationIdBytes] at hshort
    have hexpects : expected.all (conversationId == ·) = true := by
      cases expected with
      | none => rfl
      | some value => simp [hexpected value rfl]
    have hreads : innerCursor.all
        (fun inner => inner != "" && decide (inner.utf8ByteSize ≤ 8192)) = true := by
      cases innerCursor with
      | none => rfl
      | some inner =>
        have hvalid := hinner inner rfl
        have hsize := hvalid.2
        rw [LiveQuery.maxCursorBytes] at hsize
        have hless : inner.utf8ByteSize ≤ 8192 := by omega
        simp [hvalid.1, hless]
    simp [DirectReadCursor.belongs, readCursor, hconversation.1, hshort, hexpects, hreads]
  have hbytes := List.length_pos_of_ne_nil
    (Json.utf8_toText_ne_nil (readCursor binding conversationId innerCursor).toJson)
  rw [CursorFits] at hfits
  have hsize : (readCursorText binding conversationId innerCursor).utf8ByteSize =
      (4 * (utf8 (readCursor binding conversationId innerCursor).toJson.toText).length + 2) / 3 :=
    LiveQuery.utf8ByteSize_encode _
  have hnonempty : readCursorText binding conversationId innerCursor ≠ "" := by
    intro hempty
    rw [hempty, String.utf8ByteSize_empty] at hsize
    omega
  have hlimit : (readCursorText binding conversationId innerCursor).utf8ByteSize ≤
      maxDirectCursorBytes * 2 := by
    rw [hsize]
    rw [maxDirectCursorBytes] at hfits ⊢
    omega
  have hdecode : reader.base64 (readCursorText binding conversationId innerCursor) =
      some (utf8 (readCursor binding conversationId innerCursor).toJson.toText) :=
    reader.base64_encode _
  have hsmall : (readCursor binding conversationId innerCursor).toJson.toText.utf8ByteSize ≤
      maxDirectCursorBytes := by simpa using hfits
  simp [decodeReadCursor, invalidUnless, orInvalid, hnonempty, hlimit, hdecode, hsmall,
    reader.json_text, DirectReadCursor.fromJson_toJson, hbelongs, bind, Except.bind, pure,
    Except.pure]

/-- The cursor of a page of one conversation, where there is one. -/
theorem decodeReadCursor_page (reader : CursorReader) (hconversation : ValidConversationId conversationId)
    (hfits : ∀ inner, innerCursor = some inner → CursorFits binding conversationId (some inner))
    (hinner : ∀ inner, innerCursor = some inner → ValidCursor inner) :
    decodeReadCursor reader binding (some conversationId)
        (innerCursor.map fun inner => readCursorText binding conversationId (some inner)) =
      .ok (innerCursor.map fun inner => readCursor binding conversationId (some inner)) := by
  cases innerCursor with
  | none => rfl
  | some inner =>
    apply decodeReadCursor_minted reader (hfits inner rfl) hconversation hinner
    intro value hvalue
    exact Option.some.inj hvalue

/-! The list of conversations -/

/-- The conversations that permit a capability to a destination, in their order. -/
def authorized (service : DirectConnectorService) (destination : ConnectorDestination)
    (capability : ToolCapability) : List (String × ConversationToolScope) :=
  service.policy.conversationScopes.filter (·.2.permits capability destination)

/-- The cursor behind a conversation is short enough to be read back. -/
def ConversationCursorFits (service : DirectConnectorService) (destination : ConnectorDestination)
    (conversationId : String) : Prop :=
  LiveQuery.Minted.Fits (.connector service.source.identity service.policySha256
    (cursorDestination destination) conversationId)

section Listing

variable {destination : ConnectorDestination} {live : LiveQueries}

theorem authorized_ordered (capability : ToolCapability) :
    (authorized service destination capability).Pairwise (·.1 < ·.1) :=
  service.policy.scopesOrdered.filter _

theorem listable_eq (asking : Asking libs service) (operation : ConnectorOperation)
    (after : Option String) :
    listable service (asking.arrival destination live operation) after =
      behind (·.1) (authorized service destination .listConversations) after := by
  rw [listable, behind, authorized, List.filter_filter]
  apply List.filter_congr
  intro entry _
  exact Bool.and_comm _ _

theorem decodeConversationCursor_minted {conversationId : String}
    (h : ConversationCursorFits service destination conversationId) :
    decodeConnectorConversationCursor libs.cursors service.source.identity service.policySha256
        destination (some (encodeConnectorConversationCursor service.source.identity
          service.policySha256 destination conversationId)) = .ok (some conversationId) := by
  have haccept := (LiveQuery.accept_connector libs.cursors LiveQuery.emptySource
    service.source.identity service.policySha256 (cursorDestination destination)
    conversationId).mpr h
  simp only [LiveQuery.Place.accept, bind_ok] at haccept
  obtain ⟨after, hafter, hposition⟩ := haccept
  have hsame : after = conversationId := by
    injection hposition with hposition
    injection hposition
  subst hsame
  have hminted : encodeConnectorConversationCursor service.source.identity service.policySha256
      destination after = LiveQuery.Minted.encode LiveQuery.emptySource
        (.connector service.source.identity service.policySha256 (cursorDestination destination)
          after) := rfl
  simp only [decodeConnectorConversationCursor, hminted, hafter]

/-- One page of the list. -/
theorem conversationPage_eq (asking : Asking libs service) {cursor after : Option String}
    (hdecode : decodeConnectorConversationCursor libs.cursors service.source.identity
      service.policySha256 destination cursor = .ok after)
    (hmetadata : ∀ identifiers : List String, identifiers.length ≤ maxPageLimit →
      (∀ identifier ∈ identifiers,
        identifier ∈ (authorized service destination .listConversations).map (·.1)) →
      ∃ metadata, live.findConversations identifiers = .ok metadata) :
    conversationPage destination live asking cursor =
      .ok ⟨((behind (·.1) (authorized service destination .listConversations) after).take
          (boundedLimit service (asking.limit.getD 100) maxPageLimit)).map (·.1),
        if boundedLimit service (asking.limit.getD 100) maxPageLimit <
            (behind (·.1) (authorized service destination .listConversations) after).length then
          ((behind (·.1) (authorized service destination .listConversations) after).take
            (boundedLimit service (asking.limit.getD 100) maxPageLimit)).getLast?.map
              (encodeConnectorConversationCursor service.source.identity service.policySha256
                destination <| ·.1)
        else none⟩ := by
  have hlimit := (@boundedLimit_bounds service maxPageLimit (by decide)
    (asking.limit.getD 100)).2
  rw [conversationPage, Asking.reply_listConversations, listConversations, outcome_bind_ofExcept]
  have hdecode' : decodeConnectorConversationCursor libs.cursors service.source.identity
      service.policySha256 (asking.arrival destination live
        (.listConversations cursor asking.limit)).request.destination cursor = .ok after := hdecode
  simp only [hdecode', listable_eq, List.take_take]
  generalize boundedLimit service (asking.limit.getD 100) maxPageLimit = limit at hlimit ⊢
  have hmost : min limit (limit + 1) = limit := by omega
  have hmore : limit < ((behind (·.1) (authorized service destination .listConversations)
      after).take (limit + 1)).length ↔
      limit < (behind (·.1) (authorized service destination .listConversations) after).length := by
    rw [List.length_take]
    omega
  obtain ⟨metadata, hfound⟩ := hmetadata
    (((behind (·.1) (authorized service destination .listConversations) after).take limit).map
      (·.1)) (by simp; omega) (by
        intro identifier hidentifier
        obtain ⟨entry, hentry, rfl⟩ := List.mem_map.mp hidentifier
        exact List.mem_map_of_mem (mem_behind.mp (List.mem_of_mem_take hentry)).1)
  have hfound' : (asking.arrival destination live
      (.listConversations cursor asking.limit)).live.findConversations
        (((behind (·.1) (authorized service destination .listConversations) after).take limit).map
          (·.1)) = .ok metadata := hfound
  simp only [hmost, hmore, hfound', Except.mapError, outcome_bind_ofExcept]
  have haudit := fun count => @audit_outcome libs service (asking.arrival destination live
    (.listConversations cursor asking.limit)) asking.journal (asking.valid _ _ _) asking.writes
    "listConversations" rfl none .completed count 0 0
  rw [outcome_bind_ok (haudit _)]
  simp only [outcome_pure, Except.map, ConnectorResult.conversationPage, List.map_map]
  rfl

/-- The list of conversations is drained where each conversation can be described and each one
with others behind it has a cursor that is read back. -/
theorem conversationPage_drains
    (hmetadata : ∀ identifiers : List String, identifiers.length ≤ maxPageLimit →
      (∀ identifier ∈ identifiers,
        identifier ∈ (authorized service destination .listConversations).map (·.1)) →
      ∃ metadata, live.findConversations identifiers = .ok metadata)
    (hfits : ∀ conversationId,
      Passed (·.1) (authorized service destination .listConversations) conversationId →
      ConversationCursorFits service destination conversationId) :
    Drains (@conversationPage libs service destination live)
      ((authorized service destination .listConversations).length + 1) none
      ((authorized service destination .listConversations).map (·.1)) := by
  apply drains_behind (authorized_ordered _)
  · intro asking
    exact (@boundedLimit_bounds service maxPageLimit (by decide) (asking.limit.getD 100)).1
  · intro asking after hafter
    apply conversationPage_eq asking _ hmetadata
    cases after with
    | none => rfl
    | some passed => exact decodeConversationCursor_minted (hfits passed (hafter passed rfl))

end Listing

/-! Pages of one conversation -/

theorem permittedScope_authorized {destination : ConnectorDestination} {capability : ToolCapability}
    {entry : String × ConversationToolScope} (h : entry ∈ authorized service destination capability)
    (arrival : Arrival) (hdestination : arrival.request.destination = destination) :
    permittedScope service arrival entry.1 capability = some entry.2 := by
  obtain ⟨hmem, hpermits⟩ := List.mem_filter.mp h
  obtain ⟨front, back, hscopes⟩ := List.append_of_mem hmem
  have hordered := service.policy.scopesOrdered
  have hlookup : service.policy.conversationScopes.lookup entry.1 = some entry.2 := by
    rw [List.lookup_eq_some_iff]
    refine ⟨front, back, hscopes, ?_⟩
    intro other hother
    rw [hscopes, List.pairwise_append] at hordered
    exact bne_iff_ne.mpr (hordered.2.2 other hother entry List.mem_cons_self).ne'
  rw [permittedScope, hlookup, hdestination, Option.filter_some, if_pos hpermits]

section Reading

variable {arrival : Arrival} {journal : Journal}

/-- A page of a conversation that may be read shows what the databases answer. -/
theorem readPage_ok (hwell : validateRequest arrival.request = .ok ()) (hwrites : Writes libs journal)
    {α : Type} {operation conversationId kind : String}
    (hname : operation = operationName arrival.request.operation)
    {querySha256 cursor : Option String} {capability : ToolCapability} {requested : ℕ}
    {project : ConversationToolScope → α → MinimizedMessage}
    {query : ConversationToolScope → Option String → Except LiveQueryError (QueryPage α)}
    {scope : ConversationToolScope} {decoded : Option DirectReadCursor} {page : QueryPage α}
    {next : Option String}
    (hscope : permittedScope service arrival conversationId capability = some scope)
    (hdecode : decodeReadCursor libs.cursors (readBinding service arrival kind querySha256)
      (some conversationId) cursor = .ok decoded)
    (hquery : query scope (decoded.bind (·.innerCursor)) = .ok page)
    (hnext : pageCursor (readBinding service arrival kind querySha256) conversationId
      page.nextCursor = .ok next) :
    ((outcome (readPage libs service arrival operation conversationId kind querySha256 capability
      cursor requested project query) journal).1.map ConnectorResult.messages).map
        ConnectorResult.messagePage = .ok ⟨page.items.map (project scope), next⟩ := by
  rw [readPage, outcome_bind_ok (authorize_permitted hscope)]
  simp only [outcome_bind_ofExcept, hdecode, hquery, Except.mapError]
  rw [releasePage, outcome_bind_ok (audit_outcome hwell hwrites hname _ _ _ _ _),
    outcome_bind_ofExcept, hnext]
  rfl

end Reading

/-- What a cursor of a request is bound to. -/
def requestBinding (service : DirectConnectorService) (destination : ConnectorDestination)
    (kind : String) (querySha256 : Option String) : CursorBinding where
  kind
  sourceIdentity := service.source.identity
  policySha256 := service.policySha256
  destination
  querySha256

/-- A query that is drained is drained through the connector, as long as the cursors around its
own stay within their limit. -/
theorem readPage_drains {destination : ConnectorDestination} {live : LiveQueries} {α : Type}
    {operation : Option String → Option ℕ → ConnectorOperation} {name kind : String}
    {querySha256 : Option String} {capability : ToolCapability} {requested maximum : ℕ}
    {project : ConversationToolScope → α → MinimizedMessage}
    {entry : String × ConversationToolScope}
    {query : PageSize service maximum → Option String → Except LiveQueryError (QueryPage α)}
    {asks : Asking libs service → ConversationToolScope → Option String →
      Except LiveQueryError (QueryPage α)}
    {inward : Asking libs service → PageSize service maximum}
    (hentry : entry ∈ authorized service destination capability)
    (hname : ∀ cursor limit, name = operationName (operation cursor limit))
    (hreply : ∀ (asking : Asking libs service) cursor,
      asking.reply destination live (operation cursor asking.limit) =
        (outcome (readPage libs service
          (asking.arrival destination live (operation cursor asking.limit)) name entry.1 kind
          querySha256 capability cursor requested project (asks asking))
          asking.journal).1.map .messages)
    (hasks : ∀ asking cursor, asks asking entry.2 cursor = query (inward asking) cursor)
    (hvalid : ∀ size cursor page, query size cursor = .ok page →
      ValidConversationId entry.1 ∧ ∀ inner, cursor = some inner → ValidCursor inner)
    (hfits : ∀ inner, Visited (fun size cursor => (query size cursor).map QueryPage.toPage)
        (some inner) →
      CursorFits (requestBinding service destination kind querySha256) entry.1 (some inner))
    {pages : ℕ} {items : List α}
    (h : Drains (fun size cursor => (query size cursor).map QueryPage.toPage) pages none items) :
    Drains (@messagePage libs service destination live operation) pages none
      (items.map (project entry.2)) := by
  have hstep : ∀ (asking : Asking libs service) (cursor : Option String) (page : Page α String),
      Visited (fun size cursor => (query size cursor).map QueryPage.toPage) cursor →
      (query (inward asking) cursor).map QueryPage.toPage = .ok page →
      messagePage destination live operation asking
          (cursor.map fun inner => readCursorText
            (requestBinding service destination kind querySha256) entry.1 (some inner)) =
        .ok ⟨page.items.map (project entry.2), page.next.map fun inner => readCursorText
          (requestBinding service destination kind querySha256) entry.1 (some inner)⟩ := by
    intro asking cursor page hvisited hpage
    cases hquery : query (inward asking) cursor with
    | error error =>
      rw [hquery] at hpage
      cases hpage
    | ok answer =>
      rw [hquery] at hpage
      obtain rfl := Except.ok.inj hpage
      obtain ⟨hconversation, hinner⟩ := hvalid _ _ _ hquery
      have hnext : ∀ next, answer.nextCursor = some next →
          Visited (fun size cursor => (query size cursor).map QueryPage.toPage) (some next) := by
        intro next hnext
        apply @Visited.next _ _ _ _ _ cursor (inward asking) answer.items next hvisited
        simp [hquery, Except.map, QueryPage.toPage, hnext]
      have hdecode := @decodeReadCursor_page
        (requestBinding service destination kind querySha256) entry.1 cursor libs.cursors
        hconversation (fun inner h => hfits inner (h ▸ hvisited)) hinner
      rw [messagePage, hreply]
      apply readPage_ok (asking.valid _ _ _) asking.writes (hname _ _)
        (permittedScope_authorized hentry _ rfl) hdecode
      · rw [hasks]
        cases cursor with
        | none => exact hquery
        | some inner => exact hquery
      · exact pageCursor_fits fun inner hinner => hfits inner (hnext inner hinner)
  exact Drains.dressed hstep .start h

end GreenBubbles.Direct
