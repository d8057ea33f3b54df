import GreenBubbles.Direct.Service

/-! # Decisions on the journal

What the journal owes to a request, and where a request is answered or refused
with its event: everywhere but at the places that do not audit.
-/
namespace GreenBubbles.Direct

open Library Library.Bytes Library.Outcomes
open Connector (ConnectorAuditEvent ConnectorAuditOutcome Journal SerdeJson
  appendOwnerOnlyConnectorEvent appendedRecord maxConnectorAuditBytes maxConnectorAuditRecordBytes)

/-! What the journal owes to a request -/

/-- The operations that the direct connector leaves to the replica connector. -/
def isReplicaOnly : ConnectorOperation → Bool
  | .capabilities => false
  | .status => false
  | .listConversations .. => false
  | .searchMessages .. => false
  | .getMessages .. => false
  | .getMessage _ => false
  | _ => true

def ConnectorResult.itemCount : ConnectorResult → ℕ
  | .capabilities _ => 1
  | .directStatus _ => 1
  | .conversations list => list.conversations.length
  | .messages page => page.messages.length
  | .message found => found.toList.length

def ConnectorResult.bodyBytes : ConnectorResult → ℕ
  | .messages page => releasedBodyBytes page.messages
  | .message found => releasedBodyBytes found.toList
  | _ => 0

section Decisive

variable (service : DirectConnectorService) (arrival : Arrival)

/-- The first of the conversations asked that does not pass the identity on. -/
def decisiveAmong (capability : ToolCapability)
    (lookup : String → Except LiveQueryError MessageItem) (scopes : List (String × ConversationToolScope)) :
    Option (String × ConversationToolScope × Except LiveQueryError MessageItem) :=
  scopes.findSome? fun entry =>
    if entry.2.permits capability arrival.request.destination then
      match lookup entry.1 with
      | .error (.invalidCursor _) => none
      | resource => some (entry.1, entry.2, resource)
    else none

/-- The conversation that decides on a message, its scope and its answer. -/
def decisive (canonicalId : String) :
    Option (String × ConversationToolScope × Except LiveQueryError MessageItem) :=
  let scopes := service.policy.conversationScopes
  (decisiveAmong arrival .readRecentMessages (arrival.live.getMessage · canonicalId) scopes).or
    (decisiveAmong arrival .searchMessages (searchResource arrival canonicalId) scopes)

/-- The conversation a request is decided for. -/
def decidedConversation : Option String :=
  match arrival.request.operation with
  | .getMessage canonicalId => (decisive service arrival canonicalId).map (·.1)
  | operation => operationConversation operation

/-- The event names whose request it records, and for which conversation. -/
structure Names (event : ConnectorAuditEvent) : Prop where
  account : event.accountId = service.policy.accountId
  requester : event.requesterId = arrival.request.requesterId
  request : event.requestId = arrival.request.requestId
  operation : event.operation = operationName arrival.request.operation
  conversation : event.conversationId = decidedConversation service arrival
  destination : event.destination = arrival.request.destination

/-- The events of a request are what its response asks for. -/
structure Journalled (response : ConnectorResponse) (events : List ConnectorAuditEvent) : Prop where
  answered : response.ok = true → ∃ event result, events = [event] ∧
    response.result = some result ∧ Names service arrival event ∧ event.outcome = .completed ∧
    event.returnedItemCount = result.itemCount ∧ event.releasedBodyByteCount = result.bodyBytes
  refused : ∀ error, response.error = some error →
    error.code = .unauthorized ∨ isReplicaOnly arrival.request.operation = true →
    ∃ event, events = [event] ∧ Names service arrival event ∧ event.outcome = .denied ∧
      event.returnedItemCount = 0 ∧ event.releasedBodyByteCount = 0
  failed : response.ok = false → ∀ event ∈ events, event.outcome ≠ .completed

end Decisive

/-- The journal is accepted and holds the events, or there is none yet. -/
def Audits (serde : SerdeJson) (accountId : String) (journal : Journal)
    (events : List ConnectorAuditEvent) : Prop :=
  match journal with
  | none => events = []
  | some file => ∃ report, Connector.verifiedConnectorLogForAccount serde (some file)
      (some accountId) = .ok (report, events)

/-! Where the record of an event fits -/

/-- The record has at most the length of a record, and the journal with it at
most the length of a journal. -/
def HasRoom (serde : SerdeJson) (journal : Journal) (event : ConnectorAuditEvent) : Prop :=
  ∀ record, appendedRecord serde (journal.getD ⟨true, []⟩) event = .ok record →
    record.length ≤ maxConnectorAuditRecordBytes + 1 ∧
      journal.bytes.length + record.length ≤ maxConnectorAuditBytes

variable (libs : DirectLibraries) (service : DirectConnectorService) (arrival : Arrival)
  (journal : Journal)

/-- The event a request is recorded by. -/
def requestEvent (conversationId : Option String) (outcome : ConnectorAuditOutcome)
    (returnedItemCount releasedBodyByteCount requestBodyByteCount : ℕ) : ConnectorAuditEvent :=
  auditEvent libs service arrival (operationName arrival.request.operation) conversationId outcome
    returnedItemCount releasedBodyByteCount requestBodyByteCount

def RoomFor (conversationId : Option String) (outcome : ConnectorAuditOutcome)
    (returnedItemCount releasedBodyByteCount requestBodyByteCount : ℕ) : Prop :=
  HasRoom libs.serde journal (requestEvent libs service arrival conversationId outcome
    returnedItemCount releasedBodyByteCount requestBodyByteCount)

/-- A page whose event has room and whose next cursor is short enough. -/
def PageRecordable {α : Type} (conversationId : String) (binding : CursorBinding)
    (requestBodyByteCount : ℕ) (project : α → MinimizedMessage) (page : QueryPage α) : Prop :=
  RoomFor libs service arrival journal (some conversationId) .completed page.items.length
    (releasedBodyBytes (page.items.map project)) requestBodyByteCount ∧
  ∃ cursor, pageCursor binding conversationId page.nextCursor = .ok cursor

def RecordablePage {α : Type} (conversationId kind : String) (querySha256 : Option String)
    (capability : ToolCapability) (cursor : Option String) (requestBodyByteCount : ℕ)
    (project : ConversationToolScope → α → MinimizedMessage)
    (query : ConversationToolScope → Option String → Except LiveQueryError (QueryPage α)) : Prop :=
  match permittedScope service arrival conversationId capability with
  | none => RoomFor libs service arrival journal (some conversationId) .denied 0 0 0
  | some scope =>
    let binding := readBinding service arrival kind querySha256
    ∀ decoded page, decodeReadCursor libs.cursors binding (some conversationId) cursor =
        .ok decoded →
      query scope (decoded.bind (·.innerCursor)) = .ok page →
      PageRecordable libs service arrival journal conversationId binding requestBodyByteCount
        (project scope) page

/-- A search through all conversations: one of them permits it, and its event has room. -/
def RecordableSearch (query : String) (cursor : Option String) (limit : ℕ) : Prop :=
  let binding := readBinding service arrival "searchAcross" (some (directQueryDigest query))
  searchable service arrival ≠ [] ∧
  ∀ decoded remaining found, decodeReadCursor libs.cursors binding none cursor = .ok decoded →
    searchFrom (searchable service arrival) decoded = .ok remaining →
    searchAcross service arrival binding query limit remaining (decoded.bind (·.innerCursor)) 0
      { messages := []
        limitationCodes := {"directCrossConversationSearchOrderedByConversation"}
        omittedMessageCount := 0
        nextCursor := none } = .ok found →
    RoomFor libs service arrival journal none .completed found.messages.length
      (releasedBodyBytes found.messages) query.utf8ByteSize

/-- The conversation that decides on a message has it, within the times of its scope. -/
def RecordableMessage (canonicalId : String) : Prop :=
  match decisive service arrival canonicalId with
  | none => RoomFor libs service arrival journal none .denied 0 0 0
  | some (conversationId, scope, .ok item) =>
    includesTimestamp scope item.createdAtUnix = true ∧
    RoomFor libs service arrival journal (some conversationId) .completed 1
      (releasedBodyBytes [projectMessage service.source service.policy scope item]) 0
  | some (_, _, .error (.notFound _)) => False
  | some (_, _, .error _) => True

/-- The request does not reach a place that answers or refuses without an audit,
and its event fits into the journal. -/
def Recordable : Prop :=
  match arrival.request.operation with
  | .capabilities => RoomFor libs service arrival journal none .completed 1 0 0
  | .status => RoomFor libs service arrival journal none .completed 1 0 0
  | .listConversations cursor limit =>
    ∀ after, decodeConnectorConversationCursor libs.cursors service.source.identity
        service.policySha256 arrival.request.destination cursor = .ok after →
      let count := min (boundedLimit service (limit.getD 100) maxPageLimit)
        (listable service arrival after).length
      RoomFor libs service arrival journal none .completed count 0 0
  | .getMessages conversationId cursor limit =>
    RecordablePage libs service arrival journal conversationId "messages" none .readRecentMessages
      cursor 0 (projectMessage service.source service.policy) fun scope inner =>
        arrival.live.listMessagesInTimeRange conversationId
          (boundedLimit service (limit.getD 20) maxPageLimit) inner scope.notBeforeUnix
          scope.notAfterUnix
  | .searchMessages query (some conversationId) cursor limit =>
    RecordablePage libs service arrival journal conversationId "searchScoped"
      (some (directQueryDigest query)) .searchMessages cursor query.utf8ByteSize
      (projectSearchHit service.source service.policy) fun scope inner =>
        arrival.live.searchMessagesInTimeRange query conversationId
          (boundedLimit service (limit.getD 20) maxSearchLimit) inner scope.notBeforeUnix
          scope.notAfterUnix
  | .searchMessages query none cursor limit =>
    RecordableSearch libs service arrival journal query cursor
      (boundedLimit service (limit.getD 20) maxSearchLimit)
  | .getMessage canonicalId => RecordableMessage libs service arrival journal canonicalId
  | operation =>
    RoomFor libs service arrival journal (operationConversation operation) .denied 0 0 0

/-! How one request ends -/

/-- The journal with an event appended. -/
def written (event : ConnectorAuditEvent) : Journal :=
  (outcome (appendOwnerOnlyConnectorEvent libs.serde event) journal).2

/-- A request ends answered or refused, each with its event, or it fails without one. -/
inductive Decided {α : Type} (conversationId : Option String) (items bytes : α → ℕ) :
    Except ConnectorErrorBody α × Journal → Prop
  | answered (value : α) (requested : ℕ)
      (hroom : RoomFor libs service arrival journal conversationId .completed (items value)
        (bytes value) requested) :
      Decided conversationId items bytes (.ok value, written libs journal
        (requestEvent libs service arrival conversationId .completed (items value) (bytes value)
          requested))
  | refused (error : ConnectorErrorBody)
      (hroom : RoomFor libs service arrival journal conversationId .denied 0 0 0) :
      Decided conversationId items bytes (.error error, written libs journal
        (requestEvent libs service arrival conversationId .denied 0 0 0))
  | failed (error : ConnectorErrorBody) (hcode : error.code ≠ .unauthorized)
      (hoperation : isReplicaOnly arrival.request.operation = false) :
      Decided conversationId items bytes (.error error, journal)

variable {libs service arrival journal}

theorem Decided.map {α β : Type} {conversationId : Option String} {items bytes : α → ℕ}
    {items' bytes' : β → ℕ} {f : α → β} {program : Handler α}
    (h : Decided libs service arrival journal conversationId items bytes (outcome program journal))
    (hitems : ∀ value, items' (f value) = items value)
    (hbytes : ∀ value, bytes' (f value) = bytes value) :
    Decided libs service arrival journal conversationId items' bytes'
      (outcome (f <$> program) journal) := by
  rw [outcome_map]
  cases hends : outcome program journal with
  | mk result after =>
    rw [hends] at h
    cases h with
    | answered value requested hroom =>
      have hroom' := hroom
      rw [← hitems, ← hbytes] at hroom'
      have hdecided := @Decided.answered libs service arrival journal β conversationId items' bytes'
        (f value) requested hroom'
      rw [hitems, hbytes] at hdecided
      exact hdecided
    | refused error hroom => exact .refused error hroom
    | failed error hcode hoperation => exact .failed error hcode hoperation

/-- The journal takes every event. -/
def Writes (libs : DirectLibraries) (journal : Journal) : Prop :=
  ∀ event : ConnectorAuditEvent, event.Sound →
    (outcome (appendOwnerOnlyConnectorEvent libs.serde event) journal).1 = .ok ()

theorem operationName_ne_empty (operation : ConnectorOperation) : operationName operation ≠ "" := by
  cases operation <;> simp [operationName]

theorem invalidUnless_ok {condition : Bool} {message : String} {result : Unit} :
    invalidUnless condition message = .ok result ↔ condition = true := by
  cases condition <;> simp [invalidUnless]

theorem requestEvent_sound (hwell : validateRequest arrival.request = .ok ())
    (conversationId : Option String) (outcome : ConnectorAuditOutcome)
    (returned released requested : ℕ) :
    (requestEvent libs service arrival conversationId outcome returned released
      requested).Sound := by
  simp only [validateRequest, bind_ok, invalidUnless_ok, Bool.and_eq_true, bne_iff_ne] at hwell
  obtain ⟨-, -, -, hrequest, hrequester⟩ := hwell
  exact
    { eventId := isSha256_hexDigest _
      account := service.policy.accountNamed
      requester := hrequester.1
      request := hrequest.1
      operation := operationName_ne_empty _
      draft := rfl
      policy := rfl }

theorem authorize_permitted {operation conversationId : String} {capability : ToolCapability}
    {scope : ConversationToolScope}
    (h : permittedScope service arrival conversationId capability = some scope) :
    outcome (authorize libs service arrival conversationId capability operation) journal =
      (.ok scope, journal) := by
  simp [authorize, h]

section Operations

variable (hwell : validateRequest arrival.request = .ok ()) (hwrites : Writes libs journal)

include hwell hwrites

/-- An audit of a well-formed request succeeds. -/
theorem audit_outcome {operation : String}
    (hname : operation = operationName arrival.request.operation)
    (conversationId : Option String) (outcome' : ConnectorAuditOutcome)
    (returned released requested : ℕ) :
    outcome (audit libs service arrival operation conversationId outcome' returned released
      requested) journal =
      (.ok (), written libs journal (requestEvent libs service arrival conversationId outcome'
        returned released requested)) := by
  have hsound : (requestEvent libs service arrival conversationId outcome' returned released
      requested).Sound := requestEvent_sound hwell _ _ _ _ _
  have hok := hwrites _ hsound
  rw [audit, outcome_adaptExcept, hname]
  change (_, _) = (_, _)
  rw [requestEvent] at hok ⊢
  rw [hok]
  rfl

theorem authorize_refused {operation : String}
    (hname : operation = operationName arrival.request.operation)
    {conversationId : String} {capability : ToolCapability}
    (h : permittedScope service arrival conversationId capability = none) :
    outcome (authorize libs service arrival conversationId capability operation) journal =
      (.error (unauthorized "operation is outside the authorized conversation or destination scope"),
        written libs journal
          (requestEvent libs service arrival (some conversationId) .denied 0 0 0)) := by
  simp only [authorize, h, outcome_bind, outcome_ignore, audit_outcome hwell hwrites hname,
    outcome_throw]

theorem releasePage_decided {α : Type} {operation conversationId : String}
    (hname : operation = operationName arrival.request.operation) (scope : ConversationToolScope)
    {binding : CursorBinding} {requested : ℕ} {project : α → MinimizedMessage} {page : QueryPage α}
    (h : PageRecordable libs service arrival journal conversationId binding requested project page) :
    Decided libs service arrival journal (some conversationId) (·.messages.length)
      (releasedBodyBytes ·.messages)
      (outcome (releasePage libs service arrival operation conversationId scope binding requested
        project page) journal) := by
  obtain ⟨hroom, cursor, hcursor⟩ := h
  have hlength : (page.items.map project).length = page.items.length := List.length_map _
  simp only [releasePage, outcome_bind, audit_outcome hwell hwrites hname, hcursor,
    outcome_ofExcept, outcome_pure]
  rw [← hlength] at hroom
  exact .answered _ requested hroom

theorem readPage_decided {α : Type} {operation conversationId kind : String}
    (hname : operation = operationName arrival.request.operation)
    (hdirect : isReplicaOnly arrival.request.operation = false)
    {querySha256 cursor : Option String} {capability : ToolCapability} {requested : ℕ}
    {project : ConversationToolScope → α → MinimizedMessage}
    {query : ConversationToolScope → Option String → Except LiveQueryError (QueryPage α)}
    (h : RecordablePage libs service arrival journal conversationId kind querySha256 capability
      cursor requested project query) :
    Decided libs service arrival journal (some conversationId) (·.messages.length)
      (releasedBodyBytes ·.messages)
      (outcome (readPage libs service arrival operation conversationId kind querySha256 capability
        cursor requested project query) journal) := by
  cases hscope : permittedScope service arrival conversationId capability with
  | none =>
    rw [RecordablePage, hscope] at h
    rw [readPage, outcome_bind_error (authorize_refused hwell hwrites hname hscope)]
    exact .refused _ h
  | some scope =>
    rw [RecordablePage, hscope] at h
    rw [readPage, outcome_bind_ok (authorize_permitted hscope)]
    simp only [outcome_bind_ofExcept]
    cases hdecode : decodeReadCursor libs.cursors (readBinding service arrival kind querySha256)
        (some conversationId) cursor with
    | error error =>
      exact .failed error (by simp [decodeReadCursor_code hdecode]) hdirect
    | ok decoded =>
      cases hquery : query scope (decoded.bind (·.innerCursor)) with
      | error error =>
        simp only [hquery, Except.mapError]
        exact .failed _ (queryError_code error) hdirect
      | ok page =>
        simp only [hquery, Except.mapError]
        exact releasePage_decided hwell hwrites hname scope (h decoded page hdecode hquery)

theorem listConversations_decided {cursor : Option String} {limit : ℕ}
    (hname : "listConversations" = operationName arrival.request.operation)
    (hdirect : isReplicaOnly arrival.request.operation = false)
    (h : ∀ after, decodeConnectorConversationCursor libs.cursors service.source.identity
        service.policySha256 arrival.request.destination cursor = .ok after →
      RoomFor libs service arrival journal none .completed
        (min (boundedLimit service limit maxPageLimit) (listable service arrival after).length)
        0 0) :
    Decided libs service arrival journal none (·.conversations.length) (fun _ => 0)
      (outcome (listConversations libs service arrival cursor limit) journal) := by
  rw [listConversations, outcome_bind_ofExcept]
  cases hdecode : decodeConnectorConversationCursor libs.cursors service.source.identity
      service.policySha256 arrival.request.destination cursor with
  | error error =>
    exact .failed error (by simp [decodeConnectorConversationCursor_code hdecode]) hdirect
  | ok after =>
    simp only [outcome_bind_ofExcept]
    generalize hselected : ((listable service arrival after).take
      (boundedLimit service limit maxPageLimit + 1)).take (boundedLimit service limit maxPageLimit) =
        selected
    have hcount : selected.length =
        min (boundedLimit service limit maxPageLimit) (listable service arrival after).length := by
      rw [← hselected, List.length_take, List.length_take]
      omega
    have hroom := h after hdecode
    rw [← hcount] at hroom
    cases hmetadata : arrival.live.findConversations (selected.map (·.1)) with
    | error error =>
      simp only [Except.mapError]
      exact .failed _ (queryError_code error) hdirect
    | ok metadata =>
      simp only [Except.mapError, outcome_bind, List.length_map,
        audit_outcome hwell hwrites hname, outcome_pure]
      rw [← @List.length_map _ _ selected
        (fun entry => conversationView libs (metadata entry.1) entry.1 entry.2)] at hroom ⊢
      exact .answered _ 0 hroom

end Operations

/-! The conversation that decides on a message -/

theorem askConversations_eq (capability : ToolCapability)
    (lookup : String → Except LiveQueryError MessageItem)
    (scopes : List (String × ConversationToolScope)) (next : Handler (Option MinimizedMessage)) :
    askConversations libs service arrival capability lookup scopes next =
      match decisiveAmong arrival capability lookup scopes with
      | none => next
      | some (conversationId, scope, resource) =>
        releaseMessage libs service arrival conversationId scope resource next := by
  induction scopes with
  | nil => rfl
  | cons entry rest ih =>
    by_cases hpermits : entry.2.permits capability arrival.request.destination = true
    · rw [askConversations, if_pos hpermits, ih]
      cases hlookup : lookup entry.1 with
      | ok item => simp [decisiveAmong, hpermits, hlookup, releaseMessage]
      | error error =>
        cases error <;> simp [decisiveAmong, hpermits, hlookup, releaseMessage]
    · rw [askConversations, if_neg hpermits, ih]
      simp [decisiveAmong, hpermits]

/-- The conversation that decides does not pass the identity on. -/
theorem decisiveAmong_decides {capability : ToolCapability}
    {lookup : String → Except LiveQueryError MessageItem}
    {scopes : List (String × ConversationToolScope)} {conversationId message : String}
    {scope : ConversationToolScope} : decisiveAmong arrival capability lookup scopes ≠
      some (conversationId, scope, .error (.invalidCursor message)) := by
  intro h
  obtain ⟨entry, -, hentry⟩ := List.exists_of_findSome?_eq_some h
  split at hentry
  · split at hentry
    · cases hentry
    · next hresource =>
      simp only [Option.some.injEq, Prod.mk.injEq] at hentry
      exact hresource message hentry.2.2
  · cases hentry

theorem decisive_decides {canonicalId conversationId message : String}
    {scope : ConversationToolScope} : decisive service arrival canonicalId ≠
      some (conversationId, scope, .error (.invalidCursor message)) := by
  rw [decisive, ne_eq, Option.or_eq_some_iff]
  rintro (h | ⟨-, h⟩)
  · exact decisiveAmong_decides h
  · exact decisiveAmong_decides h

theorem releaseMessage_next {conversationId : String} {scope : ConversationToolScope}
    {resource : Except LiveQueryError MessageItem}
    (h : ∀ message, resource ≠ .error (.invalidCursor message))
    (next next' : Handler (Option MinimizedMessage)) :
    releaseMessage libs service arrival conversationId scope resource next =
      releaseMessage libs service arrival conversationId scope resource next' := by
  cases resource with
  | ok item => rfl
  | error error =>
    cases error with
    | invalidCursor message => exact absurd rfl (h message)
    | _ => rfl

/-- What is done when no conversation decides on the message. -/
def refuseMessage (libs : DirectLibraries) (service : DirectConnectorService) (arrival : Arrival) :
    Handler (Option MinimizedMessage) := do
  ignore (audit libs service arrival "getMessage" none .denied 0 0 0)
  throw (unauthorized
    "message identity is outside the authorized conversation or destination scope")

/-- The deciding conversation is all that the outcome depends on. -/
theorem getMessage_eq (canonicalId : String) :
    getMessage libs service arrival canonicalId =
      match decisive service arrival canonicalId with
      | none => refuseMessage libs service arrival
      | some (conversationId, scope, resource) =>
        releaseMessage libs service arrival conversationId scope resource
          (refuseMessage libs service arrival) := by
  rw [getMessage, askConversations_eq, askConversations_eq, decisive]
  cases hread : decisiveAmong arrival .readRecentMessages
      (arrival.live.getMessage · canonicalId) service.policy.conversationScopes with
  | none => rfl
  | some decided =>
    rw [Option.some_or]
    apply releaseMessage_next
    intro message hresource
    have hdecides := @decisiveAmong_decides arrival .readRecentMessages
      (arrival.live.getMessage · canonicalId) service.policy.conversationScopes decided.1 message
      decided.2.1
    rw [hread, ← hresource] at hdecides
    exact hdecides rfl

/-! Searches across conversations -/

theorem searchAcross_code {binding : CursorBinding} {query : String} {limit scanned : ℕ}
    {conversations : List (String × ConversationToolScope)} {innerCursor : Option String}
    {found : AcrossPage} {error : ConnectorErrorBody}
    (h : searchAcross service arrival binding query limit conversations innerCursor scanned found =
      .error error) : error.code ≠ .unauthorized := by
  induction conversations generalizing innerCursor scanned found with
  | nil => cases h
  | cons entry rest ih =>
    rw [searchAcross] at h
    split_ifs at h
    rw [bind_error] at h
    rcases h with h | ⟨page, -, h⟩
    · cases hquery : arrival.live.searchMessagesInTimeRange query entry.1
          (limit - found.messages.length) innerCursor entry.2.notBeforeUnix entry.2.notAfterUnix with
      | error failure =>
        rw [hquery] at h
        obtain rfl := Except.error.inj h
        exact queryError_code failure
      | ok page =>
        rw [hquery] at h
        cases h
    · cases hnext : page.nextCursor with
      | some nativeNext =>
        simp only [hnext, bind_error] at h
        rcases h with h | ⟨cursor, -, h⟩
        · simp [encodeReadCursor_code h]
        · cases h
      | none =>
        simp only [hnext] at h
        cases rest with
        | nil => cases h
        | cons following rest =>
          simp only [bind_error] at h
          rcases h with h | ⟨cursor, -, h⟩
          · simp [encodeReadCursor_code h]
          · exact ih h

theorem searchFrom_code {searchable : List (String × ConversationToolScope)}
    {decoded : Option DirectReadCursor} {error : ConnectorErrorBody}
    (h : searchFrom searchable decoded = .error error) : error.code = .invalidRequest := by
  cases decoded with
  | none => cases h
  | some decoded =>
    simp only [searchFrom] at h
    split at h
    · exact congrArg _ (Except.error.inj h).symm
    · cases h

section Operations

variable (hwell : validateRequest arrival.request = .ok ()) (hwrites : Writes libs journal)

include hwell hwrites

theorem searchEverywhere_decided {query : String} {cursor : Option String} {limit : ℕ}
    (hname : "searchMessages" = operationName arrival.request.operation)
    (hdirect : isReplicaOnly arrival.request.operation = false)
    (h : RecordableSearch libs service arrival journal query cursor limit) :
    Decided libs service arrival journal none (·.messages.length) (releasedBodyBytes ·.messages)
      (outcome (searchEverywhere libs service arrival query cursor limit) journal) := by
  obtain ⟨hsome, hroom⟩ := h
  have hnonempty : (searchable service arrival).isEmpty = false := by simpa using hsome
  rw [searchEverywhere]
  simp only [hnonempty, Bool.false_eq_true, if_false, outcome_bind_ofExcept]
  cases hdecode : decodeReadCursor libs.cursors
      (readBinding service arrival "searchAcross" (some (directQueryDigest query))) none cursor with
  | error error => exact .failed error (by simp [decodeReadCursor_code hdecode]) hdirect
  | ok decoded =>
    dsimp only
    cases hfrom : searchFrom (searchable service arrival) decoded with
    | error error => exact .failed error (by simp [searchFrom_code hfrom]) hdirect
    | ok remaining =>
      dsimp only
      cases hfound : searchAcross service arrival
          (readBinding service arrival "searchAcross" (some (directQueryDigest query))) query limit
          remaining (decoded.bind (·.innerCursor)) 0
          { messages := []
            limitationCodes := {"directCrossConversationSearchOrderedByConversation"}
            omittedMessageCount := 0
            nextCursor := none } with
      | error error => exact .failed error (searchAcross_code hfound) hdirect
      | ok found =>
        simp only [outcome_bind, audit_outcome hwell hwrites hname, outcome_pure]
        exact .answered _ _ (hroom decoded remaining found hdecode hfrom hfound)

theorem getMessage_decided {canonicalId : String}
    (hname : "getMessage" = operationName arrival.request.operation)
    (hdirect : isReplicaOnly arrival.request.operation = false)
    (h : RecordableMessage libs service arrival journal canonicalId) :
    Decided libs service arrival journal ((decisive service arrival canonicalId).map (·.1))
      (·.toList.length) (releasedBodyBytes ·.toList)
      (outcome (getMessage libs service arrival canonicalId) journal) := by
  rw [getMessage_eq]
  rw [RecordableMessage] at h
  cases hdecisive : decisive service arrival canonicalId with
  | none =>
    rw [hdecisive] at h
    simp only [refuseMessage, outcome_bind, outcome_ignore, audit_outcome hwell hwrites hname,
      outcome_throw]
    exact .refused _ h
  | some decided =>
    obtain ⟨conversationId, scope, resource⟩ := decided
    rw [hdecisive] at h
    cases resource with
    | ok item =>
      obtain ⟨htime, hroom⟩ := h
      have hbytes : ((projectMessage service.source service.policy scope item).payloadSummary.map
          String.utf8ByteSize).getD 0 =
          releasedBodyBytes [projectMessage service.source service.policy scope item] := by
        rw [releasedBodyBytes]
        cases hsummary : (projectMessage service.source service.policy scope item).payloadSummary <;>
          simp [hsummary]
      simp only [releaseMessage, htime, if_true, outcome_bind, hbytes,
        audit_outcome hwell hwrites hname, outcome_pure]
      exact .answered (some (projectMessage service.source service.policy scope item)) 0 hroom
    | error error =>
      cases error with
      | invalidCursor message => exact absurd hdecisive decisive_decides
      | notFound message => exact h.elim
      | conversationSelection message => exact .failed _ (queryError_code _) hdirect
      | invalidArgument message => exact .failed _ (queryError_code _) hdirect
      | unsafeSource message => exact .failed _ (queryError_code _) hdirect
      | database message => exact .failed _ (queryError_code _) hdirect
      | searchUnavailable message => exact .failed _ (queryError_code _) hdirect
      | responseTooLarge maximumBytes => exact .failed _ (queryError_code _) hdirect

theorem refuseReplicaOnly_decided
    (hroom : RoomFor libs service arrival journal
      (operationConversation arrival.request.operation) .denied 0 0 0) :
    Decided libs service arrival journal (operationConversation arrival.request.operation)
      ConnectorResult.itemCount ConnectorResult.bodyBytes
      (outcome (refuseReplicaOnly libs service arrival) journal) := by
  simp only [refuseReplicaOnly, outcome_bind, outcome_ignore, audit_outcome hwell hwrites rfl,
    outcome_throw]
  exact .refused _ hroom

theorem auditMetadata_decided {operation : String}
    (hname : operation = operationName arrival.request.operation)
    (result : ConnectorResult) (hitems : result.itemCount = 1) (hbytes : result.bodyBytes = 0)
    (hroom : RoomFor libs service arrival journal none .completed 1 0 0) :
    Decided libs service arrival journal none ConnectorResult.itemCount ConnectorResult.bodyBytes
      (outcome (do auditMetadata libs service arrival operation; return result) journal) := by
  simp only [auditMetadata, outcome_bind, audit_outcome hwell hwrites hname, outcome_pure]
  have hresult : RoomFor libs service arrival journal none .completed result.itemCount
      result.bodyBytes 0 := by
    rw [hitems, hbytes]
    exact hroom
  have hdecided := @Decided.answered libs service arrival journal ConnectorResult none
    ConnectorResult.itemCount ConnectorResult.bodyBytes result 0 hresult
  rw [hitems, hbytes] at hdecided
  exact hdecided

/-- Every request that does not reach a place without an audit is decided on. -/
theorem dispatch_decided (h : Recordable libs service arrival journal) :
    Decided libs service arrival journal (decidedConversation service arrival)
      ConnectorResult.itemCount ConnectorResult.bodyBytes
      (outcome (dispatch libs service arrival) journal) := by
  rw [dispatch, outcome_bind_ofExcept, hwell]
  rw [Recordable] at h
  dsimp only
  rw [decidedConversation]
  have hname : operationName arrival.request.operation = operationName arrival.request.operation :=
    rfl
  cases hoperation : arrival.request.operation with
  | capabilities =>
    rw [hoperation] at h hname
    exact auditMetadata_decided hwell hwrites (hoperation ▸ rfl) _ rfl rfl h
  | status =>
    rw [hoperation] at h hname
    exact auditMetadata_decided hwell hwrites (hoperation ▸ rfl) _ rfl rfl h
  | listConversations cursor limit =>
    rw [hoperation] at h
    exact (listConversations_decided hwell hwrites (hoperation ▸ rfl) (hoperation ▸ rfl) h).map
      (fun _ => rfl) fun _ => rfl
  | getMessages conversationId cursor limit =>
    rw [hoperation] at h
    exact (readPage_decided hwell hwrites (hoperation ▸ rfl) (hoperation ▸ rfl) h).map
      (fun _ => rfl) fun _ => rfl
  | searchMessages query conversationId cursor limit =>
    rw [hoperation] at h
    cases conversationId with
    | none =>
      exact (searchEverywhere_decided hwell hwrites (hoperation ▸ rfl) (hoperation ▸ rfl) h).map
        (fun _ => rfl) fun _ => rfl
    | some conversationId =>
      exact (readPage_decided hwell hwrites (hoperation ▸ rfl) (hoperation ▸ rfl) h).map
        (fun _ => rfl) fun _ => rfl
  | getMessage canonicalId =>
    rw [hoperation] at h
    exact (getMessage_decided hwell hwrites (hoperation ▸ rfl) (hoperation ▸ rfl) h).map
      (fun _ => rfl) fun _ => rfl
  | _ =>
    rw [hoperation] at h
    have hdecided := refuseReplicaOnly_decided hwell hwrites (by rw [hoperation]; exact h)
    rw [hoperation] at hdecided
    exact hdecided

end Operations

end GreenBubbles.Direct
