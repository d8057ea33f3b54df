import GreenBubbles.Direct.Decisions
import GreenBubbles.Library.Framing
import GreenBubbles.Library.Runs
import GreenBubbles.LiveQuery.Belonging

/-! # The journal of a run

Requests are handled one after the other. The journal they leave is accepted and
holds one event for every answer and every refusal, as long as none of them is
decided at a place that does not audit.
-/
namespace GreenBubbles.Direct

open Library Library.Bytes Library.Outcomes
open Connector (AuditLog ConnectorAuditEvent ConnectorAuditOutcome Journal Kept SerdeJson
  appendOwnerOnlyConnectorEvent appendedRecord)

variable {libs : DirectLibraries} {service : DirectConnectorService} {arrival : Arrival}
  {journal : Journal}

/-! The journal a run leaves -/

/-- A journal of the service that is kept. -/
structure Holds (libs : DirectLibraries) (service : DirectConnectorService) (journal : Journal)
    (log : AuditLog) : Prop where
  kept : Kept libs.serde service.policy.accountId journal.bytes log
  ownerOnly : journal.all (·.ownerOnly) = true

theorem Holds.appended {log : AuditLog} (h : Holds libs service journal log)
    {event : ConnectorAuditEvent} (hevent : event.Sound) :
    appendedRecord libs.serde (journal.getD ⟨true, []⟩) event =
      .ok ((event.appended log.previousDigest).line ++ [10]) := by
  cases journal with
  | none => exact Kept.appendedRecord h.kept rfl hevent
  | some file => exact Kept.appendedRecord h.kept (by simpa using h.ownerOnly) hevent

theorem Holds.outcome {log : AuditLog} (h : Holds libs service journal log)
    {event : ConnectorAuditEvent} (hevent : event.Sound) :
    outcome (appendOwnerOnlyConnectorEvent libs.serde event) journal =
      (.ok (), some ⟨true, journal.bytes ++ ((event.appended log.previousDigest).line ++ [10])⟩) := by
  have hrecord := h.appended hevent
  have howner : journal.getD ⟨true, []⟩ = ⟨true, journal.bytes⟩ := by
    cases journal with
    | none => rfl
    | some file =>
      have hfile : file.ownerOnly = true := by simpa using h.ownerOnly
      simp [Connector.Journal.bytes, ← hfile]
  rw [howner] at hrecord
  simp [Outcomes.outcome, appendOwnerOnlyConnectorEvent, howner, hrecord]

theorem Holds.writes {log : AuditLog} (h : Holds libs service journal log) :
    Writes libs journal := by
  intro event hevent
  rw [h.outcome hevent]

/-- The reader of the journal reads an event back from its line. -/
def ReadsBack (serde : SerdeJson) : Prop :=
  ∀ event : ConnectorAuditEvent, event.wellFormed = true →
    serde.eventFromSlice event.line = .ok event

/-- What an event's identity is the digest of, by its outcome. -/
def identities (libs : DirectLibraries) (service : DirectConnectorService) (arrival : Arrival) :
    List String :=
  [ConnectorAuditOutcome.completed, .denied].map
    (auditIdentity libs service arrival (operationName arrival.request.operation)
      (decidedConversation service arrival))

def identityDigest (text : String) : String := Sha256.hexDigest (utf8 text)

theorem Holds.record {log : AuditLog} (h : Holds libs service journal log)
    (hreads : ReadsBack libs.serde) {event : ConnectorAuditEvent} (hevent : event.Sound)
    (haccount : event.accountId = service.policy.accountId)
    (hfresh : event.eventId ∉ log.events.map (·.eventId)) (hroom : HasRoom libs.serde journal event) :
    ∃ after, Holds libs service (written libs journal event) after ∧
      after.events = log.events ++ [event.appended log.previousDigest] := by
  obtain ⟨hsize, htotal⟩ := hroom _ (h.appended hevent)
  rw [List.length_append, List.length_singleton] at hsize htotal
  obtain ⟨after, hafter, hevents⟩ := h.kept.append hevent haccount hfresh rfl
    (hreads _ (hevent.appended h.kept.belongs.digest)) (by omega) htotal
  refine ⟨after, ⟨?_, ?_⟩, hevents⟩
  · rw [written, h.outcome hevent]
    exact hafter
  · rw [written, h.outcome hevent]
    rfl

/-- A request leaves a kept journal, with the events its response asks for. -/
theorem Decided.journalled {log : AuditLog} (h : Holds libs service journal log)
    (hreads : ReadsBack libs.serde) (hwell : validateRequest arrival.request = .ok ())
    (hfresh : ∀ text ∈ identities libs service arrival,
      identityDigest text ∉ log.events.map (·.eventId))
    {ended : Except ConnectorErrorBody ConnectorResult × Journal}
    (hdecided : Decided libs service arrival journal (decidedConversation service arrival)
      ConnectorResult.itemCount ConnectorResult.bodyBytes ended) :
    ∃ events after, Holds libs service ended.2 after ∧ after.events = log.events ++ events ∧
      (∀ event ∈ events, ∃ text ∈ identities libs service arrival,
        event.eventId = identityDigest text) ∧
      Journalled service arrival (connectorResponse arrival.request.requestId ended.1) events := by
  cases hdecided with
  | answered result requested hroom =>
    have hmem : auditIdentity libs service arrival (operationName arrival.request.operation)
        (decidedConversation service arrival) .completed ∈ identities libs service arrival := by
      simp [identities]
    obtain ⟨after, hafter, hevents⟩ := h.record hreads (requestEvent_sound hwell _ _ _ _ _) rfl
      (hfresh _ hmem) hroom
    refine ⟨_, after, hafter, hevents, ?_, ?_, ?_, ?_⟩
    · intro event hevent
      rw [List.mem_singleton] at hevent
      subst hevent
      exact ⟨_, hmem, rfl⟩
    · intro _
      exact ⟨_, result, rfl, rfl, ⟨rfl, rfl, rfl, rfl, rfl, rfl⟩, rfl, rfl, rfl⟩
    · intro error herror
      cases herror
    · intro hfailed
      cases hfailed
  | refused error hroom =>
    have hmem : auditIdentity libs service arrival (operationName arrival.request.operation)
        (decidedConversation service arrival) .denied ∈ identities libs service arrival := by
      simp [identities]
    obtain ⟨after, hafter, hevents⟩ := h.record hreads (requestEvent_sound hwell _ _ _ _ _) rfl
      (hfresh _ hmem) hroom
    refine ⟨_, after, hafter, hevents, ?_, ?_, ?_, ?_⟩
    · intro event hevent
      rw [List.mem_singleton] at hevent
      subst hevent
      exact ⟨_, hmem, rfl⟩
    · intro hok
      cases hok
    · intro error herror hrefused
      exact ⟨_, rfl, ⟨rfl, rfl, rfl, rfl, rfl, rfl⟩, rfl, rfl, rfl⟩
    · intro hfailed event hevent
      rw [List.mem_singleton] at hevent
      subst hevent
      exact ConnectorAuditOutcome.noConfusion
  | failed error hcode hoperation =>
    refine ⟨[], log, h, (List.append_nil _).symm, ?_, ?_, ?_, ?_⟩
    · intro event hevent
      cases hevent
    · intro hok
      cases hok
    · intro error' herror hrefused
      obtain rfl := Option.some.inj herror
      rcases hrefused with hunauthorized | hreplica
      · exact absurd hunauthorized hcode
      · rw [hoperation] at hreplica
        cases hreplica
    · intro hfailed event hevent
      cases hevent

theorem colon_notMem_digits (value : ℕ) : ':' ∉ (toString value).toList := by
  intro hmem
  rw [Nat.toString_eq_repr, Nat.repr_eq_ofList_toDigits, String.toList_ofList] at hmem
  exact absurd (Nat.isDigit_of_mem_toDigits (by decide) (by decide) hmem) (by decide)

/-- An identity ends with the moment. -/
theorem auditIdentity_ends (libs : DirectLibraries) (service : DirectConnectorService)
    (arrival : Arrival) (operation : String) (conversationId : Option String)
    (outcome : ConnectorAuditOutcome) : ∃ front,
    (auditIdentity libs service arrival operation conversationId outcome).toList =
      front ++ ':' :: (toString arrival.moment).toList := by
  let front := service.policy.accountId ++ ":" ++ arrival.request.requesterId ++ ":" ++
    arrival.request.requestId ++ ":" ++ operation ++ ":" ++ libs.debugText conversationId ++ ":" ++
    outcomeDebugText outcome
  refine ⟨front.toList, ?_⟩
  rw [auditIdentity, String.toList_append, String.toList_append, List.append_assoc]
  rfl

/-- The moment can be read back from an identity. -/
theorem identities_moment {earlier later : Arrival} {text : String}
    (hearlier : text ∈ identities libs service earlier)
    (hlater : text ∈ identities libs service later) : earlier.moment = later.moment := by
  obtain ⟨outcome, -, houtcome⟩ := List.mem_map.mp hearlier
  obtain ⟨outcome', -, houtcome'⟩ := List.mem_map.mp hlater
  obtain ⟨front, hfront⟩ := auditIdentity_ends libs service earlier
    (operationName earlier.request.operation) (decidedConversation service earlier) outcome
  obtain ⟨front', hfront'⟩ := auditIdentity_ends libs service later
    (operationName later.request.operation) (decidedConversation service later) outcome'
  rw [houtcome] at hfront
  rw [houtcome'] at hfront'
  have hcut := cut_at_last (colon_notMem_digits _) (colon_notMem_digits _)
    (hfront.symm.trans hfront')
  exact Framing.decimal_inj.mp (String.toList_injective hcut.2)

/-! Runs -/

/-- The requests are handled one after the other. -/
def serve (libs : DirectLibraries) (service : DirectConnectorService) :
    List Arrival → Journal → List (Arrival × ConnectorResponse) × Journal
  | [], journal => ([], journal)
  | arrival :: arrivals, journal =>
    let (response, after) := handle libs service arrival journal
    let (served, last) := serve libs service arrivals after
    ((arrival, response) :: served, last)

/-- Every request is recordable in the journal it finds. -/
def RecordableRun (libs : DirectLibraries) (service : DirectConnectorService) (journal : Journal)
    (arrivals : List Arrival) : Prop :=
  Runs.Meets (fun journal arrival => (handle libs service arrival journal).2)
    (fun journal arrival => Recordable libs service arrival journal) journal arrivals

/-- The digests of identities recorded at different moments differ as the identities do. -/
def DistinctDigests (libs : DirectLibraries) (service : DirectConnectorService)
    (arrivals : List Arrival) : Prop :=
  arrivals.Pairwise fun earlier later => ∀ text ∈ identities libs service earlier,
    ∀ text' ∈ identities libs service later,
      identityDigest text = identityDigest text' → text = text'

/-- No event of a journal has the identity of a request still to come. -/
def FreshDigests (libs : DirectLibraries) (service : DirectConnectorService)
    (arrivals : List Arrival) (events : List ConnectorAuditEvent) : Prop :=
  ∀ arrival ∈ arrivals, ∀ text ∈ identities libs service arrival,
    identityDigest text ∉ events.map (·.eventId)

theorem serve_journalled (hreads : ReadsBack libs.serde) {arrivals : List Arrival}
    {journal : Journal} {log : AuditLog} (h : Holds libs service journal log)
    (hwell : ∀ arrival ∈ arrivals, validateRequest arrival.request = .ok ())
    (hclock : (arrivals.map (·.moment)).Pairwise (· < ·))
    (hdigests : DistinctDigests libs service arrivals)
    (hfresh : FreshDigests libs service arrivals log.events)
    (hmeets : RecordableRun libs service journal arrivals) :
    ∃ decisions after, Holds libs service (serve libs service arrivals journal).2 after ∧
      after.events = log.events ++ decisions.flatten ∧
      List.Forall₂ (fun served events => Journalled service served.1 served.2 events)
        (serve libs service arrivals journal).1 decisions := by
  induction arrivals generalizing journal log with
  | nil => exact ⟨[], log, h, (List.append_nil _).symm, .nil⟩
  | cons arrival arrivals ih =>
    have hfirst := hwell arrival List.mem_cons_self
    obtain ⟨events, next, hnext, hevents, hids, hjournalled⟩ :=
      (dispatch_decided hfirst h.writes hmeets.1).journalled h hreads hfirst
        (hfresh arrival List.mem_cons_self)
    rw [List.map_cons, List.pairwise_cons] at hclock
    rw [DistinctDigests, List.pairwise_cons] at hdigests
    have hlater : FreshDigests libs service arrivals next.events := by
      intro later hmem text htext
      rw [hevents, List.map_append, List.mem_append]
      rintro (hold | hnew)
      · exact hfresh later (List.mem_cons_of_mem _ hmem) text htext hold
      · obtain ⟨event, hevent, hid⟩ := List.mem_map.mp hnew
        obtain ⟨text', htext', hid'⟩ := hids event hevent
        have hsame := hdigests.1 later hmem text' htext' text htext (hid'.symm.trans hid)
        subst hsame
        have hmoment := identities_moment htext' htext
        have hless := hclock.1 _ (List.mem_map_of_mem hmem)
        omega
    obtain ⟨decisions, after, hafter, happend, hall⟩ :=
      ih hnext (fun later hmem => hwell later (List.mem_cons_of_mem _ hmem)) hclock.2 hdigests.2
        hlater hmeets.2
    refine ⟨events :: decisions, after, hafter, ?_, .cons hjournalled hall⟩
    rw [happend, hevents, List.flatten_cons, List.append_assoc]

/-- The journal a service finds when it is opened, and its events. -/
def openJournal (libs : DirectLibraries) (service : DirectConnectorService) (journal : Journal) :
    Except RestoreError (List ConnectorAuditEvent) :=
  match journal with
  | none => .ok []
  | some file => (Connector.verifiedConnectorLogForAccount libs.serde (some file)
      (some service.policy.accountId)).map (·.2)

theorem verifiedConnectorLog_ok {serde : SerdeJson} {file : Connector.PrivateFile}
    {accountId : String} {report : Connector.ConnectorAuditReport}
    {events : List ConnectorAuditEvent} :
    Connector.verifiedConnectorLogForAccount serde (some file) (some accountId) =
        .ok (report, events) ↔
      file.ownerOnly = true ∧ ∃ log, Connector.auditConnectorLogFile serde file.bytes
        (some accountId) = .ok log ∧ log.report = report ∧ log.events = events := by
  rw [Connector.verifiedConnectorLogForAccount, check_bind_ok, require_ok, bind_ok]
  constructor
  · rintro ⟨howner, log, hlog, h⟩
    obtain ⟨rfl, rfl⟩ := Prod.mk.inj (Except.ok.inj h)
    exact ⟨howner, log, hlog, rfl, rfl⟩
  · rintro ⟨howner, log, hlog, rfl, rfl⟩
    exact ⟨howner, log, hlog, rfl⟩

theorem openJournal_holds {journal : Journal} {events : List ConnectorAuditEvent}
    (h : openJournal libs service journal = .ok events)
    (happend : Connector.Appendable journal.bytes) :
    ∃ log, Holds libs service journal log ∧ log.events = events := by
  cases journal with
  | none =>
    obtain rfl := Except.ok.inj h
    exact ⟨.initial, ⟨Connector.kept_empty _ _, rfl⟩, rfl⟩
  | some file =>
    rw [openJournal] at h
    cases hverified : Connector.verifiedConnectorLogForAccount libs.serde (some file)
        (some service.policy.accountId) with
    | error error =>
      rw [hverified] at h
      cases h
    | ok verified =>
      rw [hverified] at h
      obtain rfl := Except.ok.inj h
      obtain ⟨howner, log, hlog, -, hevents⟩ := verifiedConnectorLog_ok.mp hverified
      exact ⟨log, ⟨⟨hlog, happend⟩, by simpa using howner⟩, hevents⟩

theorem Holds.audits {log : AuditLog} (h : Holds libs service journal log) :
    Audits libs.serde service.policy.accountId journal log.events := by
  cases journal with
  | none =>
    obtain rfl := Except.ok.inj h.kept.reads.2
    rfl
  | some file =>
    have howner : file.ownerOnly = true := by simpa using h.ownerOnly
    exact ⟨log.report, verifiedConnectorLog_ok.mpr ⟨howner, log, h.kept.accepted, rfl, rfl⟩⟩

/-- In a run of recordable requests every answer and every refusal is one event of
the journal, no failed request has a completed event, and the journal is accepted. -/
theorem decisions_journalled {events : List ConnectorAuditEvent} {arrivals : List Arrival}
    (hopened : openJournal libs service journal = .ok events)
    (happend : Connector.Appendable journal.bytes) (hreads : ReadsBack libs.serde)
    (hwell : ∀ arrival ∈ arrivals, validateRequest arrival.request = .ok ())
    (hclock : (arrivals.map (·.moment)).Pairwise (· < ·))
    (hdigests : DistinctDigests libs service arrivals)
    (hfresh : FreshDigests libs service arrivals events)
    (hmeets : RecordableRun libs service journal arrivals) :
    ∃ decisions, List.Forall₂ (fun served events => Journalled service served.1 served.2 events)
        (serve libs service arrivals journal).1 decisions ∧
      Audits libs.serde service.policy.accountId (serve libs service arrivals journal).2
        (events ++ decisions.flatten) := by
  obtain ⟨log, hlog, rfl⟩ := openJournal_holds hopened happend
  obtain ⟨decisions, after, hafter, hevents, hall⟩ :=
    serve_journalled hreads hlog hwell hclock hdigests hfresh hmeets
  refine ⟨decisions, hall, ?_⟩
  rw [← hevents]
  exact hafter.audits

/-! A search that no conversation permits -/

/-- The refusal of a search through all conversations leaves the journal as it is. -/
theorem handle_unsearchable (hwell : validateRequest arrival.request = .ok ())
    {query : String} {cursor : Option String} {limit : Option ℕ}
    (hoperation : arrival.request.operation = .searchMessages query none cursor limit)
    (h : searchable service arrival = []) :
    handle libs service arrival journal =
      (connectorResponse arrival.request.requestId (.error
        (unauthorized "no conversation permits message search for this destination")), journal) := by
  simp [handle, dispatch, hwell, hoperation, searchMessages, searchEverywhere, h, outcome_bind]

/-- The lines of well-formed events are read, and no others. -/
noncomputable def exactSerde : SerdeJson where
  draftFromSlice _ := .error "expected value"
  eventFromSlice line :=
    open Classical in
    if h : ∃ event : ConnectorAuditEvent, event.wellFormed = true ∧ event.line = line then
      .ok h.choose
    else .error "expected value"
  unlink line event h := by
    split at h
    · next hknown =>
      obtain rfl := Except.ok.inj h
      have hwell := hknown.choose_spec.1
      have hline := hknown.choose_spec.2
      generalize hknown.choose = event at hwell hline
      have hplain := event.unlinked.line_plain
      have hunlinked : ∃ other : ConnectorAuditEvent, other.wellFormed = true ∧
          other.line = event.unlinked.line :=
        ⟨_, ConnectorAuditEvent.wellFormed_unlinked hwell, rfl⟩
      refine ⟨event.unlinked.line, hplain.nonempty, ?_, hplain.bytes, ?_⟩
      · rw [← hline]
        exact ConnectorAuditEvent.length_unlinked hwell
      · rw [dif_pos hunlinked]
        exact congrArg _ (ConnectorAuditEvent.line_injective hunlinked.choose_spec.2)
    · cases h

theorem exactSerde_readsBack : ReadsBack exactSerde := by
  intro event hwell
  have hknown : ∃ other : ConnectorAuditEvent, other.wellFormed = true ∧
      other.line = event.line := ⟨event, hwell, rfl⟩
  rw [exactSerde]
  dsimp only
  rw [dif_pos hknown]
  exact congrArg _ (ConnectorAuditEvent.line_injective hknown.choose_spec.2)

noncomputable def sampleLibraries : DirectLibraries where
  serde := exactSerde
  cursors := LiveQuery.exactReader
  debugText
    | none => "None"
    | some text => "Some(\"" ++ text ++ "\")"
  isGroupChat conversationId := conversationId.endsWith "@chatroom"

/-- One conversation, of which the contents of messages may be read. -/
def sampleScope : ConversationToolScope where
  capabilities := {.readRecentMessages}
  messageFields := {.content}
  notBeforeUnix := none
  notAfterUnix := none
  allowRemoteModel := false

def sampleIdentity : String := "sha256:0123456789abcdef0123456789abcdef"

def sampleService : DirectConnectorService where
  source :=
    { mode := .decrypted
      identity := sampleIdentity
      accountHolderSourceId := none }
  policy :=
    { accountId := sampleIdentity
      createdFromSourceFingerprint := sampleIdentity
      conversationScopes := [("friend", sampleScope)]
      maximumResultCount := 50
      maximumMessageSummaryBytes := 4096
      accountNamed := by decide
      scopesOrdered := List.pairwise_singleton _ _
      resultsAllowed := by decide }
  policySha256 := String.ofList (List.replicate 64 'a')
  accountBound := rfl
  fingerprintBound := rfl
  enabled := List.cons_ne_nil _ _
  readsOnly := by decide

def sampleMessage : MessageItem where
  id := "identity"
  conversationId := "friend"
  sortSequence := 1700000000000
  messageType := 1
  messageSubtype := 0
  sender := "friend"
  senderDisplayName := none
  createdAtUnix := 1700000000
  content := .object [("Text", .string "hello")]
  contentTruncated := false

/-- A conversation of one message. -/
def sampleQueries : LiveQueries where
  findConversations _ := .ok fun _ => none
  listMessagesInTimeRange _ _ _ _ _ := .ok ⟨[sampleMessage], none, []⟩
  searchMessagesInTimeRange _ _ _ _ _ _ := .ok ⟨[], none, []⟩
  getMessage _ _ := .error (.invalidCursor "cursor structure is invalid")
  getSearchResultMessage _ _ := .error (.invalidCursor "cursor structure is invalid")

def sampleArrival (operation : ConnectorOperation) : Arrival where
  request :=
    { apiVersion := Connector.connectorApiVersion
      requestId := "request"
      requesterId := "requester"
      destination := .localOnly
      operation }
  moment := 1700000000000000000
  live := sampleQueries

theorem sampleArrival_valid (operation : ConnectorOperation) :
    validateRequest (sampleArrival operation).request = .ok () := by
  have hvalid : validateRequest (sampleArrival .status).request = .ok () := by decide
  exact hvalid

/-- A search through all conversations, none of which permits it. -/
def sampleSearch : Arrival := sampleArrival (.searchMessages "hello" none none none)

theorem search_refusal_unjournalled :
    ¬ ∀ (libs : DirectLibraries) (service : DirectConnectorService) (journal : Journal)
        (events : List ConnectorAuditEvent) (arrivals : List Arrival),
      openJournal libs service journal = .ok events → ReadsBack libs.serde →
      (∀ arrival ∈ arrivals, validateRequest arrival.request = .ok ()) →
      (arrivals.map (·.moment)).Pairwise (· < ·) → DistinctDigests libs service arrivals →
      FreshDigests libs service arrivals events →
      ∃ decisions, List.Forall₂ (fun served events => Journalled service served.1 served.2 events)
          (serve libs service arrivals journal).1 decisions ∧
        Audits libs.serde service.policy.accountId (serve libs service arrivals journal).2
          (events ++ decisions.flatten) := by
  intro h
  have hunsearchable : searchable sampleService sampleSearch = [] := by decide
  have hhandle : handle sampleLibraries sampleService sampleSearch none =
      (connectorResponse "request" (.error
        (unauthorized "no conversation permits message search for this destination")), none) :=
    handle_unsearchable (sampleArrival_valid _) rfl hunsearchable
  have hfresh : FreshDigests sampleLibraries sampleService [sampleSearch] [] := by
    intro arrival harrival text htext
    exact List.not_mem_nil
  obtain ⟨decisions, hdecisions, haudits⟩ := h sampleLibraries sampleService none [] [sampleSearch]
    rfl exactSerde_readsBack
    (by
      intro arrival harrival
      rw [List.mem_singleton] at harrival
      subst harrival
      exact sampleArrival_valid _)
    (List.pairwise_singleton _ _) (List.pairwise_singleton _ _) hfresh
  simp only [serve, hhandle] at hdecisions haudits
  obtain ⟨events, rest, hjournalled, -, rfl⟩ := List.forall₂_cons_left_iff.mp hdecisions
  obtain ⟨event, hevents, -⟩ := hjournalled.refused _ rfl (.inl rfl)
  subst hevents
  cases haudits

/-! A page of one message -/

def sampleRead : Arrival := sampleArrival (.getMessages "friend" none none)

/-- The event of the page, with its digests. -/
def sampleRecord (eventId digest : String) : ConnectorAuditEvent where
  formatVersion := 2
  eventId
  observedAtUnixNanoseconds := 1700000000000000000
  accountId := sampleIdentity
  requesterId := "requester"
  requestId := "request"
  operation := "getMessages"
  stage := .request
  conversationId := some "friend"
  destination := .localOnly
  outcome := .completed
  returnedItemCount := 1
  releasedBodyByteCount := 5
  requestBodyByteCount := 0
  draftId := none
  policyDecisionId := none
  previousEventSha256 := none
  eventSha256 := digest

theorem sampleRecord_bound {eventId digest : String} (hid : isSha256 eventId = true)
    (hdigest : isSha256 digest = true) : (sampleRecord eventId digest).toJson.textBound ≤ 4096 := by
  have hne : (digest == "") = false := by
    rw [beq_eq_false_iff_ne]
    rintro rfl
    exact absurd hdigest (by decide)
  simp only [sampleRecord, ConnectorAuditEvent.toJson, hne, Json.textBound, Json.membersBound,
    List.cons_append, List.nil_append, utf8ByteSize_of_isSha256 hid,
    utf8ByteSize_of_isSha256 hdigest, Bool.false_eq_true, if_false]
  decide

theorem sampleRead_room : RoomFor sampleLibraries sampleService sampleRead none (some "friend")
    .completed 1 5 0 := by
  intro record hrecord
  have hholds : Holds sampleLibraries sampleService none .initial :=
    ⟨Connector.kept_empty _ _, rfl⟩
  have hsound : (requestEvent sampleLibraries sampleService sampleRead (some "friend") .completed 1 5
      0).Sound := requestEvent_sound (sampleArrival_valid _) _ _ _ _ _
  rw [hholds.appended hsound] at hrecord
  obtain rfl := Except.ok.inj hrecord
  obtain ⟨eventId, digest, hid, hdigest, hevent⟩ : ∃ eventId digest, isSha256 eventId = true ∧
      isSha256 digest = true ∧
      (requestEvent sampleLibraries sampleService sampleRead (some "friend") .completed 1 5
        0).appended AuditLog.initial.previousDigest = sampleRecord eventId digest :=
    ⟨_, _, isSha256_hexDigest _, isSha256_hexDigest _, rfl⟩
  have hline : (sampleRecord eventId digest).line.length ≤ 4096 :=
    (Json.length_utf8_toText _).trans (sampleRecord_bound hid hdigest)
  rw [hevent, List.length_append, List.length_singleton]
  simp only [Connector.maxConnectorAuditRecordBytes, Connector.maxConnectorAuditBytes,
    Connector.Journal.bytes, Option.map_none, Option.getD_none, List.length_nil]
  omega

theorem sampleRead_recordable : Recordable sampleLibraries sampleService sampleRead none := by
  have hscope : permittedScope sampleService sampleRead "friend" .readRecentMessages =
      some sampleScope := by decide
  have hbytes : releasedBodyBytes [projectMessage sampleService.source sampleService.policy
      sampleScope sampleMessage] = 5 := by decide
  have hpage : RecordablePage sampleLibraries sampleService sampleRead none "friend" "messages" none
      .readRecentMessages none 0 (projectMessage sampleService.source sampleService.policy)
      fun _ _ => .ok ⟨[sampleMessage], none, []⟩ := ?_
  · exact hpage
  rw [RecordablePage, hscope]
  intro decoded page hdecode hquery
  obtain rfl := Except.ok.inj hquery
  refine ⟨?_, none, rfl⟩
  change RoomFor _ _ _ _ _ _ 1 (releasedBodyBytes [projectMessage _ _ _ _]) _
  rw [hbytes]
  exact sampleRead_room

theorem sampleRead_journalled : ∃ decisions : List (List ConnectorAuditEvent),
    List.Forall₂ (fun served events => Journalled sampleService served.1 served.2 events)
        (serve sampleLibraries sampleService [sampleRead] none).1 decisions ∧
      Audits sampleLibraries.serde sampleService.policy.accountId
        (serve sampleLibraries sampleService [sampleRead] none).2 ([] ++ decisions.flatten) := by
  apply @decisions_journalled sampleLibraries sampleService none [] [sampleRead]
  · rfl
  · exact (Connector.kept_empty exactSerde sampleIdentity).appendable
  · exact exactSerde_readsBack
  · intro arrival harrival
    rw [List.mem_singleton] at harrival
    subst harrival
    exact sampleArrival_valid _
  · exact List.pairwise_singleton _ _
  · exact List.pairwise_singleton _ _
  · intro arrival harrival text htext
    exact List.not_mem_nil
  · exact ⟨sampleRead_recordable, trivial⟩

end GreenBubbles.Direct
