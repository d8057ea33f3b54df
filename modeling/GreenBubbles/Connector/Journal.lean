import Mathlib.Data.List.DropRight
import GreenBubbles.Connector.Draft

/-! # The audit journal

One JSON event a line, behind an optional prefix of unchained legacy records.
The verifier reads the file line by line and folds it into a report.
-/
namespace GreenBubbles.Connector

open Library Library.Bytes

def maxConnectorAuditBytes : ℕ := 1073741824
def maxConnectorAuditRecordBytes : ℕ := 64 * 1024

inductive ConnectorDestination where
  | localOnly
  | remoteModel
  deriving DecidableEq

inductive ConnectorAuditOutcome where
  | completed
  | denied
  deriving DecidableEq

inductive ConnectorAuditStage where
  | request
  | draftRequested
  | draftReviewed
  | approvalRecorded
  | attemptRecorded
  | reconciliationRecorded
  deriving DecidableEq

structure ConnectorAuditEvent where
  formatVersion : ℕ
  eventId : String
  observedAtUnixNanoseconds : ℕ
  accountId : String
  requesterId : String
  requestId : String
  operation : String
  stage : ConnectorAuditStage
  conversationId : Option String
  destination : ConnectorDestination
  outcome : ConnectorAuditOutcome
  returnedItemCount : ℕ
  releasedBodyByteCount : ℕ
  requestBodyByteCount : ℕ
  draftId : Option String
  policyDecisionId : Option String
  previousEventSha256 : Option String
  eventSha256 : String
  deriving DecidableEq

structure ConnectorAuditReport where
  chainVerified : Bool
  fullyChained : Bool
  eventCount : ℕ
  legacyUnchainedEventCount : ℕ
  chainedEventCount : ℕ
  completedEventCount : ℕ
  deniedEventCount : ℕ
  draftRequestedEventCount : ℕ
  draftReviewedEventCount : ℕ
  approvalEventCount : ℕ
  attemptEventCount : ℕ
  reconciliationEventCount : ℕ

/-- The event as an unchained legacy record would carry it. -/
def ConnectorAuditEvent.unlinked (event : ConnectorAuditEvent) : ConnectorAuditEvent :=
  { event with formatVersion := 1, previousEventSha256 := none, eventSha256 := "" }

/-! The JSON of an event -/

def destinationName : ConnectorDestination → String
  | .localOnly => "local"
  | .remoteModel => "remoteModel"

def outcomeName : ConnectorAuditOutcome → String
  | .completed => "completed"
  | .denied => "denied"

def stageName : ConnectorAuditStage → String
  | .request => "request"
  | .draftRequested => "draftRequested"
  | .draftReviewed => "draftReviewed"
  | .approvalRecorded => "approvalRecorded"
  | .attemptRecorded => "attemptRecorded"
  | .reconciliationRecorded => "reconciliationRecorded"

/-- The two chain fields are written only when they are set. -/
def ConnectorAuditEvent.toJson (event : ConnectorAuditEvent) : Json :=
  .obj
    ([("formatVersion", .int event.formatVersion),
      ("eventId", .str event.eventId),
      ("observedAtUnixNanoseconds", .int event.observedAtUnixNanoseconds),
      ("accountId", .str event.accountId),
      ("requesterId", .str event.requesterId),
      ("requestId", .str event.requestId),
      ("operation", .str event.operation),
      ("stage", .str (stageName event.stage)),
      ("conversationId", optionJson .str event.conversationId),
      ("destination", .str (destinationName event.destination)),
      ("outcome", .str (outcomeName event.outcome)),
      ("returnedItemCount", .int event.returnedItemCount),
      ("releasedBodyByteCount", .int event.releasedBodyByteCount),
      ("requestBodyByteCount", .int event.requestBodyByteCount),
      ("draftId", optionJson .str event.draftId),
      ("policyDecisionId", optionJson .str event.policyDecisionId)] ++
     (match event.previousEventSha256 with
      | none => []
      | some previous => [("previousEventSha256", .str previous)]) ++
     if event.eventSha256 == "" then [] else [("eventSha256", .str event.eventSha256)])

def ConnectorAuditEvent.line (event : ConnectorAuditEvent) : List UInt8 :=
  utf8 event.toJson.toText

/-- The digest covers every field but itself. -/
def connectorAuditEventDigest (event : ConnectorAuditEvent) : String :=
  Sha256.hexDigest { event with eventSha256 := "" }.line

/-- The JSON readers, which stand for the serializer library: a draft or an event
is read from the bytes of a file or of a line. A line stays readable when its two
optional chain fields are left out of it. -/
structure SerdeJson where
  draftFromSlice : List UInt8 → Except String ActionDraft
  eventFromSlice : List UInt8 → Except String ConnectorAuditEvent
  unlink : ∀ line event, eventFromSlice line = .ok event →
    ∃ shorter : List UInt8, shorter ≠ [] ∧ shorter.length ≤ line.length ∧
      (∀ byte ∈ shorter, byte ≠ 10 ∧ byte ≠ 13) ∧
      eventFromSlice shorter = .ok event.unlinked

def fromSlice {α : Type} (read : List UInt8 → Except String α) (bytes : List UInt8) :
    Except RestoreError α :=
  match read bytes with
  | .ok value => .ok value
  | .error message => .error (.json message)

@[simp] theorem fromSlice_ok {α : Type} {read : List UInt8 → Except String α}
    {bytes : List UInt8} {value : α} : fromSlice read bytes = .ok value ↔ read bytes = .ok value := by
  cases h : read bytes <;> simp [fromSlice, h]

/-! Lines of a file -/

/-- What repeated reads up to a newline return; the newline stays in the record. -/
def readRecords : List UInt8 → List (List UInt8)
  | [] => []
  | byte :: rest =>
    if byte = 10 then [byte] :: readRecords rest
    else match readRecords rest with
      | [] => [[byte]]
      | record :: records => (byte :: record) :: records

def isLineEnd (byte : UInt8) : Bool := byte == 10 || byte == 13

/-- Newlines and carriage returns are removed from the end of a record. -/
def trimRecord (record : List UInt8) : List UInt8 := record.rdropWhile isLineEnd

def journalLines (bytes : List UInt8) : List (List UInt8) := (readRecords bytes).map trimRecord

/-- Lines separated by newlines; the last one is not terminated. -/
def joinLines : List (List UInt8) → List UInt8
  | [] => []
  | [line] => line
  | line :: next :: lines => line ++ 10 :: joinLines (next :: lines)

/-- A line that reads back as itself. -/
structure PlainLine (line : List UInt8) : Prop where
  nonempty : line ≠ []
  bytes : ∀ byte ∈ line, byte ≠ 10 ∧ byte ≠ 13

/-- The line of an event is printable JSON. -/
theorem ConnectorAuditEvent.line_plain (event : ConnectorAuditEvent) : PlainLine event.line where
  nonempty := Json.utf8_toText_ne_nil _
  bytes := by
    intro byte hbyte
    have hprintable := Json.printable_toText hbyte
    constructor
    · rintro rfl
      exact absurd hprintable (by decide)
    · rintro rfl
      exact absurd hprintable (by decide)

theorem readRecords_newline (line rest : List UInt8) (h : ∀ byte ∈ line, byte ≠ 10) :
    readRecords (line ++ 10 :: rest) = (line ++ [10]) :: readRecords rest := by
  induction line with
  | nil => simp [readRecords]
  | cons byte line ih =>
    have hbyte := h byte List.mem_cons_self
    have hline := ih fun b hb => h b (List.mem_cons_of_mem byte hb)
    simp [readRecords, hbyte, hline]

theorem readRecords_unterminated {line : List UInt8} (hne : line ≠ [])
    (h : ∀ byte ∈ line, byte ≠ 10) : readRecords line = [line] := by
  induction line with
  | nil => exact absurd rfl hne
  | cons byte line ih =>
    have hbyte := h byte List.mem_cons_self
    cases line with
    | nil => simp [readRecords, hbyte]
    | cons next line =>
      have hline := ih (List.cons_ne_nil _ _) fun b hb => h b (List.mem_cons_of_mem byte hb)
      rw [readRecords, if_neg hbyte, hline]

theorem PlainLine.trim {line : List UInt8} (h : PlainLine line) : trimRecord line = line := by
  rw [trimRecord, List.rdropWhile_eq_self_iff]
  intro hne
  have hlast := h.bytes _ (List.getLast_mem hne)
  simp [isLineEnd, hlast]

theorem PlainLine.trim_newline {line : List UInt8} (h : PlainLine line) :
    trimRecord (line ++ [10]) = line := by
  rw [trimRecord, List.rdropWhile_concat_pos _ _ _ (by decide)]
  exact h.trim

theorem journalLines_joinLines {lines : List (List UInt8)} (h : ∀ line ∈ lines, PlainLine line) :
    journalLines (joinLines lines) = lines := by
  induction lines with
  | nil => rfl
  | cons line lines ih =>
    have hline := h line List.mem_cons_self
    have hbytes := fun byte hbyte => (hline.bytes byte hbyte).1
    cases lines with
    | nil => rw [joinLines, journalLines, readRecords_unterminated hline.nonempty hbytes,
        List.map_singleton, hline.trim]
    | cons next lines =>
      have hrest := ih fun l hl => h l (List.mem_cons_of_mem line hl)
      rw [journalLines] at hrest
      rw [joinLines, journalLines, readRecords_newline _ _ hbytes, List.map_cons,
        hline.trim_newline, hrest]

theorem length_joinLines {lines : List (List UInt8)} (h : lines ≠ []) :
    (joinLines lines).length + 1 = (lines.map (·.length + 1)).sum := by
  induction lines with
  | nil => exact absurd rfl h
  | cons line lines ih =>
    cases lines with
    | nil => simp [joinLines]
    | cons next lines =>
      have hrest := ih (List.cons_ne_nil _ _)
      simp only [joinLines, List.length_append, List.length_cons, List.map_cons, List.sum_cons]
        at hrest ⊢
      omega

theorem length_trimRecord_cons (byte : UInt8) (record : List UInt8) :
    (trimRecord (byte :: record)).length ≤ (trimRecord record).length + 1 := by
  simp only [trimRecord, List.rdropWhile, List.reverse_cons, List.length_reverse,
    List.dropWhile_append]
  split_ifs with hempty
  · have hone := (List.dropWhile_sublist isLineEnd (l := [byte])).length_le
    rw [List.length_singleton] at hone
    omega
  · rw [List.length_append, List.length_singleton]

/-- The lines of a file and one separator each take no more room than the file,
whose last line needs no separator. -/
theorem length_journalLines (bytes : List UInt8) :
    ((journalLines bytes).map (·.length + 1)).sum ≤ bytes.length + 1 := by
  rw [journalLines]
  induction bytes with
  | nil => simp [readRecords]
  | cons byte rest ih =>
    rw [readRecords]
    split_ifs with hbyte
    · have hend : trimRecord [byte] = [] := by subst hbyte; decide
      simp only [List.map_cons, hend, List.length_nil, List.sum_cons, List.length_cons]
      omega
    · cases hrest : readRecords rest with
      | nil =>
        have hone := length_trimRecord_cons byte []
        have hnil : trimRecord [] = [] := rfl
        rw [hnil, List.length_nil] at hone
        simp only [List.map_cons, List.map_nil, List.sum_cons, List.sum_nil, List.length_cons]
        omega
      | cons record records =>
        have hcons := length_trimRecord_cons byte record
        rw [hrest] at ih
        simp only [List.map_cons, List.sum_cons, List.length_cons] at ih ⊢
        omega

/-! Verification -/

def ConnectorAuditEvent.wellFormed (event : ConnectorAuditEvent) : Bool :=
  (event.formatVersion == 1 || event.formatVersion == 2) && isSha256 event.eventId &&
  event.accountId != "" && event.requesterId != "" && event.requestId != "" &&
  event.operation != "" && event.draftId.all isSha256 && event.policyDecisionId.all isSha256 &&
  event.previousEventSha256.all isSha256 &&
  (event.eventSha256 == "" || isSha256 event.eventSha256)

theorem ConnectorAuditEvent.wellFormed_unlinked {event : ConnectorAuditEvent}
    (h : event.wellFormed = true) : event.unlinked.wellFormed = true := by
  simp only [wellFormed, unlinked, Bool.and_eq_true] at h ⊢
  obtain ⟨⟨⟨⟨⟨⟨⟨⟨⟨-, hid⟩, haccount⟩, hrequester⟩, hrequest⟩, hoperation⟩, hdraft⟩, hpolicy⟩, -⟩, -⟩ := h
  exact ⟨⟨⟨⟨⟨⟨⟨⟨⟨rfl, hid⟩, haccount⟩, hrequester⟩, hrequest⟩, hoperation⟩, hdraft⟩, hpolicy⟩, rfl⟩,
    rfl⟩

def validateConnectorAuditEvent (event : ConnectorAuditEvent) : Except RestoreError Unit :=
  require event.wellFormed "connector audit event is malformed"

structure AuditLog where
  previousDigest : Option String
  seenChained : Bool
  accountId : Option String
  /-- A set: an identity is never added twice. -/
  eventIds : List String
  events : List ConnectorAuditEvent
  report : ConnectorAuditReport

def ConnectorAuditReport.initial : ConnectorAuditReport where
  chainVerified := true
  fullyChained := true
  eventCount := 0
  legacyUnchainedEventCount := 0
  chainedEventCount := 0
  completedEventCount := 0
  deniedEventCount := 0
  draftRequestedEventCount := 0
  draftReviewedEventCount := 0
  approvalEventCount := 0
  attemptEventCount := 0
  reconciliationEventCount := 0

def AuditLog.initial : AuditLog where
  previousDigest := none
  seenChained := false
  accountId := none
  eventIds := []
  events := []
  report := .initial

def ConnectorAuditReport.countOutcome (report : ConnectorAuditReport) :
    ConnectorAuditOutcome → ConnectorAuditReport
  | .completed => { report with completedEventCount := report.completedEventCount + 1 }
  | .denied => { report with deniedEventCount := report.deniedEventCount + 1 }

def ConnectorAuditReport.countStage (report : ConnectorAuditReport) :
    ConnectorAuditStage → ConnectorAuditReport
  | .request => report
  | .draftRequested =>
    { report with draftRequestedEventCount := report.draftRequestedEventCount + 1 }
  | .draftReviewed => { report with draftReviewedEventCount := report.draftReviewedEventCount + 1 }
  | .approvalRecorded => { report with approvalEventCount := report.approvalEventCount + 1 }
  | .attemptRecorded => { report with attemptEventCount := report.attemptEventCount + 1 }
  | .reconciliationRecorded =>
    { report with reconciliationEventCount := report.reconciliationEventCount + 1 }

/-- Links one record to its predecessor, by its format. -/
def linkRecord (log : AuditLog) (line : List UInt8) (event : ConnectorAuditEvent) :
    Except RestoreError AuditLog :=
  match event.formatVersion with
  | 1 => do
    require (!(log.seenChained || event.previousEventSha256.isSome || event.eventSha256 != ""))
      "legacy connector audit record appears inside a chained suffix"
    return { log with
      previousDigest := some (Sha256.hexDigest line)
      report :=
        { log.report with
          legacyUnchainedEventCount := log.report.legacyUnchainedEventCount + 1
          fullyChained := false } }
  | 2 => do
    require (event.previousEventSha256 == log.previousDigest)
      "connector audit chain predecessor does not match"
    require (event.eventSha256 == connectorAuditEventDigest event)
      "connector audit event digest does not match its contents"
    return { log with
      previousDigest := some event.eventSha256
      seenChained := true
      report := { log.report with chainedEventCount := log.report.chainedEventCount + 1 } }
  | _ => throw (.integrity "unsupported connector audit event format")

def auditRecord (serde : SerdeJson) (expectedAccountId : Option String) (log : AuditLog)
    (line : List UInt8) : Except RestoreError AuditLog := do
  require (line != [] && line.length ≤ maxConnectorAuditRecordBytes)
    "connector audit log contains an empty or oversized record"
  let event ← fromSlice serde.eventFromSlice line
  validateConnectorAuditEvent event
  require (expectedAccountId.all (· == event.accountId))
    "connector audit log belongs to a different account"
  require (log.accountId.all (· == event.accountId)) "connector audit log mixes account identities"
  require (!log.eventIds.contains event.eventId) "connector audit log repeats an event identity"
  let linked ← linkRecord log line event
  let counted := { linked.report with eventCount := linked.report.eventCount + 1 }
  return { linked with
    accountId := some (log.accountId.getD event.accountId)
    eventIds := event.eventId :: log.eventIds
    events := log.events ++ [event]
    report := (counted.countOutcome event.outcome).countStage event.stage }

def auditConnectorLogFile (serde : SerdeJson) (bytes : List UInt8)
    (expectedAccountId : Option String) : Except RestoreError AuditLog := do
  require (bytes.length ≤ maxConnectorAuditBytes)
    "connector audit log exceeds the verification limit"
  (journalLines bytes).foldlM (auditRecord serde expectedAccountId) .initial

/-- A regular file as the connector finds it: whether only its owner can reach
it by one link, and its bytes. -/
structure PrivateFile where
  ownerOnly : Bool
  bytes : List UInt8

def verifiedConnectorLogForAccount (serde : SerdeJson) (journal : Option PrivateFile)
    (expectedAccountId : Option String) :
    Except RestoreError (ConnectorAuditReport × List ConnectorAuditEvent) :=
  match journal with
  | none => throw (.io "connector audit log does not exist")
  | some file => do
    require file.ownerOnly "private archive input is not a current-user, owner-only regular file"
    let log ← auditConnectorLogFile serde file.bytes expectedAccountId
    return (log.report, log.events)

/-! What the verifier accepts -/

/-- What the verifier asks of a line and its event alone. -/
structure AuditedLine (serde : SerdeJson) (accountId : String) (line : List UInt8)
    (event : ConnectorAuditEvent) : Prop where
  nonempty : line ≠ []
  size : line.length ≤ maxConnectorAuditRecordBytes
  reads : serde.eventFromSlice line = .ok event
  wellFormed : event.wellFormed = true
  account : event.accountId = accountId

theorem auditRecord_ok {serde : SerdeJson} {accountId : String} {log after : AuditLog}
    {line : List UInt8} (h : auditRecord serde (some accountId) log line = .ok after) :
    ∃ event, AuditedLine serde accountId line event ∧ event.eventId ∉ log.eventIds ∧
      after.eventIds = event.eventId :: log.eventIds ∧ after.events = log.events ++ [event] := by
  rw [auditRecord, check_bind_ok, require_ok, bind_ok] at h
  obtain ⟨hline, event, hread, h⟩ := h
  rw [check_bind_ok, validateConnectorAuditEvent, require_ok, check_bind_ok, require_ok,
    check_bind_ok, require_ok, check_bind_ok, require_ok, bind_ok] at h
  obtain ⟨hwell, haccount, -, hfresh, linked, -, h⟩ := h
  obtain rfl := Except.ok.inj h
  simp only [Bool.and_eq_true, bne_iff_ne, ne_eq, decide_eq_true_eq] at hline
  refine ⟨event, ⟨hline.1, hline.2, fromSlice_ok.mp hread, hwell, ?_⟩, ?_, rfl, rfl⟩
  · have hmatch : accountId = event.accountId := by simpa using haccount
    exact hmatch.symm
  · simpa using hfresh

theorem auditRecords_ok {serde : SerdeJson} {accountId : String} {lines : List (List UInt8)}
    {log after : AuditLog} (h : lines.foldlM (auditRecord serde (some accountId)) log = .ok after) :
    ∃ events, List.Forall₂ (AuditedLine serde accountId) lines events ∧
      after.events = log.events ++ events ∧ (events.map (·.eventId)).Nodup ∧
      ∀ event ∈ events, event.eventId ∉ log.eventIds := by
  induction lines generalizing log with
  | nil =>
    obtain rfl := Except.ok.inj h
    exact ⟨[], .nil, (List.append_nil _).symm, List.nodup_nil, by simp⟩
  | cons line lines ih =>
    rw [List.foldlM_cons, bind_ok] at h
    obtain ⟨next, hrecord, hrest⟩ := h
    obtain ⟨event, haudited, hfresh, hids, hevents⟩ := auditRecord_ok hrecord
    obtain ⟨events, hlines, happend, hnodup, hdisjoint⟩ := ih hrest
    have hnew : ∀ later ∈ events, later.eventId ≠ event.eventId := by
      intro later hlater heq
      apply hdisjoint later hlater
      rw [hids, heq]
      exact List.mem_cons_self
    refine ⟨event :: events, .cons haudited hlines, ?_, ?_, ?_⟩
    · rw [happend, hevents, List.append_assoc, List.singleton_append]
    · rw [List.map_cons, List.nodup_cons, List.mem_map]
      refine ⟨?_, hnodup⟩
      rintro ⟨later, hlater, heq⟩
      exact hnew later hlater heq
    · intro later hlater
      rcases List.mem_cons.mp hlater with rfl | hlater
      · exact hfresh
      · intro hmem
        apply hdisjoint later hlater
        rw [hids]
        exact List.mem_cons_of_mem _ hmem

/-- A record that links to its predecessor is accepted. -/
theorem auditRecord_accepts {serde : SerdeJson} {accountId : String} {log linked : AuditLog}
    {line : List UInt8} {event : ConnectorAuditEvent}
    (hline : AuditedLine serde accountId line event)
    (haccount : log.accountId.all (· == accountId) = true) (hfresh : event.eventId ∉ log.eventIds)
    (hlink : linkRecord log line event = .ok linked) :
    ∃ after, auditRecord serde (some accountId) log line = .ok after ∧
      after.previousDigest = linked.previousDigest ∧ after.seenChained = linked.seenChained ∧
      after.accountId.all (· == accountId) = true ∧
      after.eventIds = event.eventId :: log.eventIds ∧ after.events = log.events ++ [event] := by
  have hevent : event.accountId = accountId := hline.account
  have hkept : (some (log.accountId.getD event.accountId)).all (· == accountId) = true := by
    cases haccountId : log.accountId with
    | none => simp [hevent]
    | some account => simpa [haccountId] using haccount
  have hmixed : log.accountId.all (· == event.accountId) = true := by rwa [hevent]
  have hnew : (!log.eventIds.contains event.eventId) = true := by simpa using hfresh
  have hsize : (line != [] && decide (line.length ≤ maxConnectorAuditRecordBytes)) = true := by
    simp [hline.nonempty, hline.size]
  simp only [auditRecord, bind_ok]
  exact ⟨_, ⟨(), require_ok.mpr hsize, event, fromSlice_ok.mpr hline.reads, (),
    require_ok.mpr hline.wellFormed, (), require_ok.mpr (by simp [hevent]), (),
    require_ok.mpr hmixed, (), require_ok.mpr hnew, linked, hlink, rfl⟩, rfl, rfl, hkept, rfl, rfl⟩

/-- An unchained record is accepted wherever no chained one came before it. -/
theorem auditRecord_legacy {serde : SerdeJson} {accountId : String} {log : AuditLog}
    {line : List UInt8} {event : ConnectorAuditEvent}
    (hline : AuditedLine serde accountId line event.unlinked) (hchained : log.seenChained = false)
    (haccount : log.accountId.all (· == accountId) = true) (hfresh : event.eventId ∉ log.eventIds) :
    ∃ after, auditRecord serde (some accountId) log line = .ok after ∧
      after.previousDigest = some (Sha256.hexDigest line) ∧
      after.seenChained = false ∧ after.accountId.all (· == accountId) = true ∧
      after.eventIds = event.eventId :: log.eventIds ∧
      after.events = log.events ++ [event.unlinked] := by
  have hlink : ∃ linked, linkRecord log line event.unlinked = .ok linked ∧
      linked.previousDigest = some (Sha256.hexDigest line) ∧ linked.seenChained = false := by
    simp only [linkRecord, ConnectorAuditEvent.unlinked, bind_ok]
    exact ⟨_, ⟨(), require_ok.mpr (by simp [hchained]), rfl⟩, rfl, hchained⟩
  obtain ⟨linked, hlink, hdigest, hlinked⟩ := hlink
  have hnew : event.unlinked.eventId ∉ log.eventIds := hfresh
  obtain ⟨after, hafter, hprevious, hseen, hrest⟩ :=
    auditRecord_accepts hline haccount hnew hlink
  exact ⟨after, hafter, hprevious.trans hdigest, hseen.trans hlinked, hrest⟩

theorem auditRecords_legacy {serde : SerdeJson} {accountId : String}
    {records : List (List UInt8 × ConnectorAuditEvent)} {log : AuditLog}
    (hlines : ∀ record ∈ records, AuditedLine serde accountId record.1 record.2.unlinked)
    (hids : (records.map (·.2.eventId)).Nodup) (hchained : log.seenChained = false)
    (haccount : log.accountId.all (· == accountId) = true)
    (hfresh : ∀ record ∈ records, record.2.eventId ∉ log.eventIds) :
    ∃ after, (records.map Prod.fst).foldlM (auditRecord serde (some accountId)) log = .ok after ∧
      after.events = log.events ++ records.map (·.2.unlinked) := by
  induction records generalizing log with
  | nil => exact ⟨log, rfl, (List.append_nil _).symm⟩
  | cons record records ih =>
    rw [List.map_cons, List.nodup_cons, List.mem_map] at hids
    obtain ⟨next, hnext, -, hchained, haccount, heventIds, hevents⟩ :=
      auditRecord_legacy (hlines record List.mem_cons_self) hchained haccount
        (hfresh record List.mem_cons_self)
    have hlater : ∀ later ∈ records, later.2.eventId ∉ next.eventIds := by
      intro later hlater
      rw [heventIds, List.mem_cons]
      rintro (heq | hmem)
      · exact hids.1 ⟨later, hlater, heq⟩
      · exact hfresh later (List.mem_cons_of_mem _ hlater) hmem
    obtain ⟨after, hafter, happend⟩ :=
      ih (fun r hr => hlines r (List.mem_cons_of_mem _ hr)) hids.2 hchained haccount hlater
    refine ⟨after, ?_, ?_⟩
    · rw [List.map_cons, List.foldlM_cons, bind_ok]
      exact ⟨next, hnext, hafter⟩
    · rw [happend, hevents, List.append_assoc, List.singleton_append, List.map_cons]

end GreenBubbles.Connector
