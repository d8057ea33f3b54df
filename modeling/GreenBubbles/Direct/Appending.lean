import GreenBubbles.Direct.Journal

/-! # Appends and crashes

Events are appended one after the other, and a crash can cut an append off. The
verifier reads back what was appended, in order, as long as every record fits and
a crash leaves nothing or all of one.
-/
namespace GreenBubbles.Direct

open Library Library.Bytes Library.Outcomes Library.Runs
open Connector (AuditLog Appendable ConnectorAuditEvent ConnectorAuditOutcome Journal Kept
  PrivateFile SerdeJson appendOwnerOnlyConnectorEvent appendedRecord auditConnectorLogFile
  auditRecord validateConnectorAuditEvent verifiedConnectorLogForAccount)

/-- What happens to a journal: an append, or the first bytes of one that is cut off. -/
inductive AppendAction where
  | append (event : ConnectorAuditEvent)
  | crash (event : ConnectorAuditEvent) (written : ℕ)

/-- The journal and the events whose records were written to it in full. -/
structure Appends where
  journal : Journal
  events : List ConnectorAuditEvent

def Appends.file (appends : Appends) : PrivateFile := appends.journal.getD ⟨true, []⟩

def appendStep (serde : SerdeJson) (appends : Appends) : AppendAction → Appends
  | .append event =>
    match outcome (appendOwnerOnlyConnectorEvent serde event) appends.journal with
    | (.ok (), after) => ⟨after, appends.events ++ [event]⟩
    | (.error _, after) => ⟨after, appends.events⟩
  | .crash event written =>
    match appendedRecord serde appends.file event with
    | .ok record =>
      { journal := some { appends.file with bytes := appends.file.bytes ++ record.take written }
        events := if record.length ≤ written then appends.events ++ [event] else appends.events }
    | .error _ => ⟨some appends.file, appends.events⟩

/-- The verifier reads the events back, but for their links, and the next append succeeds. -/
structure Verified (serde : SerdeJson) (before : List ConnectorAuditEvent) (appends : Appends) :
    Prop where
  accepted : ∃ report events,
    verifiedConnectorLogForAccount serde appends.journal none = .ok (report, events) ∧
      events.map (·.unlinked) = (before ++ appends.events).map (·.unlinked)
  continues : ∀ event : ConnectorAuditEvent, event.Sound →
    (outcome (appendOwnerOnlyConnectorEvent serde event) appends.journal).1 = .ok ()

/-- The event is one of the account, new to the journal, and its record fits into it. -/
structure Fits (serde : SerdeJson) (accountId : String) (appends : Appends)
    (event : ConnectorAuditEvent) : Prop where
  account : event.accountId = accountId
  fresh : ∀ report events,
    verifiedConnectorLogForAccount serde appends.journal none = .ok (report, events) →
      event.eventId ∉ events.map (·.eventId)
  room : HasRoom serde appends.journal event

/-- Every append fits, and a crash leaves none of a record or all of one that fits. -/
def Appended (serde : SerdeJson) (accountId : String) (appends : Appends) : AppendAction → Prop
  | .append event => Fits serde accountId appends event
  | .crash event written => written = 0 ∨ Fits serde accountId appends event ∧
      ∀ record, appendedRecord serde appends.file event = .ok record → record.length ≤ written

variable {serde : SerdeJson} {accountId : String} {before : List ConnectorAuditEvent}
  {appends : Appends} {log after : AuditLog} {event : ConnectorAuditEvent}

/-! The account of a journal -/

/-- A record is accepted for the account of its event, and for no other one. -/
theorem auditRecord_account {expected : Option String} {line : List UInt8} :
    auditRecord serde expected log line = .ok after ↔
      ∃ event, after.events = log.events ++ [event] ∧
        expected.all (· == event.accountId) = true ∧
        auditRecord serde none log line = .ok after := by
  simp only [auditRecord, check_bind_ok, require_ok]
  rw [bind_ok, bind_ok]
  simp only [check_bind_ok, require_ok]
  constructor
  · rintro ⟨hline, event, hread, hvalid, haccount, hlog, hfresh, h⟩
    obtain ⟨linked, hlink, h⟩ := bind_ok.mp h
    obtain rfl := Except.ok.inj h
    exact ⟨event, rfl, haccount, hline, event, hread, hvalid, rfl, hlog, hfresh,
      bind_ok.mpr ⟨linked, hlink, rfl⟩⟩
  · rintro ⟨event, hevents, haccount, hline, read, hread, hvalid, -, hlog, hfresh, h⟩
    obtain ⟨linked, hlink, h⟩ := bind_ok.mp h
    obtain rfl := Except.ok.inj h
    obtain rfl : read = event := by simpa using hevents
    exact ⟨hline, read, hread, hvalid, haccount, hlog, hfresh, bind_ok.mpr ⟨linked, hlink, rfl⟩⟩

theorem auditRecords_events {lines : List (List UInt8)}
    (h : lines.foldlM (auditRecord serde none) log = .ok after) : log.events ⊆ after.events := by
  induction lines generalizing log with
  | nil =>
    obtain rfl := Except.ok.inj h
    exact List.Subset.refl _
  | cons line lines ih =>
    rw [List.foldlM_cons, bind_ok] at h
    obtain ⟨next, hrecord, hrest⟩ := h
    obtain ⟨event, hevents, -⟩ := auditRecord_account.mp hrecord
    exact fun other hother => ih hrest (by rw [hevents]; exact List.mem_append_left _ hother)

theorem auditRecords_account {lines : List (List UInt8)}
    (hlog : ∀ event ∈ log.events, event.accountId = accountId) :
    lines.foldlM (auditRecord serde (some accountId)) log = .ok after ↔
      lines.foldlM (auditRecord serde none) log = .ok after ∧
        ∀ event ∈ after.events, event.accountId = accountId := by
  induction lines generalizing log with
  | nil =>
    constructor
    · intro h
      obtain rfl := Except.ok.inj h
      exact ⟨rfl, hlog⟩
    · exact fun h => h.1
  | cons line lines ih =>
    simp only [List.foldlM_cons, bind_ok]
    constructor
    · rintro ⟨next, hrecord, hrest⟩
      obtain ⟨event, hevents, haccount, hnone⟩ := auditRecord_account.mp hrecord
      have hnext : ∀ other ∈ next.events, other.accountId = accountId := by
        rw [hevents, List.forall_mem_append, List.forall_mem_singleton]
        exact ⟨hlog, (by simpa using haccount : accountId = event.accountId).symm⟩
      obtain ⟨hrest, hall⟩ := (ih hnext).mp hrest
      exact ⟨⟨next, hnone, hrest⟩, hall⟩
    · rintro ⟨⟨next, hnone, hrest⟩, hall⟩
      have hnext : ∀ other ∈ next.events, other.accountId = accountId :=
        fun other hother => hall other (auditRecords_events hrest hother)
      obtain ⟨event, hevents, -⟩ := auditRecord_account.mp hnone
      have haccount := hnext event (by rw [hevents]; simp)
      exact ⟨next, auditRecord_account.mpr ⟨event, hevents, by simp [haccount], hnone⟩,
        (ih hnext).mpr ⟨hrest, hall⟩⟩

/-- A journal is accepted for the account that all of its events have. -/
theorem audit_account {bytes : List UInt8} :
    auditConnectorLogFile serde bytes (some accountId) = .ok log ↔
      auditConnectorLogFile serde bytes none = .ok log ∧
        ∀ event ∈ log.events, event.accountId = accountId := by
  rw [auditConnectorLogFile, auditConnectorLogFile, check_bind_ok, check_bind_ok,
    auditRecords_account (List.forall_mem_nil _), and_assoc]

/-! One step -/

/-- The journal is kept, and its events are those of before and those appended since. -/
structure Keeps (serde : SerdeJson) (accountId : String) (before : List ConnectorAuditEvent)
    (appends : Appends) (log : AuditLog) : Prop where
  kept : Kept serde accountId appends.file.bytes log
  present : appends.journal = some appends.file
  ownerOnly : appends.file.ownerOnly = true
  events : log.events.map (·.unlinked) = (before ++ appends.events).map (·.unlinked)

theorem sound_of_appendedRecord {file : PrivateFile} {record : List UInt8}
    (h : appendedRecord serde file event = .ok record) : event.Sound := by
  rw [appendedRecord, check_bind_ok, bind_ok] at h
  obtain ⟨-, previous, -, h⟩ := h
  rw [check_bind_ok, validateConnectorAuditEvent, require_ok] at h
  have hwell := h.1
  simp only [ConnectorAuditEvent.wellFormed, ConnectorAuditEvent.appended, Bool.and_eq_true,
    bne_iff_ne] at hwell
  obtain ⟨⟨⟨⟨⟨⟨⟨⟨⟨-, hid⟩, haccount⟩, hrequester⟩, hrequest⟩, hoperation⟩, hdraft⟩, hpolicy⟩, -⟩, -⟩ :=
    hwell
  exact ⟨hid, haccount, hrequester, hrequest, hoperation, hdraft, hpolicy⟩

namespace Keeps

variable (h : Keeps serde accountId before appends log)
include h

theorem verifies : verifiedConnectorLogForAccount serde appends.journal none =
    .ok (log.report, log.events) := by
  rw [h.present, verifiedConnectorLogForAccount, h.ownerOnly, (audit_account.mp h.kept.accepted).1]
  rfl

theorem appendedRecord (hevent : event.Sound) :
    appendedRecord serde appends.file event =
      .ok ((event.appended log.previousDigest).line ++ [10]) :=
  h.kept.appendedRecord h.ownerOnly hevent

theorem outcome_append (hevent : event.Sound) :
    outcome (appendOwnerOnlyConnectorEvent serde event) appends.journal = (.ok (),
      some { appends.file with bytes := appends.file.bytes ++
        ((event.appended log.previousDigest).line ++ [10]) }) := by
  have hrecord := h.appendedRecord hevent
  rw [Appends.file] at hrecord
  rw [Outcomes.outcome, appendOwnerOnlyConnectorEvent, hrecord]
  rfl

theorem verified : Verified serde before appends where
  accepted := ⟨log.report, log.events, h.verifies, h.events⟩
  continues event hevent := by rw [h.outcome_append hevent]

/-- A record that fits is read again. -/
theorem record (hreads : ReadsBack serde) (hevent : event.Sound)
    (hfits : Fits serde accountId appends event) :
    ∃ after, Keeps serde accountId before
      ⟨some { appends.file with bytes := appends.file.bytes ++
          ((event.appended log.previousDigest).line ++ [10]) }, appends.events ++ [event]⟩ after := by
  have hbytes : appends.journal.bytes = appends.file.bytes := by
    rw [h.present]
    rfl
  obtain ⟨hsize, htotal⟩ := hfits.room _ (h.appendedRecord hevent)
  rw [List.length_append, List.length_singleton] at hsize htotal
  rw [hbytes] at htotal
  obtain ⟨after, hafter, hevents⟩ := h.kept.append hevent hfits.account
    (hfits.fresh _ _ h.verifies) rfl (hreads _ (hevent.appended h.kept.belongs.digest)) (by omega)
    htotal
  refine ⟨after, hafter, rfl, h.ownerOnly, ?_⟩
  rw [hevents, List.map_append, h.events]
  change _ ++ [event.unlinked] = _
  simp

theorem step (hreads : ReadsBack serde) {action : AppendAction}
    (hfits : Appended serde accountId appends action) :
    ∃ after, Keeps serde accountId before (appendStep serde appends action) after := by
  have hkept : (⟨some appends.file, appends.events⟩ : Appends) = appends := by rw [← h.present]
  cases action with
  | append event =>
    by_cases hevent : event.Sound
    · obtain ⟨after, hafter⟩ := h.record hreads hevent hfits
      exact ⟨after, by rw [appendStep, h.outcome_append hevent]; exact hafter⟩
    · -- The event is refused before anything is written.
      refine ⟨log, ?_⟩
      cases hrecord : Connector.appendedRecord serde appends.file event with
      | ok record => exact absurd (sound_of_appendedRecord hrecord) hevent
      | error error =>
        have hrefused : outcome (appendOwnerOnlyConnectorEvent serde event) appends.journal =
            (.error error, some appends.file) := by
          rw [Appends.file] at hrecord
          rw [Outcomes.outcome, appendOwnerOnlyConnectorEvent, hrecord]
          rfl
        rw [appendStep, hrefused]
        dsimp only
        rw [hkept]
        exact h
  | crash event written =>
    cases hrecord : Connector.appendedRecord serde appends.file event with
    | error error =>
      refine ⟨log, ?_⟩
      rw [appendStep, hrecord]
      dsimp only
      rw [hkept]
      exact h
    | ok record =>
      have hevent := sound_of_appendedRecord hrecord
      obtain rfl := Except.ok.inj (hrecord.symm.trans (h.appendedRecord hevent))
      rw [appendStep, hrecord]
      rcases hfits with rfl | ⟨hfits, hwhole⟩
      · refine ⟨log, ?_, rfl, h.ownerOnly, ?_⟩
        · simpa [Appends.file] using h.kept
        · simpa using h.events
      · obtain ⟨after, hafter⟩ := h.record hreads hevent hfits
        have hlength := hwhole _ hrecord
        refine ⟨after, ?_⟩
        dsimp only
        rw [if_pos hlength, List.take_of_length_le hlength]
        exact hafter

end Keeps

/-! Runs -/

/-- What the verifier accepted before is read back with all that was appended since, in
order, as long as every append fits and no crash leaves a part of a record. -/
theorem appends_verified (hreads : ReadsBack serde) {file : PrivateFile}
    {report : Connector.ConnectorAuditReport}
    (haccepted : verifiedConnectorLogForAccount serde (some file) none = .ok (report, before))
    (haccount : ∀ event ∈ before, event.accountId = accountId)
    (hstart : Appendable file.bytes) {actions : List AppendAction}
    (hfits : Meets (appendStep serde) (Appended serde accountId) ⟨some file, []⟩ actions) :
    Verified serde before (execute (appendStep serde) ⟨some file, []⟩ actions) := by
  have hkeeps : ∃ log, Keeps serde accountId before ⟨some file, []⟩ log := by
    rw [verifiedConnectorLogForAccount, check_bind_ok, require_ok, bind_ok] at haccepted
    obtain ⟨howner, log, hlog, hdone⟩ := haccepted
    obtain ⟨-, rfl⟩ := Prod.mk.inj (Except.ok.inj hdone)
    exact ⟨log, ⟨audit_account.mpr ⟨hlog, haccount⟩, hstart⟩, rfl, howner, by simp⟩
  have hstep : ∀ appends action, (∃ log, Keeps serde accountId before appends log) →
      Appended serde accountId appends action →
        ∃ log, Keeps serde accountId before (appendStep serde appends action) log := by
    intro appends action hkeeps hfits
    obtain ⟨log, hlog⟩ := hkeeps
    exact hlog.step hreads hfits
  obtain ⟨log, hlog⟩ := Meets.invariant _ hstep hfits hkeeps
  exact hlog.verified

theorem keeps_empty : Keeps serde accountId [] ⟨some ⟨true, []⟩, []⟩ .initial :=
  ⟨Connector.kept_empty serde accountId, rfl, rfl, rfl⟩

/-- A request that is answered, and a crash before anything of the next record is written. -/
theorem appends_verified_sample : ∃ event,
    Verified exactSerde [] (execute (appendStep exactSerde) ⟨some ⟨true, []⟩, []⟩
      [.append event, .crash event 0]) := by
  refine ⟨requestEvent sampleLibraries sampleService sampleRead (some "friend") .completed 1 5 0,
    appends_verified exactSerde_readsBack rfl (List.forall_mem_nil _)
      (Connector.kept_empty exactSerde sampleIdentity).appendable ⟨⟨rfl, ?_, ?_⟩, .inl rfl, trivial⟩⟩
  · intro report events hverified
    obtain ⟨-, rfl⟩ := Prod.mk.inj (Except.ok.inj hverified)
    exact List.not_mem_nil
  · exact sampleRead_room

/-! A record that is too long to be read again -/

theorem conversation_le_line {conversation : String} (h : event.conversationId = some conversation) :
    conversation.utf8ByteSize ≤ event.line.length := by
  have hescaped := Json.utf8ByteSize_le_escapedSize conversation
  rw [ConnectorAuditEvent.line, Json.byteCount_toText, ConnectorAuditEvent.toJson]
  simp only [List.cons_append]
  rw [Json.byteCount_obj]
  simp only [List.map_cons, List.sum_cons, Json.memberSize, h, Connector.optionJson, Json.render,
    Json.byteCount_renderString_eq]
  omega

theorem utf8ByteSize_replicate (n : ℕ) :
    (String.ofList (List.replicate n 'a')).utf8ByteSize = n := by
  have hone : 'a'.utf8Size = 1 := by decide
  rw [← Json.byteCount_toList, String.toList_ofList]
  induction n with
  | zero => rfl
  | succ n ih => rw [List.replicate_succ, Json.byteCount_cons, ih, hone, Nat.add_comm]

/-- What a caller asks for that no conversation of the policy is called. -/
def longConversation : String := String.ofList (List.replicate 70000 'a')

/-- The refusal of a request as it is recorded. -/
def longRefusal (libs : DirectLibraries) : ConnectorAuditEvent :=
  requestEvent libs sampleService (sampleArrival (.getMessages longConversation none none))
    (some longConversation) .denied 0 0 0

/-- The refusal is appended to an empty journal, which is not accepted any more. -/
theorem longRefusal_unverified :
    (outcome (appendOwnerOnlyConnectorEvent exactSerde (longRefusal sampleLibraries))
        (some ⟨true, []⟩)).1 = .ok () ∧
      ¬ Verified exactSerde [] (execute (appendStep exactSerde) ⟨some ⟨true, []⟩, []⟩
        [.append (longRefusal sampleLibraries)]) := by
  have hsound : (longRefusal sampleLibraries).Sound :=
    requestEvent_sound (sampleArrival_valid _) _ _ _ _ _
  have happend := (@keeps_empty exactSerde sampleIdentity).outcome_append hsound
  refine ⟨by rw [happend], fun h => ?_⟩
  obtain ⟨report, events, haccepted, -⟩ := h.accepted
  rw [execute_cons, execute_nil, appendStep, happend] at haccepted
  generalize hevent : (longRefusal sampleLibraries).appended AuditLog.initial.previousDigest = event
    at haccepted
  have hlong : 70000 ≤ event.line.length := by
    have hsize := utf8ByteSize_replicate 70000
    rw [← hevent, ← hsize]
    exact conversation_le_line rfl
  have hplain := event.line_plain
  rw [verifiedConnectorLogForAccount, check_bind_ok, bind_ok] at haccepted
  obtain ⟨-, log, hlog, -⟩ := haccepted
  rw [auditConnectorLogFile, check_bind_ok] at hlog
  have hlines : Connector.journalLines ([] ++ (event.line ++ [10])) = [event.line] := by
    rw [List.nil_append, Connector.journalLines_content fun byte hbyte => (hplain.bytes byte hbyte).1]
    have htrim := hplain.trim
    rw [Connector.trimRecord] at htrim
    rw [htrim]
  have hrecord := hlog.2
  change (Connector.journalLines ([] ++ (event.line ++ [10]))).foldlM _ _ = _ at hrecord
  rw [hlines, List.foldlM_cons, bind_ok] at hrecord
  obtain ⟨next, hrecord, -⟩ := hrecord
  rw [auditRecord, check_bind_ok, require_ok, Bool.and_eq_true, decide_eq_true_eq] at hrecord
  have hsize := hrecord.1.2
  rw [Connector.maxConnectorAuditRecordBytes] at hsize
  omega

end GreenBubbles.Direct
