import Mathlib.Data.List.Dedup
import GreenBubbles.Connector.Identity
import GreenBubbles.Connector.StateAudit

/-! # The order of the send lifecycle

The audit compares per-draft totals. What it accepts is therefore accepted in
every order of the same events, written without chain fields; the order of the
lifecycle is certain only in a journal that records no attempt.
-/
namespace GreenBubbles.Connector

open Library Library.Bytes

/-! What one event adds to the totals -/

def stageDrafts (selected : ConnectorAuditEvent → Bool) (events : List ConnectorAuditEvent) :
    List String :=
  (events.filter selected).filterMap (·.draftId)

def isCompleted (stage : ConnectorAuditStage) (event : ConnectorAuditEvent) : Bool :=
  event.stage == stage && event.outcome == .completed

def isStage (stage : ConnectorAuditStage) (event : ConnectorAuditEvent) : Bool :=
  event.stage == stage

def EventAudit.of (events : List ConnectorAuditEvent) : EventAudit where
  completedRequests := stageDrafts (isCompleted .draftRequested) events
  completedReviews := stageDrafts (isCompleted .draftReviewed) events
  sendApprovals := stageDrafts (isCompleted .approvalRecorded) events
  sendAttempts := stageDrafts (isStage .attemptRecorded) events
  sendReconciliations := stageDrafts (isStage .reconciliationRecorded) events

def EventAudit.append (first second : EventAudit) : EventAudit where
  completedRequests := first.completedRequests ++ second.completedRequests
  completedReviews := first.completedReviews ++ second.completedReviews
  sendApprovals := first.sendApprovals ++ second.sendApprovals
  sendAttempts := first.sendAttempts ++ second.sendAttempts
  sendReconciliations := first.sendReconciliations ++ second.sendReconciliations

theorem stageDrafts_append (selected : ConnectorAuditEvent → Bool)
    (first second : List ConnectorAuditEvent) :
    stageDrafts selected (first ++ second) =
      stageDrafts selected first ++ stageDrafts selected second := by
  simp [stageDrafts]

theorem EventAudit.of_append (first second : List ConnectorAuditEvent) :
    EventAudit.of (first ++ second) = (EventAudit.of first).append (EventAudit.of second) := by
  simp only [EventAudit.of, EventAudit.append, stageDrafts_append]

theorem linkedAuditDraft_ok {event : ConnectorAuditEvent} {drafts : List ActionDraft}
    {operation : String} {draft : ActionDraft}
    (h : linkedAuditDraft event drafts operation = .ok draft) :
    event.draftId = some draft.draftId ∧ draft ∈ drafts := by
  unfold linkedAuditDraft at h
  cases hid : event.draftId with
  | none => simp [hid, throw, throwThe, MonadExceptOf.throw] at h
  | some draftId =>
    cases hfind : drafts.find? (·.draftId == draftId) with
    | none => simp [hid, hfind, throw, throwThe, MonadExceptOf.throw] at h
    | some found =>
      simp only [hid, hfind, check_bind_ok, require_ok] at h
      obtain rfl := Except.ok.inj h.2
      have hkey := List.find?_some hfind
      rw [beq_iff_eq] at hkey
      exact ⟨by rw [hkey], List.mem_of_find?_eq_some hfind⟩

theorem EventAudit.append_nil (audit : EventAudit) :
    audit.append (EventAudit.of []) = audit := by
  simp [EventAudit.append, EventAudit.of, stageDrafts]

theorem stageDrafts_single (selected : ConnectorAuditEvent → Bool) (event : ConnectorAuditEvent) :
    stageDrafts selected [event] = if selected event then event.draftId.toList else [] := by
  unfold stageDrafts
  cases h : selected event <;> cases hid : event.draftId <;> simp [h, hid]

theorem auditEvent_adds {drafts : List ActionDraft} {audit after : EventAudit}
    {event : ConnectorAuditEvent} (h : auditEvent drafts audit event = .ok after) :
    after = audit.append (EventAudit.of [event]) := by
  have hnamed : ∀ {operation draft}, linkedAuditDraft event drafts operation = .ok draft →
      event.draftId = some draft.draftId := fun hdraft => (linkedAuditDraft_ok hdraft).1
  cases hstage : event.stage <;> cases houtcome : event.outcome <;>
    simp only [auditEvent, hstage, houtcome, bind_ok, EventAudit.append, EventAudit.of,
      stageDrafts_single, isCompleted, isStage] at h ⊢ <;>
    obtain ⟨-, -, h⟩ := h
  all_goals first
    | obtain rfl := Except.ok.inj h
      simp
    | obtain ⟨draft, hdraft, h⟩ := h
      have hid := hnamed hdraft
      first
        | obtain rfl := Except.ok.inj h
          simp [hid]
        | obtain ⟨-, -, h⟩ := h
          obtain rfl := Except.ok.inj h
          simp [hid]

/-- Whether an event is accepted does not depend on what was counted before it. -/
theorem auditEvent_anywhere {drafts : List ActionDraft} {audit after : EventAudit}
    {event : ConnectorAuditEvent} (h : auditEvent drafts audit event = .ok after)
    (other : EventAudit) : ∃ later, auditEvent drafts other event = .ok later := by
  cases hstage : event.stage <;> cases houtcome : event.outcome <;>
    simp only [auditEvent, hstage, houtcome, bind_ok] at h ⊢ <;>
    obtain ⟨u, hu, h⟩ := h
  all_goals first
    | exact ⟨_, u, hu, rfl⟩
    | obtain ⟨draft, hdraft, h⟩ := h
      first
        | obtain ⟨v, hv, -⟩ := h
          exact ⟨_, u, hu, draft, hdraft, v, hv, rfl⟩
        | exact ⟨_, u, hu, draft, hdraft, rfl⟩

/-- The audit accepts the event on its own. -/
def Linked (drafts : List ActionDraft) (event : ConnectorAuditEvent) : Prop :=
  ∃ audit, auditEvent drafts .initial event = .ok audit

/-- The events are read as one sum, each accepted on its own. -/
theorem auditEvents_ok {drafts : List ActionDraft} {events : List ConnectorAuditEvent}
    {audit after : EventAudit} :
    events.foldlM (auditEvent drafts) audit = .ok after ↔
      (∀ event ∈ events, Linked drafts event) ∧ after = audit.append (EventAudit.of events) := by
  induction events generalizing audit with
  | nil =>
    rw [List.foldlM_nil, EventAudit.append_nil]
    constructor
    · intro h
      exact ⟨by simp, (Except.ok.inj h).symm⟩
    · rintro ⟨-, rfl⟩
      rfl
  | cons event events ih =>
    have hassoc : ∀ base : EventAudit, (base.append (EventAudit.of [event])).append
        (EventAudit.of events) = base.append (EventAudit.of (event :: events)) := by
      intro base
      have hsplit := EventAudit.of_append [event] events
      rw [List.singleton_append] at hsplit
      rw [hsplit]
      simp only [EventAudit.append, List.append_assoc]
    rw [List.foldlM_cons, bind_ok, List.forall_mem_cons]
    constructor
    · rintro ⟨next, hevent, hrest⟩
      obtain ⟨hlinked, rfl⟩ := ih.mp hrest
      obtain rfl := auditEvent_adds hevent
      exact ⟨⟨auditEvent_anywhere hevent _, hlinked⟩, hassoc audit⟩
    · rintro ⟨⟨⟨start, hevent⟩, hlinked⟩, rfl⟩
      obtain ⟨next, hnext⟩ := auditEvent_anywhere hevent audit
      have hadds := auditEvent_adds hnext
      refine ⟨next, hnext, ih.mpr ⟨hlinked, ?_⟩⟩
      rw [hadds, hassoc]

theorem Linked.unlinked {drafts : List ActionDraft} {event : ConnectorAuditEvent} :
    Linked drafts event.unlinked ↔ Linked drafts event := Iff.rfl

/-! The totals do not see the order -/

theorem stageDrafts_perm (selected : ConnectorAuditEvent → Bool)
    {first second : List ConnectorAuditEvent} (h : first.Perm second) :
    (stageDrafts selected first).Perm (stageDrafts selected second) :=
  (h.filter selected).filterMap _

theorem checkTotals_ok {drafts : List ActionDraft} {audit : EventAudit} :
    checkTotals drafts audit = .ok () ↔
      (audit.completedRequests.dedup.length = drafts.length ∧
        ∀ draftId ∈ audit.completedRequests, audit.completedRequests.count draftId = 1) ∧
      (∀ draftId ∈ audit.sendAttempts,
        audit.sendAttempts.count draftId ≤ audit.sendApprovals.count draftId) ∧
      ∀ draftId ∈ audit.sendReconciliations, draftId ∈ audit.sendAttempts := by
  simp only [checkTotals, check_bind_ok, require_ok, Bool.and_eq_true, beq_iff_eq,
    List.all_eq_true, decide_eq_true_eq, List.contains_iff_mem]

theorem checkTotals_perm {drafts : List ActionDraft} {first second : List ConnectorAuditEvent}
    (h : first.Perm second) (hok : checkTotals drafts (EventAudit.of first) = .ok ()) :
    checkTotals drafts (EventAudit.of second) = .ok () := by
  have hrequests := stageDrafts_perm (isCompleted .draftRequested) h
  have happrovals := stageDrafts_perm (isCompleted .approvalRecorded) h
  have hattempts := stageDrafts_perm (isStage .attemptRecorded) h
  have hreconciliations := stageDrafts_perm (isStage .reconciliationRecorded) h
  rw [checkTotals_ok] at hok ⊢
  simp only [EventAudit.of] at hok ⊢
  obtain ⟨⟨hlength, hone⟩, htimes, hknown⟩ := hok
  refine ⟨⟨?_, ?_⟩, ?_, ?_⟩
  · rw [← hrequests.dedup.length_eq, hlength]
  · intro draftId hmem
    rw [← hrequests.count_eq]
    exact hone draftId (hrequests.mem_iff.mpr hmem)
  · intro draftId hmem
    rw [← hattempts.count_eq, ← happrovals.count_eq]
    exact htimes draftId (hattempts.mem_iff.mpr hmem)
  · intro draftId hmem
    exact hattempts.mem_iff.mp (hknown draftId (hreconciliations.mem_iff.mpr hmem))

/-! The same events without chain fields -/

theorem AuditedLine.unlink {serde : SerdeJson} {accountId : String} {line : List UInt8}
    {event : ConnectorAuditEvent} (h : AuditedLine serde accountId line event) :
    ∃ shorter : List UInt8, shorter.length ≤ line.length ∧ PlainLine shorter ∧
      AuditedLine serde accountId shorter event.unlinked := by
  obtain ⟨shorter, hne, hlength, hbytes, hreads⟩ := serde.unlink line event h.reads
  exact ⟨shorter, hlength, ⟨hne, hbytes⟩,
    { nonempty := hne
      size := hlength.trans h.size
      reads := hreads
      wellFormed := ConnectorAuditEvent.wellFormed_unlinked h.wellFormed
      account := h.account }⟩

/-- Every event of an accepted journal has a line without chain fields, and
together these lines are no longer than the journal's. -/
theorem unlinked_records {serde : SerdeJson} {accountId : String} {lines : List (List UInt8)}
    {events : List ConnectorAuditEvent}
    (h : List.Forall₂ (AuditedLine serde accountId) lines events) :
    ∃ records : List (List UInt8 × ConnectorAuditEvent), records.map Prod.snd = events ∧
      (∀ record ∈ records, PlainLine record.1 ∧
        AuditedLine serde accountId record.1 record.2.unlinked) ∧
      (records.map (·.1.length + 1)).sum ≤ (lines.map (·.length + 1)).sum := by
  induction h with
  | nil => exact ⟨[], rfl, by simp, le_refl _⟩
  | @cons line event lines events hline _ ih =>
    obtain ⟨records, hevents, hrecords, hlength⟩ := ih
    obtain ⟨shorter, hshorter, hplain, haudited⟩ := hline.unlink
    refine ⟨(shorter, event) :: records, by rw [List.map_cons, hevents], ?_, ?_⟩
    · rw [List.forall_mem_cons]
      exact ⟨⟨hplain, haudited⟩, hrecords⟩
    · simp only [List.map_cons, List.sum_cons]
      omega

theorem auditConnectorLogFile_legacy {serde : SerdeJson} {accountId : String}
    {records : List (List UInt8 × ConnectorAuditEvent)}
    (hrecords : ∀ record ∈ records, PlainLine record.1 ∧
      AuditedLine serde accountId record.1 record.2.unlinked)
    (hids : (records.map (·.2.eventId)).Nodup)
    (hsize : (records.map (·.1.length + 1)).sum ≤ maxConnectorAuditBytes + 1) :
    ∃ log, auditConnectorLogFile serde (joinLines (records.map Prod.fst)) (some accountId) =
        .ok log ∧ log.events = records.map (·.2.unlinked) := by
  have hplain : ∀ line ∈ records.map Prod.fst, PlainLine line := by
    intro line hline
    obtain ⟨record, hrecord, rfl⟩ := List.mem_map.mp hline
    exact (hrecords record hrecord).1
  have hlength : (joinLines (records.map Prod.fst)).length ≤ maxConnectorAuditBytes := by
    cases records with
    | nil => exact Nat.zero_le _
    | cons record records =>
      have hne : (record :: records).map Prod.fst ≠ [] := List.cons_ne_nil _ _
      have hjoin := length_joinLines hne
      rw [List.map_map] at hjoin
      change _ = ((record :: records).map (·.1.length + 1)).sum at hjoin
      omega
  have hinitial : AuditLog.initial.accountId.all (· == accountId) = true := rfl
  obtain ⟨log, hlog, hevents⟩ := auditRecords_legacy
    (fun record hrecord => (hrecords record hrecord).2) hids rfl hinitial
    (by simp [AuditLog.initial])
  refine ⟨log, ?_, hevents⟩
  rw [auditConnectorLogFile, check_bind_ok, require_ok, journalLines_joinLines hplain]
  exact ⟨decide_eq_true hlength, hlog⟩

/-- The events of an accepted journal, and what the audit asked of each. -/
theorem verifiedLog_ok {serde : SerdeJson} {journal : Option PrivateFile} {accountId : String}
    {report : ConnectorAuditReport} {events : List ConnectorAuditEvent}
    (h : verifiedConnectorLogForAccount serde journal (some accountId) = .ok (report, events)) :
    ∃ lines, List.Forall₂ (AuditedLine serde accountId) lines events ∧
      (events.map (·.eventId)).Nodup ∧
      (lines.map (·.length + 1)).sum ≤ maxConnectorAuditBytes + 1 := by
  cases journal with
  | none => simp [verifiedConnectorLogForAccount, throw, throwThe, MonadExceptOf.throw] at h
  | some file =>
    rw [verifiedConnectorLogForAccount, check_bind_ok, bind_ok] at h
    obtain ⟨-, log, hlog, h⟩ := h
    obtain ⟨rfl, rfl⟩ := Prod.mk.inj (Except.ok.inj h)
    rw [auditConnectorLogFile, check_bind_ok, require_ok, decide_eq_true_eq] at hlog
    obtain ⟨audited, hlines, hevents, hnodup, -⟩ := auditRecords_ok hlog.2
    rw [AuditLog.initial, List.nil_append] at hevents
    rw [hevents]
    have hlength := length_journalLines file.bytes
    exact ⟨_, hlines, hnodup, by omega⟩

theorem initial_append (audit : EventAudit) : EventAudit.initial.append audit = audit := rfl

theorem auditState_ok {serde : SerdeJson} {service : ConnectorService} {store : ConnectorStore}
    {now : ℕ} : (∃ report, auditState serde service store now = .ok report) ↔
      ∃ log events fingerprint files,
        verifiedConnectorLogForAccount serde store.journal (some service.policy.accountId) =
          .ok (log, events) ∧
        service.replicaStatus = .ok (some fingerprint) ∧
        store.drafts.foldlM (auditDraftFile serde service fingerprint now) .initial = .ok files ∧
        (∀ event ∈ events, Linked files.drafts event) ∧
        checkTotals files.drafts (EventAudit.of events) = .ok () := by
  simp only [auditState, bind_ok]
  constructor
  · rintro ⟨report, ⟨log, events⟩, hlog, status, hstatus, h⟩
    cases status with
    | none => simp [throw, throwThe, MonadExceptOf.throw] at h
    | some fingerprint =>
      simp only [bind_ok, auditEvents_ok, initial_append] at h
      obtain ⟨files, hfiles, audit, ⟨hlinked, rfl⟩, u, htotals, -⟩ := h
      exact ⟨log, events, fingerprint, files, hlog, hstatus, hfiles, hlinked, htotals⟩
  · rintro ⟨log, events, fingerprint, files, hlog, hstatus, hfiles, hlinked, htotals⟩
    exact ⟨_, (log, events), hlog, some fingerprint, hstatus, bind_ok.mpr ⟨files, hfiles,
      bind_ok.mpr ⟨_, auditEvents_ok.mpr ⟨hlinked, rfl⟩, check_bind_ok.mpr ⟨htotals, rfl⟩⟩⟩⟩

theorem stageDrafts_unlinked {selected : ConnectorAuditEvent → Bool}
    (hselected : ∀ event, selected (ConnectorAuditEvent.unlinked event) = selected event)
    (events : List ConnectorAuditEvent) :
    stageDrafts selected (events.map ConnectorAuditEvent.unlinked) =
      stageDrafts selected events := by
  induction events with
  | nil => rfl
  | cons event events ih =>
    have hcons := stageDrafts_append selected [event] events
    have hcons' := stageDrafts_append selected [event.unlinked]
      (events.map ConnectorAuditEvent.unlinked)
    rw [List.singleton_append] at hcons hcons'
    rw [List.map_cons, hcons, hcons', ih, stageDrafts_single, stageDrafts_single, hselected]
    rfl

theorem EventAudit.of_unlinked (events : List ConnectorAuditEvent) :
    EventAudit.of (events.map ConnectorAuditEvent.unlinked) = EventAudit.of events := by
  simp only [EventAudit.of]
  congr 1 <;> exact stageDrafts_unlinked (fun _ => rfl) events

/-! The order of the lifecycle -/

/-- In journal order every attempt finds an approval of its draft that no earlier
attempt has used, and every reconciliation an attempt. -/
structure LifecycleOrdered (events : List ConnectorAuditEvent) : Prop where
  attempts : ∀ before event after, events = before ++ event :: after →
    event.stage = .attemptRecorded → ∀ draftId, event.draftId = some draftId →
    (stageDrafts (isStage .attemptRecorded) before).count draftId <
      (stageDrafts (isCompleted .approvalRecorded) before).count draftId
  reconciliations : ∀ before event after, events = before ++ event :: after →
    event.stage = .reconciliationRecorded →
    ∃ earlier ∈ before, earlier.stage = .attemptRecorded ∧ earlier.draftId = event.draftId

/-- The same events, chain fields aside, in any order. -/
def Reordering (events reordered : List ConnectorAuditEvent) : Prop :=
  (reordered.map ConnectorAuditEvent.unlinked).Perm (events.map ConnectorAuditEvent.unlinked)

/-- The events the audit reads from a store's journal. -/
def journalEvents (serde : SerdeJson) (service : ConnectorService) (journal : Option PrivateFile) :
    Except RestoreError (List ConnectorAuditEvent) :=
  (verifiedConnectorLogForAccount serde journal (some service.policy.accountId)).map Prod.snd

theorem Linked.draftId_isSome {drafts : List ActionDraft} {event : ConnectorAuditEvent}
    (h : Linked drafts event)
    (hstage : event.stage = .attemptRecorded ∨ event.stage = .reconciliationRecorded) :
    ∃ draftId, event.draftId = some draftId := by
  obtain ⟨audit, h⟩ := h
  rcases hstage with hstage | hstage <;> cases houtcome : event.outcome <;>
    simp only [auditEvent, hstage, houtcome, bind_ok] at h <;>
    obtain ⟨-, -, draft, hdraft, -⟩ := h <;>
    exact ⟨draft.draftId, (linkedAuditDraft_ok hdraft).1⟩

/-- Without attempts the totals leave no reconciliation either, and there is
nothing to order. -/
theorem ordered_of_no_attempt {drafts : List ActionDraft} {events : List ConnectorAuditEvent}
    (hlinked : ∀ event ∈ events, Linked drafts event)
    (htotals : checkTotals drafts (EventAudit.of events) = .ok ())
    (hnone : ∀ event ∈ events, event.stage ≠ .attemptRecorded) : LifecycleOrdered events := by
  have hattempts : stageDrafts (isStage .attemptRecorded) events = [] := by
    rw [stageDrafts, List.filter_eq_nil_iff.mpr, List.filterMap_nil]
    intro event hevent
    simpa [isStage] using hnone event hevent
  constructor
  · intro before event after hsplit hstage
    exact absurd hstage (hnone event (by simp [hsplit]))
  · intro before event after hsplit hstage
    have hevent : event ∈ events := by simp [hsplit]
    obtain ⟨draftId, hid⟩ := (hlinked event hevent).draftId_isSome (.inr hstage)
    have hknown := (checkTotals_ok.mp htotals).2.2 draftId (by
      simp only [EventAudit.of, stageDrafts, List.mem_filterMap, List.mem_filter]
      exact ⟨event, ⟨hevent, by simp [isStage, hstage]⟩, hid⟩)
    simp only [EventAudit.of, hattempts, List.not_mem_nil] at hknown

theorem journalEvents_ok {serde : SerdeJson} {service : ConnectorService}
    {journal : Option PrivateFile} {events : List ConnectorAuditEvent} :
    journalEvents serde service journal = .ok events ↔ ∃ log,
      verifiedConnectorLogForAccount serde journal (some service.policy.accountId) =
        .ok (log, events) := by
  unfold journalEvents
  cases h : verifiedConnectorLogForAccount serde journal (some service.policy.accountId) with
  | error error => simp [Except.map]
  | ok result => simp [Except.map, Prod.ext_iff]

/-- Any recorded event can be moved to the front of an accepted journal. -/
theorem accepted_with_first {serde : SerdeJson} {service : ConnectorService}
    {store : ConnectorStore} {now : ℕ} {report : ConnectorStateAuditReport}
    {events : List ConnectorAuditEvent} {event : ConnectorAuditEvent}
    (haccepted : auditState serde service store now = .ok report)
    (hevents : journalEvents serde service store.journal = .ok events) (hevent : event ∈ events) :
    ∃ journal rest, journalEvents serde service (some journal) = .ok (event.unlinked :: rest) ∧
      Reordering events (event.unlinked :: rest) ∧
      ∃ later, auditState serde service { store with journal := some journal } now = .ok later := by
  obtain ⟨log, read, fingerprint, files, hlog, hstatus, hfiles, hlinked, htotals⟩ :=
    auditState_ok.mp ⟨report, haccepted⟩
  obtain ⟨log', hlog'⟩ := journalEvents_ok.mp hevents
  obtain rfl : read = events := (Prod.mk.inj (Except.ok.inj (hlog.symm.trans hlog'))).2
  obtain ⟨lines, hlines, hids, hsize⟩ := verifiedLog_ok hlog
  obtain ⟨records, rfl, hrecords, hlength⟩ := unlinked_records hlines
  obtain ⟨record, hrecord, rfl⟩ := List.mem_map.mp hevent
  have hperm : (record :: records.erase record).Perm records := (List.perm_cons_erase hrecord).symm
  have hreordered : ((record :: records.erase record).map (·.2.unlinked)).Perm
      ((records.map Prod.snd).map ConnectorAuditEvent.unlinked) := by
    rw [List.map_map]
    exact hperm.map _
  have hgood : ∀ r ∈ record :: records.erase record, PlainLine r.1 ∧
      AuditedLine serde service.policy.accountId r.1 r.2.unlinked :=
    fun r hr => hrecords r (hperm.mem_iff.mp hr)
  have hids' : ((record :: records.erase record).map (·.2.eventId)).Nodup := by
    rw [(hperm.map _).nodup_iff]
    rwa [List.map_map] at hids
  have hsize' : ((record :: records.erase record).map (·.1.length + 1)).sum ≤
      maxConnectorAuditBytes + 1 := by
    rw [(hperm.map _).sum_nat]
    exact hlength.trans hsize
  obtain ⟨after, hafter, happend⟩ := auditConnectorLogFile_legacy hgood hids' hsize'
  have hverified : verifiedConnectorLogForAccount serde
      (some ⟨true, joinLines ((record :: records.erase record).map Prod.fst)⟩)
      (some service.policy.accountId) =
      .ok (after.report, (record :: records.erase record).map (·.2.unlinked)) := by
    rw [← happend]
    exact check_bind_ok.mpr ⟨rfl, bind_ok.mpr ⟨after, hafter, rfl⟩⟩
  refine ⟨_, (records.erase record).map (·.2.unlinked), journalEvents_ok.mpr ⟨_, hverified⟩, ?_, ?_⟩
  · change (((record :: records.erase record).map (·.2.unlinked)).map
      ConnectorAuditEvent.unlinked).Perm _
    rw [List.map_map]
    exact hreordered
  · refine auditState_ok.mpr ⟨_, _, fingerprint, files, hverified, hstatus, hfiles, ?_, ?_⟩
    · intro event hmem
      obtain ⟨r, hr, rfl⟩ := List.mem_map.mp hmem
      exact Linked.unlinked.mpr (hlinked r.2 (List.mem_map_of_mem (hperm.mem_iff.mp hr)))
    · rw [← EventAudit.of_unlinked] at htotals
      exact checkTotals_perm hreordered.symm htotals

/-- The audit keeps the lifecycle in order, in the journal it accepts and in every
reordering of its events, exactly when the journal records no attempt. -/
theorem send_lifecycle_ordered_iff {serde : SerdeJson} {service : ConnectorService}
    {store : ConnectorStore} {now : ℕ} {report : ConnectorStateAuditReport}
    {events : List ConnectorAuditEvent}
    (haccepted : auditState serde service store now = .ok report)
    (hevents : journalEvents serde service store.journal = .ok events) :
    (LifecycleOrdered events ∧
      ∀ journal reordered, journalEvents serde service (some journal) = .ok reordered →
        Reordering events reordered → ¬ LifecycleOrdered reordered →
        ∃ error, auditState serde service { store with journal := some journal } now =
          .error error) ↔
      ∀ event ∈ events, event.stage ≠ .attemptRecorded := by
  constructor
  · rintro ⟨-, hreorder⟩ event hevent hstage
    obtain ⟨journal, rest, hjournal, hperm, later, hlater⟩ :=
      accepted_with_first haccepted hevents hevent
    obtain ⟨log, read, fingerprint, files, hlog, -, -, hlinked, -⟩ :=
      auditState_ok.mp ⟨report, haccepted⟩
    obtain ⟨log', hlog'⟩ := journalEvents_ok.mp hevents
    obtain rfl : read = events := (Prod.mk.inj (Except.ok.inj (hlog.symm.trans hlog'))).2
    obtain ⟨draftId, hid⟩ := (hlinked event hevent).draftId_isSome (.inl hstage)
    have hunordered : ¬ LifecycleOrdered (event.unlinked :: rest) := by
      intro hordered
      have hcount := hordered.attempts [] event.unlinked rest rfl hstage draftId hid
      exact Nat.not_lt_zero _ hcount
    obtain ⟨error, herror⟩ := hreorder journal _ hjournal hperm hunordered
    rw [hlater] at herror
    exact absurd herror (by simp)
  · intro hnone
    obtain ⟨log, read, fingerprint, files, hlog, -, -, hlinked, htotals⟩ :=
      auditState_ok.mp ⟨report, haccepted⟩
    obtain ⟨log', hlog'⟩ := journalEvents_ok.mp hevents
    obtain rfl : read = events := (Prod.mk.inj (Except.ok.inj (hlog.symm.trans hlog'))).2
    refine ⟨ordered_of_no_attempt hlinked htotals hnone, ?_⟩
    intro journal reordered hjournal hperm hunordered
    cases hresult : auditState serde service { store with journal := some journal } now with
    | error error => exact ⟨error, rfl⟩
    | ok later =>
      obtain ⟨log, read', fingerprint, files, hlog, -, -, hlinked, htotals⟩ :=
        auditState_ok.mp ⟨later, hresult⟩
      obtain ⟨log', hlog'⟩ := journalEvents_ok.mp hjournal
      obtain rfl : read' = reordered := (Prod.mk.inj (Except.ok.inj (hlog.symm.trans hlog'))).2
      refine absurd (ordered_of_no_attempt hlinked htotals ?_) hunordered
      intro event hevent hstage
      obtain ⟨original, horiginal, hsame⟩ := List.mem_map.mp
        (hperm.mem_iff.mp (List.mem_map_of_mem hevent))
      have hstages : original.unlinked.stage = event.unlinked.stage := by rw [hsame]
      exact hnone original horiginal (hstages.trans hstage)

/-! An attempt before its approval -/

theorem auditState_claims_order {serde : SerdeJson} {service : ConnectorService}
    {store : ConnectorStore} {now : ℕ} {report : ConnectorStateAuditReport}
    (h : auditState serde service store now = .ok report) :
    report.sendLifecycleOrderingValid = true := by
  simp only [auditState, bind_ok] at h
  obtain ⟨⟨log, events⟩, -, status, -, h⟩ := h
  cases status with
  | none => simp [throw, throwThe, MonadExceptOf.throw] at h
  | some fingerprint =>
    simp only [bind_ok] at h
    obtain ⟨files, -, audit, -, -, -, h⟩ := h
    rw [← Except.ok.inj h]

/-- A legacy record about a draft. -/
def auditedEvent (draft : ActionDraft) (eventId : Char) (operation : String)
    (stage : ConnectorAuditStage) : ConnectorAuditEvent where
  formatVersion := 1
  eventId := String.ofList (List.replicate 64 eventId)
  observedAtUnixNanoseconds := 1000
  accountId := draft.accountId
  requesterId := draft.requesterId
  requestId := "request"
  operation := operation
  stage := stage
  conversationId := some draft.conversationId
  destination := .localOnly
  outcome := .completed
  returnedItemCount := 1
  releasedBodyByteCount := 0
  requestBodyByteCount := 5
  draftId := some draft.draftId
  policyDecisionId := some draft.policyDecisionId
  previousEventSha256 := none
  eventSha256 := ""

/-- The attempt is recorded before the approval it needs. -/
def unorderedEvents (draft : ActionDraft) : List ConnectorAuditEvent :=
  [auditedEvent draft 'a' "createDraft" .draftRequested,
   auditedEvent draft 'b' "executeSend" .attemptRecorded,
   auditedEvent draft 'c' "executeSend" .approvalRecorded]

theorem unorderedEvents_legacy {draft : ActionDraft} {event : ConnectorAuditEvent}
    (h : event ∈ unorderedEvents draft) : event.unlinked = event := by
  simp only [unorderedEvents, List.mem_cons, List.not_mem_nil, or_false] at h
  rcases h with rfl | rfl | rfl <;> rfl

/-- Readers that know the draft and the records about it, and nothing else. -/
def sampleSerde (draft : ActionDraft) : SerdeJson where
  draftFromSlice bytes :=
    if bytes = utf8 draft.toJson.toText then .ok draft else .error "expected value"
  eventFromSlice bytes :=
    match (unorderedEvents draft).find? (·.line == bytes) with
    | some event => .ok event
    | none => .error "expected value"
  unlink line event h := by
    cases hfind : (unorderedEvents draft).find? (·.line == line) with
    | none => simp [hfind] at h
    | some found =>
      have hmem := List.mem_of_find?_eq_some hfind
      have hline : found.line = line := by simpa using List.find?_some hfind
      have hplain := found.line_plain
      simp only [hfind, Except.ok.injEq] at h
      subst h
      rw [hline] at hplain
      refine ⟨line, hplain.nonempty, le_refl _, hplain.bytes, ?_⟩
      rw [hfind, unorderedEvents_legacy hmem]

def sampleService (draft : ActionDraft) : ConnectorService where
  policy := { accountId := draft.accountId, maximumDraftBytes := 4096 }
  policySha256 := draft.policyDecisionId
  replicaStatus := .ok (some draft.sourceFingerprint)

def unorderedStore (draft : ActionDraft) : ConnectorStore where
  drafts := [(draft.draftId ++ ".json", ⟨true, utf8 draft.toJson.toText⟩)]
  journal := some ⟨true, joinLines ((unorderedEvents draft).map ConnectorAuditEvent.line)⟩

theorem eventId_of_line {first second : ConnectorAuditEvent} (h : first.line = second.line) :
    first.eventId = second.eventId := by
  have hjson := Json.toText_inj (utf8_injective h)
  simp only [ConnectorAuditEvent.toJson, Json.obj.injEq, List.cons_append, List.cons.injEq,
    Prod.mk.injEq, Json.str.injEq] at hjson
  exact hjson.2.1.2

theorem unorderedEvents_ids (draft : ActionDraft) :
    ((unorderedEvents draft).map (·.eventId)).Nodup := by
  have hids : (unorderedEvents draft).map (·.eventId) =
      ['a', 'b', 'c'].map fun c => String.ofList (List.replicate 64 c) := rfl
  rw [hids]
  decide

theorem sampleSerde_reads {draft : ActionDraft} {event : ConnectorAuditEvent}
    (h : event ∈ unorderedEvents draft) :
    (sampleSerde draft).eventFromSlice event.line = .ok event := by
  have hfind : (unorderedEvents draft).find? (·.line == event.line) = some event := by
    cases hfound : (unorderedEvents draft).find? (·.line == event.line) with
    | none => exact absurd (List.find?_eq_none.mp hfound event h) (by simp)
    | some found =>
      have hline : found.line = event.line := by simpa using List.find?_some hfound
      have hsame := List.inj_on_of_nodup_map (unorderedEvents_ids draft)
        (List.mem_of_find?_eq_some hfound) h (eventId_of_line hline)
      rw [hsame]
  simp only [sampleSerde, hfind]

/-- The names of a draft leave room for a record about it. -/
structure ShortNames (draft : ActionDraft) : Prop where
  accountId : draft.accountId.utf8ByteSize ≤ 256
  requesterId : draft.requesterId.utf8ByteSize ≤ 256
  conversationId : draft.conversationId.utf8ByteSize ≤ 256
  json : draft.toJson.textBound ≤ maxConnectorDraftBytes

theorem auditedEvent_bound {draft : ActionDraft} (hshort : ShortNames draft)
    (hid : isSha256 draft.draftId = true) (hpolicy : isSha256 draft.policyDecisionId = true)
    {c : Char} (hdigit : isAsciiHexDigit c = true) (hsize : c.utf8Size = 1) {operation : String}
    (hoperation : operation.utf8ByteSize ≤ 256) (stage : ConnectorAuditStage) :
    (auditedEvent draft c operation stage).toJson.textBound ≤ maxConnectorAuditRecordBytes := by
  have hstage : (stageName stage).utf8ByteSize ≤ 30 := by cases stage <;> decide
  have hevent := utf8ByteSize_of_isSha256 (isSha256_replicate hdigit hsize)
  have hnames : ∀ name ∈ ["formatVersion", "eventId", "observedAtUnixNanoseconds", "accountId",
      "requesterId", "requestId", "operation", "stage", "conversationId", "destination", "outcome",
      "returnedItemCount", "releasedBodyByteCount", "requestBodyByteCount", "draftId",
      "policyDecisionId", "request", "local", "completed"], name.utf8ByteSize ≤ 30 := by decide
  have hnumbers : ∀ n ∈ [0, 1, 5, 1000], (Json.renderInt (n : ℕ)).length ≤ 4 := by decide
  simp only [List.forall_mem_cons] at hnames hnumbers
  simp only [ConnectorAuditEvent.toJson, auditedEvent, optionJson, destinationName, outcomeName,
    beq_self_eq_true, if_true, List.append_nil, Json.textBound, Json.membersBound, hevent,
    utf8ByteSize_of_isSha256 hid, utf8ByteSize_of_isSha256 hpolicy, maxConnectorAuditRecordBytes]
  have haccount := hshort.accountId
  have hrequester := hshort.requesterId
  have hconversation := hshort.conversationId
  omega

theorem names_of_valid {draft : ActionDraft} (h : validateDraftStructure draft = .ok ()) :
    draft.accountId ≠ "" ∧ draft.requesterId ≠ "" := by
  rw [validateDraftStructure, require_ok] at h
  simp only [ActionDraft.structureValid, ActionDraft.namesValid, Bool.and_eq_true, bne_iff_ne] at h
  obtain ⟨⟨⟨⟨⟨⟨⟨⟨-, hnames⟩, -⟩, -⟩, -⟩, -⟩, -⟩, -⟩, -⟩ := h
  exact ⟨hnames.1.1.1.1.1.1.1.1, hnames.1.1.1.1.1.1.2⟩

theorem unorderedEvents_audited {draft : ActionDraft}
    (hvalid : validateDraftStructure draft = .ok ()) (hshort : ShortNames draft)
    {event : ConnectorAuditEvent} (h : event ∈ unorderedEvents draft) :
    AuditedLine (sampleSerde draft) draft.accountId event.line event := by
  have haccepted := accepted_of_valid hvalid
  have hid : isSha256 draft.draftId = true := haccepted.draftId ▸ isSha256_hexDigest _
  obtain ⟨haccount, hrequester⟩ := names_of_valid hvalid
  have hgood : ∀ (c : Char) (operation : String) (stage : ConnectorAuditStage),
      isAsciiHexDigit c = true → c.utf8Size = 1 → operation ≠ "" →
      operation.utf8ByteSize ≤ 256 →
      (auditedEvent draft c operation stage).toJson.textBound ≤ maxConnectorAuditRecordBytes ∧
        (auditedEvent draft c operation stage).wellFormed = true := by
    intro c operation stage hdigit hsize hoperation hlength
    have heventId := isSha256_replicate hdigit hsize
    refine ⟨auditedEvent_bound hshort hid haccepted.policyDecisionId hdigit hsize hlength stage, ?_⟩
    simp only [ConnectorAuditEvent.wellFormed, auditedEvent, heventId, hid,
      haccepted.policyDecisionId, Option.all_some, Option.all_none, Bool.and_true]
    simp [haccount, hrequester, hoperation]
  have hevent : event.toJson.textBound ≤ maxConnectorAuditRecordBytes ∧ event.wellFormed = true ∧
      event.accountId = draft.accountId := by
    simp only [unorderedEvents, List.mem_cons, List.not_mem_nil, or_false] at h
    rcases h with rfl | rfl | rfl
    · obtain ⟨hbound, hwell⟩ := hgood 'a' "createDraft" .draftRequested
        (by decide) (by decide) (by decide) (by decide)
      exact ⟨hbound, hwell, rfl⟩
    · obtain ⟨hbound, hwell⟩ := hgood 'b' "executeSend" .attemptRecorded
        (by decide) (by decide) (by decide) (by decide)
      exact ⟨hbound, hwell, rfl⟩
    · obtain ⟨hbound, hwell⟩ := hgood 'c' "executeSend" .approvalRecorded
        (by decide) (by decide) (by decide) (by decide)
      exact ⟨hbound, hwell, rfl⟩
  exact
    { nonempty := event.line_plain.nonempty
      size := (Json.length_utf8_toText _).trans hevent.1
      reads := sampleSerde_reads h
      wellFormed := hevent.2.1
      account := hevent.2.2 }

theorem unorderedFiles {draft : ActionDraft} (hvalid : validateDraftStructure draft = .ok ())
    (hshort : ShortNames draft) : ∃ files,
    (unorderedStore draft).drafts.foldlM
      (auditDraftFile (sampleSerde draft) (sampleService draft) draft.sourceFingerprint 3000)
      .initial = .ok files ∧ files.drafts = [draft] := by
  have hid : isSha256 draft.draftId = true :=
    (accepted_of_valid hvalid).draftId ▸ isSha256_hexDigest _
  have hne : draft.draftId ≠ "" := by
    rintro hempty
    rw [hempty] at hid
    exact absurd hid (by decide)
  have hsize := (Json.length_utf8_toText draft.toJson).trans hshort.json
  have hread : readConnectorDraftFile ⟨true, utf8 draft.toJson.toText⟩ =
      .ok (utf8 draft.toJson.toText) :=
    check_bind_ok.mpr ⟨require_ok.mpr (by simp only [hsize, decide_true, Bool.and_self]), rfl⟩
  have hdraft : (sampleSerde draft).draftFromSlice (utf8 draft.toJson.toText) = .ok draft :=
    if_pos rfl
  have hsame : (draft.draftId == draft.draftId) = true := beq_self_eq_true _
  simp only [unorderedStore, List.foldlM_cons, List.foldlM_nil, auditDraftFile, bind_ok,
    splitFileName_json hne]
  exact ⟨_, ⟨_, ⟨(), require_ok.mpr (by decide), (), require_ok.mpr rfl, (), require_ok.mpr hid, _,
    hread, draft, fromSlice_ok.mpr hdraft, (), hvalid, (), require_ok.mpr hsame,
    (), require_ok.mpr rfl, rfl⟩, rfl⟩, rfl⟩

/-- A journal with the attempt before its approval is accepted, and the report
claims that the order is valid. -/
theorem unordered_accepted {draft : ActionDraft} (hvalid : validateDraftStructure draft = .ok ())
    (hshort : ShortNames draft) :
    ∃ report,
      auditState (sampleSerde draft) (sampleService draft) (unorderedStore draft) 3000 =
        .ok report ∧
      report.sendLifecycleOrderingValid = true ∧
      journalEvents (sampleSerde draft) (sampleService draft) (unorderedStore draft).journal =
        .ok (unorderedEvents draft) ∧
      ¬ LifecycleOrdered (unorderedEvents draft) := by
  have hlines : ∀ record ∈ (unorderedEvents draft).map fun event => (event.line, event),
      PlainLine record.1 ∧
        AuditedLine (sampleSerde draft) draft.accountId record.1 record.2.unlinked := by
    intro record hrecord
    obtain ⟨event, hevent, rfl⟩ := List.mem_map.mp hrecord
    rw [unorderedEvents_legacy hevent]
    exact ⟨event.line_plain, unorderedEvents_audited hvalid hshort hevent⟩
  have hids : (((unorderedEvents draft).map fun event => (event.line, event)).map
      (·.2.eventId)).Nodup := by
    rw [List.map_map]
    exact unorderedEvents_ids draft
  have hsize : (((unorderedEvents draft).map fun event => (event.line, event)).map
      (·.1.length + 1)).sum ≤ maxConnectorAuditBytes + 1 := by
    have hline : ∀ event ∈ unorderedEvents draft,
        event.line.length ≤ maxConnectorAuditRecordBytes := fun _ hevent =>
      (unorderedEvents_audited hvalid hshort hevent).size
    simp only [unorderedEvents, List.forall_mem_cons] at hline
    simp only [unorderedEvents, List.map_cons, List.map_nil, List.sum_cons, List.sum_nil]
    simp only [maxConnectorAuditRecordBytes, maxConnectorAuditBytes] at hline ⊢
    omega
  obtain ⟨log, hlog, hevents⟩ := auditConnectorLogFile_legacy hlines hids hsize
  rw [List.map_map] at hlog hevents
  have hunordered : log.events = unorderedEvents draft := by
    rw [hevents]
    exact (List.map_congr_left fun event h => unorderedEvents_legacy h).trans (List.map_id _)
  have hverified : verifiedConnectorLogForAccount (sampleSerde draft) (unorderedStore draft).journal
      (some (sampleService draft).policy.accountId) = .ok (log.report, unorderedEvents draft) := by
    rw [← hunordered]
    exact check_bind_ok.mpr ⟨rfl, bind_ok.mpr ⟨log, hlog, rfl⟩⟩
  obtain ⟨files, hfiles, hdrafts⟩ := unorderedFiles hvalid hshort
  have hlinked : ∀ event ∈ unorderedEvents draft, Linked files.drafts event := by
    rw [hdrafts]
    intro event hevent
    simp only [unorderedEvents, List.mem_cons, List.not_mem_nil, or_false] at hevent
    rcases hevent with rfl | rfl | rfl <;>
      exact ⟨_, by
        simp [auditEvent, auditedEvent, linkedAuditDraft, validateCurrentConnectorStageEvidence,
          ConnectorAuditEvent.stageEvidenceValid, isSendAdapterOperation, require, bind,
          Except.bind, pure, Except.pure]; rfl⟩
  have htotals : checkTotals files.drafts (EventAudit.of (unorderedEvents draft)) = .ok () := by
    rw [hdrafts, checkTotals_ok]
    simp [EventAudit.of, stageDrafts, unorderedEvents, auditedEvent, isCompleted, isStage]
  obtain ⟨report, hreport⟩ := auditState_ok.mpr ⟨log.report, unorderedEvents draft,
    draft.sourceFingerprint, files, hverified, rfl, hfiles, hlinked, htotals⟩
  refine ⟨report, hreport, auditState_claims_order hreport, journalEvents_ok.mpr ⟨_, hverified⟩, ?_⟩
  intro hordered
  have hcount := hordered.attempts [auditedEvent draft 'a' "createDraft" .draftRequested]
    (auditedEvent draft 'b' "executeSend" .attemptRecorded) _ rfl rfl draft.draftId rfl
  simp [stageDrafts, auditedEvent, isCompleted, isStage] at hcount

/-- Only the sizes of the two digests count. -/
theorem sampleFields_short {draftId renderedTextSha256 : String}
    (hid : draftId.utf8ByteSize = 64) (hdigest : renderedTextSha256.utf8ByteSize = 64) :
    ShortNames { sampleFields "requester" connectorVersion with draftId, renderedTextSha256 } := by
  refine ⟨(by decide : "account".utf8ByteSize ≤ 256), (by decide : "requester".utf8ByteSize ≤ 256),
    (by decide : "conversation".utf8ByteSize ≤ 256), ?_⟩
  simp only [ActionDraft.toJson, Json.textBound, Json.membersBound, List.cons_append,
    List.nil_append, hid, hdigest]
  decide +kernel

theorem sampleDraft_short : ShortNames (sampleDraft "requester" connectorVersion) :=
  sampleFields_short (utf8ByteSize_of_isSha256 (isSha256_hexDigest _))
    (utf8ByteSize_of_isSha256 (isSha256_hexDigest _))

/-- The audit accepts an attempt before its approval. -/
theorem unordered_lifecycle_accepted :
    ∃ report,
      auditState (sampleSerde (sampleDraft "requester" connectorVersion))
        (sampleService (sampleDraft "requester" connectorVersion))
        (unorderedStore (sampleDraft "requester" connectorVersion)) 3000 = .ok report ∧
      report.sendLifecycleOrderingValid = true ∧
      journalEvents (sampleSerde (sampleDraft "requester" connectorVersion))
          (sampleService (sampleDraft "requester" connectorVersion))
          (unorderedStore (sampleDraft "requester" connectorVersion)).journal =
        .ok (unorderedEvents (sampleDraft "requester" connectorVersion)) ∧
      ¬ LifecycleOrdered (unorderedEvents (sampleDraft "requester" connectorVersion)) :=
  unordered_accepted (sampleDraft_valid (by decide)) sampleDraft_short

theorem send_lifecycle_unordered_sample :
    ¬ (LifecycleOrdered (unorderedEvents (sampleDraft "requester" connectorVersion)) ∧
      ∀ journal reordered,
        journalEvents (sampleSerde (sampleDraft "requester" connectorVersion))
          (sampleService (sampleDraft "requester" connectorVersion)) (some journal) =
          .ok reordered →
        Reordering (unorderedEvents (sampleDraft "requester" connectorVersion)) reordered →
        ¬ LifecycleOrdered reordered →
        ∃ error, auditState (sampleSerde (sampleDraft "requester" connectorVersion))
          (sampleService (sampleDraft "requester" connectorVersion))
          { unorderedStore (sampleDraft "requester" connectorVersion) with
            journal := some journal } 3000 = .error error) := by
  have hvalid : validateDraftStructure (sampleDraft "requester" connectorVersion) = .ok () :=
    sampleDraft_valid (by decide)
  obtain ⟨report, hreport, -, hevents, -⟩ := unordered_accepted hvalid sampleDraft_short
  rw [send_lifecycle_ordered_iff hreport hevents]
  intro hnone
  exact hnone (auditedEvent (sampleDraft "requester" connectorVersion) 'b' "executeSend"
    .attemptRecorded) (List.mem_cons_of_mem _ List.mem_cons_self) rfl

end GreenBubbles.Connector
