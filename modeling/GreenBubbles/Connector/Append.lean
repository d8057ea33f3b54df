import GreenBubbles.Connector.Chain

/-! # Appending to the journal

An event is linked to the last line of the journal, validated and written behind
it. The tail is read backwards, byte by byte; what is written is not measured.
-/
namespace GreenBubbles.Connector

open Library Library.Bytes

/-- The journal, once its file exists. -/
abbrev Journal := Option PrivateFile

def Journal.bytes (journal : Journal) : List UInt8 := (journal.map PrivateFile.bytes).getD []

/-- The last line, behind which only newlines and carriage returns stand. -/
def readLastAuditLine (bytes : List UInt8) : Except RestoreError (Option (List UInt8)) :=
  if bytes = [] then .ok none
  else do
    let reversed := (bytes.reverse.dropWhile isLineEnd).takeWhile (!isLineEnd ·)
    require (reversed.length ≤ maxConnectorAuditRecordBytes)
      "connector audit tail exceeds the record limit"
    require (reversed != []) "connector audit log contains no complete record"
    return some reversed.reverse

def previousAuditEventDigest (serde : SerdeJson) (line : List UInt8) :
    Except RestoreError String := do
  let event ← fromSlice serde.eventFromSlice line
  validateConnectorAuditEvent event
  match event.formatVersion with
  | 1 => do
    require (event.previousEventSha256.isNone && event.eventSha256 == "")
      "legacy connector audit event contains chained fields"
    return Sha256.hexDigest line
  | 2 => do
    require (connectorAuditEventDigest event == event.eventSha256)
      "connector audit tail is unsupported or corrupt"
    return event.eventSha256
  | _ => throw (.integrity "connector audit tail is unsupported or corrupt")

/-- The digest the next event names as its predecessor. -/
def tailDigest (serde : SerdeJson) (bytes : List UInt8) : Except RestoreError (Option String) := do
  match ← readLastAuditLine bytes with
  | none => return none
  | some line => return some (← previousAuditEventDigest serde line)

/-- The bytes an event is written as. -/
def appendedRecord (serde : SerdeJson) (file : PrivateFile) (event : ConnectorAuditEvent) :
    Except RestoreError (List UInt8) := do
  require file.ownerOnly
    "connector audit log must be an owner-only regular file with one link"
  let previous ← tailDigest serde file.bytes
  let event := event.appended previous
  validateConnectorAuditEvent event
  return event.line ++ [10]

/-- The file is created, for its owner only, before anything is checked. -/
def appendOwnerOnlyConnectorEvent (serde : SerdeJson) (event : ConnectorAuditEvent) :
    EStateM RestoreError Journal Unit := fun journal =>
  let file := journal.getD ⟨true, []⟩
  match appendedRecord serde file event with
  | .ok record => .ok () (some { file with bytes := file.bytes ++ record })
  | .error error => .error error (some file)

/-! Lines of a longer file -/

/-- Where another line can be written behind the last one. -/
def LineStart (bytes : List UInt8) : Prop := bytes = [] ∨ bytes.getLast? = some 10

theorem readRecords_append {before : List UInt8} (h : LineStart before) (rest : List UInt8) :
    readRecords (before ++ rest) = readRecords before ++ readRecords rest := by
  induction before with
  | nil => rfl
  | cons byte before ih =>
    by_cases hbyte : byte = 10
    · have hstart : LineStart before := by
        cases before with
        | nil => exact .inl rfl
        | cons next before => simpa [LineStart] using h
      simp [readRecords, hbyte, ih hstart]
    · have hne : before ≠ [] := by
        rintro rfl
        simp [LineStart, hbyte] at h
      have hstart : LineStart before := by
        cases before with
        | nil => exact absurd rfl hne
        | cons next before => simpa [LineStart] using h
      have hrecords : readRecords before ≠ [] := by
        cases before with
        | nil => exact absurd rfl hne
        | cons next before =>
          rw [readRecords]
          split_ifs
          · simp
          · cases readRecords before <;> simp
      rw [List.cons_append, readRecords, if_neg hbyte, ih hstart, readRecords, if_neg hbyte]
      cases hread : readRecords before with
      | nil => exact absurd hread hrecords
      | cons record records => rfl

theorem journalLines_append {before : List UInt8} (h : LineStart before) (rest : List UInt8) :
    journalLines (before ++ rest) = journalLines before ++ journalLines rest := by
  rw [journalLines, readRecords_append h, List.map_append, journalLines, journalLines]

theorem journalLines_content {content : List UInt8} (h : ∀ byte ∈ content, byte ≠ 10) :
    journalLines (content ++ [10]) = [content.rdropWhile isLineEnd] := by
  rw [journalLines, readRecords_newline content [] h, readRecords, List.map_singleton, trimRecord,
    List.rdropWhile_concat_pos _ _ _ (by decide)]

theorem lineStart_concat (bytes : List UInt8) : LineStart (bytes ++ [10]) := by
  right
  simp

/-- The last line of a file and what stands before it. -/
theorem exists_last_line {bytes : List UInt8} (hne : bytes ≠ []) (h : LineStart bytes) :
    ∃ before content, bytes = before ++ (content ++ [10]) ∧ LineStart before ∧
      ∀ byte ∈ content, byte ≠ 10 := by
  have hlast : bytes.getLast? = some 10 := h.resolve_left hne
  obtain ⟨front, rfl⟩ : ∃ front, bytes = front ++ [10] := by
    rw [List.getLast?_eq_some_iff] at hlast
    exact hlast
  refine ⟨front.rdropWhile (· != 10), front.rtakeWhile (· != 10), ?_, ?_, ?_⟩
  · rw [← List.append_assoc]
    simp [List.rdropWhile, List.rtakeWhile, ← List.reverse_append]
  · by_cases hempty : front.rdropWhile (· != 10) = []
    · exact .inl hempty
    · right
      have hstop := List.rdropWhile_last_not (· != 10) front hempty
      rw [List.getLast?_eq_getLast_of_ne_nil hempty]
      simpa using hstop
  · intro byte hbyte
    have htake := List.mem_rtakeWhile_imp hbyte
    simpa using htake

/-! What an accepted journal is appended to -/

/-- What the verifier has read of a journal of one account. -/
structure AuditLog.Belongs (accountId : String) (log : AuditLog) : Prop where
  account : log.accountId.all (· == accountId) = true
  eventIds : log.eventIds = (log.events.map (·.eventId)).reverse
  digest : log.previousDigest.all isSha256 = true

theorem belongs_initial (accountId : String) : AuditLog.initial.Belongs accountId where
  account := rfl
  eventIds := rfl
  digest := rfl

theorem isSha256_connectorAuditEventDigest (event : ConnectorAuditEvent) :
    isSha256 (connectorAuditEventDigest event) = true := isSha256_hexDigest _

/-- The digest the verifier goes on with is the digest of the line itself. -/
theorem linkRecord_digest {serde : SerdeJson} {log linked : AuditLog} {line : List UInt8}
    {event : ConnectorAuditEvent} (hread : serde.eventFromSlice line = .ok event)
    (hwell : event.wellFormed = true) (h : linkRecord log line event = .ok linked) :
    ∃ digest, previousAuditEventDigest serde line = .ok digest ∧
      linked.previousDigest = some digest ∧ isSha256 digest = true := by
  have hvalid : validateConnectorAuditEvent event = .ok () := require_ok.mpr hwell
  have hslice : fromSlice serde.eventFromSlice line = .ok event := fromSlice_ok.mpr hread
  unfold linkRecord at h
  split at h
  · next hversion =>
    simp only [check_bind_ok, require_ok] at h
    have hafter := Except.ok.inj h.2
    subst hafter
    have hunlinked : (event.previousEventSha256.isNone && event.eventSha256 == "") = true := by
      have hnone := h.1
      simp only [Bool.not_eq_true', Bool.or_eq_false_iff, bne_eq_false_iff_eq] at hnone
      cases hprevious : event.previousEventSha256 with
      | none => simp [hnone.2]
      | some previous => simp [hprevious] at hnone
    refine ⟨Sha256.hexDigest line, ?_, rfl, isSha256_hexDigest _⟩
    simp only [previousAuditEventDigest, bind_ok]
    refine ⟨event, hslice, (), hvalid, ?_⟩
    simp [hversion, hunlinked, require, bind, Except.bind, pure, Except.pure]
  · next hversion =>
    simp only [check_bind_ok, require_ok, beq_iff_eq] at h
    have hafter := Except.ok.inj h.2.2
    subst hafter
    have hseal : (connectorAuditEventDigest event == event.eventSha256) = true := by
      rw [← h.2.1]
      exact beq_self_eq_true _
    refine ⟨event.eventSha256, ?_, rfl, ?_⟩
    · simp only [previousAuditEventDigest, bind_ok]
      refine ⟨event, hslice, (), hvalid, ?_⟩
      simp [hversion, hseal, require, bind, Except.bind, pure, Except.pure]
    · rw [h.2.1]
      exact isSha256_connectorAuditEventDigest event
  · simp [throw, throwThe, MonadExceptOf.throw] at h

/-- One record leaves a journal of the account, ended by its own digest. -/
theorem auditRecord_belongs {serde : SerdeJson} {accountId : String} {log after : AuditLog}
    {line : List UInt8} (h : auditRecord serde (some accountId) log line = .ok after)
    (hlog : log.Belongs accountId) :
    after.Belongs accountId ∧ line ≠ [] ∧ line.length ≤ maxConnectorAuditRecordBytes ∧
      ∃ digest, previousAuditEventDigest serde line = .ok digest ∧
        after.previousDigest = some digest := by
  obtain ⟨event, haudited, -, hids, hevents⟩ := auditRecord_ok h
  obtain ⟨event', linked, hread, hlink, -, hprevious, -⟩ := auditRecord_links h
  have hsame : event' = event := Except.ok.inj (hread.symm.trans haudited.reads)
  subst hsame
  obtain ⟨digest, hdigest, hlinked, hsha⟩ := linkRecord_digest hread haudited.wellFormed hlink
  have haccount : after.accountId.all (· == accountId) = true := by
    simp only [auditRecord, bind_ok] at h
    rcases h with ⟨_, -, _, hread', _, -, _, -, _, -, _, -, _, -, h⟩
    have hafter := Except.ok.inj h
    have hevent := Except.ok.inj ((fromSlice_ok.mp hread').symm.trans hread)
    subst hafter hevent
    cases hnone : log.accountId with
    | none => simp [haudited.account]
    | some account =>
      have hkept := hlog.account
      rw [hnone] at hkept
      simpa using hkept
  refine ⟨⟨haccount, ?_, ?_⟩, haudited.nonempty, haudited.size, digest, hdigest,
    hprevious.trans hlinked⟩
  · rw [hids, hevents, hlog.eventIds]
    simp
  · rw [hprevious, hlinked]
    exact hsha

theorem auditRecords_belongs {serde : SerdeJson} {accountId : String} {lines : List (List UInt8)}
    {log after : AuditLog} (h : lines.foldlM (auditRecord serde (some accountId)) log = .ok after)
    (hlog : log.Belongs accountId) : after.Belongs accountId := by
  induction lines generalizing log with
  | nil =>
    obtain rfl := Except.ok.inj h
    exact hlog
  | cons line lines ih =>
    rw [List.foldlM_cons, bind_ok] at h
    obtain ⟨next, hrecord, hrest⟩ := h
    exact ih hrest (auditRecord_belongs hrecord hlog).1

/-- The appender finds the line that the verifier reads last. -/
def Appendable (bytes : List UInt8) : Prop :=
  LineStart bytes ∧ ∀ line ∈ (journalLines bytes).getLast?, (13 : UInt8) ∉ line

theorem readLastAuditLine_eq {bytes line : List UInt8} (hne : bytes ≠ [])
    (happend : Appendable bytes) (hlast : (journalLines bytes).getLast? = some line)
    (hline : line ≠ []) (hsize : line.length ≤ maxConnectorAuditRecordBytes) :
    readLastAuditLine bytes = .ok (some line) := by
  obtain ⟨before, content, rfl, hbefore, hcontent⟩ := exists_last_line hne happend.1
  have hcr := happend.2 line hlast
  rw [journalLines_append hbefore, journalLines_content hcontent, List.getLast?_concat] at hlast
  have hdrop : content.reverse.dropWhile isLineEnd = line.reverse := by
    rw [← Option.some.inj hlast, List.rdropWhile, List.reverse_reverse]
  have hkept : ∀ byte ∈ line.reverse, (!isLineEnd byte) = true := by
    intro byte hbyte
    have hnl : byte ≠ 10 := by
      apply hcontent
      rw [← List.mem_reverse]
      apply (List.dropWhile_sublist isLineEnd).subset
      rwa [hdrop]
    have hne13 : byte ≠ 13 := by
      rintro rfl
      exact hcr (List.mem_reverse.mp hbyte)
    simp [isLineEnd, hnl, hne13]
  have hstop : before.reverse.takeWhile (!isLineEnd ·) = [] := by
    rcases hbefore with rfl | hend
    · rfl
    · rw [List.getLast?_eq_head?_reverse] at hend
      cases hreverse : before.reverse with
      | nil => rfl
      | cons byte rest =>
        rw [hreverse, List.head?_cons, Option.some.injEq] at hend
        rw [hend]
        rfl
  have hfind : ((before ++ (content ++ [10])).reverse.dropWhile isLineEnd).takeWhile
      (!isLineEnd ·) = line.reverse := by
    have hempty : (content.reverse.dropWhile isLineEnd).isEmpty = false := by
      rw [hdrop]
      simpa using hline
    have hten : isLineEnd 10 = true := by decide
    rw [List.reverse_append, List.reverse_concat, List.cons_append, List.dropWhile_cons, if_pos hten,
      List.dropWhile_append, if_neg (by simp [hempty]), hdrop, List.takeWhile_append_of_pos hkept,
      hstop, List.append_nil]
  rw [readLastAuditLine, if_neg hne, hfind]
  simp [require, hsize, hline, bind, Except.bind, pure, Except.pure]

/-- A journal that the verifier accepts and that can be appended to. -/
structure Kept (serde : SerdeJson) (accountId : String) (bytes : List UInt8) (log : AuditLog) :
    Prop where
  accepted : auditConnectorLogFile serde bytes (some accountId) = .ok log
  appendable : Appendable bytes

theorem Kept.reads {serde : SerdeJson} {accountId : String} {bytes : List UInt8} {log : AuditLog}
    (h : Kept serde accountId bytes log) : bytes.length ≤ maxConnectorAuditBytes ∧
      (journalLines bytes).foldlM (auditRecord serde (some accountId)) .initial = .ok log := by
  have haccepted := h.accepted
  rw [auditConnectorLogFile, check_bind_ok, require_ok, decide_eq_true_eq] at haccepted
  exact haccepted

theorem Kept.belongs {serde : SerdeJson} {accountId : String} {bytes : List UInt8} {log : AuditLog}
    (h : Kept serde accountId bytes log) : log.Belongs accountId :=
  auditRecords_belongs h.reads.2 (belongs_initial accountId)

theorem kept_empty (serde : SerdeJson) (accountId : String) :
    Kept serde accountId [] .initial where
  accepted := rfl
  appendable := by
    constructor
    · exact .inl rfl
    · intro line hline
      cases hline

/-- The next event names the predecessor that the verifier expects. -/
theorem Kept.tail {serde : SerdeJson} {accountId : String} {bytes : List UInt8} {log : AuditLog}
    (h : Kept serde accountId bytes log) : tailDigest serde bytes = .ok log.previousDigest := by
  have hfold := h.reads.2
  by_cases hne : bytes = []
  · subst hne
    obtain rfl := Except.ok.inj hfold
    rfl
  · obtain ⟨before, content, hbytes, hbefore, hcontent⟩ := exists_last_line hne h.appendable.1
    have hlines : journalLines bytes = journalLines before ++ [content.rdropWhile isLineEnd] := by
      rw [hbytes, journalLines_append hbefore, journalLines_content hcontent]
    rw [hlines, List.foldlM_append, bind_ok] at hfold
    obtain ⟨earlier, hearlier, hrecord⟩ := hfold
    rw [List.foldlM_cons, bind_ok] at hrecord
    obtain ⟨last, hrecord, hdone⟩ := hrecord
    obtain rfl := Except.ok.inj hdone
    obtain ⟨-, hline, hsize, digest, hdigest, hprevious⟩ :=
      auditRecord_belongs hrecord (auditRecords_belongs hearlier (belongs_initial accountId))
    have hlast : (journalLines bytes).getLast? = some (content.rdropWhile isLineEnd) := by
      rw [hlines, List.getLast?_concat]
    rw [tailDigest, readLastAuditLine_eq hne h.appendable hlast hline hsize, hprevious]
    simp [hdigest, bind, Except.bind, pure, Except.pure]

/-- What an event says of itself, whatever it is linked to. -/
structure ConnectorAuditEvent.Sound (event : ConnectorAuditEvent) : Prop where
  eventId : isSha256 event.eventId = true
  account : event.accountId ≠ ""
  requester : event.requesterId ≠ ""
  request : event.requestId ≠ ""
  operation : event.operation ≠ ""
  draft : event.draftId.all isSha256 = true
  policy : event.policyDecisionId.all isSha256 = true

theorem ConnectorAuditEvent.Sound.appended {event : ConnectorAuditEvent} (h : event.Sound)
    {previous : Option String} (hprevious : previous.all isSha256 = true) :
    (event.appended previous).wellFormed = true := by
  have hdigest := isSha256_connectorAuditEventDigest
    { event with formatVersion := 2, previousEventSha256 := previous }
  simp only [wellFormed, ConnectorAuditEvent.appended, hprevious, hdigest, h.eventId, h.draft,
    h.policy]
  simp [h.account, h.requester, h.request, h.operation]

/-- An event is appended to every journal that is kept. -/
theorem Kept.appendedRecord {serde : SerdeJson} {accountId : String} {file : PrivateFile}
    {log : AuditLog} (h : Kept serde accountId file.bytes log) (howner : file.ownerOnly = true)
    {event : ConnectorAuditEvent} (hevent : event.Sound) :
    appendedRecord serde file event = .ok ((event.appended log.previousDigest).line ++ [10]) := by
  have hwell : validateConnectorAuditEvent (event.appended log.previousDigest) = .ok () :=
    require_ok.mpr (hevent.appended h.belongs.digest)
  simp [Connector.appendedRecord, h.tail, howner, hwell, require, bind, Except.bind, pure,
    Except.pure]

/-- The journal stays kept where the record fits into it. -/
theorem Kept.append {serde : SerdeJson} {accountId : String} {bytes : List UInt8} {log : AuditLog}
    (h : Kept serde accountId bytes log) {event : ConnectorAuditEvent} (hevent : event.Sound)
    (haccount : event.accountId = accountId) (hfresh : event.eventId ∉ log.events.map (·.eventId))
    {line : List UInt8} (hline : line = (event.appended log.previousDigest).line)
    (hreads : serde.eventFromSlice line = .ok (event.appended log.previousDigest))
    (hsize : line.length ≤ maxConnectorAuditRecordBytes)
    (htotal : bytes.length + (line.length + 1) ≤ maxConnectorAuditBytes) :
    ∃ after, Kept serde accountId (bytes ++ (line ++ [10])) after ∧
      after.events = log.events ++ [event.appended log.previousDigest] := by
  have hbelongs := h.belongs
  have hplain : PlainLine line := hline ▸ (event.appended log.previousDigest).line_plain
  have hcontent : journalLines (line ++ [10]) = [line] := by
    rw [journalLines_content fun byte hbyte => (hplain.bytes byte hbyte).1]
    have htrim := hplain.trim
    rw [trimRecord] at htrim
    rw [htrim]
  have hlines : journalLines (bytes ++ (line ++ [10])) = journalLines bytes ++ [line] := by
    rw [journalLines_append h.appendable.1, hcontent]
  have haudited : AuditedLine serde accountId line (event.appended log.previousDigest) :=
    { nonempty := hplain.nonempty
      size := hsize
      reads := hreads
      wellFormed := hevent.appended hbelongs.digest
      account := haccount }
  obtain ⟨linked, hlink⟩ := linkRecord_appended line event (rfl : log.previousDigest = _)
  have hnew : (event.appended log.previousDigest).eventId ∉ log.eventIds := by
    rw [hbelongs.eventIds, List.mem_reverse]
    exact hfresh
  obtain ⟨after, hafter, -, -, -, -, hevents⟩ :=
    auditRecord_accepts haudited hbelongs.account hnew hlink
  refine ⟨after, ⟨?_, ?_, ?_⟩, hevents⟩
  · rw [auditConnectorLogFile, check_bind_ok, require_ok, decide_eq_true_eq, hlines,
      List.foldlM_append, bind_ok]
    refine ⟨by simpa using htotal, log, h.reads.2, ?_⟩
    rw [List.foldlM_cons, bind_ok]
    exact ⟨after, hafter, rfl⟩
  · rw [← List.append_assoc]
    exact lineStart_concat _
  · intro last hlast
    rw [hlines, List.getLast?_concat, Option.mem_some_iff] at hlast
    intro hcr
    exact (hplain.bytes 13 (hlast ▸ hcr)).2 rfl

end GreenBubbles.Connector
