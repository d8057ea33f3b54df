import Mathlib.Algebra.Order.BigOperators.Group.List
import GreenBubbles.Connector.Journal
import GreenBubbles.Library.HashChain

/-! # The audit chain

The digest of the last event determines every chained event and the last of
the legacy records before them. The legacy records before that one are not
chained, and nothing determines them.
-/
namespace GreenBubbles.Connector

open Library Library.Bytes Library.HashChain

/-! The line determines the event -/

theorem destinationName_injective : Function.Injective destinationName := by
  intro first second h
  cases first <;> cases second <;> simp [destinationName] at h ⊢

theorem outcomeName_injective : Function.Injective outcomeName := by
  intro first second h
  cases first <;> cases second <;> simp [outcomeName] at h ⊢

theorem stageName_injective : Function.Injective stageName := by
  intro first second h
  cases first <;> cases second <;> simp [stageName] at h ⊢

theorem ConnectorAuditEvent.toJson_injective : Function.Injective toJson := by
  intro first second h
  simp only [toJson, Json.obj.injEq, List.cons_append, List.nil_append, List.cons.injEq,
    Prod.mk.injEq, Json.str.injEq, Json.int.injEq, Nat.cast_inj, stageName_injective.eq_iff,
    destinationName_injective.eq_iff, outcomeName_injective.eq_iff, optionText_injective.eq_iff,
    true_and] at h
  cases first with
  | mk formatVersion eventId observedAt accountId requesterId requestId operation stage
      conversationId destination outcome returned released requested draftId policyDecisionId
      previous digest =>
    cases second with
    | mk formatVersion' eventId' observedAt' accountId' requesterId' requestId' operation' stage'
        conversationId' destination' outcome' returned' released' requested' draftId'
        policyDecisionId' previous' digest' =>
      simp only at h
      -- the chain fields are absent, or come last under their own names
      rcases h with ⟨rfl, rfl, rfl, rfl, rfl, rfl, rfl, rfl, rfl, rfl, rfl, rfl, rfl, rfl, rfl, rfl,
        hchain⟩
      cases previous <;> cases previous' <;> by_cases hempty : digest = "" <;>
        by_cases hempty' : digest' = "" <;> simp_all

theorem ConnectorAuditEvent.line_injective : Function.Injective line := fun _ _ h =>
  toJson_injective (Json.toText_inj (utf8_injective h))

/-! Entries of the chain -/

/-- What the digest of an event is taken of. -/
def ConnectorAuditEvent.digestInput (event : ConnectorAuditEvent) : List UInt8 :=
  { event with eventSha256 := "" }.line

/-- An event under its own digest. -/
structure SealedEvent where
  event : ConnectorAuditEvent
  version : event.formatVersion = 2
  digest : event.eventSha256 = connectorAuditEventDigest event

@[ext] theorem SealedEvent.ext {first second : SealedEvent} (h : first.event = second.event) :
    first = second := by
  cases first
  cases second
  simp_all

def isLegacyLine (serde : SerdeJson) (line : List UInt8) : Bool :=
  match serde.eventFromSlice line with
  | .ok event => event.formatVersion == 1
  | .error _ => false

/-- A line that reads as an unchained record. -/
structure LegacyLine (serde : SerdeJson) where
  line : List UInt8
  legacy : isLegacyLine serde line = true

@[ext] theorem LegacyLine.ext {serde : SerdeJson} {first second : LegacyLine serde}
    (h : first.line = second.line) : first = second := by
  cases first
  cases second
  simp_all

inductive ChainEntry (serde : SerdeJson) where
  | legacy (record : LegacyLine serde)
  | chained (record : SealedEvent)

variable {serde : SerdeJson}

def ChainEntry.input : ChainEntry serde → List UInt8
  | .legacy record => record.line
  | .chained record => record.event.digestInput

def ChainEntry.digest (entry : ChainEntry serde) : String := Sha256.hexDigest entry.input

/-- A legacy record names no predecessor. -/
def ChainEntry.back : ChainEntry serde → Option String
  | .legacy _ => none
  | .chained record => record.event.previousEventSha256

/-- The reader gives back the event that was written, where it reads it at all. -/
def ReadsItself (serde : SerdeJson) : Prop :=
  ∀ event event', serde.eventFromSlice event.line = .ok event' → event' = event

theorem SealedEvent.digestInput_injective {first second : SealedEvent}
    (h : first.event.digestInput = second.event.digestInput) : first = second := by
  have hunsigned := ConnectorAuditEvent.line_injective h
  have hdigest : first.event.eventSha256 = second.event.eventSha256 := by
    rw [first.digest, second.digest]
    exact congrArg Sha256.hexDigest h
  apply SealedEvent.ext
  cases hfirst : first.event
  cases hsecond : second.event
  simp_all

/-- A legacy line is not what the digest of an event is taken of. -/
theorem LegacyLine.ne_digestInput (hreads : ReadsItself serde) (legacy : LegacyLine serde)
    (record : SealedEvent) : legacy.line ≠ record.event.digestInput := by
  intro hsame
  have hlegacy := legacy.legacy
  rw [hsame, isLegacyLine] at hlegacy
  cases hread : serde.eventFromSlice record.event.digestInput with
  | error error => simp [hread] at hlegacy
  | ok event =>
    have hevent := hreads _ _ hread
    simp only [hread, beq_iff_eq] at hlegacy
    rw [hevent] at hlegacy
    exact absurd (record.version.symm.trans hlegacy) (by decide)

theorem ChainEntry.input_injective (hreads : ReadsItself serde) :
    Function.Injective (@ChainEntry.input serde) := by
  intro first second h
  cases first with
  | legacy line =>
    cases second with
    | legacy line' => rw [LegacyLine.ext h]
    | chained record => exact absurd h (line.ne_digestInput hreads record)
  | chained record =>
    cases second with
    | legacy line => exact absurd h.symm (line.ne_digestInput hreads record)
    | chained record' => rw [SealedEvent.digestInput_injective h]

/-! The chain of an accepted journal -/

def chainedEvents (events : List ConnectorAuditEvent) : List ConnectorAuditEvent :=
  events.filter (·.formatVersion == 2)

def legacyLines (serde : SerdeJson) (lines : List (List UInt8)) : List (List UInt8) :=
  lines.filter (isLegacyLine serde)

/-- The digest the journal ends with, where its chained part is not empty. -/
def lastEventDigest (log : AuditLog) : Option String :=
  (chainedEvents log.events).getLast?.map (·.eventSha256)

/-- Everything the verifier compares a digest of, newest first. -/
def digestInputs (serde : SerdeJson) (lines : List (List UInt8)) (log : AuditLog) :
    List (List UInt8) :=
  ((chainedEvents log.events).map (·.digestInput)).reverse ++
    (legacyLines serde lines).getLast?.toList

/-- The chained events, newest first, behind the last legacy record. -/
def journalChain (events : List SealedEvent) (legacy : Option (LegacyLine serde)) :
    List (ChainEntry serde) :=
  events.map .chained ++ (legacy.map .legacy).toList

/-- The journal read so far, as a chain. -/
structure ChainState (serde : SerdeJson) (lines : List (List UInt8)) (log : AuditLog)
    (events : List SealedEvent) (legacy : Option (LegacyLine serde)) : Prop where
  linked : Linked ChainEntry.digest ChainEntry.back (journalChain events legacy)
  head : log.previousDigest = (journalChain events legacy).head?.map ChainEntry.digest
  chained : chainedEvents log.events = (events.map (·.event)).reverse
  legacyLine : (legacyLines serde lines).getLast? = legacy.map (·.line)
  unchained : log.seenChained = false → events = []

theorem linkRecord_ok {log linked : AuditLog} {line : List UInt8} {event : ConnectorAuditEvent}
    (h : linkRecord log line event = .ok linked) :
    (event.formatVersion = 1 ∧ log.seenChained = false ∧ linked.seenChained = false ∧
      linked.previousDigest = some (Sha256.hexDigest line)) ∨
    (event.formatVersion = 2 ∧ event.previousEventSha256 = log.previousDigest ∧
      event.eventSha256 = connectorAuditEventDigest event ∧ linked.seenChained = true ∧
      linked.previousDigest = some event.eventSha256) := by
  unfold linkRecord at h
  split at h
  · next hversion =>
    simp only [check_bind_ok, require_ok] at h
    have hafter := Except.ok.inj h.2
    left
    cases hseen : log.seenChained with
    | true => simp [hseen] at h
    | false =>
      subst hafter
      exact ⟨hversion, rfl, hseen, rfl⟩
  · next hversion =>
    simp only [check_bind_ok, require_ok, beq_iff_eq] at h
    have hafter := Except.ok.inj h.2.2
    right
    subst hafter
    exact ⟨hversion, h.1, h.2.1, rfl, rfl⟩
  · simp [throw, throwThe, MonadExceptOf.throw] at h

theorem auditRecord_links {expectedAccountId : Option String} {log after : AuditLog}
    {line : List UInt8} (h : auditRecord serde expectedAccountId log line = .ok after) :
    ∃ event linked, serde.eventFromSlice line = .ok event ∧
      linkRecord log line event = .ok linked ∧ after.events = log.events ++ [event] ∧
      after.previousDigest = linked.previousDigest ∧ after.seenChained = linked.seenChained := by
  simp only [auditRecord, bind_ok] at h
  rcases h with ⟨_, -, event, hread, _, -, _, -, _, -, _, -, linked, hlinked, h⟩
  have hafter := Except.ok.inj h
  subst hafter
  exact ⟨event, linked, fromSlice_ok.mp hread, hlinked, rfl, rfl, rfl⟩

theorem legacyLines_concat (lines : List (List UInt8)) (line : List UInt8) :
    legacyLines serde (lines ++ [line]) =
      if isLegacyLine serde line then legacyLines serde lines ++ [line]
      else legacyLines serde lines := by
  rw [legacyLines, List.filter_append]
  split_ifs with hlegacy
  · simp [hlegacy, legacyLines]
  · simp [hlegacy, legacyLines]

/-- Another legacy record takes the place of the one before it. -/
theorem ChainState.legacy {lines : List (List UInt8)} {log after : AuditLog} {line : List UInt8}
    {events : List SealedEvent} {legacy : Option (LegacyLine serde)} {event : ConnectorAuditEvent}
    (h : ChainState serde lines log events legacy) (hread : serde.eventFromSlice line = .ok event)
    (hversion : event.formatVersion = 1) (hseen : log.seenChained = false)
    (hevents : after.events = log.events ++ [event])
    (hdigest : after.previousDigest = some (Sha256.hexDigest line)) :
    ∃ record, ChainState serde (lines ++ [line]) after [] (some record) := by
  have hlegacy : isLegacyLine serde line = true := by
    simp [isLegacyLine, hread, hversion]
  have hnone := h.unchained hseen
  subst hnone
  refine ⟨⟨line, hlegacy⟩, ?_, ?_, ?_, ?_, fun _ => rfl⟩
  · simp [journalChain, ChainEntry.back]
  · simp [journalChain, hdigest, ChainEntry.digest, ChainEntry.input]
  · have hold := h.chained
    rw [hevents, chainedEvents, List.filter_append]
    rw [chainedEvents] at hold
    simp [hold, hversion]
  · rw [legacyLines_concat, if_pos hlegacy]
    simp

theorem ChainState.chain {lines : List (List UInt8)} {log after : AuditLog} {line : List UInt8}
    {events : List SealedEvent} {legacy : Option (LegacyLine serde)} {event : ConnectorAuditEvent}
    (h : ChainState serde lines log events legacy) (hread : serde.eventFromSlice line = .ok event)
    (hversion : event.formatVersion = 2)
    (hprevious : event.previousEventSha256 = log.previousDigest)
    (hseal : event.eventSha256 = connectorAuditEventDigest event)
    (hseen : after.seenChained = true) (hevents : after.events = log.events ++ [event])
    (hdigest : after.previousDigest = some event.eventSha256) :
    ChainState serde (lines ++ [line]) after (⟨event, hversion, hseal⟩ :: events) legacy := by
  constructor
  · rw [journalChain, List.map_cons, List.cons_append, linked_cons]
    exact ⟨hprevious.trans h.head, h.linked⟩
  · rw [hdigest, hseal]
    rfl
  · have hold := h.chained
    rw [hevents, chainedEvents, List.filter_append]
    rw [chainedEvents] at hold
    simp [hold, hversion]
  · rw [legacyLines_concat, if_neg (by simp [isLegacyLine, hread, hversion])]
    exact h.legacyLine
  · intro hunseen
    rw [hseen] at hunseen
    cases hunseen

theorem auditRecord_chain {expectedAccountId : Option String} {lines : List (List UInt8)}
    {log after : AuditLog} {line : List UInt8} {events : List SealedEvent}
    {legacy : Option (LegacyLine serde)} (h : ChainState serde lines log events legacy)
    (hrecord : auditRecord serde expectedAccountId log line = .ok after) :
    ∃ events legacy, ChainState serde (lines ++ [line]) after events legacy := by
  rcases auditRecord_links hrecord with ⟨event, linked, hread, hlink, hevents, hdigest, hseen⟩
  rcases linkRecord_ok hlink with ⟨hversion, hunseen, -, hlinked⟩ |
    ⟨hversion, hprevious, hseal, hchained, hlinked⟩
  · rcases h.legacy hread hversion hunseen hevents (hdigest.trans hlinked) with ⟨record, hstate⟩
    exact ⟨[], some record, hstate⟩
  · exact ⟨_, legacy, h.chain hread hversion hprevious hseal (hseen.trans hchained) hevents
      (hdigest.trans hlinked)⟩

theorem auditRecords_chain {expectedAccountId : Option String} {lines : List (List UInt8)}
    {log after : AuditLog} {done : List (List UInt8)}
    (hstate : ∃ events legacy, ChainState serde done log events legacy)
    (h : lines.foldlM (auditRecord serde expectedAccountId) log = .ok after) :
    ∃ events legacy, ChainState serde (done ++ lines) after events legacy := by
  induction lines generalizing log done with
  | nil =>
    have hafter := Except.ok.inj h
    subst hafter
    rwa [List.append_nil]
  | cons line lines ih =>
    rw [List.foldlM_cons, bind_ok] at h
    rcases h with ⟨next, hrecord, hrest⟩
    rcases hstate with ⟨events, legacy, hstate⟩
    have hnext := ih (auditRecord_chain hstate hrecord) hrest
    rwa [List.append_assoc] at hnext

theorem chainState_initial : ChainState serde [] .initial [] none where
  linked := trivial
  head := rfl
  chained := rfl
  legacyLine := rfl
  unchained _ := rfl

/-- An accepted journal is a chain. -/
theorem auditConnectorLogFile_chain {expectedAccountId : Option String} {bytes : List UInt8}
    {log : AuditLog} (h : auditConnectorLogFile serde bytes expectedAccountId = .ok log) :
    ∃ events legacy, ChainState serde (journalLines bytes) log events legacy := by
  rw [auditConnectorLogFile, check_bind_ok] at h
  exact auditRecords_chain ⟨[], none, chainState_initial⟩ h.2

theorem ChainState.inputs {lines : List (List UInt8)} {log : AuditLog}
    {events : List SealedEvent} {legacy : Option (LegacyLine serde)}
    (h : ChainState serde lines log events legacy) :
    (journalChain events legacy).map ChainEntry.input = digestInputs serde lines log := by
  rw [digestInputs, h.chained, h.legacyLine, journalChain, List.map_append]
  congr 1
  · simp [ChainEntry.input, Function.comp_def]
  · cases legacy <;> rfl

theorem ChainState.head_of_last {lines : List (List UInt8)} {log : AuditLog}
    {events : List SealedEvent} {legacy : Option (LegacyLine serde)} {digest : String}
    (h : ChainState serde lines log events legacy) (hlast : lastEventDigest log = some digest) :
    (journalChain events legacy).head?.map ChainEntry.digest = some digest := by
  rw [lastEventDigest, h.chained, List.getLast?_reverse] at hlast
  cases events with
  | nil => simp at hlast
  | cons newest events =>
    simp only [List.map_cons, List.head?_cons, Option.map_some, Option.some.injEq] at hlast
    rw [← hlast, newest.digest]
    rfl

theorem journalChain_injective {first second : List SealedEvent}
    {legacy legacy' : Option (LegacyLine serde)}
    (h : journalChain first legacy = journalChain second legacy') :
    first = second ∧ legacy = legacy' := by
  induction first generalizing second with
  | nil =>
    cases second with
    | nil =>
      refine ⟨rfl, ?_⟩
      cases legacy <;> cases legacy' <;> simp [journalChain] at h ⊢
      exact h
    | cons newest second => cases legacy <;> simp [journalChain] at h
  | cons newest first ih =>
    cases second with
    | nil => cases legacy' <;> simp [journalChain] at h
    | cons newest' second =>
      simp only [journalChain, List.map_cons, List.cons_append, List.cons.injEq,
        ChainEntry.chained.injEq] at h
      rcases ih h.2 with ⟨rfl, rfl⟩
      exact ⟨by rw [h.1], rfl⟩

/-- Two accepted journals that end with one digest have the same chained events,
behind the same last legacy record. -/
theorem chained_events_determined (hreads : ReadsItself serde) {first second : List UInt8}
    {expected expected' : Option String} {log log' : AuditLog}
    (hfirst : auditConnectorLogFile serde first expected = .ok log)
    (hsecond : auditConnectorLogFile serde second expected' = .ok log')
    {digest : String} (hlast : lastEventDigest log = some digest)
    (hlast' : lastEventDigest log' = some digest)
    (hdistinct : Distinguished Sha256.hexDigest (digestInputs serde (journalLines first) log)
      (digestInputs serde (journalLines second) log')) :
    chainedEvents log.events = chainedEvents log'.events ∧
      (legacyLines serde (journalLines first)).getLast? =
        (legacyLines serde (journalLines second)).getLast? := by
  rcases auditConnectorLogFile_chain hfirst with ⟨events, legacy, hstate⟩
  rcases auditConnectorLogFile_chain hsecond with ⟨events', legacy', hstate'⟩
  have hentries : Distinguished ChainEntry.digest (journalChain events legacy)
      (journalChain events' legacy') := by
    rintro ⟨entry, entry'⟩ hpair hsame
    apply ChainEntry.input_injective hreads
    apply hdistinct (entry.input, entry'.input) _ hsame
    rw [← hstate.inputs, ← hstate'.inputs, List.zip_map]
    exact List.mem_map_of_mem hpair
  have hchains := hstate.linked.eq_of_head hstate'.linked hentries
    ((hstate.head_of_last hlast).trans (hstate'.head_of_last hlast').symm)
  rcases journalChain_injective hchains with ⟨rfl, rfl⟩
  exact ⟨hstate.chained.trans hstate'.chained.symm,
    hstate.legacyLine.trans hstate'.legacyLine.symm⟩

/-! A legacy record that nothing determines -/

/-- The record without its chain fields is no longer than with them. -/
theorem ConnectorAuditEvent.length_unlinked {event : ConnectorAuditEvent}
    (h : event.wellFormed = true) : event.unlinked.line.length ≤ event.line.length := by
  have hversion : (Json.renderInt event.formatVersion).length = (Json.renderInt 1).length := by
    simp only [wellFormed, Bool.and_eq_true, Bool.or_eq_true, beq_iff_eq] at h
    rcases h.1.1.1.1.1.1.1.1.1 with hone | htwo
    · rw [hone]
      rfl
    · rw [htwo]
      decide
  simp only [line, Json.byteCount_toText, toJson, unlinked, List.cons_append, Json.render,
    Json.byteCount_cons, Json.byteCount_append, Json.byteCount_renderInt, hversion,
    beq_self_eq_true, if_true, List.append_nil, Nat.cast_one]
  gcongr
  simp only [List.nil_append, Json.renderMembers, Json.byteCount_cons, Json.byteCount_append,
    Json.byteCount_nil]
  gcongr
  exact Json.byteCount_renderMembers_append [] _

/-- The records that a reader of `known` reads, with or without their chain fields. -/
def readKnown (known : List ConnectorAuditEvent) (line : List UInt8) :
    Except String ConnectorAuditEvent :=
  match (known ++ known.map (·.unlinked)).find? (·.line == line) with
  | some event => .ok event
  | none => .error "expected value"

theorem readKnown_ok {known : List ConnectorAuditEvent} {line : List UInt8}
    {event : ConnectorAuditEvent} : readKnown known line = .ok event ↔
      event ∈ known ++ known.map (·.unlinked) ∧ event.line = line := by
  rw [readKnown]
  cases hfind : (known ++ known.map (·.unlinked)).find? (·.line == line) with
  | none =>
    simp only [List.find?_eq_none, beq_iff_eq] at hfind
    simp only [reduceCtorEq, false_iff, not_and]
    exact hfind event
  | some found =>
    have hline : found.line = line := by simpa using List.find?_some hfind
    simp only [Except.ok.injEq]
    constructor
    · rintro rfl
      exact ⟨List.mem_of_find?_eq_some hfind, hline⟩
    · rintro ⟨-, hevent⟩
      exact ConnectorAuditEvent.line_injective (hline.trans hevent.symm)

def knownSerde (known : List ConnectorAuditEvent)
    (hknown : ∀ event ∈ known, event.wellFormed = true) : SerdeJson where
  draftFromSlice _ := .error "expected value"
  eventFromSlice := readKnown known
  unlink line event h := by
    rcases readKnown_ok.mp h with ⟨hmem, rfl⟩
    have hunlinked : event.wellFormed = true ∧ event.unlinked ∈ known.map (·.unlinked) := by
      rcases List.mem_append.mp hmem with hmem | hmem
      · exact ⟨hknown event hmem, List.mem_map_of_mem hmem⟩
      · rcases List.mem_map.mp hmem with ⟨original, horiginal, rfl⟩
        exact ⟨ConnectorAuditEvent.wellFormed_unlinked (hknown original horiginal), hmem⟩
    have hplain := event.unlinked.line_plain
    exact ⟨event.unlinked.line, hplain.nonempty,
      ConnectorAuditEvent.length_unlinked hunlinked.1, hplain.bytes,
      readKnown_ok.mpr ⟨List.mem_append_right _ hunlinked.2, rfl⟩⟩

theorem readsItself_known {known : List ConnectorAuditEvent}
    (hknown : ∀ event ∈ known, event.wellFormed = true) :
    ReadsItself (knownSerde known hknown) := by
  intro event event' h
  exact ConnectorAuditEvent.line_injective (readKnown_ok.mp h).2

/-- A request as an earlier version recorded it. -/
def sampleEvent (eventId : Char) : ConnectorAuditEvent where
  formatVersion := 1
  eventId := String.ofList (List.replicate 64 eventId)
  observedAtUnixNanoseconds := 1000
  accountId := "account"
  requesterId := "requester"
  requestId := "request"
  operation := "searchMessages"
  stage := .request
  conversationId := none
  destination := .localOnly
  outcome := .completed
  returnedItemCount := 1
  releasedBodyByteCount := 5
  requestBodyByteCount := 5
  draftId := none
  policyDecisionId := none
  previousEventSha256 := none
  eventSha256 := ""

/-- The event as it is appended behind the given digest. -/
def ConnectorAuditEvent.appended (event : ConnectorAuditEvent) (previous : Option String) :
    ConnectorAuditEvent :=
  let linked := { event with formatVersion := 2, previousEventSha256 := previous }
  { linked with eventSha256 := connectorAuditEventDigest linked }

theorem ConnectorAuditEvent.appended_seal (event : ConnectorAuditEvent) (previous : Option String) :
    (event.appended previous).eventSha256 =
      connectorAuditEventDigest (event.appended previous) := rfl

/-- An appended event links to the digest it was given. -/
theorem linkRecord_appended {log : AuditLog} (line : List UInt8) (event : ConnectorAuditEvent)
    {previous : Option String} (h : log.previousDigest = previous) :
    ∃ linked, linkRecord log line (event.appended previous) = .ok linked := by
  have hseal := event.appended_seal previous
  simp only [linkRecord, ConnectorAuditEvent.appended, bind_ok] at hseal ⊢
  exact ⟨_, (), require_ok.mpr (beq_iff_eq.mpr h.symm), (),
    require_ok.mpr (beq_iff_eq.mpr hseal), rfl⟩

/-- A request behind two legacy records, of which it names the second. -/
def sampleLast : ConnectorAuditEvent :=
  (sampleEvent 'c').appended (some (Sha256.hexDigest (sampleEvent 'b').line))

def sampleKnown : List ConnectorAuditEvent := [sampleEvent 'a', sampleEvent 'b', sampleLast]

@[simp] theorem sampleEvent_version (c : Char) : (sampleEvent c).formatVersion = 1 := rfl

@[simp] theorem sampleLast_version : sampleLast.formatVersion = 2 := rfl

/-- The event behind some digest, under another one. -/
def sampleLinked (previous digest : String) : ConnectorAuditEvent :=
  { sampleEvent 'c' with
    formatVersion := 2
    previousEventSha256 := some previous
    eventSha256 := digest }

theorem sampleLast_linked : ∃ previous digest, isSha256 previous = true ∧
    isSha256 digest = true ∧ sampleLast = sampleLinked previous digest :=
  ⟨_, _, isSha256_hexDigest _, isSha256_hexDigest _, rfl⟩

theorem sampleLinked_bound {previous digest : String} (hprevious : isSha256 previous = true)
    (hdigest : isSha256 digest = true) :
    (sampleLinked previous digest).toJson.textBound ≤ maxConnectorAuditRecordBytes := by
  have hne : (digest == "") = false := by
    rw [beq_eq_false_iff_ne]
    rintro rfl
    exact absurd hdigest (by decide)
  simp only [sampleLinked, sampleEvent, ConnectorAuditEvent.toJson, hne, Json.textBound,
    Json.membersBound, List.cons_append, List.nil_append, utf8ByteSize_of_isSha256 hprevious,
    utf8ByteSize_of_isSha256 hdigest, Bool.false_eq_true, if_false]
  decide

theorem sampleKnown_bound {event : ConnectorAuditEvent} (h : event ∈ sampleKnown) :
    event.toJson.textBound ≤ maxConnectorAuditRecordBytes := by
  simp only [sampleKnown, List.mem_cons, List.not_mem_nil, or_false] at h
  rcases h with rfl | rfl | rfl
  · decide
  · decide
  · obtain ⟨previous, digest, hprevious, hdigest, hlast⟩ := sampleLast_linked
    rw [hlast]
    exact sampleLinked_bound hprevious hdigest

theorem sampleKnown_wellFormed {event : ConnectorAuditEvent} (h : event ∈ sampleKnown) :
    event.wellFormed = true := by
  simp only [sampleKnown, List.mem_cons, List.not_mem_nil, or_false] at h
  rcases h with rfl | rfl | rfl
  · decide
  · decide
  · obtain ⟨previous, digest, hprevious, hdigest, hlast⟩ := sampleLast_linked
    rw [hlast]
    simp only [ConnectorAuditEvent.wellFormed, sampleLinked, sampleEvent, hprevious, hdigest,
      Option.all_some, Bool.or_true]
    decide

/-- The reader of the sample records. -/
def sampleReader : SerdeJson := knownSerde sampleKnown fun _ => sampleKnown_wellFormed

theorem sampleReader_reads : ReadsItself sampleReader := readsItself_known _

theorem sampleKnown_audited {event : ConnectorAuditEvent} (h : event ∈ sampleKnown) :
    AuditedLine sampleReader "account" event.line event where
  nonempty := event.line_plain.nonempty
  size := (Json.length_utf8_toText _).trans (sampleKnown_bound h)
  reads := by
    rw [sampleReader, knownSerde, readKnown_ok]
    exact ⟨List.mem_append_left _ h, rfl⟩
  wellFormed := sampleKnown_wellFormed h
  account := by
    simp only [sampleKnown, List.mem_cons, List.not_mem_nil, or_false] at h
    rcases h with rfl | rfl | rfl
    · rfl
    · rfl
    · rw [sampleLast, ConnectorAuditEvent.appended, sampleEvent]

/-- A journal of the given records, one a line. -/
def journalOf (events : List ConnectorAuditEvent) : List UInt8 :=
  joinLines (events.map (·.line))

theorem journalLines_journalOf (events : List ConnectorAuditEvent) :
    journalLines (journalOf events) = events.map (·.line) := by
  apply journalLines_joinLines
  intro line hline
  rcases List.mem_map.mp hline with ⟨event, -, rfl⟩
  exact event.line_plain

theorem journalOf_size {events : List ConnectorAuditEvent} (h : ∀ event ∈ events, event ∈ sampleKnown)
    (hlength : events.length ≤ 3) : (journalOf events).length ≤ maxConnectorAuditBytes := by
  have hsum : (events.map (·.line.length + 1)).sum ≤
      events.length * (maxConnectorAuditRecordBytes + 1) := by
    have hall := List.sum_le_card_nsmul (events.map (·.line.length + 1))
      (maxConnectorAuditRecordBytes + 1) ?_
    · simpa using hall
    · intro size hsize
      rcases List.mem_map.mp hsize with ⟨event, hevent, rfl⟩
      exact Nat.succ_le_succ (sampleKnown_audited (h event hevent)).size
  cases events with
  | nil => exact Nat.zero_le _
  | cons event events =>
    have hjoin := @length_joinLines ((event :: events).map (·.line)) (List.cons_ne_nil _ _)
    rw [List.map_map] at hjoin
    change (journalOf (event :: events)).length + 1 =
      ((event :: events).map (·.line.length + 1)).sum at hjoin
    simp only [maxConnectorAuditRecordBytes, maxConnectorAuditBytes] at hsum ⊢
    omega

/-- Once the second legacy record is read, the last record is accepted. -/
theorem sampleTail_accepted {log : AuditLog} (hseen : log.seenChained = false)
    (haccount : log.accountId.all (· == "account") = true)
    (hb : (sampleEvent 'b').eventId ∉ log.eventIds) (hlast : sampleLast.eventId ∉ log.eventIds) :
    ∃ after, [(sampleEvent 'b').line, sampleLast.line].foldlM
        (auditRecord sampleReader (some "account")) log = .ok after ∧
      after.events = log.events ++ [sampleEvent 'b', sampleLast] := by
  have hlegacy : AuditedLine sampleReader "account" (sampleEvent 'b').line
      (sampleEvent 'b').unlinked := sampleKnown_audited (by simp [sampleKnown])
  obtain ⟨next, hnext, hdigest, -, hkept, hids, hevents⟩ :=
    auditRecord_legacy hlegacy hseen haccount hb
  have hfresh : sampleLast.eventId ∉ next.eventIds := by
    rw [hids, List.mem_cons]
    rintro (hsame | hmem)
    · exact absurd hsame (by decide)
    · exact hlast hmem
  obtain ⟨linked, hlink⟩ := linkRecord_appended sampleLast.line (sampleEvent 'c') hdigest
  obtain ⟨after, hafter, -, -, -, -, happend⟩ :=
    auditRecord_accepts (sampleKnown_audited (by simp [sampleKnown])) hkept hfresh hlink
  refine ⟨after, ?_, ?_⟩
  · simp only [List.foldlM_cons, List.foldlM_nil, bind_ok]
    exact ⟨next, hnext, after, hafter, rfl⟩
  · rw [happend, hevents, List.append_assoc]
    rfl

theorem sampleJournal_accepted {events : List ConnectorAuditEvent}
    (h : ∀ event ∈ events, event ∈ sampleKnown) (hlength : events.length ≤ 3) {log : AuditLog}
    (hfold : (events.map (·.line)).foldlM (auditRecord sampleReader (some "account")) .initial =
      .ok log) : auditConnectorLogFile sampleReader (journalOf events) (some "account") = .ok log := by
  rw [auditConnectorLogFile, check_bind_ok, require_ok, journalLines_journalOf]
  exact ⟨decide_eq_true (journalOf_size h hlength), hfold⟩

/-- The sample journal without its first record. -/
def sampleSuffix : List ConnectorAuditEvent := [sampleEvent 'b', sampleLast]

theorem sampleSuffix_known {event : ConnectorAuditEvent} (h : event ∈ sampleSuffix) :
    event ∈ sampleKnown := List.mem_cons_of_mem _ h

theorem sampleSuffix_accepted : ∃ log,
    auditConnectorLogFile sampleReader (journalOf sampleSuffix) (some "account") = .ok log ∧
      log.events = sampleSuffix := by
  have hempty : ∀ eventId, eventId ∉ AuditLog.initial.eventIds := fun _ => List.not_mem_nil
  obtain ⟨log, hlog, hevents⟩ :=
    @sampleTail_accepted .initial rfl rfl (hempty _) (hempty _)
  exact ⟨log, sampleJournal_accepted (fun _ => sampleSuffix_known) (by decide) hlog, hevents⟩

theorem sampleKnown_accepted : ∃ log,
    auditConnectorLogFile sampleReader (journalOf sampleKnown) (some "account") = .ok log ∧
      log.events = sampleKnown := by
  have hlegacy : AuditedLine sampleReader "account" (sampleEvent 'a').line
      (sampleEvent 'a').unlinked := sampleKnown_audited (by simp [sampleKnown])
  obtain ⟨next, hnext, -, hseen, hkept, hids, hevents⟩ :=
    @auditRecord_legacy _ _ .initial _ _ hlegacy rfl rfl List.not_mem_nil
  have hfresh : (sampleEvent 'b').eventId ∉ next.eventIds ∧ sampleLast.eventId ∉ next.eventIds := by
    rw [hids]
    decide
  obtain ⟨log, hlog, happend⟩ := sampleTail_accepted hseen hkept hfresh.1 hfresh.2
  refine ⟨log, sampleJournal_accepted (fun _ h => h) (by decide) ?_, ?_⟩
  · rw [sampleKnown, List.map_cons, List.foldlM_cons, bind_ok]
    exact ⟨next, hnext, hlog⟩
  · rw [happend, hevents]
    rfl

theorem legacyLines_sample {events : List ConnectorAuditEvent}
    (h : ∀ event ∈ events, event ∈ sampleKnown) :
    legacyLines sampleReader (journalLines (journalOf events)) =
      (events.filter (·.formatVersion == 1)).map (·.line) := by
  have hsame : ∀ event ∈ events,
      (isLegacyLine sampleReader ∘ ConnectorAuditEvent.line) event =
        (event.formatVersion == 1) := by
    intro event hevent
    have hread := (sampleKnown_audited (h event hevent)).reads
    simp only [Function.comp_apply, isLegacyLine, hread]
  rw [journalLines_journalOf, legacyLines, List.filter_map, List.filter_congr hsame]

/-- Both sample journals compare the same digests. -/
theorem digestInputs_sample {events : List ConnectorAuditEvent} {log : AuditLog}
    (hevents : log.events = events) (h : events = sampleKnown ∨ events = sampleSuffix) :
    digestInputs sampleReader (journalLines (journalOf events)) log =
      [sampleLast.digestInput, (sampleEvent 'b').line] ∧
    lastEventDigest log = some sampleLast.eventSha256 := by
  have hmem : ∀ event ∈ events, event ∈ sampleKnown := by
    rcases h with rfl | rfl
    · exact fun _ h => h
    · exact fun _ h => sampleSuffix_known h
  have hchained : chainedEvents log.events = [sampleLast] := by
    rw [hevents]
    rcases h with rfl | rfl <;> simp [chainedEvents, sampleKnown, sampleSuffix]
  have hlegacy : (events.filter (·.formatVersion == 1)).getLast? = some (sampleEvent 'b') := by
    rcases h with rfl | rfl <;> simp [sampleKnown, sampleSuffix]
  constructor
  · rw [digestInputs, hchained, legacyLines_sample hmem, List.getLast?_map, hlegacy]
    simp only [List.map_cons, List.map_nil, List.reverse_singleton, Option.map_some,
      Option.toList_some, List.singleton_append]
  · simp only [lastEventDigest, hchained, List.getLast?_singleton, Option.map_some]

theorem chained_events_determined_sample : ∃ log log' : AuditLog,
    log.events = sampleKnown ∧ log'.events = sampleSuffix ∧
      chainedEvents log.events = chainedEvents log'.events ∧
      (legacyLines sampleReader (journalLines (journalOf sampleKnown))).getLast? =
        (legacyLines sampleReader (journalLines (journalOf sampleSuffix))).getLast? := by
  obtain ⟨log, hlog, hevents⟩ := sampleKnown_accepted
  obtain ⟨log', hlog', hevents'⟩ := sampleSuffix_accepted
  have hfirst := digestInputs_sample hevents (.inl rfl)
  have hsecond := digestInputs_sample hevents' (.inr rfl)
  refine ⟨log, log', hevents, hevents', chained_events_determined sampleReader_reads hlog hlog'
    hfirst.2 hsecond.2 ?_⟩
  rw [hfirst.1, hsecond.1]
  exact .refl _

/-- The legacy records before the last one are not determined. -/
theorem legacy_prefix_undetermined :
    ¬ ∀ (serde : SerdeJson) (first second : List UInt8) (log log' : AuditLog) (digest : String),
      ReadsItself serde →
      auditConnectorLogFile serde first (some "account") = .ok log →
      auditConnectorLogFile serde second (some "account") = .ok log' →
      lastEventDigest log = some digest → lastEventDigest log' = some digest →
      Distinguished Sha256.hexDigest (digestInputs serde (journalLines first) log)
        (digestInputs serde (journalLines second) log') →
      chainedEvents log.events = chainedEvents log'.events ∧
        legacyLines serde (journalLines first) = legacyLines serde (journalLines second) := by
  intro h
  obtain ⟨log, hlog, hevents⟩ := sampleKnown_accepted
  obtain ⟨log', hlog', hevents'⟩ := sampleSuffix_accepted
  have hfirst := digestInputs_sample hevents (.inl rfl)
  have hsecond := digestInputs_sample hevents' (.inr rfl)
  have hdistinct : Distinguished Sha256.hexDigest
      (digestInputs sampleReader (journalLines (journalOf sampleKnown)) log)
      (digestInputs sampleReader (journalLines (journalOf sampleSuffix)) log') := by
    rw [hfirst.1, hsecond.1]
    exact .refl _
  have hsame := (h sampleReader _ _ log log' _ sampleReader_reads hlog hlog' hfirst.2 hsecond.2
    hdistinct).2
  rw [legacyLines_sample fun _ h => h,
    legacyLines_sample fun _ => sampleSuffix_known] at hsame
  simp [sampleKnown, sampleSuffix] at hsame

end GreenBubbles.Connector
