import GreenBubbles.Digest
import GreenBubbles.Library.Json
import GreenBubbles.Library.Ordered
import GreenBubbles.Library.Replay

/-! # Differences between two archives

The messages of two archives of one account, taken by canonical identity, and one
event for each identity whose record differs. Lines of a ledger are given as read:
a value, or the error of a malformed line.
-/
namespace GreenBubbles.Archive

open Std Library Library.Ordered Library.Replay

inductive ReconciledEventKind where
  | added
  | changed
  | removed
  deriving DecidableEq

def eventKindName : ReconciledEventKind → String
  | .added => "Added"
  | .changed => "Changed"
  | .removed => "Removed"

def eventKindRank : ReconciledEventKind → ℕ
  | .added => 0
  | .changed => 1
  | .removed => 2

structure ReconciledMessageEvent where
  eventId : String
  kind : ReconciledEventKind
  canonicalId : String
  conversationId : String
  previousOrdinal : Option ℕ
  currentOrdinal : Option ℕ
  previousRecordSha256 : Option String
  currentRecordSha256 : Option String

structure ReconciliationReport where
  formatVersion : ℕ
  accountId : String
  previousSourceFingerprint : String
  currentSourceFingerprint : String
  enabledConversationCount : ℕ
  previousMessageCount : ℕ
  currentMessageCount : ℕ
  addedCount : ℕ
  changedCount : ℕ
  removedCount : ℕ
  duplicateEventCount : ℕ

structure RecordFingerprint where
  conversationId : String
  ordinal : ℕ
  sha256 : String

/-- What a reconciliation reads of an archive. -/
structure ReconciledArchive where
  accountId : String
  sourceFingerprint : String
  messages : List (Except RestoreError Json)

structure ConversationReadPolicy where
  formatVersion : ℕ
  accountId : String
  enabledConversationIds : ExtTreeSet String

def loadPolicy (policy : ConversationReadPolicy) : Except RestoreError ConversationReadPolicy :=
  if policy.formatVersion ≠ 2 then .error (.integrity "unsupported conversation policy version")
  else .ok policy

def getField (value : Json) (field : String) : Option Json :=
  match value with
  | .obj members => (members.find? (·.1 = field)).map (·.2)
  | _ => none

def asStr : Json → Option String
  | .str text => some text
  | _ => none

def asU64 : Json → Option ℕ
  | .int number => if 0 ≤ number ∧ number < 2 ^ 64 then some number.toNat else none
  | _ => none

def requiredString (value : Json) (field : String) : Except RestoreError String :=
  match (getField value field).bind asStr with
  | none => .error (.integrity ("message archive record is missing " ++ field))
  | some text => .ok text

def requiredOrdinal (value : Json) : Except RestoreError ℕ :=
  match (getField value "conversationOrdinal").bind asU64 with
  | none =>
    .error (.integrity "message archive record is missing its conversation ordinal")
  | some ordinal => .ok ordinal

def recordSha256 (value : Json) : String := Sha256.hexDigest (Bytes.utf8 value.toText)

/-- Reads one line into the records of enabled conversations. -/
def loadFingerprint (enabled : ExtTreeSet String) (result : ExtTreeMap String RecordFingerprint)
    (line : Except RestoreError Json) : Except RestoreError (ExtTreeMap String RecordFingerprint) :=
  do
    let value ← line
    let canonicalId ← requiredString value "canonicalId"
    let conversationId ← requiredString value "conversationId"
    if !enabled.contains conversationId then return result
    let ordinal ← requiredOrdinal value
    if canonicalId ∈ result then
      .error (.integrity "duplicate canonical message identity in reconciliation input")
    else return result.insert canonicalId ⟨conversationId, ordinal, recordSha256 value⟩

def loadMessageFingerprints (messages : List (Except RestoreError Json))
    (enabled : ExtTreeSet String) : Except RestoreError (ExtTreeMap String RecordFingerprint) :=
  messages.foldlM (loadFingerprint enabled) ∅

section Events

variable (previousFingerprint currentFingerprint : String)

def eventIdentity (kind : ReconciledEventKind) (canonicalId : String) : String :=
  previousFingerprint ++ ":" ++ currentFingerprint ++ ":" ++ eventKindName kind ++ ":" ++
    canonicalId

/-- A reconciliation event always has one side. -/
def event (kind : ReconciledEventKind) (canonicalId : String)
    (previous current : Option RecordFingerprint) : ReconciledMessageEvent where
  eventId := Sha256.hexDigest
    (Bytes.utf8 (eventIdentity previousFingerprint currentFingerprint kind canonicalId))
  kind
  canonicalId
  conversationId := ((current.or previous).map (·.conversationId)).getD ""
  previousOrdinal := previous.map (·.ordinal)
  currentOrdinal := current.map (·.ordinal)
  previousRecordSha256 := previous.map (·.sha256)
  currentRecordSha256 := current.map (·.sha256)

variable (previous current : ExtTreeMap String RecordFingerprint)

/-- The event of a record of the current archive, if there is one. -/
def currentEvent (canonicalId : String) (record : RecordFingerprint) :
    Option ReconciledMessageEvent :=
  match previous[canonicalId]? with
  | none =>
    some (event previousFingerprint currentFingerprint .added canonicalId none (some record))
  | some previousRecord =>
    if previousRecord.sha256 ≠ record.sha256 then
      some (event previousFingerprint currentFingerprint .changed canonicalId
        (some previousRecord) (some record))
    else none

def removedEvent (canonicalId : String) (record : RecordFingerprint) :
    Option ReconciledMessageEvent :=
  if canonicalId ∈ current then none
  else some (event previousFingerprint currentFingerprint .removed canonicalId (some record) none)

def eventKey (event : ReconciledMessageEvent) : String × Option ℕ × ℕ × String :=
  (event.conversationId, event.currentOrdinal.or event.previousOrdinal, eventKindRank event.kind,
    event.canonicalId)

def reconciledEvents : List ReconciledMessageEvent :=
  sortBy eventKey
    (current.toList.filterMap (fun entry =>
        currentEvent previousFingerprint currentFingerprint previous entry.1 entry.2) ++
      previous.toList.filterMap (fun entry =>
        removedEvent previousFingerprint currentFingerprint current entry.1 entry.2))

end Events

/-- An event whose identity was written before is counted and skipped. -/
def writeEvents : List String → List ReconciledMessageEvent → List ReconciledMessageEvent × ℕ
  | _, [] => ([], 0)
  | seen, event :: events =>
    if event.eventId ∈ seen then
      ((writeEvents seen events).1, (writeEvents seen events).2 + 1)
    else
      (event :: (writeEvents (event.eventId :: seen) events).1,
        (writeEvents (event.eventId :: seen) events).2)

/-- The report, all events in their order and the ones written to the file. -/
structure Reconciliation where
  report : ReconciliationReport
  events : List ReconciledMessageEvent
  written : List ReconciledMessageEvent

def reconcileArchives (previousArchive currentArchive : ReconciledArchive)
    (policyFile : ConversationReadPolicy) : Except RestoreError Reconciliation := do
  let policy ← loadPolicy policyFile
  if previousArchive.accountId ≠ currentArchive.accountId ∨
      previousArchive.accountId ≠ policy.accountId then
    .error (.integrity "reconciliation inputs do not belong to the same account")
  else
    let previous ← loadMessageFingerprints previousArchive.messages policy.enabledConversationIds
    let current ← loadMessageFingerprints currentArchive.messages policy.enabledConversationIds
    let events := reconciledEvents previousArchive.sourceFingerprint
      currentArchive.sourceFingerprint previous current
    let written := writeEvents [] events
    return {
      report :=
        { formatVersion := 1
          accountId := previousArchive.accountId
          previousSourceFingerprint := previousArchive.sourceFingerprint
          currentSourceFingerprint := currentArchive.sourceFingerprint
          enabledConversationCount := policy.enabledConversationIds.size
          previousMessageCount := previous.size
          currentMessageCount := current.size
          addedCount := events.countP (·.kind = .added)
          changedCount := events.countP (·.kind = .changed)
          removedCount := events.countP (·.kind = .removed)
          duplicateEventCount := written.2 }
      events
      written := written.1 }

/-! What an archive holds, and what a consumer makes of the events -/

/-- The record a line keeps under an identity, if its conversation is enabled. -/
def recordUnder (enabled : ExtTreeSet String) (canonicalId : String) :
    Except RestoreError Json → Option RecordFingerprint
  | .error _ => none
  | .ok value =>
    match requiredString value "canonicalId", requiredString value "conversationId",
        requiredOrdinal value with
    | .ok identifier, .ok conversationId, .ok ordinal =>
      if identifier = canonicalId ∧ enabled.contains conversationId then
        some ⟨conversationId, ordinal, recordSha256 value⟩
      else none
    | _, _, _ => none

/-- The record of an identity in the enabled conversations of an archive. -/
def archiveRecord (archive : ReconciledArchive) (enabled : ExtTreeSet String)
    (canonicalId : String) : Option RecordFingerprint :=
  archive.messages.findSome? (recordUnder enabled canonicalId)

/-- Digests by identity, of one enabled conversation. -/
def conversationRecords (archive : ReconciledArchive) (enabled : ExtTreeSet String)
    (conversationId canonicalId : String) : Option String :=
  ((archiveRecord archive enabled canonicalId).filter (·.conversationId = conversationId)).map
    (·.sha256)

theorem conversationRecords_some {archive : ReconciledArchive} {enabled : ExtTreeSet String}
    {canonicalId : String} {record : RecordFingerprint}
    (h : archiveRecord archive enabled canonicalId = some record) (conversationId : String) :
    conversationRecords archive enabled conversationId canonicalId =
      if record.conversationId = conversationId then some record.sha256 else none := by
  by_cases hsame : record.conversationId = conversationId <;>
    simp [conversationRecords, h, Option.filter, hsame]

theorem conversationRecords_none {archive : ReconciledArchive} {enabled : ExtTreeSet String}
    {canonicalId : String} (h : archiveRecord archive enabled canonicalId = none)
    (conversationId : String) :
    conversationRecords archive enabled conversationId canonicalId = none := by
  simp [conversationRecords, h]

/-- Conversations and digests by identity. -/
def messageRecords (archive : ReconciledArchive) (enabled : ExtTreeSet String)
    (canonicalId : String) : Option (String × String) :=
  (archiveRecord archive enabled canonicalId).map fun record =>
    (record.conversationId, record.sha256)

/-- The digest an event leaves under its identity. -/
def ReconciledMessageEvent.digest (event : ReconciledMessageEvent) : Option String :=
  match event.kind with
  | .added | .changed => event.currentRecordSha256
  | .removed => none

def replayConversation (events : List ReconciledMessageEvent) (conversationId : String)
    (records : String → Option String) : String → Option String :=
  replay (·.canonicalId) ReconciledMessageEvent.digest
    (events.filter (·.conversationId = conversationId)) records

def replayMessages (events : List ReconciledMessageEvent)
    (records : String → Option (String × String)) : String → Option (String × String) :=
  replay (·.canonicalId) (fun event => event.digest.map fun digest =>
    (event.conversationId, digest)) events records

/-! Loading -/

variable {enabled : ExtTreeSet String} {result filled : ExtTreeMap String RecordFingerprint}

theorem loadFingerprint_getElem? {line : Except RestoreError Json}
    (h : loadFingerprint enabled result line = .ok filled) (canonicalId : String) :
    filled[canonicalId]? = result[canonicalId]?.or (recordUnder enabled canonicalId line) := by
  obtain ⟨value, hline, hvalue⟩ := bind_ok.mp h
  obtain ⟨identifier, hidentifier, hrest⟩ := bind_ok.mp hvalue
  obtain ⟨conversationId, hconversation, hread⟩ := bind_ok.mp hrest
  subst hline
  cases henabled : enabled.contains conversationId with
  | false =>
    rw [henabled] at hread
    obtain rfl : result = filled := Except.ok.inj hread
    have hnone : recordUnder enabled canonicalId (.ok value) = none := by
      simp only [recordUnder, hidentifier, hconversation]
      cases requiredOrdinal value <;> simp [henabled]
    rw [hnone, Option.or_none]
  | true =>
    rw [henabled] at hread
    obtain ⟨ordinal, hordinal, hinsert⟩ := bind_ok.mp hread
    split_ifs at hinsert with htaken
    obtain rfl := Except.ok.inj hinsert
    simp only [recordUnder, hidentifier, hconversation, hordinal, henabled, and_true]
    rw [ExtTreeMap.getElem?_insert]
    by_cases hsame : identifier = canonicalId
    · subst hsame
      simp [ExtTreeMap.getElem?_eq_none htaken, ReflCmp.compare_self]
    · have hne : compare identifier canonicalId ≠ .eq := fun heq =>
        hsame (LawfulEqCmp.eq_of_compare heq)
      simp [hne, hsame]

theorem foldlM_getElem? {messages : List (Except RestoreError Json)}
    (h : messages.foldlM (loadFingerprint enabled) result = .ok filled) (canonicalId : String) :
    filled[canonicalId]? =
      result[canonicalId]?.or (messages.findSome? (recordUnder enabled canonicalId)) := by
  induction messages generalizing result with
  | nil =>
    obtain rfl := Except.ok.inj h
    simp
  | cons line messages ih =>
    rw [List.foldlM_cons] at h
    obtain ⟨next, hnext, h⟩ := bind_ok.mp h
    rw [ih h, loadFingerprint_getElem? hnext, Option.or_assoc, List.findSome?_cons]
    cases recordUnder enabled canonicalId line <;> rfl

/-- What was loaded is what the archive holds in its enabled conversations. -/
theorem loadMessageFingerprints_getElem? {archive : ReconciledArchive}
    (h : loadMessageFingerprints archive.messages enabled = .ok filled) (canonicalId : String) :
    filled[canonicalId]? = archiveRecord archive enabled canonicalId := by
  rw [foldlM_getElem? h, ExtTreeMap.getElem?_empty, Option.none_or, archiveRecord]

theorem archiveRecord_value {archive : ReconciledArchive} {canonicalId : String}
    {record : RecordFingerprint} (h : archiveRecord archive enabled canonicalId = some record) :
    ∃ value, .ok value ∈ archive.messages ∧ record.sha256 = recordSha256 value ∧
      requiredString value "conversationId" = .ok record.conversationId ∧
      requiredString value "canonicalId" = .ok canonicalId := by
  obtain ⟨line, hline, hrecord⟩ := List.exists_of_findSome?_eq_some h
  cases line with
  | error error => cases hrecord
  | ok value =>
    refine ⟨value, hline, ?_⟩
    unfold recordUnder at hrecord
    cases hidentifier : requiredString value "canonicalId" with
    | error error => simp [hidentifier] at hrecord
    | ok identifier =>
      cases hconversation : requiredString value "conversationId" with
      | error error => simp [hidentifier, hconversation] at hrecord
      | ok conversationId =>
        cases hordinal : requiredOrdinal value with
        | error error => simp [hidentifier, hconversation, hordinal] at hrecord
        | ok ordinal =>
          simp only [hidentifier, hconversation, hordinal] at hrecord
          split_ifs at hrecord with hkept
          obtain rfl := Option.some.inj hrecord
          exact ⟨rfl, rfl, by rw [hkept.1]⟩

/-! Events -/

variable {previousFingerprint currentFingerprint : String}
  {previous current : ExtTreeMap String RecordFingerprint}

/-- The event of an identity, if its records differ. -/
def eventUnder (previousFingerprint currentFingerprint : String)
    (previous current : ExtTreeMap String RecordFingerprint) (canonicalId : String) :
    Option ReconciledMessageEvent :=
  match current[canonicalId]? with
  | some record => currentEvent previousFingerprint currentFingerprint previous canonicalId record
  | none => previous[canonicalId]?.map fun record =>
      event previousFingerprint currentFingerprint .removed canonicalId (some record) none

theorem canonicalId_currentEvent {canonicalId : String} {record : RecordFingerprint}
    {found : ReconciledMessageEvent}
    (h : currentEvent previousFingerprint currentFingerprint previous canonicalId record =
      some found) : found.canonicalId = canonicalId := by
  unfold currentEvent at h
  split at h
  · exact Option.some.inj h ▸ rfl
  · split_ifs at h
    exact Option.some.inj h ▸ rfl

theorem canonicalId_removedEvent {canonicalId : String} {record : RecordFingerprint}
    {found : ReconciledMessageEvent}
    (h : removedEvent previousFingerprint currentFingerprint current canonicalId record =
      some found) : found.canonicalId = canonicalId := by
  unfold removedEvent at h
  split_ifs at h
  exact Option.some.inj h ▸ rfl

theorem mem_reconciledEvents {found : ReconciledMessageEvent} :
    found ∈ reconciledEvents previousFingerprint currentFingerprint previous current ↔
      eventUnder previousFingerprint currentFingerprint previous current found.canonicalId =
        some found := by
  rw [reconciledEvents, mem_sortBy, List.mem_append, List.mem_filterMap, List.mem_filterMap]
  simp only [Prod.exists, ExtTreeMap.mem_toList_iff_getElem?_eq_some]
  constructor
  · rintro (⟨canonicalId, record, hrecord, hfound⟩ | ⟨canonicalId, record, hrecord, hfound⟩)
    · rw [canonicalId_currentEvent hfound, eventUnder, hrecord]
      exact hfound
    · rw [canonicalId_removedEvent hfound, eventUnder]
      unfold removedEvent at hfound
      split_ifs at hfound with habsent
      rw [ExtTreeMap.getElem?_eq_none habsent, hrecord]
      exact hfound
  · intro h
    unfold eventUnder at h
    cases hcurrent : current[found.canonicalId]? with
    | some record =>
      rw [hcurrent] at h
      exact .inl ⟨_, record, hcurrent, h⟩
    | none =>
      rw [hcurrent] at h
      obtain ⟨record, hrecord, hfound⟩ := Option.map_eq_some_iff.mp h
      have habsent : found.canonicalId ∉ current := by
        rw [ExtTreeMap.mem_iff_isSome_getElem?, hcurrent]
        decide
      exact .inr ⟨_, record, hrecord, by rw [removedEvent, if_neg habsent, hfound]⟩

theorem nodup_keys_toList (map : ExtTreeMap String RecordFingerprint) :
    (map.toList.map (·.1)).Nodup := by
  rw [List.Nodup, List.pairwise_map]
  apply ExtTreeMap.distinct_keys_toList.imp
  intro left right hdistinct hsame
  rw [hsame] at hdistinct
  exact hdistinct ReflCmp.compare_self

theorem map_filterMap_sublist {entries : List (String × RecordFingerprint)}
    {found : String × RecordFingerprint → Option ReconciledMessageEvent}
    (h : ∀ entry event, found entry = some event → event.canonicalId = entry.1) :
    ((entries.filterMap found).map (·.canonicalId)).Sublist (entries.map (·.1)) := by
  induction entries with
  | nil => exact .slnil
  | cons entry entries ih =>
    rw [List.filterMap_cons, List.map_cons]
    cases hfound : found entry with
    | none => exact ih.cons _
    | some event =>
      dsimp only
      rw [List.map_cons, h entry event hfound]
      exact ih.cons_cons _

/-- No identity has two events. -/
theorem nodup_reconciledEvents :
    ((reconciledEvents previousFingerprint currentFingerprint previous current).map
      (·.canonicalId)).Nodup := by
  refine ((sortBy_perm _ _).map _).nodup_iff.mpr ?_
  rw [List.map_append, List.nodup_append']
  refine ⟨?_, ?_, ?_⟩
  · exact (nodup_keys_toList current).sublist
      (map_filterMap_sublist fun entry event h => canonicalId_currentEvent h)
  · exact (nodup_keys_toList previous).sublist
      (map_filterMap_sublist fun entry event h => canonicalId_removedEvent h)
  · intro identifier hcurrent hremoved
    obtain ⟨first, hfirst, rfl⟩ := List.mem_map.mp hcurrent
    obtain ⟨second, hsecond, hsame⟩ := List.mem_map.mp hremoved
    obtain ⟨⟨key, record⟩, hentry, hfirst⟩ := List.mem_filterMap.mp hfirst
    obtain ⟨⟨key', record'⟩, hentry', hsecond⟩ := List.mem_filterMap.mp hsecond
    have hkey := canonicalId_currentEvent hfirst
    have hkey' := canonicalId_removedEvent hsecond
    have hheld := ExtTreeMap.mem_toList_iff_getElem?_eq_some.mp hentry
    have hpresent : key' ∈ current := by
      have hkeys : key' = key := hkey'.symm.trans (hsame.trans hkey)
      rw [hkeys, ExtTreeMap.mem_iff_isSome_getElem?, hheld]
      rfl
    rw [removedEvent, if_pos hpresent] at hsecond
    cases hsecond

/-! Counts -/

theorem countP_shared :
    current.toList.countP (fun entry => decide (entry.1 ∈ previous)) =
      previous.toList.countP (fun entry => decide (entry.1 ∈ current)) := by
  have hshared : ((current.toList.map (·.1)).filter (fun key => decide (key ∈ previous))).Perm
      ((previous.toList.map (·.1)).filter (fun key => decide (key ∈ current))) := by
    rw [List.perm_ext_iff_of_nodup ((nodup_keys_toList current).filter _)
      ((nodup_keys_toList previous).filter _)]
    intro key
    have hmem : ∀ map : ExtTreeMap String RecordFingerprint,
        key ∈ map.toList.map (·.1) ↔ key ∈ map := by
      intro map
      rw [ExtTreeMap.map_fst_toList_eq_keys, ExtTreeMap.mem_keys]
    rw [List.mem_filter, List.mem_filter, hmem, hmem, decide_eq_true_eq, decide_eq_true_eq,
      and_comm]
  have hlength := hshared.length_eq
  rw [← List.countP_eq_length_filter, ← List.countP_eq_length_filter, List.countP_map,
    List.countP_map] at hlength
  exact hlength

theorem countP_added :
    (reconciledEvents previousFingerprint currentFingerprint previous current).countP
        (·.kind = .added) =
      current.toList.countP fun entry => !decide (entry.1 ∈ previous) := by
  have hremoved : ∀ entry : String × RecordFingerprint,
      (((removedEvent previousFingerprint currentFingerprint current entry.1 entry.2).map
        fun found => decide (found.kind = .added)).getD false) = false := by
    intro entry
    unfold removedEvent
    split_ifs <;> rfl
  rw [reconciledEvents, (sortBy_perm _ _).countP_eq, List.countP_append, List.countP_filterMap,
    List.countP_filterMap]
  simp only [hremoved, List.countP_false, Function.const_apply, Nat.add_zero]
  congr 1
  funext entry
  have hheld : decide (entry.1 ∈ previous) = previous[entry.1]?.isSome := by
    rw [Bool.eq_iff_iff, decide_eq_true_eq, ExtTreeMap.mem_iff_isSome_getElem?]
  rw [currentEvent, hheld]
  cases previous[entry.1]? with
  | none => rfl
  | some record =>
    dsimp only
    split_ifs <;> rfl

theorem countP_removed :
    (reconciledEvents previousFingerprint currentFingerprint previous current).countP
        (·.kind = .removed) =
      previous.toList.countP fun entry => !decide (entry.1 ∈ current) := by
  have hcurrent : ∀ entry : String × RecordFingerprint,
      (((currentEvent previousFingerprint currentFingerprint previous entry.1 entry.2).map
        fun found => decide (found.kind = .removed)).getD false) = false := by
    intro entry
    rw [currentEvent]
    cases previous[entry.1]? with
    | none => rfl
    | some record =>
      dsimp only
      split_ifs <;> rfl
  rw [reconciledEvents, (sortBy_perm _ _).countP_eq, List.countP_append, List.countP_filterMap,
    List.countP_filterMap]
  simp only [hcurrent, List.countP_false, Function.const_apply, Nat.zero_add]
  congr 1
  funext entry
  unfold removedEvent
  by_cases hheld : entry.1 ∈ current <;> simp [hheld, event]

theorem size_reconciled :
    previous.size + (reconciledEvents previousFingerprint currentFingerprint previous
        current).countP (·.kind = .added) =
      current.size + (reconciledEvents previousFingerprint currentFingerprint previous
        current).countP (·.kind = .removed) := by
  have hprevious := List.length_eq_countP_add_countP
    (fun entry => decide (entry.1 ∈ current)) (l := previous.toList)
  have hcurrent := List.length_eq_countP_add_countP
    (fun entry => decide (entry.1 ∈ previous)) (l := current.toList)
  have hshared := @countP_shared previous current
  rw [ExtTreeMap.length_toList] at hprevious hcurrent
  simp only [decide_not, Bool.decide_eq_true] at hprevious hcurrent
  rw [countP_added, countP_removed]
  omega

/-! Writing -/

theorem writeEvents_nodup (seen : List String) (events : List ReconciledMessageEvent) :
    ((writeEvents seen events).1.map (·.eventId)).Nodup ∧
      ∀ event ∈ (writeEvents seen events).1, event.eventId ∉ seen := by
  induction events generalizing seen with
  | nil => simp [writeEvents]
  | cons event events ih =>
    by_cases hseen : event.eventId ∈ seen
    · simp only [writeEvents, if_pos hseen]
      exact ih seen
    · have hrest := ih (event.eventId :: seen)
      simp only [writeEvents, if_neg hseen, List.map_cons, List.nodup_cons,
        List.forall_mem_cons]
      refine ⟨⟨?_, hrest.1⟩, hseen, ?_⟩
      · intro hmem
        obtain ⟨other, hother, hsame⟩ := List.mem_map.mp hmem
        exact hrest.2 other hother (hsame ▸ List.mem_cons_self)
      · intro other hother hold
        exact hrest.2 other hother (List.mem_cons_of_mem _ hold)

theorem writeEvents_of_nodup {seen : List String} {events : List ReconciledMessageEvent}
    (hnodup : (events.map (·.eventId)).Nodup) (hseen : ∀ event ∈ events, event.eventId ∉ seen) :
    writeEvents seen events = (events, 0) := by
  induction events generalizing seen with
  | nil => rfl
  | cons event events ih =>
    rw [List.map_cons, List.nodup_cons] at hnodup
    have hrest := @ih (event.eventId :: seen) hnodup.2 ?_
    · rw [writeEvents, if_neg (hseen event List.mem_cons_self), hrest]
    · intro other hother hmem
      rcases List.mem_cons.mp hmem with hsame | hold
      · exact hnodup.1 (hsame ▸ List.mem_map_of_mem hother)
      · exact hseen other (.tail _ hother) hold

theorem writeEvents_sublist (seen : List String) (events : List ReconciledMessageEvent) :
    (writeEvents seen events).1.Sublist events := by
  induction events generalizing seen with
  | nil => exact .slnil
  | cons event events ih =>
    by_cases hseen : event.eventId ∈ seen
    · simp only [writeEvents, if_pos hseen]
      exact (ih seen).cons _
    · simp only [writeEvents, if_neg hseen]
      exact (ih _).cons_cons _

/-- The name of a kind has no colon, so identities of one pair of archives tell kinds
and messages apart. -/
theorem eventIdentity_injective {kind kind' : ReconciledEventKind} {canonicalId canonicalId' : String}
    (h : eventIdentity previousFingerprint currentFingerprint kind canonicalId =
      eventIdentity previousFingerprint currentFingerprint kind' canonicalId') :
    canonicalId = canonicalId' := by
  have hchars := congrArg String.toList h
  simp only [eventIdentity, String.toList_append, List.append_assoc, List.append_cancel_left_eq]
    at hchars
  apply String.toList_injective
  by_cases hkind : kind = kind'
  · subst hkind
    exact List.append_cancel_left (List.append_cancel_left hchars)
  · refine absurd hchars ?_
    cases kind <;> cases kind' <;> first | exact absurd rfl hkind | simp [eventKindName]

/-! Replaying -/

theorem canonicalId_eventUnder {canonicalId : String} {found : ReconciledMessageEvent}
    (h : eventUnder previousFingerprint currentFingerprint previous current canonicalId =
      some found) : found.canonicalId = canonicalId := by
  unfold eventUnder at h
  cases hcurrent : current[canonicalId]? with
  | some record =>
    rw [hcurrent] at h
    exact canonicalId_currentEvent h
  | none =>
    rw [hcurrent] at h
    obtain ⟨record, -, rfl⟩ := Option.map_eq_some_iff.mp h
    rfl

/-- An event says what the current archive holds, under the conversation it holds it in. -/
theorem eventUnder_some {canonicalId : String} {found : ReconciledMessageEvent}
    (h : eventUnder previousFingerprint currentFingerprint previous current canonicalId =
      some found) :
    (∃ record, current[canonicalId]? = some record ∧
        found.conversationId = record.conversationId ∧ found.digest = some record.sha256) ∨
      (current[canonicalId]? = none ∧ ∃ record, previous[canonicalId]? = some record ∧
        found.conversationId = record.conversationId ∧ found.digest = none) := by
  unfold eventUnder at h
  cases hcurrent : current[canonicalId]? with
  | some record =>
    simp only [hcurrent] at h
    left
    refine ⟨record, rfl, ?_⟩
    cases hprevious : previous[canonicalId]? with
    | none =>
      simp only [currentEvent, hprevious, Option.some.injEq] at h
      subst h
      exact ⟨rfl, rfl⟩
    | some previousRecord =>
      simp only [currentEvent, hprevious] at h
      split_ifs at h
      obtain rfl := Option.some.inj h
      exact ⟨rfl, rfl⟩
  | none =>
    simp only [hcurrent] at h
    obtain ⟨record, hrecord, rfl⟩ := Option.map_eq_some_iff.mp h
    exact .inr ⟨rfl, record, hrecord, rfl, rfl⟩

theorem eventUnder_none {canonicalId : String}
    (h : eventUnder previousFingerprint currentFingerprint previous current canonicalId = none) :
    (previous[canonicalId]? = none ∧ current[canonicalId]? = none) ∨
      ∃ first second, previous[canonicalId]? = some first ∧
        current[canonicalId]? = some second ∧ first.sha256 = second.sha256 := by
  unfold eventUnder at h
  cases hcurrent : current[canonicalId]? with
  | some record =>
    simp only [hcurrent, currentEvent] at h
    cases hprevious : previous[canonicalId]? with
    | none => simp [hprevious] at h
    | some previousRecord =>
      simp only [hprevious] at h
      split_ifs at h with hdigest
      exact .inr ⟨previousRecord, record, rfl, rfl, not_not.mp hdigest⟩
  | none =>
    simp only [hcurrent, Option.map_eq_none_iff] at h
    exact .inl ⟨h, rfl⟩

theorem eventUnder_unchanged {canonicalId : String} {first second : RecordFingerprint}
    (hfirst : previous[canonicalId]? = some first) (hsecond : current[canonicalId]? = some second)
    (h : first.sha256 = second.sha256) :
    eventUnder previousFingerprint currentFingerprint previous current canonicalId = none := by
  simp [eventUnder, currentEvent, hfirst, hsecond, h]

theorem mem_of_eventUnder {canonicalId : String} {found : ReconciledMessageEvent}
    (h : eventUnder previousFingerprint currentFingerprint previous current canonicalId =
      some found) :
    found ∈ reconciledEvents previousFingerprint currentFingerprint previous current := by
  rw [mem_reconciledEvents, canonicalId_eventUnder h, h]

variable {previousArchive currentArchive : ReconciledArchive}

section Archives

variable (hcurrent : ∀ canonicalId : String,
    current[canonicalId]? = archiveRecord currentArchive enabled canonicalId)
  (hprevious : ∀ canonicalId : String,
    previous[canonicalId]? = archiveRecord previousArchive enabled canonicalId)

include hcurrent

/-- A message that changed its conversation stays in the one it left. -/
theorem replayConversation_moved {canonicalId : String} {first second : RecordFingerprint}
    (hfirst : archiveRecord previousArchive enabled canonicalId = some first)
    (hsecond : archiveRecord currentArchive enabled canonicalId = some second)
    (hmoved : first.conversationId ≠ second.conversationId)
    {written : List ReconciledMessageEvent}
    (hwritten : written ⊆ reconciledEvents previousFingerprint currentFingerprint previous
      current) :
    replayConversation written first.conversationId
        (conversationRecords previousArchive enabled first.conversationId) canonicalId =
      some first.sha256 ∧
    conversationRecords currentArchive enabled first.conversationId canonicalId = none := by
  have habsent : ∀ found ∈ written.filter (·.conversationId = first.conversationId),
      found.canonicalId ≠ canonicalId := by
    rintro found hfound rfl
    rw [List.mem_filter, decide_eq_true_eq] at hfound
    have hevent := mem_reconciledEvents.mp (hwritten hfound.1)
    rcases eventUnder_some hevent with ⟨record, hrecord, hconversation, -⟩ | ⟨hnone, -⟩
    · rw [hcurrent, hsecond] at hrecord
      obtain rfl := Option.some.inj hrecord
      exact hmoved (hfound.2.symm.trans hconversation)
    · rw [hcurrent, hsecond] at hnone
      cases hnone
  refine ⟨?_, ?_⟩
  · rw [replayConversation, replay_of_absent habsent, conversationRecords_some hfirst, if_pos rfl]
  · rw [conversationRecords_some hsecond, if_neg (Ne.symm hmoved)]

include hprevious

/-- Replaying conversation by conversation is right exactly where no message that is
enabled on both sides changed its conversation. -/
theorem replayConversation_eq_iff :
    (∀ conversationId, replayConversation
        (reconciledEvents previousFingerprint currentFingerprint previous current) conversationId
        (conversationRecords previousArchive enabled conversationId) =
          conversationRecords currentArchive enabled conversationId) ↔
      ∀ canonicalId first second, archiveRecord previousArchive enabled canonicalId = some first →
        archiveRecord currentArchive enabled canonicalId = some second →
          first.conversationId = second.conversationId := by
  constructor
  · intro h canonicalId first second hfirst hsecond
    by_contra hmoved
    obtain ⟨hstays, hnone⟩ := replayConversation_moved hcurrent hfirst hsecond hmoved
      (List.Subset.refl (reconciledEvents previousFingerprint currentFingerprint previous current))
    rw [h, hnone] at hstays
    cases hstays
  · intro h conversationId
    have hnodup := (@nodup_reconciledEvents previousFingerprint currentFingerprint previous
      current).sublist ((List.filter_sublist (p := (·.conversationId = conversationId))).map _)
    rw [replayConversation, replay_eq_iff hnodup]
    refine ⟨?_, ?_⟩
    · intro found hfound
      rw [List.mem_filter, decide_eq_true_eq] at hfound
      rcases eventUnder_some (mem_reconciledEvents.mp hfound.1) with
        ⟨record, hrecord, hconversation, hdigest⟩ | ⟨hnone, -, -, -, hdigest⟩
      · rw [hcurrent] at hrecord
        rw [conversationRecords_some hrecord, hdigest, ← hconversation, if_pos hfound.2]
      · rw [hcurrent] at hnone
        rw [conversationRecords_none hnone, hdigest]
    · intro canonicalId habsent
      cases hfound : eventUnder previousFingerprint currentFingerprint previous current
          canonicalId with
      | some found =>
        have hother : found.conversationId ≠ conversationId := by
          intro hsame
          exact habsent found (List.mem_filter.mpr ⟨mem_of_eventUnder hfound, by simpa using hsame⟩)
            (canonicalId_eventUnder hfound)
        rcases eventUnder_some hfound with
          ⟨record, hrecord, hconversation, -⟩ | ⟨hnone, record, hrecord, hconversation, -⟩
        · rw [hcurrent] at hrecord
          rw [hconversation] at hother
          rw [conversationRecords_some hrecord, if_neg hother]
          cases hfirst : archiveRecord previousArchive enabled canonicalId with
          | none => rw [conversationRecords_none hfirst]
          | some first =>
            have hsame := h canonicalId first record hfirst hrecord
            rw [conversationRecords_some hfirst, if_neg (hsame ▸ hother)]
        · rw [hcurrent] at hnone
          rw [hprevious] at hrecord
          rw [hconversation] at hother
          rw [conversationRecords_none hnone, conversationRecords_some hrecord, if_neg hother]
      | none =>
        rcases eventUnder_none hfound with ⟨hfirst, hsecond⟩ | ⟨first, second, hfirst, hsecond, hsame⟩
        · rw [hprevious] at hfirst
          rw [hcurrent] at hsecond
          rw [conversationRecords_none hfirst, conversationRecords_none hsecond]
        · rw [hprevious] at hfirst
          rw [hcurrent] at hsecond
          have hconversation := h canonicalId first second hfirst hsecond
          rw [conversationRecords_some hfirst, conversationRecords_some hsecond, hconversation,
            hsame]

/-- Replaying by identity is right where equal digests mean equal records. -/
theorem replayMessages_eq
    (hdigests : ∀ canonicalId first second,
      archiveRecord previousArchive enabled canonicalId = some first →
        archiveRecord currentArchive enabled canonicalId = some second →
          first.sha256 = second.sha256 → first.conversationId = second.conversationId) :
    replayMessages (reconciledEvents previousFingerprint currentFingerprint previous current)
      (messageRecords previousArchive enabled) = messageRecords currentArchive enabled := by
  rw [replayMessages, replay_eq_iff nodup_reconciledEvents]
  refine ⟨?_, ?_⟩
  · intro found hfound
    rcases eventUnder_some (mem_reconciledEvents.mp hfound) with
      ⟨record, hrecord, hconversation, hdigest⟩ | ⟨hnone, -, -, -, hdigest⟩
    · rw [hcurrent] at hrecord
      simp [messageRecords, hrecord, hdigest, hconversation]
    · rw [hcurrent] at hnone
      simp [messageRecords, hnone, hdigest]
  · intro canonicalId habsent
    cases hfound : eventUnder previousFingerprint currentFingerprint previous current
        canonicalId with
    | some found =>
      exact absurd (canonicalId_eventUnder hfound) (habsent found (mem_of_eventUnder hfound))
    | none =>
      rcases eventUnder_none hfound with ⟨hfirst, hsecond⟩ | ⟨first, second, hfirst, hsecond, hsame⟩
      · rw [hprevious] at hfirst
        rw [hcurrent] at hsecond
        simp [messageRecords, hfirst, hsecond]
      · rw [hprevious] at hfirst
        rw [hcurrent] at hsecond
        have hconversation := hdigests canonicalId first second hfirst hsecond hsame
        simp [messageRecords, hfirst, hsecond, hconversation, hsame]

end Archives

/-! Reconciling two archives -/

/-- What a reconciliation computes from the records it loaded. -/
theorem reconcileArchives_ok {policy : ConversationReadPolicy} {outcome : Reconciliation}
    (h : reconcileArchives previousArchive currentArchive policy = .ok outcome) :
    ∃ previous current : ExtTreeMap String RecordFingerprint,
      (∀ canonicalId : String, previous[canonicalId]? =
        archiveRecord previousArchive policy.enabledConversationIds canonicalId) ∧
      (∀ canonicalId : String, current[canonicalId]? =
        archiveRecord currentArchive policy.enabledConversationIds canonicalId) ∧
      outcome.events = reconciledEvents previousArchive.sourceFingerprint
        currentArchive.sourceFingerprint previous current ∧
      outcome.written = (writeEvents [] outcome.events).1 ∧
      outcome.report.duplicateEventCount = (writeEvents [] outcome.events).2 ∧
      outcome.report.previousMessageCount = previous.size ∧
      outcome.report.currentMessageCount = current.size ∧
      outcome.report.addedCount = outcome.events.countP (·.kind = .added) ∧
      outcome.report.removedCount = outcome.events.countP (·.kind = .removed) := by
  obtain ⟨loaded, hpolicy, hchecked⟩ := bind_ok.mp h
  have hloaded : policy = loaded := by
    unfold loadPolicy at hpolicy
    split_ifs at hpolicy
    exact Except.ok.inj hpolicy
  subst hloaded
  split_ifs at hchecked with haccounts
  obtain ⟨previous, hprevious, hrest⟩ := bind_ok.mp hchecked
  obtain ⟨current, hcurrent, hdone⟩ := bind_ok.mp hrest
  obtain rfl := Except.ok.inj hdone
  exact ⟨previous, current, loadMessageFingerprints_getElem? hprevious,
    loadMessageFingerprints_getElem? hcurrent, rfl, rfl, rfl, rfl, rfl, rfl, rfl⟩

/-- Archives of the account of the policy are reconciled once both have been loaded. -/
theorem reconcileArchives_isOk {policy : ConversationReadPolicy}
    {previous current : ExtTreeMap String RecordFingerprint} (hversion : policy.formatVersion = 2)
    (hfirst : previousArchive.accountId = policy.accountId)
    (hsecond : currentArchive.accountId = policy.accountId)
    (hprevious : loadMessageFingerprints previousArchive.messages policy.enabledConversationIds =
      .ok previous)
    (hcurrent : loadMessageFingerprints currentArchive.messages policy.enabledConversationIds =
      .ok current) :
    ∃ outcome, reconcileArchives previousArchive currentArchive policy = .ok outcome := by
  simp [reconcileArchives, loadPolicy, hversion, hfirst, hsecond, hprevious, hcurrent, bind,
    Except.bind, pure, Except.pure]

section Sample

/-- One message in a conversation. -/
def messageIn (conversationId : String) : Json :=
  .obj [("canonicalId", .str "message"), ("conversationId", .str conversationId),
    ("conversationOrdinal", .int 0)]

def archiveOf (fingerprint : String) (messages : List Json) : ReconciledArchive where
  accountId := "account"
  sourceFingerprint := fingerprint
  messages := messages.map .ok

/-- Both conversations are enabled. -/
def bothEnabled : ConversationReadPolicy where
  formatVersion := 2
  accountId := "account"
  enabledConversationIds := ExtTreeSet.ofList ["first", "second"]

theorem loads_messageIn {conversationId : String}
    (h : bothEnabled.enabledConversationIds.contains conversationId = true) :
    loadMessageFingerprints [.ok (messageIn conversationId)] bothEnabled.enabledConversationIds =
      .ok ((∅ : ExtTreeMap String RecordFingerprint).insert "message"
        ⟨conversationId, 0, recordSha256 (messageIn conversationId)⟩) := by
  have hcanonical : requiredString (messageIn conversationId) "canonicalId" = .ok "message" := rfl
  have hconversation : requiredString (messageIn conversationId) "conversationId" =
      .ok conversationId := rfl
  have hordinal : requiredOrdinal (messageIn conversationId) = .ok 0 := rfl
  have hfresh : "message" ∉ (∅ : ExtTreeMap String RecordFingerprint) := ExtTreeMap.not_mem_empty
  simp [loadMessageFingerprints, loadFingerprint, hcanonical, hconversation, hordinal, h, hfresh,
    bind, Except.bind, pure, Except.pure]

theorem archiveRecord_messageIn {conversationId : String} (fingerprint : String)
    (h : bothEnabled.enabledConversationIds.contains conversationId = true) :
    archiveRecord (archiveOf fingerprint [messageIn conversationId])
      bothEnabled.enabledConversationIds "message" =
        some ⟨conversationId, 0, recordSha256 (messageIn conversationId)⟩ := by
  have hcanonical : requiredString (messageIn conversationId) "canonicalId" = .ok "message" := rfl
  have hconversation : requiredString (messageIn conversationId) "conversationId" =
      .ok conversationId := rfl
  have hordinal : requiredOrdinal (messageIn conversationId) = .ok 0 := rfl
  simp [archiveRecord, archiveOf, recordUnder, hcanonical, hconversation, hordinal, h]

end Sample

end GreenBubbles.Archive
