import GreenBubbles.Memory.Sessions
import Mathlib.Data.Finset.Card
import Std.Data.ExtTreeMap

/-! # Metadata selection

One pass over the conversations decides which messages a corpus is made of. It
counts what it leaves out, reason by reason, and drafts the episodes.
-/
namespace GreenBubbles.Memory

open Std Library Library.Grouping Library.Ordered
open Archive (ConversationKind)
open LiveQuery (CorpusMessageLocation CorpusMessageMetadata CorpusMetadataScan QueryWarning)

/-- What becomes of a scanned message. -/
inductive Outcome where
  | selected
  | outsideTimeRange
  | outsideCalendar
  | inactiveMonth
  | silentSession
  | contextBound
  | filteredConversation
  deriving DecidableEq

structure PersonalMemoryCoverage where
  scannedMessageCount : ℕ := 0
  eligibleMessageCount : ℕ := 0
  selectedMessageCount : ℕ := 0
  selfMessageCount : ℕ := 0
  otherMessageCount : ℕ := 0
  unknownActorMessageCount : ℕ := 0
  omittedOutsideTimeRange : ℕ := 0
  omittedInactiveMonth : ℕ := 0
  omittedSilentSession : ℕ := 0
  omittedContextBound : ℕ := 0
  omittedFilteredConversation : ℕ := 0
  metadataDecodeFailureCount : ℕ := 0
  contentDecodeFailureCount : ℕ := 0
  activityMonthCount : ℕ := 0
  activeMonthCount : ℕ := 0
  episodeCount : ℕ := 0
  unitCount : ℕ := 0
  sourceCoverageComplete : Bool := false
  rowCoverageComplete : Bool := false
  contentComplete : Bool := false
  limitationCodes : List String := []

namespace PersonalMemoryCoverage

variable (coverage : PersonalMemoryCoverage)

/-- The counter of an outcome. A message outside the calendar has none of its own. -/
def counter : Outcome → ℕ
  | .selected => coverage.selectedMessageCount
  | .outsideTimeRange => coverage.omittedOutsideTimeRange
  | .outsideCalendar => coverage.metadataDecodeFailureCount
  | .inactiveMonth => coverage.omittedInactiveMonth
  | .silentSession => coverage.omittedSilentSession
  | .contextBound => coverage.omittedContextBound
  | .filteredConversation => coverage.omittedFilteredConversation

def count (outcome : Outcome) (n : ℕ) : PersonalMemoryCoverage :=
  let total := saturatingAdd 64 (coverage.counter outcome) n
  match outcome with
  | .selected => { coverage with selectedMessageCount := total }
  | .outsideTimeRange => { coverage with omittedOutsideTimeRange := total }
  | .outsideCalendar => { coverage with metadataDecodeFailureCount := total }
  | .inactiveMonth => { coverage with omittedInactiveMonth := total }
  | .silentSession => { coverage with omittedSilentSession := total }
  | .contextBound => { coverage with omittedContextBound := total }
  | .filteredConversation => { coverage with omittedFilteredConversation := total }

/-- A row that failed, or one whose metadata does not fit together. -/
def fail (n : ℕ) : PersonalMemoryCoverage := coverage.count .outsideCalendar n

/-- A message inside the calendar, by its actor. -/
def admitMessage (isAccountHolder : Option Bool) : PersonalMemoryCoverage :=
  let coverage := { coverage with
    eligibleMessageCount := saturatingAdd 64 coverage.eligibleMessageCount 1 }
  match isAccountHolder with
  | some true => { coverage with selfMessageCount := saturatingAdd 64 coverage.selfMessageCount 1 }
  | some false =>
    { coverage with otherMessageCount := saturatingAdd 64 coverage.otherMessageCount 1 }
  | none => { coverage with
      unknownActorMessageCount := saturatingAdd 64 coverage.unknownActorMessageCount 1 }

def countMonth (active : Bool) : PersonalMemoryCoverage :=
  let coverage := { coverage with
    activityMonthCount := saturatingAdd 64 coverage.activityMonthCount 1 }
  if active then { coverage with activeMonthCount := saturatingAdd 64 coverage.activeMonthCount 1 }
  else coverage

end PersonalMemoryCoverage

structure ActivityRecord where
  conversation : String
  conversationId : String
  label : String
  kind : ConversationKind
  month : String
  messageCount : ℕ
  selfMessageCount : ℕ
  selectedMessageCount : ℕ
  active : Bool
  recentConversationEligible : Bool

structure EpisodeDraft where
  conversation : CorpusConversation
  month : String
  locations : List CorpusMessageLocation

/-- What the pass over the conversations has gathered. -/
structure Selection where
  coverage : PersonalMemoryCoverage
  limitationCodes : Finset String
  activity : ExtTreeMap (String × String) ActivityRecord
  episodeDrafts : List EpisodeDraft

/-- What the pass looks at besides the conversations. -/
structure SelectionRules where
  policy : PersonalMemorySelectionPolicy
  corpusMode : PersonalMemoryCorpusMode
  month : ℤ → Option MonthKey
  recentStartOrdinal : Option ℤ
  referenceOrdinal : ℤ

def chronologicalMetadataKey (message : CorpusMessageMetadata) : ℤ × ℤ × ℤ × ℕ × ℤ :=
  (message.location.createTime, message.location.sortSequence, message.location.serverId,
    message.location.shardId, message.location.rowId)

namespace SelectionRules

variable (rules : SelectionRules)

def outsideTimeRange (timestamp : ℤ) : Bool :=
  (rules.policy.notBeforeUnix.any fun notBefore => timestamp < notBefore) ||
    rules.policy.notAfterUnix.any fun notAfter => notAfter < timestamp

section Messages

variable (messages : List CorpusMessageMetadata)

abbrev Index := Fin messages.length

structure Placement where
  coverage : PersonalMemoryCoverage
  limitationCodes : Finset String
  placed : List (MonthKey × Index messages)

variable {messages} in
def Placement.fail (placement : Placement messages) (code : String) : Placement messages where
  coverage := { placement.coverage.fail 1 with sourceCoverageComplete := false }
  limitationCodes := insert code placement.limitationCodes
  placed := placement.placed

/-- The actor is known without its name, or unknown with it. -/
def inconsistent (message : CorpusMessageMetadata) : Bool :=
  message.sender.isSome != message.isAccountHolder.isSome

variable {messages} in
def Placement.checkActor (placement : Placement messages) (message : CorpusMessageMetadata) :
    Placement messages :=
  if inconsistent message then placement.fail "accountHolderMetadataInconsistent" else placement

def placeMessage (placement : Placement messages) (index : Index messages) : Placement messages :=
  let message := messages.get index
  let timestamp := message.location.createTime
  let placement := placement.checkActor message
  if rules.outsideTimeRange timestamp then
    { placement with coverage := placement.coverage.count .outsideTimeRange 1 }
  else
    match rules.month timestamp with
    | none => placement.fail "timestampOutOfCalendarRange"
    | some month =>
      { placement with
        coverage := placement.coverage.admitMessage message.isAccountHolder
        placed := placement.placed ++ [(month, index)] }

/-- The messages of each month in the order of time. -/
def monthIndices (placed : List (MonthKey × Index messages)) :
    List (MonthKey × List (Index messages)) :=
  (grouped Prod.fst MonthKey.order placed).map fun (month, entries) =>
    (month, entries.map Prod.snd)

def own (index : Index messages) : Bool := (messages.get index).isAccountHolder == some true

def selfCount (indices : List (Index messages)) : ℕ := indices.countP (own messages)

def activeMonth (indices : List (Index messages)) : Bool :=
  rules.corpusMode == .allMessages ||
    rules.policy.minimumSelfMessagesPerActiveMonth ≤ selfCount messages indices

/-- The active months of the lookback. -/
def recentActiveCount (months : List (MonthKey × List (Index messages))) : ℕ :=
  months.countP fun (month, indices) => rules.activeMonth messages indices &&
    rules.recentStartOrdinal.any fun start =>
      start ≤ month.ordinal && month.ordinal ≤ rules.referenceOrdinal

def recentConversationEligible (months : List (MonthKey × List (Index messages))) : Bool :=
  rules.corpusMode == .allMessages || rules.policy.minimumSelfActiveMonthsInLookback == 0 ||
    rules.policy.minimumSelfActiveMonthsInLookback ≤ rules.recentActiveCount messages months

/-- The positions of the account holder's messages in a session. -/
def anchors (session : List (Index messages)) : List ℕ :=
  (session.zipIdx.filter fun entry => own messages entry.1).map Prod.snd

structure MonthSelection where
  coverage : PersonalMemoryCoverage
  selectedInMonth : Finset (Index messages)
  episodeDrafts : List EpisodeDraft

def draft (conversation : CorpusConversation) (month : MonthKey) (indices : List (Index messages)) :
    EpisodeDraft where
  conversation := conversation
  month := month.label
  locations := indices.map fun index => (messages.get index).location

def selectSession (conversation : CorpusConversation) (month : MonthKey)
    (selection : MonthSelection messages) (session : List (Index messages)) :
    MonthSelection messages :=
  if rules.corpusMode = .allMessages then
    { selection with
      selectedInMonth := selection.selectedInMonth ∪ session.toFinset
      episodeDrafts := selection.episodeDrafts ++
        if session.isEmpty then [] else [draft messages conversation month session] }
  else if (anchors messages session).isEmpty then
    { selection with coverage := selection.coverage.count .silentSession session.length }
  else
    let bounds := sessionBounds rules.policy conversation.kind
    let windows := mergedContextWindows (anchors messages session) session.length
      bounds.contextBefore bounds.contextAfter
    let parts := windows.map (part session)
    let selected := selection.selectedInMonth ∪ parts.flatten.toFinset
    let selectedInSession := (session.filter (· ∈ selected)).length
    { coverage := selection.coverage.count .contextBound (session.length - selectedInSession)
      selectedInMonth := selected
      episodeDrafts := selection.episodeDrafts ++ parts.map (draft messages conversation month) }

def selectMonth (conversation : CorpusConversation) (eligible : Bool) (selection : Selection)
    (entry : MonthKey × List (Index messages)) : Selection :=
  let (month, indices) := entry
  let active := rules.activeMonth messages indices && eligible
  let coverage := selection.coverage.countMonth active
  let record : ActivityRecord :=
    { conversation := "", conversationId := conversation.sourceId
      label := conversation.displayName, kind := conversation.kind, month := month.label
      messageCount := indices.length, selfMessageCount := selfCount messages indices
      selectedMessageCount := 0, active, recentConversationEligible := eligible }
  let key := (conversation.sourceId, month.label)
  if active then
    let bounds := sessionBounds rules.policy conversation.kind
    let sessions := splitSessions messages indices bounds.gapSeconds
    let chosen := sessions.foldl (rules.selectSession messages conversation month)
      ⟨coverage, ∅, selection.episodeDrafts⟩
    { selection with
      coverage := chosen.coverage.count .selected chosen.selectedInMonth.card
      activity := selection.activity.insert key
        { record with selectedMessageCount := chosen.selectedInMonth.card }
      episodeDrafts := chosen.episodeDrafts }
  else
    { selection with
      coverage := coverage.count .inactiveMonth indices.length
      activity := selection.activity.insert key record }

def selectMessages (conversation : CorpusConversation) (selection : Selection) : Selection :=
  let placement := (List.finRange messages.length).foldl (rules.placeMessage messages)
    ⟨selection.coverage, selection.limitationCodes, []⟩
  let months := monthIndices messages placement.placed
  months.foldl (rules.selectMonth messages conversation
      (rules.recentConversationEligible messages months))
    { selection with
      coverage := placement.coverage
      limitationCodes := placement.limitationCodes }

end Messages

def noteWarning (selection : Selection) (warning : QueryWarning) : Selection :=
  { selection with
    coverage := if warning.code == "corpusMetadataRowFailed" then
        selection.coverage.fail (warning.count.getD 1)
      else selection.coverage
    limitationCodes := insert warning.code selection.limitationCodes }

def selectConversation (selection : Selection)
    (scanned : CorpusConversation × CorpusMetadataScan) : Selection :=
  let (conversation, scan) := scanned
  let coverage := { selection.coverage with
    scannedMessageCount := saturatingAdd 64 selection.coverage.scannedMessageCount
      scan.messages.length
    sourceCoverageComplete := selection.coverage.sourceCoverageComplete && scan.coverageComplete }
  let selection := scan.warnings.foldl noteWarning { selection with coverage }
  if conversationEnabled conversation rules.policy rules.corpusMode then
    rules.selectMessages (sortBy chronologicalMetadataKey scan.messages) conversation selection
  else
    { selection with
      coverage := selection.coverage.count .filteredConversation scan.messages.length }

end SelectionRules

end GreenBubbles.Memory
