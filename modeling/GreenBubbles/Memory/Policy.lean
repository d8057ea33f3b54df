import GreenBubbles.Archive.Records
import GreenBubbles.LiveQuery.CorpusScan
import GreenBubbles.LiveQuery.Acceptance

/-! # The selection policy

What a policy asks of a preparation, the bounds it must keep, and the calendar
by which messages fall into months.
-/
namespace GreenBubbles.Memory

open Archive (ConversationKind)
open LiveQuery (ContactKind)

inductive PersonalMemoryCorpusMode where
  /-- Episodes in which the account holder takes part, with bounded context. -/
  | accountHolderActiveEpisodes
  | allMessages
  deriving DecidableEq

inductive MemoryDeliveryOrder where
  | chronological
  | accountHolderRelevance
  deriving DecidableEq

structure PersonalMemorySelectionPolicy where
  schema : String
  formatVersion : ℕ
  corpusMode : PersonalMemoryCorpusMode := .accountHolderActiveEpisodes
  timezone : String := "Asia/Singapore"
  referenceUnix : Option ℤ := none
  notBeforeUnix : Option ℤ := none
  notAfterUnix : Option ℤ := none
  minimumSelfMessagesPerActiveMonth : ℕ := 1
  recentLookbackMonths : ℕ := 12
  minimumSelfActiveMonthsInLookback : ℕ := 0
  directSessionGapMinutes : ℤ := 12 * 60
  groupSessionGapMinutes : ℤ := 60
  directContextBefore : ℕ := 24
  directContextAfter : ℕ := 24
  groupContextBefore : ℕ := 12
  groupContextAfter : ℕ := 16
  maximumMessageTextBytes : ℕ := 4 * 1024
  maximumUnitMessages : ℕ := 160
  maximumUnitTextBytes : ℕ := 48 * 1024
  deliveryOrder : MemoryDeliveryOrder := .accountHolderRelevance
  includeDirectConversations : Bool := true
  includeGroupConversations : Bool := true
  includeOfficialAccounts : Bool := false
  includeServiceAccounts : Bool := false

def legacyPersonalMemoryPolicySchema : String := "greenbubbles.personal-memory-selection-policy.v1"
def personalMemoryPolicySchema : String := "greenbubbles.personal-memory-selection-policy.v2"
def personalMemoryFormatVersion : ℕ := 1
def personalMemoryPolicyFormatVersion : ℕ := 2

/-- Time zones by name, and the year and month of a second in a zone. -/
structure Calendar where
  Zone : Type
  zone : String → Option Zone
  /-- The month is counted from one. -/
  date : Zone → ℤ → Option (ℤ × ℕ)

/-- A number padded with zeros behind its sign. -/
def zeroPadded (width : ℕ) (value : ℤ) : String :=
  let sign := if value < 0 then "-" else ""
  let digits := toString value.natAbs
  sign ++ String.ofList (List.replicate (width - sign.length - digits.length) '0') ++ digits

structure MonthKey where
  ordinal : ℤ
  label : String
  deriving DecidableEq

def MonthKey.order (month : MonthKey) : ℤ × String := (month.ordinal, month.label)

def monthKey (calendar : Calendar) (zone : calendar.Zone) (timestamp : ℤ) : Option MonthKey :=
  (calendar.date zone timestamp).map fun (year, month) =>
    { ordinal := year * 12 + (month - 1)
      label := zeroPadded 4 year ++ "-" ++ zeroPadded 2 month }

namespace PersonalMemorySelectionPolicy

variable (policy : PersonalMemorySelectionPolicy)

/-- The version of the schema and the mode have to fit each other. -/
def mode : Except RestoreError PersonalMemoryCorpusMode :=
  if policy.schema = legacyPersonalMemoryPolicySchema ∧
      policy.formatVersion = personalMemoryFormatVersion then
    if policy.corpusMode ≠ .accountHolderActiveEpisodes then
      .error (.integrity "legacy personal-memory policies cannot request a v2 corpus mode")
    else .ok .accountHolderActiveEpisodes
  else if policy.schema = personalMemoryPolicySchema ∧
      policy.formatVersion = personalMemoryPolicyFormatVersion then
    if policy.corpusMode ≠ .allMessages then
      .error (.integrity "v2 personal-memory policies must use corpusMode=allMessages")
    else .ok .allMessages
  else .error (.integrity
    "personal-memory selection policy schema or format version is unsupported")

def minutesBound : ℤ := 30 * 24 * 60

def contextBounds : List (String × ℕ) :=
  [("directContextBefore", policy.directContextBefore),
    ("directContextAfter", policy.directContextAfter),
    ("groupContextBefore", policy.groupContextBefore),
    ("groupContextAfter", policy.groupContextAfter)]

/-- Units have room for a message at least. -/
def unitBoundsValid : Bool :=
  1 ≤ policy.maximumUnitMessages && policy.maximumUnitMessages ≤ 1000 &&
    16 * 1024 ≤ policy.maximumUnitTextBytes && policy.maximumUnitTextBytes ≤ 512 * 1024 &&
    policy.maximumMessageTextBytes ≤ policy.maximumUnitTextBytes

/-- A corpus of all messages is filtered when it is read, not before. -/
def preFilters : Bool :=
  policy.notBeforeUnix.isSome || policy.notAfterUnix.isSome ||
    !policy.includeDirectConversations || !policy.includeGroupConversations ||
    !policy.includeOfficialAccounts || !policy.includeServiceAccounts

def parseTimezone (calendar : Calendar) : Except RestoreError calendar.Zone :=
  match calendar.zone policy.timezone with
  | some zone => .ok zone
  | none => .error (.integrity "selection policy timezone must be a valid IANA timezone name")

def validate (calendar : Calendar) :
    Except RestoreError (calendar.Zone × PersonalMemoryCorpusMode) := do
  let corpusMode ← policy.mode
  let zone ← policy.parseTimezone calendar
  require (!policy.notBeforeUnix.any fun start => policy.notAfterUnix.any fun stop => stop < start)
    "selection policy time range is inverted"
  require (1 ≤ policy.minimumSelfMessagesPerActiveMonth &&
      policy.minimumSelfMessagesPerActiveMonth ≤ 10000)
    "minimumSelfMessagesPerActiveMonth must be between 1 and 10000"
  require (!(1200 < policy.recentLookbackMonths ||
      policy.recentLookbackMonths < policy.minimumSelfActiveMonthsInLookback))
    "recent lookback settings are inconsistent or exceed 1200 months"
  require (1 ≤ policy.directSessionGapMinutes && policy.directSessionGapMinutes ≤ minutesBound &&
      1 ≤ policy.groupSessionGapMinutes && policy.groupSessionGapMinutes ≤ minutesBound)
    "session gaps must be between 1 minute and 30 days"
  policy.contextBounds.forM fun (label, value) =>
    require (value ≤ 10000) (label ++ " must not exceed 10000 messages")
  require (1 ≤ policy.maximumMessageTextBytes && policy.maximumMessageTextBytes ≤ 16 * 1024)
    "maximumMessageTextBytes must be between 1 and 16384"
  require policy.unitBoundsValid
    "unit bounds require 1..1000 messages and 16384..524288 text bytes, with the unit bound at least the message bound"
  require (!(corpusMode = .allMessages && policy.preFilters))
    "v2 canonical corpus preparation may not pre-filter time or conversation kinds; apply evidence filters through a run scope"
  return (zone, corpusMode)

/-- The bounds of a policy that was accepted. -/
structure Accepted (policy : PersonalMemorySelectionPolicy)
    (corpusMode : PersonalMemoryCorpusMode) : Prop where
  gaps : (1 ≤ policy.directSessionGapMinutes ∧ policy.directSessionGapMinutes ≤ minutesBound) ∧
    1 ≤ policy.groupSessionGapMinutes ∧ policy.groupSessionGapMinutes ≤ minutesBound
  unitMessages : 1 ≤ policy.maximumUnitMessages
  unfiltered : corpusMode = .allMessages → policy.notBeforeUnix = none ∧ policy.notAfterUnix = none

theorem accepted_of_validate {calendar : Calendar} {zone : calendar.Zone}
    {corpusMode : PersonalMemoryCorpusMode} (h : policy.validate calendar = .ok (zone, corpusMode)) :
    policy.Accepted corpusMode := by
  obtain ⟨mode, -, h⟩ := bind_ok.mp h
  obtain ⟨found, -, h⟩ := bind_ok.mp h
  simp only [check_bind_ok, require_ok] at h
  obtain ⟨-, -, -, hgaps, -, -, hunit, hfilters, h⟩ := h
  obtain ⟨-, rfl⟩ := Prod.mk.inj (Except.ok.inj h)
  simp only [Bool.and_eq_true, decide_eq_true_eq] at hgaps
  simp only [unitBoundsValid, Bool.and_eq_true, decide_eq_true_eq] at hunit
  refine ⟨⟨⟨hgaps.1.1.1, hgaps.1.1.2⟩, hgaps.1.2, hgaps.2⟩, hunit.1.1.1.1, fun hall => ?_⟩
  simp only [hall, decide_true, Bool.true_and, Bool.not_eq_true', preFilters,
    Bool.or_eq_false_iff, Option.isSome_eq_false_iff, Option.isNone_iff_eq_none] at hfilters
  exact ⟨hfilters.1.1.1.1.1, hfilters.1.1.1.1.2⟩

end PersonalMemorySelectionPolicy

/-- A conversation as the reader of a corpus names it. -/
structure CorpusConversation where
  sourceId : String
  displayName : String
  kind : ConversationKind
  contactKind : ContactKind
  deriving DecidableEq

def conversationEnabled (conversation : CorpusConversation) (policy : PersonalMemorySelectionPolicy)
    (corpusMode : PersonalMemoryCorpusMode) : Bool :=
  if corpusMode = .allMessages then true
  else
    match conversation.contactKind with
    | .group => policy.includeGroupConversations
    | .official => policy.includeOfficialAccounts
    | .service | .accountHolder => policy.includeServiceAccounts
    | .person | .unknown => policy.includeDirectConversations

/-- The gap between sessions in seconds, and the messages before and after an own one. -/
structure SessionBounds where
  gapSeconds : ℤ
  contextBefore : ℕ
  contextAfter : ℕ

def sessionBounds (policy : PersonalMemorySelectionPolicy) (kind : ConversationKind) :
    SessionBounds :=
  if kind = .group then
    ⟨policy.groupSessionGapMinutes * 60, policy.groupContextBefore, policy.groupContextAfter⟩
  else
    ⟨policy.directSessionGapMinutes * 60, policy.directContextBefore, policy.directContextAfter⟩

end GreenBubbles.Memory
