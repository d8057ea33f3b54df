import GreenBubbles.Memory.Coverage
import GreenBubbles.Memory.Schedule
import Mathlib.Data.List.DropRight

/-! # Preparing the units

The selected messages are hydrated, packed into units that keep the bounds of
the policy, and put into the order of delivery.
-/
namespace GreenBubbles.Memory

open Std Library Library.Grouping Library.Ordered
open LiveQuery (CorpusMessageLocation CorpusMessageMetadata CorpusMetadataScan QueryWarning)
open Send (isWhiteSpace)

structure CorpusHydration where
  messages : List CorpusHydratedMessage
  warnings : List QueryWarning
  coverageComplete : Bool

/-- The reader of a live source: what it lists, and how it scans and hydrates. -/
structure LiveCorpusReader where
  conversations : List CorpusConversation
  warnings : List QueryWarning
  coverageComplete : Bool
  scanMetadata : CorpusConversation → Except RestoreError CorpusMetadataScan
  hydrate : CorpusConversation → List CorpusMessageLocation → ℕ →
    Except RestoreError CorpusHydration

structure HydratedEpisode where
  conversation : CorpusConversation
  month : String
  messages : List CorpusHydratedMessage

/-- The coverage and the codes of what limits it. -/
structure Findings where
  coverage : PersonalMemoryCoverage
  limitationCodes : Finset String

def compactMessageText (message : CorpusHydratedMessage) : String :=
  message.text.getD
    (if message.contentDecodeFailed then "[content unavailable]"
      else "[" ++ message.payloadKind ++ "]")

def textBytes (message : CorpusHydratedMessage) : ℕ := (compactMessageText message).utf8ByteSize

def trim (text : String) : String :=
  String.ofList ((text.toList.dropWhile isWhiteSpace).rdropWhile isWhiteSpace)

def modelSafeConversationLabel (conversation : CorpusConversation) (shortName : String) : String :=
  if trim conversation.displayName ≠ "" then trim conversation.displayName
  else if trim conversation.sourceId ≠ "" then trim conversation.sourceId
  else shortName

/-- Conversations are numbered in the order of the inventory. -/
def conversationAlias (conversations : List CorpusConversation) (sourceId : String) :
    Option String :=
  (conversations.zipIdx.reverse.find? fun entry => entry.1.sourceId == sourceId).map fun entry =>
    "C" ++ zeroPadded 6 (entry.2 + 1)

/-! Hydration -/

/-- Under one location the last message counts. -/
def byLocation (messages : List CorpusHydratedMessage) (location : CorpusMessageLocation) :
    Option CorpusHydratedMessage :=
  messages.reverse.find? fun message => message.location = location

def hydrateEpisode (messages : List CorpusHydratedMessage) (episode : EpisodeDraft) :
    HydratedEpisode where
  conversation := episode.conversation
  month := episode.month
  messages := episode.locations.filterMap (byLocation messages)

def noteHydration (findings : Findings) (hydration : CorpusHydration) : Findings :=
  let failed := hydration.messages.countP fun message => message.contentDecodeFailed
  { coverage := { findings.coverage with
      contentComplete := findings.coverage.contentComplete && hydration.coverageComplete &&
        failed == 0
      contentDecodeFailureCount :=
        saturatingAdd 64 findings.coverage.contentDecodeFailureCount failed }
    limitationCodes := findings.limitationCodes ∪ (hydration.warnings.map (·.code)).toFinset }

def noteEpisode (findings : Findings) (draft : EpisodeDraft) (episode : HydratedEpisode) :
    Findings :=
  if episode.messages.length ≠ draft.locations.length then
    { coverage := { findings.coverage with contentComplete := false }
      limitationCodes := insert "selectedMessageHydrationIncomplete" findings.limitationCodes }
  else findings

section Hydrating

variable (reader : LiveCorpusReader) (policy : PersonalMemorySelectionPolicy)

/-- The conversation of a group of episodes. -/
def groupConversation (episodes : List EpisodeDraft) : Except RestoreError CorpusConversation :=
  match episodes.head? with
  | some episode => .ok episode.conversation
  | none => .error (.integrity "empty episode group was produced")

/-- The episodes of one conversation are hydrated together, the empty ones left out. -/
def hydrateGroup (state : Findings × List HydratedEpisode) (episodes : List EpisodeDraft) :
    Except RestoreError (Findings × List HydratedEpisode) := do
  let conversation ← groupConversation episodes
  let selected := sortBy CorpusMessageLocation.key
    (episodes.flatMap EpisodeDraft.locations).dedup
  let hydration ← reader.hydrate conversation selected policy.maximumMessageTextBytes
  let findings := episodes.foldl
    (fun findings draft => noteEpisode findings draft (hydrateEpisode hydration.messages draft))
    (noteHydration state.1 hydration)
  return (findings, state.2 ++ (episodes.map (hydrateEpisode hydration.messages)).filter
    fun episode => !episode.messages.isEmpty)

def hydratedEpisodeKey (episode : HydratedEpisode) : ℤ × String × String :=
  (timeOf episode.messages.head?, episode.conversation.sourceId, episode.month)

end Hydrating

/-! Packing -/

/-- A unit is closed when the next message would overflow it. -/
def packFrom (policy : PersonalMemorySelectionPolicy) :
    List CorpusHydratedMessage → ℕ → List CorpusHydratedMessage → List (List CorpusHydratedMessage)
  | current, _, [] => if current.isEmpty then [] else [current]
  | current, currentTextBytes, message :: rest =>
    let wouldOverflow := !current.isEmpty && (policy.maximumUnitMessages ≤ current.length ||
      policy.maximumUnitTextBytes < currentTextBytes + textBytes message)
    if wouldOverflow then current :: packFrom policy [message] (textBytes message) rest
    else packFrom policy (current ++ [message]) (currentTextBytes + textBytes message) rest

def episodeAlias (conversations : List CorpusConversation) (sourceId : String) :
    Except RestoreError String :=
  match conversationAlias conversations sourceId with
  | some shortName => .ok shortName
  | none => .error (.integrity "episode conversation alias is unavailable")

def packEpisode (conversations : List CorpusConversation) (policy : PersonalMemorySelectionPolicy)
    (episode : HydratedEpisode) : Except RestoreError (List UnitDraft) := do
  let shortName ← episodeAlias conversations episode.conversation.sourceId
  return (packFrom policy [] 0 episode.messages).map fun messages =>
    { conversationAlias := shortName
      conversationSourceId := episode.conversation.sourceId
      conversationLabel := modelSafeConversationLabel episode.conversation shortName
      conversationKind := episode.conversation.kind
      month := episode.month
      messages }

def labelActivity (conversations : List CorpusConversation) (record : ActivityRecord) :
    Except RestoreError ActivityRecord :=
  match conversationAlias conversations record.conversationId with
  | some conversation => .ok { record with conversation }
  | none => .error (.integrity "activity conversation alias is unavailable")

/-! The preparation -/

/-- What a preparation has gathered when it begins to publish. -/
structure Prepared where
  findings : Findings
  activity : List ActivityRecord
  episodeDrafts : List EpisodeDraft
  units : List UnitDraft

/-- The first month of the lookback. -/
def recentStartOrdinal (policy : PersonalMemorySelectionPolicy) (reference : MonthKey) : Option ℤ :=
  if policy.recentLookbackMonths = 0 then none
  else some (reference.ordinal - (policy.recentLookbackMonths - 1))

def selectionStart (reader : LiveCorpusReader) : Selection where
  coverage :=
    { sourceCoverageComplete := reader.coverageComplete, contentComplete := true }
  limitationCodes := (reader.warnings.map (·.code)).toFinset
  activity := ∅
  episodeDrafts := []

def scanConversation (reader : LiveCorpusReader) (conversation : CorpusConversation) :
    Except RestoreError (CorpusConversation × CorpusMetadataScan) := do
  let scan ← reader.scanMetadata conversation
  return (conversation, scan)

def referenceMonth (month : ℤ → Option MonthKey) (referenceUnix : ℤ) :
    Except RestoreError MonthKey :=
  match month referenceUnix with
  | some reference => .ok reference
  | none => .error (.integrity "selection reference time is outside supported calendar bounds")

def selectionRules (policy : PersonalMemorySelectionPolicy)
    (corpusMode : PersonalMemoryCorpusMode) (month : ℤ → Option MonthKey) (reference : MonthKey) :
    SelectionRules where
  policy := policy
  corpusMode := corpusMode
  month := month
  recentStartOrdinal := recentStartOrdinal policy reference
  referenceOrdinal := reference.ordinal

/-- The pass over the scanned conversations and what is made of it. -/
def prepareSelected (reader : LiveCorpusReader) (rules : SelectionRules)
    (inventory : List (CorpusConversation × CorpusMetadataScan)) : Except RestoreError Prepared := do
  let selection := inventory.foldl rules.selectConversation (selectionStart reader)
  let groups := grouped (fun draft : EpisodeDraft => draft.conversation.sourceId) id
    selection.episodeDrafts
  let (findings, episodes) ← groups.foldlM
    (fun state group => hydrateGroup reader rules.policy state group.2)
    (⟨selection.coverage, selection.limitationCodes⟩, [])
  let episodes := sortBy hydratedEpisodeKey episodes
  let activity ← (records selection.activity).mapM (labelActivity reader.conversations)
  let units ← episodes.mapM (packEpisode reader.conversations rules.policy)
  return {
    findings :=
      { findings with coverage := { findings.coverage with episodeCount := episodes.length } }
    activity
    episodeDrafts := selection.episodeDrafts
    units := orderUnitDrafts units.flatten rules.policy.deliveryOrder }

def preparePersonalMemoryUnits (calendar : Calendar) (accountHolder : Option String)
    (policy : PersonalMemorySelectionPolicy) (now : ℤ) (reader : LiveCorpusReader) :
    Except RestoreError Prepared := do
  require accountHolder.isSome
    "personal-memory preparation requires an authenticated live account-holder binding"
  let (zone, corpusMode) ← policy.validate calendar
  let month := monthKey calendar zone
  let reference ← referenceMonth month (policy.referenceUnix.getD now)
  let inventory ← reader.conversations.mapM (scanConversation reader)
  prepareSelected reader (selectionRules policy corpusMode month reference) inventory

end GreenBubbles.Memory
