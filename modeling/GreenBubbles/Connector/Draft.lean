import GreenBubbles.Archive.Records
import GreenBubbles.Digest
import GreenBubbles.Library.Json
import GreenBubbles.Outbox.Contract

/-! # Immutable drafts

The draft a connector stores, the byte string its identity hashes and the
structural checks every reader of a draft makes.
-/
namespace GreenBubbles.Connector

open Library Library.Bytes
open Archive (ArtifactKind ArtifactRole ConversationKind EntityDecodeState)
open Outbox (ActionCapability)

def maxDraftExpirySeconds : ℕ := 7 * 24 * 60 * 60
def maxRequesterIdBytes : ℕ := 256
def maxConnectorDraftBytes : ℕ := 1048576

def connectorVersion : String := "0.10.0"
def connectorApiVersion : String := "greenbubbles.connector.v1"

inductive ToolSourceDatabaseFreshness where
  | fresh
  | preservedStale
  | mixed
  | derived
  deriving DecidableEq

inductive DraftState where
  | draftOnly
  deriving DecidableEq

structure RecipientParticipantEvidence where
  participantId : String
  displayName : String
  role : String
  deriving DecidableEq

structure ResolvedConversation where
  conversationId : String
  kind : ConversationKind
  humanLabel : String
  participantCount : ℕ
  participants : List RecipientParticipantEvidence
  ownerParticipantId : Option String
  entityDecodeState : EntityDecodeState
  sourceDatabaseFreshness : ToolSourceDatabaseFreshness
  limitationCodes : List String
  deriving DecidableEq

structure DraftReplyTarget where
  canonicalId : String
  canonicalRecordSha256 : String
  senderId : Option String
  createdAtUnix : Option ℤ
  deriving DecidableEq

structure DraftAttachment where
  artifactId : String
  kind : ArtifactKind
  role : ArtifactRole
  digestKind : String
  sha256 : String
  byteCount : Option ℕ
  displayFileName : String
  deriving DecidableEq

structure ActionDraft where
  formatVersion : ℕ
  draftId : String
  state : DraftState
  accountId : String
  conversationId : String
  recipient : ResolvedConversation
  replyTarget : Option DraftReplyTarget
  renderedText : String
  renderedTextSha256 : String
  attachments : List DraftAttachment
  attachmentIntent : Option ActionCapability
  connectorVersion : String
  apiVersion : String
  sourceFingerprint : String
  policyDecisionId : String
  requesterId : String
  createdAtUnixNanoseconds : BitVec 128
  expiresAtUnixNanoseconds : BitVec 128
  deriving DecidableEq

/-! The JSON of the draft's parts -/

def conversationKindName : ConversationKind → String
  | .direct => "direct"
  | .group => "group"
  | .business => "business"
  | .chatbot => "chatbot"
  | .system => "system"
  | .unresolved => "unresolved"

def entityDecodeStateName : EntityDecodeState → String
  | .complete => "complete"
  | .rawOnly => "rawOnly"
  | .failed => "failed"

def freshnessName : ToolSourceDatabaseFreshness → String
  | .fresh => "fresh"
  | .preservedStale => "preservedStale"
  | .mixed => "mixed"
  | .derived => "derived"

def artifactKindName : ArtifactKind → String
  | .image => "image"
  | .animatedImage => "animatedImage"
  | .voice => "voice"
  | .video => "video"
  | .document => "document"
  | .thumbnail => "thumbnail"
  | .richMedia => "richMedia"
  | .unknown => "unknown"

def artifactRoleName : ArtifactRole → String
  | .original => "original"
  | .highResolution => "highResolution"
  | .thumbnail => "thumbnail"
  | .voicePayload => "voicePayload"
  | .videoPayload => "videoPayload"
  | .videoPoster => "videoPoster"
  | .filePayload => "filePayload"
  | .stickerPayload => "stickerPayload"
  | .auxiliary => "auxiliary"
  | .unknown => "unknown"

def actionCapabilityName : ActionCapability → String
  | .textSend => "textSend"
  | .replySend => "replySend"
  | .imageSend => "imageSend"
  | .fileSend => "fileSend"

def optionJson {α : Type} (toJson : α → Json) : Option α → Json
  | none => .null
  | some value => toJson value

def RecipientParticipantEvidence.toJson (participant : RecipientParticipantEvidence) : Json :=
  .obj
    [("participantId", .str participant.participantId),
     ("displayName", .str participant.displayName),
     ("role", .str participant.role)]

/-- No limitation codes are written when there are none. -/
def ResolvedConversation.toJson (recipient : ResolvedConversation) : Json :=
  .obj
    ([("conversationId", .str recipient.conversationId),
      ("kind", .str (conversationKindName recipient.kind)),
      ("humanLabel", .str recipient.humanLabel),
      ("participantCount", .int recipient.participantCount),
      ("participants", .arr (recipient.participants.map RecipientParticipantEvidence.toJson)),
      ("ownerParticipantId", optionJson .str recipient.ownerParticipantId),
      ("entityDecodeState", .str (entityDecodeStateName recipient.entityDecodeState)),
      ("sourceDatabaseFreshness", .str (freshnessName recipient.sourceDatabaseFreshness))] ++
     if recipient.limitationCodes.isEmpty then []
     else [("limitationCodes", .arr (recipient.limitationCodes.map .str))])

def DraftReplyTarget.toJson (target : DraftReplyTarget) : Json :=
  .obj
    [("canonicalId", .str target.canonicalId),
     ("canonicalRecordSha256", .str target.canonicalRecordSha256),
     ("senderId", optionJson .str target.senderId),
     ("createdAtUnix", optionJson .int target.createdAtUnix)]

def DraftAttachment.toJson (attachment : DraftAttachment) : Json :=
  .obj
    [("artifactId", .str attachment.artifactId),
     ("kind", .str (artifactKindName attachment.kind)),
     ("role", .str (artifactRoleName attachment.role)),
     ("digestKind", .str attachment.digestKind),
     ("sha256", .str attachment.sha256),
     ("byteCount", optionJson (fun count : ℕ => .int count) attachment.byteCount),
     ("displayFileName", .str attachment.displayFileName)]

theorem conversationKindName_injective : Function.Injective conversationKindName := by
  intro first second h
  cases first <;> cases second <;> first | rfl | exact absurd h (by decide)

theorem entityDecodeStateName_injective : Function.Injective entityDecodeStateName := by
  intro first second h
  cases first <;> cases second <;> first | rfl | exact absurd h (by decide)

theorem freshnessName_injective : Function.Injective freshnessName := by
  intro first second h
  cases first <;> cases second <;> first | rfl | exact absurd h (by decide)

theorem artifactKindName_injective : Function.Injective artifactKindName := by
  intro first second h
  cases first <;> cases second <;> first | rfl | exact absurd h (by decide)

theorem artifactRoleName_injective : Function.Injective artifactRoleName := by
  intro first second h
  cases first <;> cases second <;> first | rfl | exact absurd h (by decide)

theorem actionCapabilityName_injective : Function.Injective actionCapabilityName := by
  intro first second h
  cases first <;> cases second <;> first | rfl | exact absurd h (by decide)

/-- An optional value is told from its absence when no value is written as null. -/
theorem optionJson_injective {α : Type} {toJson : α → Json} (hinj : Function.Injective toJson)
    (hnull : ∀ a, toJson a ≠ .null) : Function.Injective (optionJson toJson) := by
  intro first second h
  cases first with
  | none =>
    cases second with
    | none => rfl
    | some b => exact absurd h.symm (hnull b)
  | some a =>
    cases second with
    | none => exact absurd h (hnull a)
    | some b => exact congrArg some (hinj h)

theorem optionText_injective : Function.Injective (optionJson Json.str) :=
  optionJson_injective (fun _ _ h => Json.str.inj h) fun _ h => Json.noConfusion h

theorem optionInt_injective : Function.Injective (optionJson Json.int) :=
  optionJson_injective (fun _ _ h => Json.int.inj h) fun _ h => Json.noConfusion h

theorem optionCount_injective :
    Function.Injective (optionJson fun count : ℕ => Json.int count) :=
  optionJson_injective (fun _ _ h => Int.ofNat.inj (Json.int.inj h)) fun _ h =>
    Json.noConfusion h

theorem RecipientParticipantEvidence.toJson_injective :
    Function.Injective RecipientParticipantEvidence.toJson := by
  intro first second h
  simp only [toJson, Json.obj.injEq, List.cons.injEq, Prod.mk.injEq, Json.str.injEq,
    true_and, and_true] at h
  cases first
  cases second
  simp_all

theorem limitationMember_injective : Function.Injective fun codes : List String =>
    if codes.isEmpty then [] else [("limitationCodes", Json.arr (codes.map Json.str))] := by
  intro first second h
  cases first with
  | nil => cases second <;> simp at h ⊢
  | cons code codes =>
    cases second with
    | nil => simp at h
    | cons code' codes' =>
      have hcodes := List.map_injective_iff.mpr (fun _ _ => Json.str.inj)
      simpa [hcodes.eq_iff] using h

theorem ResolvedConversation.toJson_injective : Function.Injective ResolvedConversation.toJson := by
  intro first second h
  have hparticipants := List.map_injective_iff.mpr RecipientParticipantEvidence.toJson_injective
  simp only [toJson, List.cons_append, List.nil_append, Json.obj.injEq, List.cons.injEq,
    Prod.mk.injEq, Json.str.injEq, Json.int.injEq, Json.arr.injEq, Int.natCast_inj,
    conversationKindName_injective.eq_iff, hparticipants.eq_iff, optionText_injective.eq_iff,
    entityDecodeStateName_injective.eq_iff, freshnessName_injective.eq_iff, true_and] at h
  have hcodes := limitationMember_injective h.2.2.2.2.2.2.2.2
  cases first
  cases second
  simp_all

theorem DraftReplyTarget.toJson_injective : Function.Injective DraftReplyTarget.toJson := by
  intro first second h
  simp only [toJson, Json.obj.injEq, List.cons.injEq, Prod.mk.injEq, Json.str.injEq,
    optionText_injective.eq_iff, optionInt_injective.eq_iff, true_and, and_true] at h
  cases first
  cases second
  simp_all

theorem DraftAttachment.toJson_injective : Function.Injective DraftAttachment.toJson := by
  intro first second h
  simp only [toJson, Json.obj.injEq, List.cons.injEq, Prod.mk.injEq, Json.str.injEq,
    optionCount_injective.eq_iff, artifactKindName_injective.eq_iff,
    artifactRoleName_injective.eq_iff, true_and, and_true] at h
  cases first
  cases second
  simp_all

def draftStateName : DraftState → String
  | .draftOnly => "draftOnly"

/-- No intent is written when there is none. -/
def ActionDraft.toJson (draft : ActionDraft) : Json :=
  .obj
    ([("formatVersion", .int draft.formatVersion),
      ("draftId", .str draft.draftId),
      ("state", .str (draftStateName draft.state)),
      ("accountId", .str draft.accountId),
      ("conversationId", .str draft.conversationId),
      ("recipient", draft.recipient.toJson),
      ("replyTarget", optionJson DraftReplyTarget.toJson draft.replyTarget),
      ("renderedText", .str draft.renderedText),
      ("renderedTextSha256", .str draft.renderedTextSha256),
      ("attachments", .arr (draft.attachments.map DraftAttachment.toJson))] ++
     (match draft.attachmentIntent with
      | none => []
      | some intent => [("attachmentIntent", .str (actionCapabilityName intent))]) ++
     [("connectorVersion", .str draft.connectorVersion),
      ("apiVersion", .str draft.apiVersion),
      ("sourceFingerprint", .str draft.sourceFingerprint),
      ("policyDecisionId", .str draft.policyDecisionId),
      ("requesterId", .str draft.requesterId),
      ("createdAtUnixNanoseconds", .int draft.createdAtUnixNanoseconds.toNat),
      ("expiresAtUnixNanoseconds", .int draft.expiresAtUnixNanoseconds.toNat)])

/-! The identity -/

/-- The strings the identity joins, each followed by a zero byte. -/
def ActionDraft.identityFields (draft : ActionDraft) : List String :=
  [draft.accountId, draft.conversationId, draft.renderedTextSha256, draft.sourceFingerprint,
   draft.policyDecisionId, draft.requesterId, draft.connectorVersion, draft.apiVersion]

/-- Nothing for a text draft, whose identity is the one it had before attachments existed. -/
def intentBytes : Option ActionCapability → List UInt8
  | none => []
  | some intent => utf8 (Json.str (actionCapabilityName intent)).toText ++ [0]

/-- What the identity of a draft hashes; the draft's own identity is not read. -/
def draftIdentityBytes (draft : ActionDraft) : List UInt8 :=
  draft.identityFields.flatMap (fun value => utf8 value ++ [0]) ++
  utf8 draft.recipient.toJson.toText ++ [0] ++
  utf8 (optionJson DraftReplyTarget.toJson draft.replyTarget).toText ++ [0] ++
  utf8 (Json.arr (draft.attachments.map DraftAttachment.toJson)).toText ++
  intentBytes draft.attachmentIntent ++
  leBytes draft.createdAtUnixNanoseconds ++ leBytes draft.expiresAtUnixNanoseconds

def draftIdentity (draft : ActionDraft) : String := Sha256.hexDigest (draftIdentityBytes draft)

theorem draftIdentity_withId (draft : ActionDraft) (draftId : String) :
    draftIdentity { draft with draftId := draftId } = draftIdentity draft := rfl

/-! The structure every reader of a draft checks -/

def DraftAttachment.valid (attachment : DraftAttachment) : Bool :=
  attachment.artifactId != "" &&
  (attachment.digestKind == "decodedSha256" || attachment.digestKind == "sourceSha256") &&
  isSha256 attachment.sha256 && attachment.byteCount.isSome &&
  attachment.displayFileName != "" && !attachment.displayFileName.toList.contains '/' &&
  !attachment.displayFileName.toList.contains '\x00' &&
  attachment.displayFileName != "." && attachment.displayFileName != ".."

def participantsValid (participants : List RecipientParticipantEvidence) : Bool :=
  decide (participants.map (·.participantId)).Nodup &&
  participants.all fun participant =>
    participant.participantId != "" && participant.displayName != "" && participant.role != ""

def attachmentsValid (attachments : List DraftAttachment) : Bool :=
  decide (attachments.map (·.artifactId)).Nodup && attachments.length ≤ 20 &&
  attachments.all DraftAttachment.valid

def replyValid (replyTarget : Option DraftReplyTarget) : Bool :=
  replyTarget.all fun target =>
    target.canonicalId != "" && isSha256 target.canonicalRecordSha256 &&
    target.senderId.all (· != "")

/-- A draft with an intent carries one attachment and no text. -/
def ActionDraft.intentValid (draft : ActionDraft) : Bool :=
  draft.attachmentIntent.all fun intent =>
    intent.carriesAttachment && draft.attachments.length == 1 && draft.renderedText == ""

def ActionDraft.namesValid (draft : ActionDraft) : Bool :=
  draft.accountId != "" && draft.conversationId != "" &&
  draft.requesterId != "" && draft.requesterId.utf8ByteSize ≤ maxRequesterIdBytes &&
  draft.connectorVersion != "" && draft.connectorVersion.utf8ByteSize ≤ 256 &&
  draft.apiVersion != "" && draft.apiVersion.utf8ByteSize ≤ 256 && draft.sourceFingerprint != ""

def ActionDraft.textValid (draft : ActionDraft) : Bool :=
  draft.renderedText.utf8ByteSize ≤ maxConnectorDraftBytes &&
  !(draft.renderedText == "" && draft.attachments.isEmpty) &&
  draft.renderedTextSha256 == Sha256.hexDigest (utf8 draft.renderedText)

def ActionDraft.timesValid (draft : ActionDraft) : Bool :=
  draft.createdAtUnixNanoseconds.toNat < draft.expiresAtUnixNanoseconds.toNat &&
  draft.expiresAtUnixNanoseconds.toNat - draft.createdAtUnixNanoseconds.toNat ≤
    maxDraftExpirySeconds * 1000000000

def ActionDraft.recipientValid (draft : ActionDraft) : Bool :=
  draft.recipient.conversationId == draft.conversationId && draft.recipient.humanLabel != "" &&
  draft.recipient.participantCount == draft.recipient.participants.length &&
  participantsValid draft.recipient.participants

def ActionDraft.structureValid (draft : ActionDraft) : Bool :=
  draft.formatVersion == 1 && draft.state == .draftOnly && isSha256 draft.draftId &&
  isSha256 draft.policyDecisionId && draft.namesValid && draft.textValid && draft.timesValid &&
  draft.recipientValid && draft.intentValid && attachmentsValid draft.attachments &&
  replyValid draft.replyTarget && draftIdentity draft == draft.draftId

def validateDraftStructure (draft : ActionDraft) : Except RestoreError Unit :=
  require draft.structureValid "connector draft immutable structure is invalid"

end GreenBubbles.Connector
