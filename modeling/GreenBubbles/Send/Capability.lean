import GreenBubbles.Outbox.State
import GreenBubbles.Send.Config

/-! # Bound capabilities

The single-use document an adapter mints for its helper, what the helper
answers and how an answer settles the reservation.
-/
namespace GreenBubbles.Send

open Library Library.Bytes
open Connector (ActionDraft actionCapabilityName)
open Outbox (ActionCapability OutboxEntry SendCompletionKind SendCompletionOutcome
  SendCompletionRecord SendFailureCode SendRolloutStage VisualConfirmation)

def sendContractVersion : ℕ := 1
def maximumSendBodyBytes : ℕ := 4096
def maximumAttachmentBytes : ℕ := 100 * 1024 * 1024
def maximumDisplayFileNameBytes : ℕ := 255
def maximumSearchKeyBytes : ℕ := 256
def maximumExpectedTitleBytes : ℕ := 256

def actionCapabilityDomain : String := "greenbubbles.send.action-capability.v1"
def idempotencyDomain : String := "greenbubbles.send.idempotency-key.v1"
def actionIdentityDomain : String := "greenbubbles.send.action-identity.v1"
def capabilityIdentityDomain : String := "greenbubbles.send.capability-identity.v1"

/-- Every run of white space becomes one blank, and none stays at the ends. -/
def normalizedSendText (value : String) : String :=
  .ofList ([' '].intercalate ((value.toList.splitOnP isWhiteSpace).filter (· ≠ [])))

def normalizedSendTextSha256 (value : String) : String :=
  Sha256.hexDigest (utf8 (normalizedSendText value))

/-- The domain and each field end in a NUL. -/
def digest (domain : String) (fields : List String) : String :=
  Sha256.hexDigest ((domain :: fields).flatMap fun field => utf8 field ++ [0])

/-- The canonical writer; a NUL inside a field leaves no encoding. -/
def canonicalBytes (domain : String) (fields : List String) : Option (List UInt8) :=
  if (domain :: fields).any fun field => (utf8 field).contains 0 then none
  else some ((domain :: fields).flatMap fun field => utf8 field ++ [0])

def flagText (flag : Bool) : String := if flag then "true" else "false"

def SendAddressingMode.canonicalName : SendAddressingMode → String
  | .search => "search"
  | .currentConversation => "currentConversation"

def rolloutStageName : SendRolloutStage → String
  | .dryRun => "dryRun"
  | .selfSend => "selfSend"
  | .allowListed => "allowListed"

def preservesBytes (capability : ActionCapability) : Bool := capability != .imageSend

structure ActionAttachment where
  stagingDirectory : String
  stagedPath : String
  displayFileName : String
  byteCount : ℕ
  sha256 : String
  uniformTypeIdentifier : String
  deriving DecidableEq

/-- Whether `needle` occurs in `text`. -/
def containsText (text needle : List Char) : Bool := text.tails.any fun rest => needle.isPrefixOf rest

def ActionAttachment.valid (attachment : ActionAttachment) : Bool :=
  let name := attachment.displayFileName
  name != "" && name.utf8ByteSize ≤ maximumDisplayFileNameBytes && !name.toList.contains '/' &&
    !name.toList.contains '\x00' && name != "." && name != ".." && isSha256 attachment.sha256 &&
    attachment.byteCount != 0 && attachment.byteCount ≤ maximumAttachmentBytes &&
    attachment.uniformTypeIdentifier != "" && isAbsolute attachment.stagingDirectory &&
    !containsText attachment.stagingDirectory.toList ['/', '.', '.'] &&
    attachment.stagedPath == attachment.stagingDirectory ++ "/" ++ name

structure StagedAttachment where
  attachment : ActionAttachment
  bytesPreservedInTransit : Bool

structure ActionCapabilityEnvelope where
  formatVersion : ℕ
  capabilityId : String
  actionId : String
  draftId : String
  approvalId : String
  idempotencyKey : String
  accountId : String
  conversationId : String
  capability : ActionCapability
  addressingMode : SendAddressingMode
  searchKey : String
  expectedTitle : String
  body : String
  bodySha256 : String
  normalizedBodySha256 : String
  clientBuildProfileId : String
  calibrationProfileId : String
  calibrationProfileSha256 : String
  attachment : Option ActionAttachment
  rolloutStage : SendRolloutStage
  permitSend : Bool
  issuedAtUnixNanoseconds : ℕ
  validUntilUnixNanoseconds : ℕ
  bindingSha256 : String
  deriving DecidableEq

namespace ActionCapabilityEnvelope

def attachmentFields (attachment : ActionAttachment) : List String :=
  [attachment.stagingDirectory, attachment.stagedPath, attachment.displayFileName,
   toString attachment.byteCount, attachment.sha256, attachment.uniformTypeIdentifier]

/-- The exact bytes summarized by the binding. -/
def bindingBytes (capability : ActionCapabilityEnvelope) : Option (List UInt8) :=
  canonicalBytes actionCapabilityDomain
    ([toString capability.formatVersion, capability.capabilityId, capability.actionId,
      capability.draftId, capability.approvalId, capability.idempotencyKey, capability.accountId,
      capability.conversationId, actionCapabilityName capability.capability,
      capability.addressingMode.canonicalName, capability.searchKey, capability.expectedTitle,
      capability.bodySha256, capability.normalizedBodySha256, capability.clientBuildProfileId,
      capability.calibrationProfileId, capability.calibrationProfileSha256,
      flagText capability.attachment.isSome] ++
     (capability.attachment.map attachmentFields).getD [] ++
     [rolloutStageName capability.rolloutStage, flagText capability.permitSend,
      toString capability.issuedAtUnixNanoseconds, toString capability.validUntilUnixNanoseconds])

def computedBinding (capability : ActionCapabilityEnvelope) : Option String :=
  capability.bindingBytes.map Sha256.hexDigest

theorem computedBinding_withBinding (capability : ActionCapabilityEnvelope) (binding : String) :
    { capability with bindingSha256 := binding }.computedBinding = capability.computedBinding :=
  rfl

theorem computedBinding_getD {capability : ActionCapabilityEnvelope}
    (h : capability.bindingBytes.isSome = true) :
    capability.computedBinding = some (capability.computedBinding.getD "") := by
  rcases Option.isSome_iff_exists.mp h with ⟨bytes, hbytes⟩
  rw [computedBinding, hbytes]
  rfl

theorem isSha256_of_computedBinding {capability : ActionCapabilityEnvelope} {binding : String}
    (h : capability.computedBinding = some binding) : isSha256 binding = true := by
  rcases Option.map_eq_some_iff.mp h with ⟨bytes, -, rfl⟩
  exact isSha256_hexDigest bytes

def structureValid (capability : ActionCapabilityEnvelope) : Bool :=
  capability.formatVersion == sendContractVersion && isSha256 capability.capabilityId &&
    isSha256 capability.actionId && isSha256 capability.draftId &&
    isSha256 capability.approvalId && isSha256 capability.idempotencyKey &&
    isSha256 capability.bodySha256 && isSha256 capability.normalizedBodySha256 &&
    isSha256 capability.calibrationProfileSha256 && capability.accountId != "" &&
    capability.conversationId != "" && capability.clientBuildProfileId != "" &&
    capability.calibrationProfileId != "" &&
    capability.searchKey.utf8ByteSize ≤ maximumSearchKeyBytes &&
    capability.addressingMode.typesBeforeRecipientGate != (capability.searchKey == "") &&
    capability.expectedTitle != "" &&
    capability.expectedTitle.utf8ByteSize ≤ maximumExpectedTitleBytes &&
    capability.body.utf8ByteSize ≤ maximumSendBodyBytes &&
    capability.issuedAtUnixNanoseconds < capability.validUntilUnixNanoseconds &&
    Sha256.hexDigest (utf8 capability.body) == capability.bodySha256 &&
    normalizedSendTextSha256 capability.body == capability.normalizedBodySha256 &&
    capability.computedBinding == some capability.bindingSha256 &&
    (!capability.permitSend || capability.rolloutStage.permitsReturn)

/-- A capability carries a body or an attachment, never both and never neither. -/
def payload (capability : ActionCapabilityEnvelope) : Except SendFailureCode Unit :=
  match capability.capability.carriesAttachment, capability.attachment with
  | false, none => if capability.body != "" then .ok () else .error .capabilityMismatch
  | true, some attachment =>
    if capability.body != "" then .error .capabilityMismatch
    else if attachment.valid then .ok () else .error .attachmentInvalid
  | _, _ => .error .capabilityMismatch

/-- Made by the adapter before the dispatch and by the helper when a run begins. -/
def validate (capability : ActionCapabilityEnvelope) (now : ℕ) : Except SendFailureCode Unit := do
  if !capability.structureValid then .error .capabilityMismatch
  capability.payload
  if now < capability.issuedAtUnixNanoseconds ∨ capability.validUntilUnixNanoseconds ≤ now then
    .error .capabilityExpired

/-- The reservation of a capability. -/
def outboxEntry (capability : ActionCapabilityEnvelope) : OutboxEntry where
  actionId := capability.actionId
  draftId := capability.draftId
  approvalId := capability.approvalId
  idempotencyKey := capability.idempotencyKey
  capabilityId := capability.capabilityId
  capabilityBindingSha256 := capability.bindingSha256
  accountId := capability.accountId
  conversationId := capability.conversationId
  bodySha256 := capability.bodySha256
  normalizedBodySha256 := capability.normalizedBodySha256
  capability := capability.capability
  attachmentSha256 := capability.attachment.map (·.sha256)
  displayFileName := capability.attachment.map (·.displayFileName)
  stagingDirectory := capability.attachment.map (·.stagingDirectory)
  bytesPreservedInTransit := preservesBytes capability.capability
  rolloutStage := capability.rolloutStage
  permitSend := capability.permitSend
  state := .reserved
  reservedAtUnixNanoseconds := capability.issuedAtUnixNanoseconds
  attemptedAtUnixNanoseconds := none
  deadlineUnixNanoseconds := capability.validUntilUnixNanoseconds

end ActionCapabilityEnvelope

/-- What the calibration profile contributes to a capability. -/
structure CalibrationBinding where
  profileId : String
  canonicalSha256 : String

namespace SendAdapterConfig

def searchKeyFor (config : SendAdapterConfig) (draft : ActionDraft) : String :=
  (config.searchKeyOverrides.lookup draft.conversationId).getD draft.recipient.humanLabel

def idempotencyKey (config : SendAdapterConfig) (draftId approvalId : String) : String :=
  digest idempotencyDomain [config.gate.gateDecisionId, draftId, approvalId]

def actionId (config : SendAdapterConfig) (draftId approvalId : String) : String :=
  digest actionIdentityDomain [config.accountId, config.adapter.adapterId,
    config.gate.gateDecisionId, draftId, approvalId]

def draftCapability (draft : ActionDraft) : ActionCapability :=
  draft.attachmentIntent.getD .textSend

/-- The staged copy and the draft's stated intent agree, or nothing is minted. -/
def boundAttachment (draft : ActionDraft) (staged : Option StagedAttachment) :
    Except SendFailureCode (Option ActionAttachment) :=
  match (draftCapability draft).carriesAttachment, staged with
  | false, none => .ok none
  | true, some staged =>
    match draft.attachments with
    | [] => .error .attachmentInvalid
    | approved :: _ =>
      if staged.attachment.sha256 != approved.sha256 ||
          staged.attachment.displayFileName != approved.displayFileName ||
          approved.byteCount != some staged.attachment.byteCount ||
          staged.bytesPreservedInTransit != preservesBytes (draftCapability draft) then
        .error .attachmentDigestMismatch
      else .ok (some staged.attachment)
  | _, _ => .error .attachmentInvalid

/-- The envelope of a capability before its binding is computed. -/
def unboundCapability (config : SendAdapterConfig) (draft : ActionDraft) (approvalId : String)
    (profile : CalibrationBinding) (attachment : Option ActionAttachment) (permitSend : Bool)
    (now : ℕ) : ActionCapabilityEnvelope where
  formatVersion := sendContractVersion
  capabilityId := digest capabilityIdentityDomain
    [config.actionId draft.draftId approvalId, config.idempotencyKey draft.draftId approvalId,
     toString now]
  actionId := config.actionId draft.draftId approvalId
  draftId := draft.draftId
  approvalId
  idempotencyKey := config.idempotencyKey draft.draftId approvalId
  accountId := config.accountId
  conversationId := draft.conversationId
  capability := draftCapability draft
  addressingMode := config.addressingMode
  searchKey :=
    match config.addressingMode with
    | .search => config.searchKeyFor draft
    | .currentConversation => ""
  expectedTitle := draft.recipient.humanLabel
  body := draft.renderedText
  bodySha256 := draft.renderedTextSha256
  normalizedBodySha256 := normalizedSendTextSha256 draft.renderedText
  clientBuildProfileId := config.adapter.clientBuildProfileId
  calibrationProfileId := profile.profileId
  calibrationProfileSha256 := profile.canonicalSha256
  attachment
  rolloutStage := config.rolloutStage
  permitSend
  issuedAtUnixNanoseconds := now
  validUntilUnixNanoseconds :=
    saturatingAdd 128 now (secondsToNanoseconds config.capabilityValiditySeconds)
  bindingSha256 := ""

def mintCapability (config : SendAdapterConfig) (draft : ActionDraft) (approvalId : String)
    (profile : CalibrationBinding) (staged : Option StagedAttachment) (permitSend : Bool)
    (now : ℕ) : Except SendFailureCode ActionCapabilityEnvelope := do
  let attachment ← boundAttachment draft staged
  let unbound := config.unboundCapability draft approvalId profile attachment permitSend now
  match unbound.computedBinding with
  | none => .error .capabilityMismatch
  | some binding =>
    let capability := { unbound with bindingSha256 := binding }
    capability.validate now
    return capability

theorem mintCapability_of {config : SendAdapterConfig} {draft : ActionDraft}
    {approvalId binding : String} {profile : CalibrationBinding} {staged : Option StagedAttachment}
    {attachment : Option ActionAttachment} {permitSend : Bool} {now : ℕ}
    {capability : ActionCapabilityEnvelope} (hattachment : boundAttachment draft staged = .ok attachment)
    (hbinding : (config.unboundCapability draft approvalId profile attachment permitSend
      now).computedBinding = some binding)
    (hcapability : capability = { config.unboundCapability draft approvalId profile attachment
      permitSend now with bindingSha256 := binding })
    (hvalid : capability.validate now = .ok ()) :
    config.mintCapability draft approvalId profile staged permitSend now = .ok capability := by
  subst hcapability
  simp only [mintCapability, bind_ok]
  refine ⟨attachment, hattachment, ?_⟩
  simp only [hbinding]
  exact bind_ok.mpr ⟨(), hvalid, rfl⟩

/-- What every minted capability says about its times and its account. -/
structure Mints (config : SendAdapterConfig) (now : ℕ) (permitSend : Bool)
    (capability : ActionCapabilityEnvelope) : Prop where
  account : capability.accountId = config.accountId
  issued : capability.issuedAtUnixNanoseconds = now
  expires : capability.validUntilUnixNanoseconds =
    saturatingAdd 128 now (secondsToNanoseconds config.capabilityValiditySeconds)
  permit : capability.permitSend = permitSend

theorem mintCapability_ok {config : SendAdapterConfig} {draft : ActionDraft} {approvalId : String}
    {profile : CalibrationBinding} {staged : Option StagedAttachment} {permitSend : Bool}
    {now : ℕ} {capability : ActionCapabilityEnvelope}
    (h : config.mintCapability draft approvalId profile staged permitSend now = .ok capability) :
    config.Mints now permitSend capability := by
  simp only [mintCapability, bind_ok] at h
  obtain ⟨attachment, -, h⟩ := h
  split at h
  · cases h
  · obtain ⟨_, -, h⟩ := bind_ok.mp h
    obtain rfl := Except.ok.inj h
    exact ⟨rfl, rfl, rfl, rfl⟩

end SendAdapterConfig

inductive SendStage where
  | precheck
  | calibrate
  | address
  | recipientVerify
  | compose
  | contentVerify
  | send
  | sendVerify
  deriving DecidableEq

/-- What one run of the helper reports; `attempted` means Return was pressed. -/
structure HelperSendOutcome where
  formatVersion : ℕ
  capabilityId : String
  capabilityBindingSha256 : String
  helperVersion : String
  engineVersion : String
  calibrationProfileId : String
  stageReached : SendStage
  attempted : Bool
  visualConfirmation : VisualConfirmation
  failure : Option SendFailureCode
  titleConfidencePartsPerMillion : ℕ
  deriving DecidableEq

/-- A helper that claims a send a dry run forbade is a mismatch, not a send. -/
def HelperSendOutcome.validateAgainst (outcome : HelperSendOutcome)
    (capability : ActionCapabilityEnvelope) : Except SendFailureCode Unit :=
  if outcome.formatVersion != sendContractVersion ||
      outcome.capabilityId != capability.capabilityId ||
      outcome.capabilityBindingSha256 != capability.bindingSha256 ||
      outcome.calibrationProfileId != capability.calibrationProfileId ||
      outcome.helperVersion == "" || outcome.engineVersion == "" ||
      1000000 < outcome.titleConfidencePartsPerMillion then .error .capabilityMismatch
  else if outcome.attempted == (outcome.visualConfirmation == .notAttempted) ||
      (outcome.attempted && !capability.permitSend) then .error .capabilityMismatch
  else if !outcome.attempted && outcome.failure.isNone &&
      outcome.stageReached != .contentVerify then .error .capabilityMismatch
  else .ok ()

/-- A call without an answer of its own: inconclusive when Return was permitted. -/
def unanswered (capability : ActionCapabilityEnvelope) (failure : SendFailureCode) :
    SendCompletionRecord where
  outcome :=
    if capability.permitSend then .awaitingReconciliation else .completed .observedFailed
  attempted := false
  visualConfirmation := .notAttempted
  failure := some failure
  reconciledByReplica := false

/-- An attempted send is never completed here: it is parked for reconciliation. -/
def settleDispatch (capability : ActionCapabilityEnvelope)
    (dispatched : Except SendFailureCode HelperSendOutcome) : SendCompletionRecord :=
  match dispatched with
  | .error failure => unanswered capability failure
  | .ok outcome =>
    match outcome.validateAgainst capability with
    | .error failure => unanswered capability failure
    | .ok () =>
      { outcome :=
          if outcome.attempted then .awaitingReconciliation
          else if outcome.failure.isSome then .completed .observedFailed
          else .completed .dryRunCompleted
        attempted := outcome.attempted
        visualConfirmation := outcome.visualConfirmation
        failure := outcome.failure
        reconciledByReplica := false }

/-- Settling a dispatch never counts as an observation of the replica, nor as a sent message. -/
theorem settleDispatch_never_sent (capability : ActionCapabilityEnvelope)
    (dispatched : Except SendFailureCode HelperSendOutcome) :
    (settleDispatch capability dispatched).reconciledByReplica = false ∧
      (settleDispatch capability dispatched).outcome ≠ .completed .observedSent := by
  have hunanswered : ∀ failure, (unanswered capability failure).reconciledByReplica = false ∧
      (unanswered capability failure).outcome ≠ .completed .observedSent := by
    intro failure
    refine ⟨rfl, ?_⟩
    cases hpermit : capability.permitSend <;> simp [unanswered, hpermit]
  cases dispatched with
  | error failure => exact hunanswered failure
  | ok outcome =>
    cases hvalid : outcome.validateAgainst capability with
    | error failure =>
      simp only [settleDispatch, hvalid]
      exact hunanswered failure
    | ok done =>
      simp only [settleDispatch, hvalid]
      refine ⟨trivial, ?_⟩
      split_ifs <;> simp

/-- A permitted dispatch is closed at once only on the helper's own word that
Return was not pressed. -/
theorem settleDispatch_closed {capability : ActionCapabilityEnvelope}
    {dispatched : Except SendFailureCode HelperSendOutcome} {kind : SendCompletionKind}
    (h : (settleDispatch capability dispatched).outcome = .completed kind)
    (hpermit : capability.permitSend = true) :
    ∃ outcome, dispatched = .ok outcome ∧ outcome.attempted = false := by
  cases dispatched with
  | error failure => simp [settleDispatch, unanswered, hpermit] at h
  | ok outcome =>
    refine ⟨outcome, rfl, ?_⟩
    cases hvalid : outcome.validateAgainst capability with
    | error failure => simp [settleDispatch, hvalid, unanswered, hpermit] at h
    | ok done =>
      by_contra hattempted
      rw [Bool.not_eq_false] at hattempted
      simp [settleDispatch, hvalid, hattempted] at h

end GreenBubbles.Send
