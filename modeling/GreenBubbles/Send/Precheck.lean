import Mathlib.Data.Finset.Sort
import Mathlib.Data.String.Basic
import GreenBubbles.Send.Helper
import GreenBubbles.Send.Rate
import GreenBubbles.Send.Staging

/-! # PRECHECK

The complete decision taken before anything is staged, minted or reserved. It
collects every failure, so that a report names all the gates that are closed.
-/
namespace GreenBubbles.Outbox

/-- Every failure code, in the order a report sorts them. -/
def SendFailureCode.all : List SendFailureCode :=
  [.grantsMissing, .wechatNotRunning, .notLoggedIn, .unknownBuild, .calibrationDrift,
   .recipientVerifyFailed, .recipientTitleNotAllowed, .contentVerifyFailed,
   .addressingFocusFailed, .composeNotEmpty, .attachmentInvalid, .attachmentStagingFailed,
   .attachmentDigestMismatch, .attachmentVerifyFailed, .attachPanelNotPresented,
   .unsupportedAttachmentType, .sendUnconfirmed, .engineStall, .engineUnavailable,
   .humanCollision, .manifestViolation, .windowNotFound, .killSwitchEngaged, .stageNotPermitted,
   .configurationInvalid, .profileInvalid, .draftInvalid, .approvalInvalid, .capabilityExpired,
   .capabilityMismatch, .idempotencyConflict, .rateLimited, .circuitOpen, .outboxBusy,
   .reconciliationPending]

end GreenBubbles.Outbox

namespace GreenBubbles.Send

open Std Library Library.Bytes
open Connector (ActionAttemptIntent ActionDraft ActionGuardContext ActionGuardDecision
  ActionGuardDenial ExternalApprovalEvidence actionSafetyContractVersion assessActionAttempt
  expectedApprovalBinding)
open Outbox (ActionCapability SendFailureCode SendOutboxState SendRolloutStage)

def VerifiedCalibrationProfile.binding (profile : VerifiedCalibrationProfile) :
    CalibrationBinding :=
  ⟨profile.profile.body.profileId, profile.canonicalSha256⟩

def CompatibilityState.permitsSend : CompatibilityState → Bool
  | .supported => true
  | .unverified | .blocked => false

/-- One combination of builds, looked up in the signed matrix. -/
structure CompatibilityDecision where
  macosBuild : String
  wechatBuild : String
  state : CompatibilityState
  knownCombination : Bool
  fieldKillSwitchEngaged : Bool
  expectedCalibrationProfileId : String
  clientBuildProfileId : String
  note : String

/-- The pair is usable when the matrix supports the combination and names this profile. -/
def bindProfileToCompatibility (profile : VerifiedCalibrationProfile)
    (decision : CompatibilityDecision) (expectedMacosMajor : ℕ) :
    Except SignedArtifactDenial Unit :=
  if decision.fieldKillSwitchEngaged || !decision.knownCombination ||
      !decision.state.permitsSend then .error .combinationNotSupported
  else if decision.expectedCalibrationProfileId != profile.profile.body.profileId then
    .error .profileNotInMatrix
  else if decision.clientBuildProfileId != profile.profile.body.clientBuildProfileId ||
      decision.wechatBuild != profile.profile.body.wechatBuild then .error .clientBuildMismatch
  else if profile.profile.body.macosMajor != expectedMacosMajor then .error .hostBuildMismatch
  else .ok ()

/-- The first reason the live environment gives, in the order to be fixed. -/
def HelperCapabilityStatus.blockingFailure (status : HelperCapabilityStatus) :
    Option SendFailureCode :=
  if status.formatVersion != sendContractVersion || status.helperVersion == "" ||
      status.engineVersion == "" then some .configurationInvalid
  else if !status.accessibilityGranted || !status.screenRecordingGranted then some .grantsMissing
  else if !status.engineHealthy then some .engineUnavailable
  else if !status.wechatRunning then some .wechatNotRunning
  else if !status.wechatLoggedIn then some .notLoggedIn
  else if !status.mainWindowFound then some .windowNotFound
  else if status.boundedManifestScope.isEmpty || status.boundedManifestScope.any (· == "") then
    some .manifestViolation
  else none

/-- The failure a denial of the guard is reported as. -/
def guardFailure : ActionGuardDenial → SendFailureCode
  | .killSwitchEngaged => .killSwitchEngaged
  | .clientBuildMismatch => .unknownBuild
  | .idempotencyKeyAlreadyReserved | .idempotencyKeyMalformed => .idempotencyConflict
  | .rateLimitExceeded | .rateLimitInvalid => .rateLimited
  | .approvalMalformed | .approvalBindingMismatch | .approvalNotYetValid | .approvalExpired
  | .approvalAlreadyConsumed => .approvalInvalid
  | .recipientTitleNotAllowed => .recipientTitleNotAllowed
  | .accountNotAllowed | .conversationNotAllowed | .capabilityNotAllowed
  | .acquisitionGateNotPassed | .restorationGateNotPassed | .mechanismNotApproved
  | .legalReviewNotApproved => .stageNotPermitted
  | .invalidContract | .adapterMismatch => .configurationInvalid

def guardFailures (decision : ActionGuardDecision) : List SendFailureCode :=
  decision.denials.map guardFailure

def failIf (condition : Bool) (failure : SendFailureCode) : List SendFailureCode :=
  if condition then [failure] else []

/-- A privacy-safe view of the outbox. -/
structure SendOutboxSummary where
  inFlight : Bool
  pendingReconciliationCount : ℕ
  circuitBreakerOpen : Bool
  consecutiveFailureCount : ℕ
  lastFailure : Option SendFailureCode
  attemptWindowRemaining : ℕ
  reservedAttemptTotal : ℕ
  completedAttemptTotal : ℕ
  recoveredAttemptTotal : ℕ

/-- An elapsed window is rolled at the next reservation, so it has its whole capacity left. -/
def SendOutboxSummary.fromState (state : SendOutboxState) (now configuredMaximumAttempts : ℕ) :
    SendOutboxSummary where
  inFlight := state.inFlight.isSome
  pendingReconciliationCount := state.pendingReconciliation.length
  circuitBreakerOpen := state.circuitBreaker.isOpen now
  consecutiveFailureCount := state.circuitBreaker.consecutiveFailureCount
  lastFailure := state.circuitBreaker.lastFailure
  attemptWindowRemaining :=
    if state.rateWindow.endsAtUnixNanoseconds ≤ now then configuredMaximumAttempts
    else state.rateWindow.maximumAttempts - state.rateWindow.reservedAttempts
  reservedAttemptTotal := state.reservedAttemptTotal
  completedAttemptTotal := state.completedAttemptTotal
  recoveredAttemptTotal := state.recoveredAttemptTotal

/-- The whole report; a dispatch reads its verdict. Failures and denials are
sets, in the order the gates make them. -/
structure SendPrecheckFindings extends SendPrecheckReport where
  formatVersion : ℕ
  rolloutStage : SendRolloutStage
  failures : List SendFailureCode
  guardDenials : List ActionGuardDenial
  operatorActions : List String
  accountId : String
  conversationId : String
  draftId : String
  approvalId : String
  idempotencyKey : String
  actionId : String
  calibrationProfileId : String
  calibrationTrustTier : SendTrustTier
  compatibility : CompatibilityDecision
  helperStatusObserved : Bool
  outbox : SendOutboxSummary
  checkedAtUnixNanoseconds : ℕ

namespace SendAdapterConfig

/-- Whether this stage may press Return for the conversation at all. -/
def stagePermitsSendTo (config : SendAdapterConfig) (conversationId : String) : Bool :=
  match config.rolloutStage with
  | .dryRun => false
  | .selfSend => conversationId == config.selfSendConversationId
  | .allowListed => config.allowList.conversationIds.contains conversationId

/-- Text needs one ladder open, an attachment needs both. -/
def stagePermitsCapability (config : SendAdapterConfig) (capability : ActionCapability)
    (conversationId : String) : Bool :=
  config.stagePermitsSendTo conversationId &&
    (!capability.carriesAttachment ||
      match config.attachmentRolloutStage with
      | .dryRun => false
      | .selfSend => conversationId == config.selfSendConversationId
      | .allowListed => config.allowList.conversationIds.contains conversationId)

def attemptIntent (config : SendAdapterConfig) (draft : ActionDraft) (approvalId : String) :
    ActionAttemptIntent where
  capability := draftCapability draft
  draftId := draft.draftId
  accountId := config.accountId
  conversationId := draft.conversationId
  recipientTitle := draft.recipient.humanLabel
  adapter := config.adapter
  idempotencyKey := config.idempotencyKey draft.draftId approvalId
  approval :=
    { approvalId, immutableBindingSha256 := "", approverId := ""
      approvedAtUnixNanoseconds := 0, expiresAtUnixNanoseconds := 1 }

/-- What the local approver prints for the owner. -/
def expectedApprovalBinding (config : SendAdapterConfig) (draft : ActionDraft) : Option String :=
  Connector.expectedApprovalBinding config.gate.gateDecisionId (config.attemptIntent draft "")

def guardContext (config : SendAdapterConfig) (state : SendOutboxState)
    (maximumAttempts now : ℕ) : ActionGuardContext where
  formatVersion := actionSafetyContractVersion
  nowUnixNanoseconds := now
  globalKillSwitchEngaged := config.globalKillSwitchEngaged
  gate := config.gate
  requiredAdapter := config.adapter
  allowList := config.allowList
  rate := config.guardRate state maximumAttempts now
  consumedApprovalIds := .ofList (SendOutboxState.inOrder state.consumedApprovalIds)
  reservedIdempotencyKeys := .ofList (SendOutboxState.inOrder state.reservedIdempotencyKeys)

section Precheck

variable (config : SendAdapterConfig) (draft : ActionDraft) (approval : ExternalApprovalEvidence)
  (profile : VerifiedCalibrationProfile) (compatibility : CompatibilityDecision)
  (helperStatus : Option HelperCapabilityStatus) (state : SendOutboxState) (now : ℕ)

def payloadValid : Bool :=
  match draftCapability draft with
  | .textSend => draft.renderedText != "" && draft.attachments.isEmpty
  | .imageSend | .fileSend => draft.renderedText == "" && draft.attachments.length == 1
  | .replySend => false

/-- A draft approved as a reply is refused, not downgraded to a message of its own. -/
def draftFailures : List SendFailureCode :=
  failIf (draft.accountId != config.accountId || !payloadValid draft ||
    Sha256.hexDigest (utf8 draft.renderedText) != draft.renderedTextSha256 ||
    draft.recipient.conversationId != draft.conversationId || draft.recipient.humanLabel == "" ||
    draft.replyTarget.isSome || draft.expiresAtUnixNanoseconds.toNat ≤ now) .draftInvalid

/-- An attachment needs a reviewed type and a profile that knows how to stage one. -/
def attachmentFailures : List SendFailureCode :=
  if (draftCapability draft).carriesAttachment then
    (match draft.attachments with
     | [] => []
     | attachment :: _ =>
       failIf (reviewedUniformTypeIdentifier (draftCapability draft)
         attachment.displayFileName).toOption.isNone .unsupportedAttachmentType ++
       failIf (!attachment.byteCount.any fun count => 0 < count) .attachmentInvalid) ++
    failIf profile.profile.body.attachments.isNone .profileInvalid
  else []

def guardDecision : ActionGuardDecision :=
  assessActionAttempt
    (config.guardContext state (config.maximumAttemptsFor (draftCapability draft)) now)
    { config.attemptIntent draft approval.approvalId with approval }

/-- Two independent gates: the matrix supports the combination, and the profile
is the one the combination names. -/
def buildFailures : List SendFailureCode :=
  failIf (!compatibility.state.permitsSend || !compatibility.knownCombination) .unknownBuild ++
  failIf ((bindProfileToCompatibility profile compatibility
      config.expectedMacosMajor).toOption.isNone ||
    profile.profile.body.clientBuildProfileId != config.adapter.clientBuildProfileId ||
    profile.profile.body.wechatBuild != config.expectedWechatBuild) .profileInvalid

def helperFailures : List SendFailureCode :=
  match helperStatus with
  | none => [.engineUnavailable]
  | some status =>
    status.blockingFailure.toList ++
    failIf (status.macosBuild != config.expectedMacosBuild ||
      status.macosMajor != config.expectedMacosMajor ||
      status.wechatBuild != config.expectedWechatBuild ||
      status.wechatBundleIdentifier != profile.profile.body.wechatBundleIdentifier) .unknownBuild ++
    failIf (status.activeCalibrationProfileId != profile.profile.body.profileId) .calibrationDrift

/-- A development-signed profile is usable for rehearsal only. -/
def stageFailures : List SendFailureCode :=
  failIf (config.rolloutStage.permitsReturn &&
    !config.stagePermitsCapability (draftCapability draft) draft.conversationId)
    .stageNotPermitted ++
  failIf (config.rolloutStage.permitsReturn && profile.trustTier != .release) .profileInvalid

def precheckFailures : List SendFailureCode :=
  failIf config.validate.toOption.isNone .configurationInvalid ++
  failIf (config.globalKillSwitchEngaged || compatibility.fieldKillSwitchEngaged)
    .killSwitchEngaged ++
  config.draftFailures draft now ++
  attachmentFailures draft profile ++
  guardFailures (config.guardDecision draft approval state now) ++
  (state.admissionFailure now).toList ++
  config.buildFailures profile compatibility ++
  config.helperFailures profile helperStatus ++
  config.stageFailures draft profile

def precheck : SendPrecheckFindings :=
  let failures := config.precheckFailures draft approval profile compatibility helperStatus state now
  let permitSend :=
    config.stagePermitsCapability (draftCapability draft) draft.conversationId &&
      config.rolloutStage.permitsReturn && profile.trustTier == .release
  { formatVersion := sendContractVersion
    permitted := failures.isEmpty
    permitSend := failures.isEmpty && permitSend
    rolloutStage := config.rolloutStage
    failures
    guardDenials := (config.guardDecision draft approval state now).denials
    operatorActions := (SendFailureCode.all.filter failures.contains).map (·.operatorAction)
    accountId := config.accountId
    conversationId := draft.conversationId
    draftId := draft.draftId
    approvalId := approval.approvalId
    idempotencyKey := config.idempotencyKey draft.draftId approval.approvalId
    actionId := config.actionId draft.draftId approval.approvalId
    calibrationProfileId := profile.profile.body.profileId
    calibrationTrustTier := profile.trustTier
    compatibility
    helperStatusObserved := helperStatus.isSome
    outbox := .fromState state now config.maximumAttemptsPerWindow
    checkedAtUnixNanoseconds := now }

end Precheck

end SendAdapterConfig

end GreenBubbles.Send
