import GreenBubbles.Basic

/-! # The send contract

The enumerations the send path shares with its helper, and the failure taxonomy
with the operator action each refusal is reported with.
-/
namespace GreenBubbles.Outbox

inductive ActionCapability where
  | textSend
  | replySend
  | imageSend
  | fileSend
  deriving DecidableEq

def ActionCapability.carriesAttachment : ActionCapability → Bool
  | .imageSend | .fileSend => true
  | .textSend | .replySend => false

inductive SendRolloutStage where
  | dryRun
  | selfSend
  | allowListed
  deriving DecidableEq

/-- Whether this stage may ever press Return. -/
def SendRolloutStage.permitsReturn : SendRolloutStage → Bool
  | .dryRun => false
  | .selfSend | .allowListed => true

inductive VisualConfirmation where
  | notAttempted
  | confirmed
  | unconfirmed
  deriving DecidableEq

inductive SendCompletionKind where
  | dryRunCompleted
  | observedSent
  | observedFailed
  deriving DecidableEq

def SendCompletionKind.healthy : SendCompletionKind → Bool
  | .dryRunCompleted | .observedSent => true
  | .observedFailed => false

inductive SendCompletionOutcome where
  | completed (kind : SendCompletionKind)
  | awaitingReconciliation
  deriving DecidableEq

/-- Every variant keeps the send path closed. -/
inductive SendFailureCode where
  | grantsMissing
  | wechatNotRunning
  | notLoggedIn
  | unknownBuild
  | calibrationDrift
  | recipientVerifyFailed
  | recipientTitleNotAllowed
  | contentVerifyFailed
  | addressingFocusFailed
  | composeNotEmpty
  | attachmentInvalid
  | attachmentStagingFailed
  | attachmentDigestMismatch
  | attachmentVerifyFailed
  | attachPanelNotPresented
  | unsupportedAttachmentType
  | sendUnconfirmed
  | engineStall
  | engineUnavailable
  | humanCollision
  | manifestViolation
  | windowNotFound
  | killSwitchEngaged
  | stageNotPermitted
  | configurationInvalid
  | profileInvalid
  | draftInvalid
  | approvalInvalid
  | capabilityExpired
  | capabilityMismatch
  | idempotencyConflict
  | rateLimited
  | circuitOpen
  | outboxBusy
  | reconciliationPending
  deriving DecidableEq

namespace SendFailureCode

def wireName : SendFailureCode → String
  | .grantsMissing => "grantsMissing"
  | .wechatNotRunning => "wechatNotRunning"
  | .notLoggedIn => "notLoggedIn"
  | .unknownBuild => "unknownBuild"
  | .calibrationDrift => "calibrationDrift"
  | .recipientVerifyFailed => "recipientVerifyFailed"
  | .recipientTitleNotAllowed => "recipientTitleNotAllowed"
  | .contentVerifyFailed => "contentVerifyFailed"
  | .addressingFocusFailed => "addressingFocusFailed"
  | .composeNotEmpty => "composeNotEmpty"
  | .attachmentInvalid => "attachmentInvalid"
  | .attachmentStagingFailed => "attachmentStagingFailed"
  | .attachmentDigestMismatch => "attachmentDigestMismatch"
  | .attachmentVerifyFailed => "attachmentVerifyFailed"
  | .attachPanelNotPresented => "attachPanelNotPresented"
  | .unsupportedAttachmentType => "unsupportedAttachmentType"
  | .sendUnconfirmed => "sendUnconfirmed"
  | .engineStall => "engineStall"
  | .engineUnavailable => "engineUnavailable"
  | .humanCollision => "humanCollision"
  | .manifestViolation => "manifestViolation"
  | .windowNotFound => "windowNotFound"
  | .killSwitchEngaged => "killSwitchEngaged"
  | .stageNotPermitted => "stageNotPermitted"
  | .configurationInvalid => "configurationInvalid"
  | .profileInvalid => "profileInvalid"
  | .draftInvalid => "draftInvalid"
  | .approvalInvalid => "approvalInvalid"
  | .capabilityExpired => "capabilityExpired"
  | .capabilityMismatch => "capabilityMismatch"
  | .idempotencyConflict => "idempotencyConflict"
  | .rateLimited => "rateLimited"
  | .circuitOpen => "circuitOpen"
  | .outboxBusy => "outboxBusy"
  | .reconciliationPending => "reconciliationPending"

def operatorAction : SendFailureCode → String
  | .grantsMissing =>
    "Grant Accessibility and Screen Recording to GreenBubblesInputHelper, then re-run " ++
    "the capability probe."
  | .wechatNotRunning => "Launch WeChat and leave it running in the background."
  | .notLoggedIn => "Log in to WeChat on this Mac."
  | .unknownBuild =>
    "This macOS/WeChat build pair is not in the signed compatibility matrix; wait for " ++
    "a validated matrix update."
  | .calibrationDrift =>
    "No verified calibration profile is active for this client build; run `send " ++
    "selftest`, and install a signed profile for this WeChat build if it fails."
  | .recipientVerifyFailed =>
    "The opened conversation did not match the approved recipient; re-resolve the " ++
    "recipient and approve a new draft."
  | .recipientTitleNotAllowed =>
    "The draft's recipient title is not the one authorized for that conversation; add " ++
    "the exact title to the allow list's recipientTitles, or approve a draft resolved " ++
    "from the replica."
  | .contentVerifyFailed =>
    "The composed text did not match the approved body; approve a new draft."
  | .addressingFocusFailed =>
    "The search box did not take focus, so the recipient was never addressed; nothing " ++
    "destructive was typed and the run stopped."
  | .composeNotEmpty =>
    "The conversation already has unsent text in its compose box; send or clear it " ++
    "first, so the adapter never overwrites your draft."
  | .attachmentInvalid =>
    "The draft's attachment is malformed, too large, or names a path outside its " ++
    "staging directory."
  | .attachmentStagingFailed =>
    "The approved file could not be staged; check that it is an owner-only regular " ++
    "file that still exists."
  | .attachmentDigestMismatch =>
    "The file on disk no longer matches the digest the draft approved; approve a new " ++
    "draft for the current file."
  | .attachmentVerifyFailed =>
    "The staged attachment's name was not read back from the compose area; nothing " ++
    "was sent."
  | .attachPanelNotPresented =>
    "The attach control did not open a file panel; the click was abandoned and the " ++
    "compose area left untouched."
  | .unsupportedAttachmentType =>
    "This attachment type is not in the reviewed set for the active calibration " ++
    "profile."
  | .sendUnconfirmed =>
    "Return was pressed but the result is unproven; run send reconcile before any " ++
    "further attempt."
  | .engineStall =>
    "The input helper stalled and was abandoned; run send doctor and re-check the " ++
    "outbox before retrying."
  | .engineUnavailable => "The input helper is not reachable; run send doctor."
  | .humanCollision =>
    "Real user activity was observed on WeChat; the attempt yielded. Retry when the " ++
    "client is idle."
  | .manifestViolation =>
    "The helper refused an action outside its WeChat-scoped capability manifest; this " ++
    "is a defect, not a configuration issue."
  | .windowNotFound => "WeChat's main window was not found on screen."
  | .killSwitchEngaged => "The send path is disabled by the kill switch."
  | .stageNotPermitted => "The rollout stage does not permit sending to this conversation."
  | .configurationInvalid => "The send adapter configuration is invalid; run send doctor."
  | .profileInvalid =>
    "The calibration profile or compatibility matrix is missing, unsigned, expired, " ++
    "or bound to another build."
  | .draftInvalid => "The draft is missing, malformed, stale, or expired."
  | .approvalInvalid =>
    "The approval evidence is missing, malformed, expired, or already consumed."
  | .capabilityExpired => "The minted capability expired before it reached the helper."
  | .capabilityMismatch => "The helper's outcome does not match the capability it was given."
  | .idempotencyConflict =>
    "This idempotency key was already reserved; recovery reconciles, it never " ++
    "resends."
  | .rateLimited => "The attempt window has no remaining capacity."
  | .circuitOpen => "The circuit breaker is open after consecutive failures."
  | .outboxBusy => "Another attempt is already in flight; the outbox is single-flight by design."
  | .reconciliationPending =>
    "A previous attempt is still awaiting reconciliation; resolve it before another " ++
    "send."

end SendFailureCode

def failureError (failure : SendFailureCode) : RestoreError :=
  .integrity ("send adapter refused the request: \"" ++ failure.wireName ++ "\" (" ++
    failure.operatorAction ++ ")")

end GreenBubbles.Outbox
