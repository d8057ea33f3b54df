import GreenBubbles.Connector.Draft

/-! # Action approvals

The intent an adapter submits, the byte string its approval binds and the guard
that accepts or denies the attempt.
-/
namespace GreenBubbles.Connector

open Std Library Library.Bytes
open Outbox (ActionCapability)

def actionSafetyContractVersion : ℕ := 1

inductive ActionGuardDenial where
  | invalidContract
  | acquisitionGateNotPassed
  | restorationGateNotPassed
  | mechanismNotApproved
  | legalReviewNotApproved
  | killSwitchEngaged
  | adapterMismatch
  | clientBuildMismatch
  | accountNotAllowed
  | conversationNotAllowed
  | recipientTitleNotAllowed
  | capabilityNotAllowed
  | approvalMalformed
  | approvalBindingMismatch
  | approvalNotYetValid
  | approvalExpired
  | approvalAlreadyConsumed
  | idempotencyKeyMalformed
  | idempotencyKeyAlreadyReserved
  | rateLimitInvalid
  | rateLimitExceeded
  deriving DecidableEq

structure ActionAdapterBinding where
  adapterId : String
  adapterVersion : String
  clientBuildProfileId : String
  deriving DecidableEq

structure ActionGateEvidence where
  gateDecisionId : String
  acquisitionGatePassed : Bool
  restorationGatePassed : Bool
  mechanismApproved : Bool
  legalReviewApproved : Bool

structure ActionAllowList where
  accountIds : ExtTreeSet String
  conversationIds : ExtTreeSet String
  /-- The title that routes the message, authorized per conversation. -/
  recipientTitles : ExtTreeMap String String
  capabilities : List ActionCapability

structure ActionRateState where
  windowStartedAtUnixNanoseconds : ℕ
  windowEndsAtUnixNanoseconds : ℕ
  maximumAttempts : ℕ
  reservedAttempts : ℕ

structure ExternalApprovalEvidence where
  approvalId : String
  immutableBindingSha256 : String
  approverId : String
  approvedAtUnixNanoseconds : ℕ
  expiresAtUnixNanoseconds : ℕ
  deriving DecidableEq

structure ActionAttemptIntent where
  capability : ActionCapability
  draftId : String
  accountId : String
  conversationId : String
  recipientTitle : String
  adapter : ActionAdapterBinding
  idempotencyKey : String
  approval : ExternalApprovalEvidence
  deriving DecidableEq

structure ActionGuardContext where
  formatVersion : ℕ
  nowUnixNanoseconds : ℕ
  globalKillSwitchEngaged : Bool
  gate : ActionGateEvidence
  requiredAdapter : ActionAdapterBinding
  allowList : ActionAllowList
  rate : ActionRateState
  consumedApprovalIds : ExtTreeSet String
  reservedIdempotencyKeys : ExtTreeSet String

/-- A set of denials, in the order the guard makes them. -/
structure ActionGuardDecision where
  permitted : Bool
  denials : List ActionGuardDenial
  approvalBindingSha256 : Option String

def ActionAdapterBinding.complete (adapter : ActionAdapterBinding) : Bool :=
  adapter.adapterId != "" && adapter.adapterVersion != "" && adapter.clientBuildProfileId != ""

/-- What an approval binds: neither the approval's own identity and times nor
the approver take part. -/
def approvalBindingBytes (gateDecisionId : String) (intent : ActionAttemptIntent) : List UInt8 :=
  [gateDecisionId, actionCapabilityName intent.capability, intent.draftId, intent.accountId,
   intent.conversationId, intent.adapter.adapterId, intent.adapter.adapterVersion,
   intent.adapter.clientBuildProfileId].flatMap fun value => utf8 value ++ [0]

def expectedApprovalBinding (gateDecisionId : String) (intent : ActionAttemptIntent) :
    Option String :=
  if !isSha256 gateDecisionId || !isSha256 intent.draftId || intent.accountId == "" ||
      intent.conversationId == "" || !intent.adapter.complete then none
  else some (Sha256.hexDigest (approvalBindingBytes gateDecisionId intent))

theorem approvalBindingBytes_withApproval (gateDecisionId : String)
    (intent : ActionAttemptIntent) (approval : ExternalApprovalEvidence) :
    approvalBindingBytes gateDecisionId { intent with approval := approval } =
      approvalBindingBytes gateDecisionId intent := rfl

theorem expectedApprovalBinding_withApproval (gateDecisionId : String)
    (intent : ActionAttemptIntent) (approval : ExternalApprovalEvidence) :
    expectedApprovalBinding gateDecisionId { intent with approval := approval } =
      expectedApprovalBinding gateDecisionId intent := rfl

def denyIf (condition : Bool) (denial : ActionGuardDenial) : List ActionGuardDenial :=
  if condition then [denial] else []

def gateDenials (context : ActionGuardContext) : List ActionGuardDenial :=
  denyIf (context.formatVersion != actionSafetyContractVersion ||
    !isSha256 context.gate.gateDecisionId || !context.requiredAdapter.complete)
    .invalidContract ++
  denyIf (!context.gate.acquisitionGatePassed) .acquisitionGateNotPassed ++
  denyIf (!context.gate.restorationGatePassed) .restorationGateNotPassed ++
  denyIf (!context.gate.mechanismApproved) .mechanismNotApproved ++
  denyIf (!context.gate.legalReviewApproved) .legalReviewNotApproved ++
  denyIf context.globalKillSwitchEngaged .killSwitchEngaged

def scopeDenials (context : ActionGuardContext) (intent : ActionAttemptIntent) :
    List ActionGuardDenial :=
  denyIf (intent.adapter.adapterId != context.requiredAdapter.adapterId ||
    intent.adapter.adapterVersion != context.requiredAdapter.adapterVersion)
    .adapterMismatch ++
  denyIf (intent.adapter.clientBuildProfileId != context.requiredAdapter.clientBuildProfileId)
    .clientBuildMismatch ++
  denyIf (!context.allowList.accountIds.contains intent.accountId) .accountNotAllowed ++
  denyIf (!context.allowList.conversationIds.contains intent.conversationId)
    .conversationNotAllowed ++
  denyIf (intent.recipientTitle == "" ||
    context.allowList.recipientTitles[intent.conversationId]? != some intent.recipientTitle)
    .recipientTitleNotAllowed ++
  denyIf (!context.allowList.capabilities.contains intent.capability) .capabilityNotAllowed

def approvalDenials (context : ActionGuardContext) (intent : ActionAttemptIntent) :
    List ActionGuardDenial :=
  denyIf (!isSha256 intent.approval.approvalId || intent.approval.approverId == "" ||
    !isSha256 intent.approval.immutableBindingSha256 ||
    intent.approval.approvedAtUnixNanoseconds ≥ intent.approval.expiresAtUnixNanoseconds)
    .approvalMalformed ++
  denyIf (expectedApprovalBinding context.gate.gateDecisionId intent !=
    some intent.approval.immutableBindingSha256) .approvalBindingMismatch ++
  denyIf (context.nowUnixNanoseconds < intent.approval.approvedAtUnixNanoseconds)
    .approvalNotYetValid ++
  denyIf (context.nowUnixNanoseconds ≥ intent.approval.expiresAtUnixNanoseconds)
    .approvalExpired ++
  denyIf (context.consumedApprovalIds.contains intent.approval.approvalId)
    .approvalAlreadyConsumed

def reservationDenials (context : ActionGuardContext) (intent : ActionAttemptIntent) :
    List ActionGuardDenial :=
  let now := context.nowUnixNanoseconds
  let rate := context.rate
  (if !isSha256 intent.idempotencyKey then [.idempotencyKeyMalformed]
   else denyIf (context.reservedIdempotencyKeys.contains intent.idempotencyKey)
     .idempotencyKeyAlreadyReserved) ++
  (if rate.windowStartedAtUnixNanoseconds ≥ rate.windowEndsAtUnixNanoseconds ||
      rate.maximumAttempts == 0 || now < rate.windowStartedAtUnixNanoseconds ||
      now ≥ rate.windowEndsAtUnixNanoseconds then [.rateLimitInvalid]
   else denyIf (rate.reservedAttempts ≥ rate.maximumAttempts) .rateLimitExceeded)

def assessActionAttempt (context : ActionGuardContext) (intent : ActionAttemptIntent) :
    ActionGuardDecision :=
  let denials := gateDenials context ++ scopeDenials context intent ++
    approvalDenials context intent ++ reservationDenials context intent
  { permitted := denials.isEmpty, denials
    approvalBindingSha256 := expectedApprovalBinding context.gate.gateDecisionId intent }

@[simp] theorem denyIf_eq_nil {condition : Bool} {denial : ActionGuardDenial} :
    denyIf condition denial = [] ↔ condition = false := by
  cases condition <;> simp [denyIf]

theorem expectedApprovalBinding_some {gateDecisionId binding : String}
    {intent : ActionAttemptIntent}
    (h : expectedApprovalBinding gateDecisionId intent = some binding) :
    isSha256 gateDecisionId = true ∧ isSha256 intent.draftId = true ∧
      binding = Sha256.hexDigest (approvalBindingBytes gateDecisionId intent) := by
  unfold expectedApprovalBinding at h
  split_ifs at h with hfields
  simp only [Bool.or_eq_true, not_or, Bool.not_eq_true, Bool.not_eq_false'] at hfields
  obtain ⟨⟨⟨⟨hgate, hdraft⟩, -⟩, -⟩, -⟩ := hfields
  exact ⟨hgate, hdraft, (Option.some.inj h).symm⟩

/-- An accepted attempt carries the binding computed from its own fields. -/
theorem binding_of_permitted {context : ActionGuardContext} {intent : ActionAttemptIntent}
    (h : (assessActionAttempt context intent).permitted = true) :
    expectedApprovalBinding context.gate.gateDecisionId intent =
      some intent.approval.immutableBindingSha256 := by
  have hdenials := List.isEmpty_iff.mp h
  rw [List.append_eq_nil_iff, List.append_eq_nil_iff] at hdenials
  have happroval := hdenials.1.2
  simp only [approvalDenials, List.append_eq_nil_iff, denyIf_eq_nil] at happroval
  simpa using happroval.1.1.1.2

end GreenBubbles.Connector
