import GreenBubbles.Library.Pretty
import GreenBubbles.Outbox.Store

/-! # The file of the outbox document

The members of the document in the order its fields are declared, an absent
attachment left out. The file is this text, indented, and a newline after it.
-/
namespace GreenBubbles.Outbox

open Library Library.Json

def optionJson {α : Type} (toJson : α → Json) : Option α → Json
  | none => .null
  | some value => toJson value

def naturalJson (value : ℕ) : Json := .int value

/-- A member that is left out when it has no value. -/
def optionalMember (name : String) : Option String → List (String × Json)
  | none => []
  | some value => [(name, .str value)]

def ActionCapability.wireName : ActionCapability → String
  | .textSend => "textSend"
  | .replySend => "replySend"
  | .imageSend => "imageSend"
  | .fileSend => "fileSend"

def SendRolloutStage.wireName : SendRolloutStage → String
  | .dryRun => "dryRun"
  | .selfSend => "selfSend"
  | .allowListed => "allowListed"

def VisualConfirmation.wireName : VisualConfirmation → String
  | .notAttempted => "notAttempted"
  | .confirmed => "confirmed"
  | .unconfirmed => "unconfirmed"

def SendCompletionKind.wireName : SendCompletionKind → String
  | .dryRunCompleted => "dryRunCompleted"
  | .observedSent => "observedSent"
  | .observedFailed => "observedFailed"

def OutboxEntryState.wireName : OutboxEntryState → String
  | .reserved => "reserved"
  | .attempted => "attempted"
  | .awaitingReconciliation => "awaitingReconciliation"

def OutboxEntry.toJson (entry : OutboxEntry) : Json :=
  .obj ([("actionId", .str entry.actionId),
    ("draftId", .str entry.draftId),
    ("approvalId", .str entry.approvalId),
    ("idempotencyKey", .str entry.idempotencyKey),
    ("capabilityId", .str entry.capabilityId),
    ("capabilityBindingSha256", .str entry.capabilityBindingSha256),
    ("accountId", .str entry.accountId),
    ("conversationId", .str entry.conversationId),
    ("bodySha256", .str entry.bodySha256),
    ("normalizedBodySha256", .str entry.normalizedBodySha256),
    ("capability", .str entry.capability.wireName)] ++
    optionalMember "attachmentSha256" entry.attachmentSha256 ++
    optionalMember "displayFileName" entry.displayFileName ++
    optionalMember "stagingDirectory" entry.stagingDirectory ++
    [("bytesPreservedInTransit", .bool entry.bytesPreservedInTransit),
    ("rolloutStage", .str entry.rolloutStage.wireName),
    ("permitSend", .bool entry.permitSend),
    ("state", .str entry.state.wireName),
    ("reservedAtUnixNanoseconds", naturalJson entry.reservedAtUnixNanoseconds),
    ("attemptedAtUnixNanoseconds", optionJson naturalJson entry.attemptedAtUnixNanoseconds),
    ("deadlineUnixNanoseconds", naturalJson entry.deadlineUnixNanoseconds)])

def OutboxCompletion.toJson (record : OutboxCompletion) : Json :=
  .obj ([("actionId", .str record.actionId),
    ("draftId", .str record.draftId),
    ("approvalId", .str record.approvalId),
    ("idempotencyKey", .str record.idempotencyKey),
    ("conversationId", .str record.conversationId),
    ("bodySha256", .str record.bodySha256),
    ("normalizedBodySha256", .str record.normalizedBodySha256),
    ("capability", .str record.capability.wireName)] ++
    optionalMember "attachmentSha256" record.attachmentSha256 ++
    optionalMember "displayFileName" record.displayFileName ++
    [("bytesPreservedInTransit", .bool record.bytesPreservedInTransit),
    ("rolloutStage", .str record.rolloutStage.wireName),
    ("attempted", .bool record.attempted),
    ("visualConfirmation", .str record.visualConfirmation.wireName),
    ("completion", .str record.completion.wireName),
    ("failure", optionJson (fun failure => .str failure.wireName) record.failure),
    ("reconciledByReplica", .bool record.reconciledByReplica),
    ("completedAtUnixNanoseconds", naturalJson record.completedAtUnixNanoseconds)])

def SendRateWindow.toJson (window : SendRateWindow) : Json :=
  .obj [("startedAtUnixNanoseconds", naturalJson window.startedAtUnixNanoseconds),
    ("endsAtUnixNanoseconds", naturalJson window.endsAtUnixNanoseconds),
    ("maximumAttempts", naturalJson window.maximumAttempts),
    ("reservedAttempts", naturalJson window.reservedAttempts)]

def SendCircuitBreaker.toJson (breaker : SendCircuitBreaker) : Json :=
  .obj [("consecutiveFailureCount", naturalJson breaker.consecutiveFailureCount),
    ("openedAtUnixNanoseconds", optionJson naturalJson breaker.openedAtUnixNanoseconds),
    ("openUntilUnixNanoseconds", optionJson naturalJson breaker.openUntilUnixNanoseconds),
    ("lastFailure", optionJson (fun failure => .str failure.wireName) breaker.lastFailure)]

namespace SendOutboxState

def setJson (values : Finset String) : Json := .arr ((inOrder values).map .str)

/-- The members after the account. -/
def laterMembers (state : SendOutboxState) : List (String × Json) :=
  [("rateWindow", state.rateWindow.toJson),
    ("circuitBreaker", state.circuitBreaker.toJson),
    ("inFlight", optionJson OutboxEntry.toJson state.inFlight),
    ("pendingReconciliation", .arr (state.pendingReconciliation.map OutboxEntry.toJson)),
    ("reservedIdempotencyKeys", setJson state.reservedIdempotencyKeys),
    ("consumedApprovalIds", setJson state.consumedApprovalIds),
    ("completions", .arr (state.completions.map OutboxCompletion.toJson)),
    ("reservedAttemptTotal", naturalJson state.reservedAttemptTotal),
    ("completedAttemptTotal", naturalJson state.completedAttemptTotal),
    ("recoveredAttemptTotal", naturalJson state.recoveredAttemptTotal),
    ("updatedAtUnixNanoseconds", naturalJson state.updatedAtUnixNanoseconds)]

def toJson (state : SendOutboxState) : Json :=
  .obj (("formatVersion", naturalJson state.formatVersion) ::
    ("accountId", .str state.accountId) :: state.laterMembers)

/-- The bytes the document takes without the newline that ends its file. -/
def encodedBytes (state : SendOutboxState) : ℕ := byteCount (pretty 0 state.toJson)

/-- What the account adds to the bytes of the other members. -/
theorem encodedBytes_account (state : SendOutboxState) :
    state.encodedBytes = byteCount (state.accountId.toList.flatMap escape) +
      { state with accountId := "" }.encodedBytes := by
  have hnone : "".toList.flatMap escape = [] := rfl
  simp only [encodedBytes, toJson, laterMembers, pretty, byteCount_member, renderString,
    byteCount_cons, byteCount_append, hnone, byteCount_nil]
  omega

theorem encodedBytes_fresh : (new "" 0).encodedBytes = 601 := by
  have hset : setJson ∅ = .arr [] := by simp [setJson, inOrder]
  simp only [encodedBytes, toJson, laterMembers, new, hset]
  decide +kernel

end SendOutboxState

end GreenBubbles.Outbox
