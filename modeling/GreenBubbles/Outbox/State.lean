import Mathlib.Data.Finset.Sort
import Mathlib.Data.String.Basic
import GreenBubbles.Outbox.Contract

/-! # The persisted send outbox

The document of the send outbox: reservations, parked attempts, terminal
records, the attempt window and the circuit breaker. Unix-nanosecond `u128` and
`u64` counters are natural numbers with the saturating additions of the source.
-/
namespace GreenBubbles.Outbox

def maximumReservedIdempotencyKeys : ℕ := 100000
def maximumCompletionHistory : ℕ := 512
def maximumPendingReconciliation : ℕ := 16
def maximumOutboxBytes : ℕ := 8 * 1024 * 1024
def sendOutboxFormatVersion : ℕ := 1

inductive OutboxEntryState where
  | reserved
  | attempted
  | awaitingReconciliation
  deriving DecidableEq

structure OutboxEntry where
  actionId : String
  draftId : String
  approvalId : String
  idempotencyKey : String
  capabilityId : String
  capabilityBindingSha256 : String
  accountId : String
  conversationId : String
  bodySha256 : String
  normalizedBodySha256 : String
  capability : ActionCapability
  attachmentSha256 : Option String
  displayFileName : Option String
  stagingDirectory : Option String
  bytesPreservedInTransit : Bool
  rolloutStage : SendRolloutStage
  permitSend : Bool
  state : OutboxEntryState
  reservedAtUnixNanoseconds : ℕ
  attemptedAtUnixNanoseconds : Option ℕ
  deadlineUnixNanoseconds : ℕ
  deriving DecidableEq

def OutboxEntry.structurallyValid (entry : OutboxEntry) : Bool :=
  isSha256 entry.actionId && isSha256 entry.draftId && isSha256 entry.approvalId &&
    isSha256 entry.idempotencyKey && isSha256 entry.capabilityId &&
    isSha256 entry.capabilityBindingSha256 && isSha256 entry.bodySha256 &&
    isSha256 entry.normalizedBodySha256 && entry.attachmentSha256.all isSha256 &&
    (entry.capability.carriesAttachment == entry.attachmentSha256.isSome) &&
    (entry.attachmentSha256.isSome == entry.stagingDirectory.isSome) &&
    (entry.attachmentSha256.isSome == entry.displayFileName.isSome) &&
    !entry.accountId.isEmpty && !entry.conversationId.isEmpty &&
    decide (entry.reservedAtUnixNanoseconds < entry.deadlineUnixNanoseconds) &&
    (!entry.permitSend || entry.rolloutStage.permitsReturn)

structure OutboxCompletion where
  actionId : String
  draftId : String
  approvalId : String
  idempotencyKey : String
  conversationId : String
  bodySha256 : String
  normalizedBodySha256 : String
  capability : ActionCapability
  attachmentSha256 : Option String
  displayFileName : Option String
  bytesPreservedInTransit : Bool
  rolloutStage : SendRolloutStage
  attempted : Bool
  visualConfirmation : VisualConfirmation
  completion : SendCompletionKind
  failure : Option SendFailureCode
  reconciledByReplica : Bool
  completedAtUnixNanoseconds : ℕ
  deriving DecidableEq

structure SendCompletionRecord where
  outcome : SendCompletionOutcome
  attempted : Bool
  visualConfirmation : VisualConfirmation
  failure : Option SendFailureCode
  reconciledByReplica : Bool
  deriving DecidableEq

structure SendRateWindow where
  startedAtUnixNanoseconds : ℕ
  endsAtUnixNanoseconds : ℕ
  maximumAttempts : ℕ
  reservedAttempts : ℕ
  deriving DecidableEq

/-- Rolls the window forward once it has elapsed; a running window keeps its count. -/
def SendRateWindow.rolled (window : SendRateWindow) (now windowNanoseconds maximumAttempts : ℕ) :
    SendRateWindow :=
  if window.endsAtUnixNanoseconds ≤ now ∨ now < window.startedAtUnixNanoseconds then
    { startedAtUnixNanoseconds := now
      endsAtUnixNanoseconds := saturatingAdd 128 now (max windowNanoseconds 1)
      maximumAttempts := maximumAttempts
      reservedAttempts := 0 }
  else { window with maximumAttempts := maximumAttempts }

structure SendCircuitBreaker where
  consecutiveFailureCount : ℕ
  openedAtUnixNanoseconds : Option ℕ
  openUntilUnixNanoseconds : Option ℕ
  lastFailure : Option SendFailureCode
  deriving DecidableEq

namespace SendCircuitBreaker

def closed : SendCircuitBreaker := ⟨0, none, none, none⟩

def isOpen (breaker : SendCircuitBreaker) (now : ℕ) : Bool :=
  breaker.openUntilUnixNanoseconds.any (fun limit => decide (now < limit))

def recordFailure (breaker : SendCircuitBreaker) (now failureThreshold cooldown : ℕ)
    (failure : Option SendFailureCode) : SendCircuitBreaker :=
  let count := saturatingAdd 32 breaker.consecutiveFailureCount 1
  if 0 < failureThreshold ∧ failureThreshold ≤ count then
    ⟨count, some now, some (saturatingAdd 128 now cooldown), failure⟩
  else { breaker with consecutiveFailureCount := count, lastFailure := failure }

def recordSuccess (_breaker : SendCircuitBreaker) : SendCircuitBreaker := closed

end SendCircuitBreaker

structure SendOutboxState where
  formatVersion : ℕ
  accountId : String
  rateWindow : SendRateWindow
  circuitBreaker : SendCircuitBreaker
  inFlight : Option OutboxEntry
  pendingReconciliation : List OutboxEntry
  reservedIdempotencyKeys : Finset String
  consumedApprovalIds : Finset String
  completions : List OutboxCompletion
  reservedAttemptTotal : ℕ
  completedAttemptTotal : ℕ
  recoveredAttemptTotal : ℕ
  updatedAtUnixNanoseconds : ℕ
  deriving DecidableEq

/-- An ordered set is read in the order of its elements. -/
def SendOutboxState.inOrder (values : Finset String) : List String := values.sort (· ≤ ·)

@[simp] theorem SendOutboxState.mem_inOrder {value : String} {values : Finset String} :
    value ∈ SendOutboxState.inOrder values ↔ value ∈ values := Finset.mem_sort _

namespace SendOutboxState

/-- A fresh document: its window has already elapsed, so the first reservation opens one. -/
def new (accountId : String) (now : ℕ) : SendOutboxState where
  formatVersion := sendOutboxFormatVersion
  accountId := accountId
  rateWindow := ⟨now, now, 0, 0⟩
  circuitBreaker := .closed
  inFlight := none
  pendingReconciliation := []
  reservedIdempotencyKeys := ∅
  consumedApprovalIds := ∅
  completions := []
  reservedAttemptTotal := 0
  completedAttemptTotal := 0
  recoveredAttemptTotal := 0
  updatedAtUnixNanoseconds := now

/-- Unresolved entries, the one in flight first. -/
def unresolved (state : SendOutboxState) : List OutboxEntry :=
  state.inFlight.toList ++ state.pendingReconciliation

def validate (state : SendOutboxState) (accountId : String) : Except RestoreError Unit :=
  if state.formatVersion ≠ sendOutboxFormatVersion then
    .error (.integrity "send outbox format version is unsupported")
  else if state.accountId ≠ accountId then
    .error (.integrity "send outbox belongs to a different account")
  else if maximumReservedIdempotencyKeys < state.reservedIdempotencyKeys.card ∨
      maximumCompletionHistory < state.completions.length ∨
      maximumPendingReconciliation < state.pendingReconciliation.length then
    .error (.integrity "send outbox exceeds its bounded capacity")
  else if state.unresolved.any (fun entry => !entry.structurallyValid ||
      entry.accountId != accountId ||
      decide (entry.idempotencyKey ∉ state.reservedIdempotencyKeys)) then
    .error (.integrity "send outbox entry is malformed or unreserved")
  else .ok ()

end SendOutboxState

end GreenBubbles.Outbox
