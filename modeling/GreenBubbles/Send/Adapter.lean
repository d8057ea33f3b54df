import Mathlib.Logic.Function.Basic
import GreenBubbles.Outbox.Slot
import GreenBubbles.Send.Capability

/-! # The send adapter at work

`execute` and `reconcile` calls of any number of processes over one durable
outbox, next to the helper service that works on the capabilities it was given.
A step is one durable transaction, one call or one move of the helper, and a
process may die between any two of them.
-/
namespace GreenBubbles.Send

open Connector (ActionDraft)
open Outbox (Fault OutboxCompletion OutboxEntry Request SendCompletionKind SendFailureCode
  SendOutboxState closings submit)

/-- Where the helper service is with the capability of one call. Killing the
caller's client does not recall a capability the service holds. -/
inductive Job where
  | idle
  | queued
  | running
  | pressed
  | refused
  | replied (outcome : HelperSendOutcome)
  deriving DecidableEq

inductive Phase where
  | minted
  | reserved
  | ready
  | calling
  | answered (result : Except SendFailureCode HelperSendOutcome)
  | over

/-- One `execute` call and what the helper made of it. -/
structure Attempt where
  capability : ActionCapabilityEnvelope
  phase : Phase
  job : Job

inductive SendMatchStrength where
  | none
  | bodyDigest
  | attachmentFileName
  | attachmentPresenceOnly
  deriving DecidableEq

structure SendReconciliationObservation where
  formatVersion : ℕ
  idempotencyKey : String
  accountId : String
  conversationId : String
  outgoingMessageFound : Bool
  normalizedBodyMatched : Bool
  attachmentReferenceFound : Bool
  displayFileNameMatched : Bool
  matchStrength : SendMatchStrength
  canonicalId : Option String
  deriving DecidableEq

/-- What counts as proof depends on what the client preserved. -/
def SendReconciliationObservation.matched (observation : SendReconciliationObservation)
    (entry : OutboxEntry) : Bool :=
  match observation.matchStrength with
  | .bodyDigest => !entry.capability.carriesAttachment && observation.normalizedBodyMatched
  | .attachmentFileName =>
    entry.capability.carriesAttachment && observation.attachmentReferenceFound &&
      observation.displayFileNameMatched
  | .attachmentPresenceOnly =>
    !entry.bytesPreservedInTransit && observation.attachmentReferenceFound
  | .none => false

def attemptedAt (entry : OutboxEntry) : ℕ :=
  entry.attemptedAtUnixNanoseconds.getD entry.reservedAtUnixNanoseconds

namespace SendAdapterConfig

def graceElapsed (config : SendAdapterConfig) (entry : OutboxEntry) (now : ℕ) : Bool :=
  secondsToNanoseconds config.reconciliationGraceSeconds ≤ now - attemptedAt entry

/-- The kind a parked attempt is resolved as, if it is resolved at all. -/
def reconciliationKind (config : SendAdapterConfig) (entry : OutboxEntry)
    (observation : SendReconciliationObservation) (now : ℕ) : Option SendCompletionKind :=
  if observation.outgoingMessageFound && observation.matched entry then some .observedSent
  else if config.graceElapsed entry now then some .observedFailed
  else none

def parkedAttempt (config : SendAdapterConfig) (state : SendOutboxState)
    (observation : SendReconciliationObservation) : Except RestoreError OutboxEntry :=
  match state.pendingReconciliation.find? (·.idempotencyKey = observation.idempotencyKey) with
  | none => .error (.integrity "no parked attempt matches this idempotency key")
  | some entry =>
    if observation.formatVersion != sendContractVersion ||
        observation.accountId != config.accountId ||
        observation.conversationId != entry.conversationId then
      .error (.integrity "reconciliation observation does not belong to the parked attempt")
    else .ok entry

end SendAdapterConfig

/-- A `reconcile` call that has read the outbox and decided. -/
structure Reconciliation where
  idempotencyKey : String
  kind : SendCompletionKind
  now : ℕ

/-- The verdict of PRECHECK. -/
structure SendPrecheckReport where
  permitted : Bool
  permitSend : Bool

/-- What a run is judged by, newest first: presses of Return, and entries
closed together with their terminal records. -/
inductive Observation where
  | pressed (capability : ActionCapabilityEnvelope)
  | closed (entry : OutboxEntry) (record : OutboxCompletion)

structure World where
  outbox : Outbox.World
  attempts : ℕ → Option Attempt
  reconciliations : ℕ → Option Reconciliation
  log : List Observation

inductive Event where
  | opened (process now : ℕ) (fault : Fault)
  | executed (process : ℕ) (draft : ActionDraft) (approvalId : String)
      (profile : CalibrationBinding) (staged : Option StagedAttachment)
      (report : SendPrecheckReport) (now : ℕ)
  | reserved (process : ℕ) (fault : Fault)
  | marked (process : ℕ) (fault : Fault)
  | called (process : ℕ) (spawned : Bool)
  | helperBegan (process now : ℕ) (ready : Bool)
  | helperPressed (process : ℕ)
  | helperAnswered (process : ℕ) (outcome : HelperSendOutcome)
  | returned (process : ℕ) (result : Except SendFailureCode HelperSendOutcome)
  | completed (process elapsed : ℕ) (fault : Fault)
  | observed (process : ℕ) (observation : SendReconciliationObservation) (now : ℕ)
  | resolved (process : ℕ) (fault : Fault)
  | crashed (process : ℕ)

/-- A caller no longer waits. Before its reservation it leaves nothing behind. -/
def Attempt.ended (attempt : Attempt) : Option Attempt :=
  match attempt.phase with
  | .minted => none
  | _ => some { attempt with phase := .over }

namespace World

def initial : World := ⟨.initial, fun _ => none, fun _ => none, []⟩

def follow (world : World) (outbox : Outbox.World) : World :=
  { world with
    outbox := outbox
    log := (closings world.outbox.current outbox.current).map (fun (entry, record) =>
      .closed entry record) ++ world.log }

def setAttempt (world : World) (process : ℕ) (attempt : Option Attempt) : World :=
  { world with attempts := Function.update world.attempts process attempt }

def setReconciliation (world : World) (process : ℕ) (reconciliation : Option Reconciliation) :
    World :=
  { world with
    reconciliations := Function.update world.reconciliations process reconciliation }

end World

variable (adapter : SendAdapter) (documentBytes : SendOutboxState → ℕ)

/-- Whether the process learns that its request was granted. -/
def granted (world : World) (process : ℕ) (request : Request) (now : ℕ) (fault : Fault) : Bool :=
  match world.outbox.processes.lookup process with
  | none => false
  | some accountId =>
    (submit documentBytes world.outbox.document accountId request now fault).1.isOk

def transact (world : World) (process : ℕ) (request : Request) (now : ℕ) (fault : Fault) : World :=
  world.follow (Outbox.step documentBytes world.outbox (.requested process request now fault))

/-- `execute` up to its capability. PRECHECK refuses, or nothing is minted, and
the call ends without a trace. -/
def executed (world : World) (process : ℕ) (draft : ActionDraft) (approvalId : String)
    (profile : CalibrationBinding) (staged : Option StagedAttachment)
    (report : SendPrecheckReport) (now : ℕ) : World :=
  match world.attempts process, world.outbox.processes.lookup process with
  | none, some _ =>
    if !report.permitted then world
    else
      match adapter.config.mintCapability draft approvalId profile staged report.permitSend now with
      | .error _ => world
      | .ok capability => world.setAttempt process (some ⟨capability, .minted, .idle⟩)
  | _, _ => world

/-- The reservation is the last synchronous gate. -/
def reserved (world : World) (process : ℕ) (fault : Fault) : World :=
  match world.attempts process with
  | some ⟨capability, .minted, job⟩ =>
    let request := Request.reserve capability.outboxEntry
      (adapter.config.attemptWindowSeconds |> SendAdapterConfig.secondsToNanoseconds)
      adapter.config.maximumAttemptsPerWindow
    let now := capability.issuedAtUnixNanoseconds
    (transact documentBytes world process request now fault).setAttempt process
      (if granted documentBytes world process request now fault then
        some ⟨capability, .reserved, job⟩ else none)
  | _ => world

/-- The transition that precedes any dispatch allowed to press Return. -/
def marked (world : World) (process : ℕ) (fault : Fault) : World :=
  match world.attempts process with
  | some ⟨capability, .reserved, job⟩ =>
    if capability.permitSend then
      let request := Request.markAttempted capability.idempotencyKey
      let now := capability.issuedAtUnixNanoseconds
      (transact documentBytes world process request now fault).setAttempt process
        (some ⟨capability,
          if granted documentBytes world process request now fault then .ready else .over, job⟩)
    else world.setAttempt process (some ⟨capability, .ready, job⟩)
  | _ => world

def called (world : World) (process : ℕ) (spawned : Bool) : World :=
  match world.attempts process with
  | some ⟨capability, .ready, .idle⟩ =>
    world.setAttempt process (some (
      if spawned then ⟨capability, .calling, .queued⟩
      else ⟨capability, .answered (.error .engineUnavailable), .idle⟩))
  | _ => world

/-- The helper checks the validity of a capability when its run begins, and only then. -/
def helperBegan (world : World) (process now : ℕ) (ready : Bool) : World :=
  match world.attempts process with
  | some ⟨capability, phase, .queued⟩ =>
    world.setAttempt process (some ⟨capability, phase,
      if ready && (capability.validate now).isOk then .running else .refused⟩)
  | _ => world

def helperPressed (world : World) (process : ℕ) : World :=
  match world.attempts process with
  | some ⟨capability, phase, .running⟩ =>
    if capability.permitSend then
      { world.setAttempt process (some ⟨capability, phase, .pressed⟩) with
        log := .pressed capability :: world.log }
    else world
  | _ => world

/-- A run reports faithfully whether it pressed Return. -/
def helperAnswered (world : World) (process : ℕ) (outcome : HelperSendOutcome) : World :=
  match world.attempts process with
  | some ⟨capability, phase, job⟩ =>
    if (job = .running ∧ outcome.attempted = false) ∨ (job = .pressed ∧ outcome.attempted = true) then
      world.setAttempt process (some ⟨capability, phase, .replied outcome⟩)
    else world
  | _ => world

/-- An outcome arrives only after the helper replied; a failure may strike at any time. -/
def returned (world : World) (process : ℕ) (result : Except SendFailureCode HelperSendOutcome) :
    World :=
  match world.attempts process with
  | some ⟨capability, .calling, job⟩ =>
    match result with
    | .error failure =>
      world.setAttempt process (some ⟨capability, .answered (.error failure), job⟩)
    | .ok outcome =>
      if job = .replied outcome then
        world.setAttempt process (some ⟨capability, .answered (.ok outcome), job⟩)
      else world
  | _ => world

/-- Settles on the caller's own clock, advanced by the measured duration of the call. -/
def completed (world : World) (process elapsed : ℕ) (fault : Fault) : World :=
  match world.attempts process with
  | some ⟨capability, .answered result, job⟩ =>
    let request := Request.complete capability.idempotencyKey (settleDispatch capability result)
      adapter.config.circuitBreakerFailureThreshold
      (adapter.config.circuitBreakerCooldownSeconds |> SendAdapterConfig.secondsToNanoseconds)
    let settledAt := saturatingAdd 128 capability.issuedAtUnixNanoseconds elapsed
    (transact documentBytes world process request settledAt fault).setAttempt process
      (some ⟨capability, .over, job⟩)
  | _ => world

/-- `reconcile` reads the outbox and decides; nothing here can dispatch. -/
def observed (world : World) (process : ℕ) (observation : SendReconciliationObservation)
    (now : ℕ) : World :=
  match world.outbox.processes.lookup process,
    adapter.config.parkedAttempt world.outbox.current observation with
  | some _, .ok entry =>
    match adapter.config.reconciliationKind entry observation now with
    | some kind =>
      world.setReconciliation process (some ⟨observation.idempotencyKey, kind, now⟩)
    | none => world
  | _, _ => world

def resolved (world : World) (process : ℕ) (fault : Fault) : World :=
  match world.reconciliations process with
  | some ⟨key, kind, now⟩ =>
    (transact documentBytes world process (.resolvePending key kind true) now fault).setReconciliation
      process none
  | none => world

def crashed (world : World) (process : ℕ) : World :=
  ((world.follow (Outbox.step documentBytes world.outbox (.crashed process))).setAttempt process
    ((world.attempts process).bind Attempt.ended)).setReconciliation process none

def step (world : World) : Event → World
  | .opened process now fault =>
    world.follow (Outbox.step documentBytes world.outbox
      (.opened process adapter.config.accountId now fault))
  | .executed process draft approvalId profile staged report now =>
    executed adapter world process draft approvalId profile staged report now
  | .reserved process fault => reserved adapter documentBytes world process fault
  | .marked process fault => marked documentBytes world process fault
  | .called process spawned => called world process spawned
  | .helperBegan process now ready => helperBegan world process now ready
  | .helperPressed process => helperPressed world process
  | .helperAnswered process outcome => helperAnswered world process outcome
  | .returned process result => returned world process result
  | .completed process elapsed fault => completed adapter documentBytes world process elapsed fault
  | .observed process observation now => observed adapter world process observation now
  | .resolved process fault => resolved documentBytes world process fault
  | .crashed process => crashed documentBytes world process

end GreenBubbles.Send
