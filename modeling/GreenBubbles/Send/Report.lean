import GreenBubbles.Send.Finality

/-! # What the report of an attempt says

A reservation is marked, dispatched and settled. The report is made of the record
the reservation is settled with, the outbox keeps an entry or a completion.
-/
namespace GreenBubbles.Send

open Outbox (OutboxCompletion OutboxEntry SendCompletionKind SendCompletionRecord SendFailureCode
  SendOutboxState VisualConfirmation)

inductive ActionLifecycleState where
  | drafted
  | approved
  | attempted
  | observedSent
  | observedFailed
  | unknown
  deriving DecidableEq

/-- A dry run never becomes attempted, so it creates no lifecycle state. -/
def lifecycleState : SendCompletionKind → Option ActionLifecycleState
  | .dryRunCompleted => none
  | .observedSent => some .observedSent
  | .observedFailed => some .observedFailed

structure SendAttemptReport where
  formatVersion : ℕ
  dispatched : Bool
  attempted : Bool
  visualConfirmation : VisualConfirmation
  completion : Option SendCompletionKind
  awaitingReconciliation : Bool
  lifecycleState : Option ActionLifecycleState
  stageReached : Option SendStage
  failure : Option SendFailureCode
  operatorAction : Option String
  capabilityId : String
  idempotencyKey : String
  recallDeadlineUnixNanoseconds : Option ℕ
  completedAtUnixNanoseconds : ℕ
  deriving DecidableEq

/-- Only an answer of the helper tells a stage. -/
def settledStage : Except SendFailureCode HelperSendOutcome → Option SendStage
  | .error _ => none
  | .ok outcome => some outcome.stageReached

def completionKind (record : SendCompletionRecord) : Option SendCompletionKind :=
  match record.outcome with
  | .completed kind => some kind
  | .awaitingReconciliation => none

/-- The stages from the press of Return on. -/
def SendStage.reachesSend : SendStage → Bool
  | .send | .sendVerify => true
  | _ => false

namespace SendAdapterConfig

/-- What `execute` does with a reservation: the mark before a dispatch allowed to
press Return, and the completion after it. -/
def settleReservation (config : SendAdapterConfig) (reserved : SendOutboxState)
    (capability : ActionCapabilityEnvelope)
    (dispatched : Except SendFailureCode HelperSendOutcome) (settledAt : ℕ) :
    Except SendFailureCode Unit × SendOutboxState :=
  let marked :=
    if capability.permitSend then
      reserved.markAttempted capability.idempotencyKey capability.issuedAtUnixNanoseconds
    else (.ok (), reserved)
  match marked with
  | (.error failure, state) => (.error failure, state)
  | (.ok (), state) =>
    state.complete capability.idempotencyKey (settleDispatch capability dispatched) settledAt
      config.circuitBreakerFailureThreshold
      (secondsToNanoseconds config.circuitBreakerCooldownSeconds)

def attemptReport (config : SendAdapterConfig) (capability : ActionCapabilityEnvelope)
    (dispatched : Except SendFailureCode HelperSendOutcome) (settledAt : ℕ) : SendAttemptReport :=
  let record := settleDispatch capability dispatched
  let completion := completionKind record
  { formatVersion := sendContractVersion
    dispatched := true
    attempted := record.attempted
    visualConfirmation := record.visualConfirmation
    completion := completion
    awaitingReconciliation := completion.isNone
    lifecycleState := completion.bind Send.lifecycleState
    stageReached := settledStage dispatched
    failure := record.failure
    operatorAction := record.failure.map SendFailureCode.operatorAction
    capabilityId := capability.capabilityId
    idempotencyKey := capability.idempotencyKey
    recallDeadlineUnixNanoseconds :=
      if record.attempted then
        some (saturatingAdd 128 settledAt (secondsToNanoseconds config.recallWindowSeconds))
      else none
    completedAtUnixNanoseconds := settledAt }

end SendAdapterConfig

/-- The helper failed, was not believed, or said Return was or may have been pressed. -/
def Inconclusive (capability : ActionCapabilityEnvelope) :
    Except SendFailureCode HelperSendOutcome → Prop
  | .error _ => True
  | .ok outcome => outcome.validateAgainst capability ≠ .ok () ∨ outcome.attempted = true ∨
      outcome.stageReached.reachesSend = true

/-- The entry is parked, with all it consumed. -/
structure Parks (capability : ActionCapabilityEnvelope) (before after : SendOutboxState) :
    Prop where
  parked : ∃ entry, after.pendingReconciliation = [entry] ∧
    entry.state = .awaitingReconciliation ∧ entry.capabilityId = capability.capabilityId ∧
    entry.idempotencyKey = capability.idempotencyKey ∧ entry.approvalId = capability.approvalId
  idle : after.inFlight = none
  unclosed : after.completions = before.completions
  key : capability.idempotencyKey ∈ after.reservedIdempotencyKeys
  approval : capability.approvalId ∈ after.consumedApprovalIds

/-- The report says what the outbox keeps of the attempt: of a parked entry whether
and as what failure it was attempted, of a closed one its completion. -/
def Describes (report : SendAttemptReport) (after : SendOutboxState) : Prop :=
  (∃ entry, after.pendingReconciliation = [entry] ∧
    entry.idempotencyKey = report.idempotencyKey ∧ report.awaitingReconciliation = true ∧
    report.completion = none ∧
    report.attempted = entry.attemptedAtUnixNanoseconds.isSome ∧
    report.failure = after.circuitBreaker.lastFailure) ∨
  (after.pendingReconciliation = [] ∧ ∃ record, after.completions.getLast? = some record ∧
    record.idempotencyKey = report.idempotencyKey ∧ report.awaitingReconciliation = false ∧
    report.completion = some record.completion ∧ report.attempted = record.attempted ∧
    report.failure = record.failure)

structure Conservative (capability : ActionCapabilityEnvelope)
    (dispatched : Except SendFailureCode HelperSendOutcome) (before after : SendOutboxState)
    (report : SendAttemptReport) : Prop where
  unsent : ∀ record ∈ after.completions,
    record ∈ before.completions ∨ record.completion ≠ .observedSent
  parks : capability.permitSend = true → Inconclusive capability dispatched →
    Parks capability before after
  closes : capability.permitSend = false → after.pendingReconciliation = []
  describes : Describes report after

/-- A dispatch that may press Return is answered by an outcome that is believed and
either says Return was pressed or stopped before it. -/
def Decisive (capability : ActionCapabilityEnvelope)
    (dispatched : Except SendFailureCode HelperSendOutcome) : Prop :=
  capability.permitSend = true → ∃ outcome, dispatched = .ok outcome ∧
    outcome.validateAgainst capability = .ok () ∧
    (outcome.attempted = true ∨ outcome.stageReached.reachesSend = false)

/-- The entry in flight while its capability is dispatched. -/
def dispatchedEntry (capability : ActionCapabilityEnvelope) : OutboxEntry :=
  if capability.permitSend then
    { capability.outboxEntry with
      state := .attempted
      attemptedAtUnixNanoseconds := some capability.issuedAtUnixNanoseconds }
  else capability.outboxEntry

/-- The document while a capability is dispatched. -/
def dispatchedOutbox (capability : ActionCapabilityEnvelope) (reserved : SendOutboxState) :
    SendOutboxState :=
  if capability.permitSend then
    { reserved with
      inFlight := some (dispatchedEntry capability)
      updatedAtUnixNanoseconds := capability.issuedAtUnixNanoseconds }
  else reserved

theorem dispatchedEntry_attempted (capability : ActionCapabilityEnvelope) :
    (dispatchedEntry capability).attemptedAtUnixNanoseconds.isSome = capability.permitSend := by
  cases hpermit : capability.permitSend <;>
    simp [dispatchedEntry, hpermit, ActionCapabilityEnvelope.outboxEntry]

/-- The mark changes none of the identities of an entry. -/
theorem dispatchedEntry_identity (capability : ActionCapabilityEnvelope) :
    (dispatchedEntry capability).idempotencyKey = capability.idempotencyKey ∧
      (dispatchedEntry capability).approvalId = capability.approvalId ∧
      (dispatchedEntry capability).capabilityId = capability.capabilityId := by
  cases hpermit : capability.permitSend <;>
    simp [dispatchedEntry, hpermit, ActionCapabilityEnvelope.outboxEntry]

/-- What the mark leaves of a document whose reservation was just made. -/
structure Dispatched (capability : ActionCapabilityEnvelope) (before outbox : SendOutboxState) :
    Prop where
  inFlight : outbox.inFlight = some (dispatchedEntry capability)
  pending : outbox.pendingReconciliation = []
  completions : outbox.completions = before.completions
  key : capability.idempotencyKey ∈ outbox.reservedIdempotencyKeys

theorem reserve_dispatched {state before : SendOutboxState} {capability : ActionCapabilityEnvelope}
    {now window limit : ℕ}
    (h : state.reserve capability.outboxEntry now window limit = (.ok (), before)) :
    Dispatched capability before (dispatchedOutbox capability before) := by
  have hreserve := SendOutboxState.reserve_ok h
  have hkey : capability.idempotencyKey ∈ before.reservedIdempotencyKeys := by
    rw [hreserve.keys]
    exact Finset.mem_insert_self _ _
  have hflight : before.inFlight = some capability.outboxEntry := hreserve.inFlight
  cases hpermit : capability.permitSend with
  | true =>
    refine ⟨?_, ?_, ?_, ?_⟩ <;> simp [dispatchedOutbox, hpermit, hreserve.pending, hkey]
  | false =>
    refine ⟨?_, ?_, ?_, ?_⟩ <;>
      simp [dispatchedOutbox, dispatchedEntry, hpermit, hflight, hreserve.pending, hkey]

theorem settleReservation_eq (config : SendAdapterConfig) {before : SendOutboxState}
    {capability : ActionCapabilityEnvelope}
    (hflight : before.inFlight = some capability.outboxEntry)
    (h : Dispatched capability before (dispatchedOutbox capability before))
    (dispatched : Except SendFailureCode HelperSendOutcome) (settledAt : ℕ) :
    config.settleReservation before capability dispatched settledAt =
      (.ok (), (dispatchedOutbox capability before).settled (dispatchedEntry capability)
        (settleDispatch capability dispatched) settledAt config.circuitBreakerFailureThreshold
        (SendAdapterConfig.secondsToNanoseconds config.circuitBreakerCooldownSeconds)) := by
  have hcomplete := SendOutboxState.complete_eq (settleDispatch capability dispatched) settledAt
    config.circuitBreakerFailureThreshold
    (SendAdapterConfig.secondsToNanoseconds config.circuitBreakerCooldownSeconds) h.inFlight h.pending
  rw [(dispatchedEntry_identity capability).1] at hcomplete
  have hmarked : (if capability.permitSend then
      before.markAttempted capability.idempotencyKey capability.issuedAtUnixNanoseconds
      else (.ok (), before)) = (.ok (), dispatchedOutbox capability before) := by
    cases hpermit : capability.permitSend with
    | false => simp [dispatchedOutbox, hpermit]
    | true =>
      simp [SendOutboxState.markAttempted, hflight, Option.filter_some, dispatchedOutbox,
        dispatchedEntry, hpermit, ActionCapabilityEnvelope.outboxEntry]
  simp only [SendAdapterConfig.settleReservation, hmarked, hcomplete]

section Settled

variable {config : SendAdapterConfig} {before outbox : SendOutboxState}
  {capability : ActionCapabilityEnvelope}
  {dispatched : Except SendFailureCode HelperSendOutcome} {settledAt threshold cooldown : ℕ}

theorem recordFailure_last (breaker : Outbox.SendCircuitBreaker) (now threshold cooldown : ℕ)
    (failure : Option SendFailureCode) :
    (breaker.recordFailure now threshold cooldown failure).lastFailure = failure := by
  unfold Outbox.SendCircuitBreaker.recordFailure
  dsimp only
  split_ifs <;> rfl

theorem parks_of_awaiting (h : Dispatched capability before outbox)
    (houtcome : (settleDispatch capability dispatched).outcome = .awaitingReconciliation) :
    Parks capability before (outbox.settled (dispatchedEntry capability)
      (settleDispatch capability dispatched) settledAt threshold cooldown) := by
  obtain ⟨hkey, happroval, hcapability⟩ := dispatchedEntry_identity capability
  refine ⟨⟨{ dispatchedEntry capability with state := .awaitingReconciliation },
    ?_, rfl, hcapability, hkey, happroval⟩, ?_, ?_, ?_, ?_⟩
  · simp [SendOutboxState.settled, houtcome, SendOutboxState.park, h.pending]
  · simp [SendOutboxState.settled, houtcome, SendOutboxState.park]
  · simp [SendOutboxState.settled, houtcome, SendOutboxState.park, h.completions]
  · simp [SendOutboxState.settled, houtcome, SendOutboxState.park, h.key]
  · simp [SendOutboxState.settled, houtcome, SendOutboxState.park, happroval]

/-- Of a parked entry the report tells no more than what the helper said. -/
theorem describes_awaiting (h : Dispatched capability before outbox)
    (houtcome : (settleDispatch capability dispatched).outcome = .awaitingReconciliation) :
    Describes (config.attemptReport capability dispatched settledAt)
        (outbox.settled (dispatchedEntry capability) (settleDispatch capability dispatched)
          settledAt threshold cooldown) ↔
      (settleDispatch capability dispatched).attempted = capability.permitSend := by
  have hpending : (outbox.settled (dispatchedEntry capability)
      (settleDispatch capability dispatched) settledAt threshold cooldown).pendingReconciliation =
        [{ dispatchedEntry capability with state := .awaitingReconciliation }] := by
    simp [SendOutboxState.settled, houtcome, SendOutboxState.park, h.pending]
  have hfailure : (outbox.settled (dispatchedEntry capability)
      (settleDispatch capability dispatched) settledAt threshold cooldown).circuitBreaker.lastFailure =
        (settleDispatch capability dispatched).failure := by
    simp [SendOutboxState.settled, houtcome, recordFailure_last]
  constructor
  · rintro (⟨entry, hentry, -, -, -, hattempted, -⟩ | ⟨hnone, -⟩)
    · rw [hpending] at hentry
      obtain rfl := List.singleton_inj.mp hentry
      exact hattempted.trans (dispatchedEntry_attempted capability)
    · rw [hpending] at hnone
      cases hnone
  · intro hattempted
    refine .inl ⟨_, hpending, (dispatchedEntry_identity capability).1, ?_, ?_, ?_, hfailure.symm⟩
    · simp [SendAdapterConfig.attemptReport, completionKind, houtcome]
    · simp [SendAdapterConfig.attemptReport, completionKind, houtcome]
    · exact hattempted.trans (dispatchedEntry_attempted capability).symm

theorem completions_of_completed (settledAt threshold cooldown : ℕ) {kind : SendCompletionKind}
    (h : Dispatched capability before outbox)
    (houtcome : (settleDispatch capability dispatched).outcome = .completed kind) :
    (outbox.settled (dispatchedEntry capability) (settleDispatch capability dispatched) settledAt
        threshold cooldown).pendingReconciliation = [] ∧
      (outbox.settled (dispatchedEntry capability) (settleDispatch capability dispatched) settledAt
        threshold cooldown).completions =
        (outbox.pushCompletion (Outbox.completion (dispatchedEntry capability) kind
          (settleDispatch capability dispatched) settledAt)).completions := by
  simp [SendOutboxState.settled, houtcome, SendOutboxState.pushCompletion, h.pending]

theorem describes_completed {kind : SendCompletionKind} (h : Dispatched capability before outbox)
    (houtcome : (settleDispatch capability dispatched).outcome = .completed kind) :
    Describes (config.attemptReport capability dispatched settledAt)
      (outbox.settled (dispatchedEntry capability) (settleDispatch capability dispatched)
        settledAt threshold cooldown) := by
  obtain ⟨hpending, hcompletions⟩ :=
    completions_of_completed settledAt threshold cooldown h houtcome
  refine .inr ⟨hpending, Outbox.completion (dispatchedEntry capability) kind
    (settleDispatch capability dispatched) settledAt, ?_,
    (dispatchedEntry_identity capability).1, ?_, ?_, rfl, rfl⟩
  · rw [hcompletions, SendOutboxState.getLast?_pushCompletion]
  · simp [SendAdapterConfig.attemptReport, completionKind, houtcome]
  · simp [SendAdapterConfig.attemptReport, completionKind, houtcome, Outbox.completion]

theorem mem_settled_completions {record : OutboxCompletion}
    (h : Dispatched capability before outbox)
    (hmem : record ∈ (outbox.settled (dispatchedEntry capability)
      (settleDispatch capability dispatched) settledAt threshold cooldown).completions) :
    record ∈ before.completions ∨ record.completion ≠ .observedSent := by
  cases houtcome : (settleDispatch capability dispatched).outcome with
  | awaitingReconciliation =>
    rw [(parks_of_awaiting h houtcome).unclosed] at hmem
    exact .inl hmem
  | completed kind =>
    rw [(completions_of_completed settledAt threshold cooldown h houtcome).2] at hmem
    obtain hbefore | rfl := SendOutboxState.mem_pushCompletion hmem
    · exact .inl (h.completions ▸ hbefore)
    · refine .inr ?_
      intro hsent
      obtain rfl : kind = .observedSent := hsent
      exact (settleDispatch_never_sent capability dispatched).2 houtcome

end Settled

section Deciding

variable {capability : ActionCapabilityEnvelope}
  {dispatched : Except SendFailureCode HelperSendOutcome}

theorem permitted_of_attempted {outcome : HelperSendOutcome}
    (hvalid : outcome.validateAgainst capability = .ok ()) (hattempted : outcome.attempted = true) :
    capability.permitSend = true := by
  unfold HelperSendOutcome.validateAgainst at hvalid
  split_ifs at hvalid with hidentity hconsistent hstage
  simp only [hattempted, Bool.true_and, Bool.or_eq_true, not_or] at hconsistent
  simpa using hconsistent.2

theorem attempted_of_awaiting {outcome : HelperSendOutcome}
    (hvalid : outcome.validateAgainst capability = .ok ())
    (houtcome : (settleDispatch capability (.ok outcome)).outcome = .awaitingReconciliation) :
    outcome.attempted = true := by
  by_contra hattempted
  cases hfailure : outcome.failure.isSome <;>
    simp [settleDispatch, hvalid, hattempted, hfailure] at houtcome

theorem permitted_of_awaiting
    (houtcome : (settleDispatch capability dispatched).outcome = .awaitingReconciliation) :
    capability.permitSend = true := by
  cases dispatched with
  | error failure =>
    by_contra hforbidden
    simp [settleDispatch, unanswered, hforbidden] at houtcome
  | ok outcome =>
    cases hvalid : outcome.validateAgainst capability with
    | error failure =>
      by_contra hforbidden
      simp [settleDispatch, hvalid, unanswered, hforbidden] at houtcome
    | ok done => exact permitted_of_attempted hvalid (attempted_of_awaiting hvalid houtcome)

/-- A permitted attempt is closed on an answer that is believed and denies the press. -/
theorem believed_of_completed {kind : SendCompletionKind}
    (houtcome : (settleDispatch capability dispatched).outcome = .completed kind)
    (hpermit : capability.permitSend = true) :
    ∃ outcome, dispatched = .ok outcome ∧ outcome.validateAgainst capability = .ok () ∧
      outcome.attempted = false := by
  obtain ⟨outcome, rfl, hattempted⟩ := settleDispatch_closed houtcome hpermit
  refine ⟨outcome, rfl, ?_, hattempted⟩
  cases hvalid : outcome.validateAgainst capability with
  | error failure => simp [settleDispatch, hvalid, unanswered, hpermit] at houtcome
  | ok done => rfl

/-- A parked attempt is reported as attempted exactly when the helper said so. -/
theorem awaiting_decisive
    (houtcome : (settleDispatch capability dispatched).outcome = .awaitingReconciliation) :
    (settleDispatch capability dispatched).attempted = capability.permitSend ↔
      Decisive capability dispatched := by
  have hpermit := permitted_of_awaiting houtcome
  cases dispatched with
  | error failure => simp [settleDispatch, unanswered, Decisive, hpermit]
  | ok outcome =>
    cases hvalid : outcome.validateAgainst capability with
    | error failure => simp [settleDispatch, hvalid, unanswered, Decisive, hpermit]
    | ok done =>
      have hattempted := attempted_of_awaiting hvalid houtcome
      simp [settleDispatch, hvalid, Decisive, hpermit, hattempted]

/-- A closed attempt that was permitted stopped before Return, or it should not be closed. -/
theorem completed_decisive {kind : SendCompletionKind}
    (houtcome : (settleDispatch capability dispatched).outcome = .completed kind) :
    (capability.permitSend = true → ¬ Inconclusive capability dispatched) ↔
      Decisive capability dispatched := by
  refine forall_congr' fun hpermit => ?_
  obtain ⟨outcome, rfl, hvalid, hattempted⟩ := believed_of_completed houtcome hpermit
  simp [Inconclusive, hvalid, hattempted]

end Deciding

/-- Whatever the helper answers, a reservation is settled without a sent message on
record; it is parked where the answer says Return was pressed or is not believed; and
the settlement is conservative and truly reported exactly for a decisive answer. -/
theorem dispatch_conservative (config : SendAdapterConfig) {state before : SendOutboxState}
    {capability : ActionCapabilityEnvelope} {reservedAt window limit : ℕ}
    (h : state.reserve capability.outboxEntry reservedAt window limit = (.ok (), before))
    (dispatched : Except SendFailureCode HelperSendOutcome) (settledAt : ℕ) :
    ∃ after, config.settleReservation before capability dispatched settledAt = (.ok (), after) ∧
      (∀ record ∈ after.completions,
        record ∈ before.completions ∨ record.completion ≠ .observedSent) ∧
      (capability.permitSend = true →
        (∀ outcome, dispatched = .ok outcome →
          outcome.validateAgainst capability ≠ .ok () ∨ outcome.attempted = true) →
        Parks capability before after) ∧
      (capability.permitSend = false → after.pendingReconciliation = []) ∧
      (Conservative capability dispatched before after
          (config.attemptReport capability dispatched settledAt) ↔
        Decisive capability dispatched) := by
  have hdispatched := reserve_dispatched h
  have hflight : before.inFlight = some capability.outboxEntry :=
    (SendOutboxState.reserve_ok h).inFlight
  have hsettle := settleReservation_eq config hflight hdispatched dispatched settledAt
  generalize config.circuitBreakerFailureThreshold = threshold at hsettle
  generalize SendAdapterConfig.secondsToNanoseconds config.circuitBreakerCooldownSeconds =
    cooldown at hsettle
  refine ⟨_, hsettle, fun record hmem => mem_settled_completions hdispatched hmem, ?_⟩
  cases houtcome : (settleDispatch capability dispatched).outcome with
  | awaitingReconciliation =>
    have hparks : Parks capability before ((dispatchedOutbox capability before).settled
        (dispatchedEntry capability) (settleDispatch capability dispatched) settledAt threshold
        cooldown) := parks_of_awaiting hdispatched houtcome
    have hpermit : capability.permitSend ≠ false := by
      rw [permitted_of_awaiting houtcome]
      decide
    refine ⟨fun _ _ => hparks, fun hforbidden => absurd hforbidden hpermit, ?_⟩
    rw [← awaiting_decisive houtcome, ← describes_awaiting hdispatched houtcome]
    exact ⟨fun hconservative => hconservative.describes, fun hdescribes =>
      ⟨fun record hmem => mem_settled_completions hdispatched hmem, fun _ _ => hparks,
        fun hforbidden => absurd hforbidden hpermit, hdescribes⟩⟩
  | completed kind =>
    have hclosed := (completions_of_completed settledAt threshold cooldown hdispatched houtcome).1
    have hunparked : ¬ Parks capability before ((dispatchedOutbox capability before).settled
        (dispatchedEntry capability) (settleDispatch capability dispatched) settledAt threshold
        cooldown) := by
      intro hparks
      obtain ⟨entry, hentry, -⟩ := hparks.parked
      rw [hclosed] at hentry
      cases hentry
    refine ⟨?_, fun _ => hclosed, ?_⟩
    · intro hpermit hinconclusive
      obtain ⟨outcome, rfl, hvalid, hattempted⟩ := believed_of_completed houtcome hpermit
      obtain hrefused | hpressed := hinconclusive outcome rfl
      · exact absurd hvalid hrefused
      · simp [hattempted] at hpressed
    · rw [← completed_decisive houtcome]
      constructor
      · intro hconservative hpermit hinconclusive
        exact hunparked (hconservative.parks hpermit hinconclusive)
      · intro hconclusive
        exact ⟨fun record hmem => mem_settled_completions hdispatched hmem,
          fun hpermit hinconclusive => absurd hinconclusive (hconclusive hpermit),
          fun _ => hclosed, describes_completed hdispatched houtcome⟩

/-- An accepted answer that contradicts itself: Return was pressed and left unproven by
its stage and its failure, and was never pressed by its flag. -/
def sampleContradiction : HelperSendOutcome where
  formatVersion := sendContractVersion
  capabilityId := sampleCapability.capabilityId
  capabilityBindingSha256 := sampleCapability.bindingSha256
  helperVersion := "1.0.0"
  engineVersion := "1.0.0"
  calibrationProfileId := sampleCapability.calibrationProfileId
  stageReached := .sendVerify
  attempted := false
  visualConfirmation := .notAttempted
  failure := some .sendUnconfirmed
  titleConfidencePartsPerMillion := 1000000

theorem sampleContradiction_valid :
    sampleContradiction.validateAgainst sampleCapability = .ok () := by
  simp [HelperSendOutcome.validateAgainst, sampleContradiction, sampleCapability]

theorem sampleReservation :
    emptyOutbox.reserve sampleCapability.outboxEntry 1000000000 3600000000000 3 =
      (.ok (), reservedOutbox sampleEntry) :=
  Reservable.reserve ⟨sampleEntry_valid, rfl, rfl, rfl⟩

theorem sampleReservation_conservative :
    ∃ after, sampleConfig.settleReservation (reservedOutbox sampleEntry) sampleCapability
        (.error .engineStall) 2000000000 = (.ok (), after) ∧
      Parks sampleCapability (reservedOutbox sampleEntry) after := by
  obtain ⟨after, hsettle, -, hparks, -⟩ :=
    dispatch_conservative sampleConfig sampleReservation (.error .engineStall) 2000000000
  refine ⟨after, hsettle, hparks rfl ?_⟩
  intro outcome houtcome
  cases houtcome

/-- The contradiction closes the attempt as failed, and a stall is reported as no attempt. -/
theorem sampleContradiction_closed :
    ∃ after, sampleConfig.settleReservation (reservedOutbox sampleEntry) sampleCapability
        (.ok sampleContradiction) 2000000000 = (.ok (), after) ∧
      after.completions.map (·.completion) = [.observedFailed] ∧
      ¬ Conservative sampleCapability (.ok sampleContradiction) (reservedOutbox sampleEntry) after
        (sampleConfig.attemptReport sampleCapability (.ok sampleContradiction) 2000000000) := by
  have hdispatched := reserve_dispatched sampleReservation
  have hsettle := settleReservation_eq sampleConfig (SendOutboxState.reserve_ok
    sampleReservation).inFlight hdispatched (.ok sampleContradiction) 2000000000
  have houtcome : (settleDispatch sampleCapability (.ok sampleContradiction)).outcome =
      .completed .observedFailed := by
    simp only [settleDispatch, sampleContradiction_valid]
    rfl
  refine ⟨_, hsettle, ?_, ?_⟩
  · rw [(completions_of_completed _ _ _ hdispatched houtcome).2]
    rfl
  · intro hconservative
    obtain ⟨entry, hentry, -⟩ := (hconservative.parks rfl (.inr (.inr rfl))).parked
    rw [(completions_of_completed _ _ _ hdispatched houtcome).1] at hentry
    cases hentry

end GreenBubbles.Send
